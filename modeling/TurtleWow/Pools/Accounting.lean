import TurtleWow.Lib.Lists
import TurtleWow.Lib.Run
import TurtleWow.Pools.Spawns

namespace TurtleWow.Pools

-- The counter of a pool is the number of its spawned members, and stays within
-- the pool's limit.

namespace Config

variable (c : Config)

def spawnedMembers (s : SpawnedPoolData) (p : Nat) : Nat :=
  (c.guids .creature p).countP (s.isSpawnedObject .creature) +
    (c.guids .gameobject p).countP (s.isSpawnedObject .gameobject) + (c.guids .pool p).countP (s.isSpawnedObject .pool)

structure Accounted (s : SpawnedPoolData) : Prop where
  counted : ∀ p, s.getSpawnedObjects p = c.spawnedMembers s p
  bounded : ∀ p, s.getSpawnedObjects p ≤ c.spawnCount p
  idle : ∀ p, c.isPartOfAPool p ≠ 0 → s.isSpawnedObject .pool p = false →
    ∀ kind, ∀ guid ∈ c.guids kind p, s.isSpawnedObject kind guid = false

structure Kept (s : SpawnedPoolData) : Prop where
  counted : ∀ p, s.getSpawnedObjects p = c.spawnedMembers s p
  zero : ∀ kind, s.isSpawnedObject kind 0 = false

-- A pool may hold spawns: it is a top pool, or its mother counts it.
def Active (s : SpawnedPoolData) (p : Nat) : Prop := c.isPartOfAPool p = 0 ∨ s.isSpawnedObject .pool p = true

def Bounded (s : SpawnedPoolData) (p : Nat) : Prop := s.getSpawnedObjects p ≤ c.spawnCount p

instance (s : SpawnedPoolData) (p : Nat) : Decidable (c.Active s p) :=
  inferInstanceAs (Decidable (_ ∨ _))

-- What work on a pool does: nothing to pools that are no lower, and no limit but
-- its own can break.
structure Moves (p : Nat) (s t : SpawnedPoolData) : Prop where
  kept : c.Kept t
  frame : ∀ q, q ≠ p → c.height p ≤ c.height q → ∀ kind, ∀ guid ∈ c.guids kind q,
    t.isSpawnedObject kind guid = s.isSpawnedObject kind guid
  bounded : ∀ q, q ≠ p → c.Bounded s q → c.Bounded t q

end Config

namespace SpawnedPoolData

variable (s : SpawnedPoolData)

theorem getSpawnedObjects_count (p value q : Nat) :
    (s.count p value).getSpawnedObjects q = if q = p then value else s.getSpawnedObjects q := by
  simp only [getSpawnedObjects, count, Function.update_apply]
  by_cases h : q = p
  · simp only [if_pos h, Option.getD_some]
  · simp only [if_neg h]

theorem isSpawnedObject_count (p value : Nat) (kind : Kind) (guid : Nat) :
    (s.count p value).isSpawnedObject kind guid =
      (decide (kind = .pool ∧ guid = p) || s.isSpawnedObject kind guid) := by
  cases kind with
  | creature => simp [isSpawnedObject, count]
  | gameobject => simp [isSpawnedObject, count]
  | pool =>
    simp only [isSpawnedObject, count, Function.update_apply]
    by_cases h : guid = p
    · simp [h]
    · simp [h]

section

variable (kind : Kind)

theorem isSpawnedObject_mark (guid : Nat) (other : Kind) (g : Nat) : (s.mark kind guid).isSpawnedObject other g =
      (decide (other = kind ∧ g = guid) || s.isSpawnedObject other g) := by
  cases kind with
  | pool => exact isSpawnedObject_count s guid 0 other g
  | creature =>
    by_cases h : g = guid
    · cases other <;> simp [isSpawnedObject, mark, h]
    · cases other <;> simp [isSpawnedObject, mark, h]
  | gameobject =>
    by_cases h : g = guid
    · cases other <;> simp [isSpawnedObject, mark, h]
    · cases other <;> simp [isSpawnedObject, mark, h]

theorem isSpawnedObject_unmark (guid : Nat) (other : Kind) (g : Nat) : (s.unmark kind guid).isSpawnedObject other g =
      (!decide (other = kind ∧ g = guid) && s.isSpawnedObject other g) := by
  by_cases h : g = guid
  · cases kind <;> cases other <;> simp [isSpawnedObject, unmark, h]
  · cases kind <;> cases other <;> simp [isSpawnedObject, unmark, h]

theorem getSpawnedObjects_of_not (p : Nat) (h : s.isSpawnedObject .pool p = false) : s.getSpawnedObjects p = 0 := by
  simp only [isSpawnedObject, Option.isSome_eq_false_iff, Option.isNone_iff_eq_none] at h
  simp only [getSpawnedObjects, h, Option.getD_none]

theorem getSpawnedObjects_mark (guid : Nat) (h : s.isSpawnedObject kind guid = false) (q : Nat) :
    (s.mark kind guid).getSpawnedObjects q = s.getSpawnedObjects q := by
  cases kind with
  | creature => rfl
  | gameobject => rfl
  | pool =>
    refine (getSpawnedObjects_count s guid 0 q).trans ?_
    by_cases hq : q = guid
    · rw [if_pos hq, hq, getSpawnedObjects_of_not s guid h]
    · rw [if_neg hq]

theorem getSpawnedObjects_unmark (guid : Nat) (h : kind = .pool → s.getSpawnedObjects guid = 0)
    (q : Nat) : (s.unmark kind guid).getSpawnedObjects q = s.getSpawnedObjects q := by
  cases kind with
  | creature => rfl
  | gameobject => rfl
  | pool =>
    by_cases hq : q = guid
    · rw [hq, h rfl]
      simp [getSpawnedObjects, unmark]
    · simp [getSpawnedObjects, unmark, hq]

theorem getSpawnedObjects_addSpawn (guid p : Nat) (h : s.isSpawnedObject kind guid = false) (q : Nat) :
    (s.addSpawn kind guid p).getSpawnedObjects q =
      if q = p then s.getSpawnedObjects p + 1 else s.getSpawnedObjects q := by
  simp only [addSpawn, getSpawnedObjects_count, getSpawnedObjects_mark s kind guid h]

theorem getSpawnedObjects_removeSpawn (guid p : Nat) (h : kind = .pool → s.getSpawnedObjects guid = 0) (q : Nat) :
    (s.removeSpawn kind guid p).getSpawnedObjects q =
      if q = p then s.getSpawnedObjects p - 1 else s.getSpawnedObjects q := by
  simp only [removeSpawn, getSpawnedObjects_count, getSpawnedObjects_unmark s kind guid h]

theorem isSpawnedObject_addSpawn (guid p : Nat) (other : Kind) (g : Nat) :
    (s.addSpawn kind guid p).isSpawnedObject other g =
      (decide (other = .pool ∧ g = p) || (decide (other = kind ∧ g = guid) || s.isSpawnedObject other g)) := by
  simp only [addSpawn, isSpawnedObject_count, isSpawnedObject_mark]

theorem isSpawnedObject_removeSpawn (guid p : Nat) (other : Kind) (g : Nat) :
    (s.removeSpawn kind guid p).isSpawnedObject other g =
      (decide (other = .pool ∧ g = p) || (!decide (other = kind ∧ g = guid) && s.isSpawnedObject other g)) := by
  simp only [removeSpawn, isSpawnedObject_count, isSpawnedObject_unmark]

end

end SpawnedPoolData

namespace Config

variable {c : Config} {s t u : SpawnedPoolData} {p q guid : Nat} {kind : Kind}

theorem nodup_guids (c : Config) (kind : Kind) (p : Nat) : (c.guids kind p).Nodup := c.nodup kind p

theorem ne_zero_of_mem (h : guid ∈ c.guids kind p) : p ≠ 0 ∧ guid ≠ 0 := by
  obtain ⟨obj, hobj, rfl⟩ := List.mem_map.mp h
  exact c.guid_ne kind p obj hobj

theorem ne_of_child (h : q ∈ c.guids .pool p) : q ≠ p := by
  rintro rfl
  exact absurd (c.height_lt q q h) (Nat.lt_irrefl _)

theorem spawnedMembers_congr (h : ∀ kind, ∀ guid ∈ c.guids kind p,
    t.isSpawnedObject kind guid = s.isSpawnedObject kind guid) : c.spawnedMembers t p = c.spawnedMembers s p := by
  have hkind (kind : Kind) :
      (c.guids kind p).countP (t.isSpawnedObject kind) = (c.guids kind p).countP (s.isSpawnedObject kind) :=
    List.countP_congr fun guid hguid => by rw [h kind guid hguid]
  simp only [spawnedMembers, hkind]

theorem spawnedMembers_mono (h : ∀ kind, ∀ guid ∈ c.guids kind p,
    t.isSpawnedObject kind guid = true → s.isSpawnedObject kind guid = true) :
    c.spawnedMembers t p ≤ c.spawnedMembers s p := by
  have hkind (kind : Kind) :
      (c.guids kind p).countP (t.isSpawnedObject kind) ≤ (c.guids kind p).countP (s.isSpawnedObject kind) :=
    List.countP_mono_left (h kind)
  have hcreature := hkind .creature
  have hgameobject := hkind .gameobject
  have hpool := hkind .pool
  simp only [spawnedMembers]
  omega

theorem spawnedMembers_flip (hguid : guid ∈ c.guids kind p) (hs : s.isSpawnedObject kind guid = false)
    (ht : t.isSpawnedObject kind guid = true)
    (hothers : ∀ other, ∀ g ∈ c.guids other p, (other ≠ kind ∨ g ≠ guid) →
      t.isSpawnedObject other g = s.isSpawnedObject other g) :
    c.spawnedMembers t p = c.spawnedMembers s p + 1 := by
  have hflip : (c.guids kind p).countP (t.isSpawnedObject kind) =
      (c.guids kind p).countP (s.isSpawnedObject kind) + 1 :=
    Lists.countP_flip (c.nodup_guids kind p) hguid hs ht fun g hg hne => hothers kind g hg (.inr hne)
  have hsame (other : Kind) (hne : other ≠ kind) :
      (c.guids other p).countP (t.isSpawnedObject other) = (c.guids other p).countP (s.isSpawnedObject other) :=
    List.countP_congr fun g hg => by rw [hothers other g hg (.inl hne)]
  cases kind with
  | creature =>
    simp only [spawnedMembers, hflip, hsame .gameobject (by decide), hsame .pool (by decide)]
    omega
  | gameobject =>
    simp only [spawnedMembers, hflip, hsame .creature (by decide), hsame .pool (by decide)]
    omega
  | pool =>
    simp only [spawnedMembers, hflip, hsame .creature (by decide), hsame .gameobject (by decide)]
    omega

theorem spawnedMembers_eq_zero (h : ∀ kind, ∀ guid ∈ c.guids kind p, s.isSpawnedObject kind guid = false) :
    c.spawnedMembers s p = 0 := by
  have hkind (kind : Kind) : (c.guids kind p).countP (s.isSpawnedObject kind) = 0 :=
    List.countP_eq_zero.mpr fun guid hguid => by rw [h kind guid hguid]; exact Bool.false_ne_true
  simp only [spawnedMembers, hkind]

theorem not_spawned_of_zero (h : c.spawnedMembers s p = 0) (hguid : guid ∈ c.guids kind p) :
    s.isSpawnedObject kind guid = false := by
  have hkind : (c.guids kind p).countP (s.isSpawnedObject kind) = 0 := by
    simp only [spawnedMembers] at h
    cases kind with
    | creature => omega
    | gameobject => omega
    | pool => omega
  simpa using List.countP_eq_zero.mp hkind guid hguid

theorem not_mem_own (c : Config) (p : Nat) : p ∉ c.guids .pool p := fun h => ne_of_child h rfl

-- One member of a pool and the count of the pool change.
structure Turned (p : Nat) (kind : Kind) (guid : Nat) (value : Bool) (s t : SpawnedPoolData) : Prop where
  spawned : ∀ other g, t.isSpawnedObject other g =
    (decide (other = .pool ∧ g = p) || if other = kind ∧ g = guid then value else s.isSpawnedObject other g)
  counts : ∀ q, q ≠ p → t.getSpawnedObjects q = s.getSpawnedObjects q

section

variable {value : Bool} (h : Turned p kind guid value s t)

include h

theorem Turned.of_ne (hactive : c.Active s p) (hguid : guid ∈ c.guids kind p) {other : Kind} {g : Nat} (hne : q ≠ p)
    (hg : g ∈ c.guids other q) : t.isSpawnedObject other g = s.isSpawnedObject other g := by
  have hsame : ¬(other = kind ∧ g = guid) := by
    rintro ⟨rfl, rfl⟩
    exact hne (c.once other q p g hg hguid)
  rw [h.spawned, if_neg hsame]
  by_cases hpool : other = .pool ∧ g = p
  · obtain ⟨rfl, rfl⟩ := hpool
    have hmother := (c.mother q g (ne_zero_of_mem hg).1).mpr hg
    rcases hactive with htop | hspawned
    · exact absurd (hmother.symm.trans htop) (ne_zero_of_mem hg).1
    · simp [hspawned]
  · rw [decide_eq_false hpool, Bool.false_or]

theorem Turned.member {other : Kind} {g : Nat} (hg : g ∈ c.guids other p) :
    t.isSpawnedObject other g = if other = kind ∧ g = guid then value else s.isSpawnedObject other g := by
  have hown : ¬(other = .pool ∧ g = p) := by
    rintro ⟨rfl, rfl⟩
    exact c.not_mem_own g hg
  rw [h.spawned, decide_eq_false hown, Bool.false_or]

theorem Turned.others (other : Kind) (g : Nat) (hg : g ∈ c.guids other p) (hne : other ≠ kind ∨ g ≠ guid) :
    t.isSpawnedObject other g = s.isSpawnedObject other g :=
  (h.member hg).trans (if_neg (by tauto))

end

-- What changes of one member's mark, and of nothing else at the pool or above.
structure Flips (c : Config) (p : Nat) (kind : Kind) (guid : Nat) (s t : SpawnedPoolData) : Prop where
  moves : c.Moves p s t
  others : ∀ other, ∀ g ∈ c.guids other p, (other ≠ kind ∨ g ≠ guid) →
    t.isSpawnedObject other g = s.isSpawnedObject other g

theorem Turned.flips {value : Bool} (h : Turned p kind guid value s t) (hs : c.Kept s) (hactive : c.Active s p)
    (hguid : guid ∈ c.guids kind p) (hcount : t.getSpawnedObjects p = c.spawnedMembers t p) : c.Flips p kind guid s t := by
  refine ⟨⟨⟨fun q => ?_, fun other => ?_⟩, fun q hq _ other g hg => h.of_ne hactive hguid hq hg, fun q hq hbounded => ?_⟩,
    h.others⟩
  · by_cases hq : q = p
    · rw [hq, hcount]
    · rw [h.counts q hq, hs.counted q]
      exact (spawnedMembers_congr fun other g hg => h.of_ne hactive hguid hq hg).symm
  · obtain ⟨hp, hne⟩ := ne_zero_of_mem hguid
    rw [h.spawned, decide_eq_false fun h => hp h.2.symm, if_neg fun h => hne h.2.symm, hs.zero other]
    rfl
  · unfold Bounded
    rw [h.counts q hq]
    exact hbounded

theorem flips_addSpawn (hs : c.Kept s) (hactive : c.Active s p) (hguid : guid ∈ c.guids kind p)
    (hfree : s.isSpawnedObject kind guid = false) : c.Flips p kind guid s (s.addSpawn kind guid p) := by
  have hcount := SpawnedPoolData.getSpawnedObjects_addSpawn s kind guid p hfree
  have hturned : Turned p kind guid true s (s.addSpawn kind guid p) :=
    ⟨fun other g => by rw [SpawnedPoolData.isSpawnedObject_addSpawn]; split_ifs with hsame <;> simp [hsame],
      fun q hq => (hcount q).trans (if_neg hq)⟩
  refine hturned.flips hs hactive hguid ?_
  rw [hcount, if_pos rfl, hs.counted p]
  exact (spawnedMembers_flip hguid hfree ((hturned.member hguid).trans (if_pos ⟨rfl, rfl⟩)) hturned.others).symm

theorem flips_removeSpawn (hs : c.Kept s) (hactive : c.Active s p) (hguid : guid ∈ c.guids kind p)
    (hspawned : s.isSpawnedObject kind guid = true) (hempty : kind = .pool → s.getSpawnedObjects guid = 0) :
    c.Flips p kind guid s (s.removeSpawn kind guid p) ∧
      (s.removeSpawn kind guid p).isSpawnedObject kind guid = false := by
  have hcount := SpawnedPoolData.getSpawnedObjects_removeSpawn s kind guid p hempty
  have hturned : Turned p kind guid false s (s.removeSpawn kind guid p) :=
    ⟨fun other g => by rw [SpawnedPoolData.isSpawnedObject_removeSpawn]; split_ifs with hsame <;> simp [hsame],
      fun q hq => (hcount q).trans (if_neg hq)⟩
  have hgone := (hturned.member hguid).trans (if_pos ⟨rfl, rfl⟩)
  refine ⟨hturned.flips hs hactive hguid ?_, hgone⟩
  have hflip := spawnedMembers_flip hguid hgone hspawned fun other g hg hne => (hturned.others other g hg hne).symm
  rw [hcount, if_pos rfl, hs.counted p, hflip, Nat.add_sub_cancel]

-- Moves in a row, and moves of a sub-pool seen from its mother

theorem Moves.refl (p : Nat) (hs : c.Kept s) : c.Moves p s s := ⟨hs, fun _ _ _ _ _ _ => rfl, fun _ _ h => h⟩

theorem Moves.trans (h : c.Moves p s t) (hu : c.Moves p t u) : c.Moves p s u :=
  ⟨hu.kept, fun q hq hheight other g hg =>
      (hu.frame q hq hheight other g hg).trans (h.frame q hq hheight other g hg),
    fun q hq hs => hu.bounded q hq (h.bounded q hq hs)⟩

theorem Moves.active (h : c.Moves p s t) (hactive : c.Active s p) : c.Active t p := by
  by_cases htop : c.isPartOfAPool p = 0
  · exact .inl htop
  · have hmem := (c.mother (c.isPartOfAPool p) p htop).mp rfl
    have hspawned := hactive.resolve_left htop
    rw [← h.frame _ (ne_of_child hmem).symm (c.height_lt _ _ hmem).le .pool p hmem] at hspawned
    exact .inr hspawned

theorem Moves.members (h : c.Moves q s t) (hq : q ∈ c.guids .pool p) (other : Kind) (g : Nat)
    (hg : g ∈ c.guids other p) : t.isSpawnedObject other g = s.isSpawnedObject other g :=
  h.frame p (ne_of_child hq).symm (c.height_lt p q hq).le other g hg

theorem Moves.ofChild (h : c.Moves q s t) (hq : q ∈ c.guids .pool p) (hbounded : c.Bounded s q → c.Bounded t q) :
    c.Moves p s t := by
  refine ⟨h.kept, fun r hr hheight => h.frame r ?_ ((c.height_lt p q hq).le.trans hheight), fun r _ hr => ?_⟩
  · rintro rfl
    exact absurd (c.height_lt p r hq) (Nat.not_lt.mpr hheight)
  · by_cases hrq : r = q
    · exact hrq ▸ hbounded (hrq ▸ hr)
    · exact h.bounded r hrq hr

theorem Flips.count_add (h : c.Flips p kind guid s t) (hs : c.Kept s) (hguid : guid ∈ c.guids kind p)
    (hfree : s.isSpawnedObject kind guid = false) (ht : t.isSpawnedObject kind guid = true) :
    t.getSpawnedObjects p = s.getSpawnedObjects p + 1 := by
  rw [h.moves.kept.counted p, hs.counted p, spawnedMembers_flip hguid hfree ht h.others]

theorem Flips.count_sub (h : c.Flips p kind guid s t) (hs : c.Kept s) (hguid : guid ∈ c.guids kind p)
    (hspawned : s.isSpawnedObject kind guid = true) (ht : t.isSpawnedObject kind guid = false) :
    t.getSpawnedObjects p + 1 = s.getSpawnedObjects p := by
  rw [h.moves.kept.counted p, hs.counted p,
    spawnedMembers_flip hguid ht hspawned fun other g hg hne => (h.others other g hg hne).symm]

theorem Flips.child (h : c.Flips p kind guid s t) (hu : c.Moves q t u) (hq : q ∈ c.guids .pool p)
    (hbounded : c.Bounded t q → c.Bounded u q) : c.Flips p kind guid s u :=
  ⟨h.moves.trans (hu.ofChild hq hbounded), fun other g hg hne =>
    (hu.members hq other g hg).trans (h.others other g hg hne)⟩

end Config

end TurtleWow.Pools

import TurtleWow.Pools.Accounting

namespace TurtleWow.Pools

open List

-- The work of the pool manager keeps the accounts: despawning, the loop that
-- spawns up to the limit, and whole runs.

namespace Config

variable {c : Config} {view : View} {p guid : Nat} {kind : Kind}

-- What the work on the sub-pools of `p` is trusted with.

def Despawns (c : Config) (p : Nat) (despawn : MapState → Nat → MapState) : Prop :=
  ∀ s q, q ∈ c.guids .pool p → c.Kept s.spawns → c.Active s.spawns q →
    c.Moves q s.spawns (despawn s q).spawns ∧ (despawn s q).spawns.getSpawnedObjects q = 0

def Spawns (c : Config) (p : Nat) (spawn : MapState → Nat → MapState) : Prop :=
  ∀ s q, q ∈ c.guids .pool p → c.Kept s.spawns → c.Active s.spawns q → c.Bounded s.spawns q →
    c.Moves q s.spawns (spawn s q).spawns ∧ c.Bounded (spawn s q).spawns q

structure Clears (c : Config) (p : Nat) (s t : SpawnedPoolData) : Prop where
  moves : c.Moves p s t
  fewer : ∀ kind, ∀ guid ∈ c.guids kind p, s.isSpawnedObject kind guid = false → t.isSpawnedObject kind guid = false

theorem Clears.refl {s : SpawnedPoolData} (p : Nat) (hs : c.Kept s) : c.Clears p s s :=
  ⟨Moves.refl p hs, fun _ _ _ h => h⟩

theorem Clears.trans {s t u : SpawnedPoolData} (h : c.Clears p s t) (hu : c.Clears p t u) : c.Clears p s u :=
  ⟨h.moves.trans hu.moves, fun kind guid hguid hs => hu.fewer kind guid hguid (h.fewer kind guid hguid hs)⟩

theorem Flips.clears {s t : SpawnedPoolData} (h : c.Flips p kind guid s t)
    (ht : t.isSpawnedObject kind guid = false) : c.Clears p s t := by
  refine ⟨h.moves, fun other g hg hs => ?_⟩
  by_cases hsame : other = kind ∧ g = guid
  · obtain ⟨rfl, rfl⟩ := hsame
    exact ht
  · rw [h.others other g hg (by tauto), hs]

theorem Clears.bounded {s t : SpawnedPoolData} (h : c.Clears p s t) (hs : c.Kept s) (hbounded : c.Bounded s p) :
    c.Bounded t p := by
  have hle : c.spawnedMembers t p ≤ c.spawnedMembers s p :=
    spawnedMembers_mono fun other g hg ht => by
      by_contra hnot
      rw [h.fewer other g hg (by simpa using hnot)] at ht
      cases ht
  unfold Bounded at hbounded ⊢
  rw [h.moves.kept.counted p]
  rw [hs.counted p] at hbounded
  exact hle.trans hbounded

variable {spawn despawn : MapState → Nat → MapState}

variable {s : MapState} {obj : PoolObject}

theorem flips_despawn (hdespawn : c.Despawns p despawn) (hs : c.Kept s.spawns)
    (hactive : c.Active s.spawns p) (hguid : guid ∈ c.guids kind p)
    (hspawned : s.spawns.isSpawnedObject kind guid = true) :
    c.Flips p kind guid s.spawns ((spawn1Object despawn s kind guid).removeSpawn kind guid p).spawns ∧
      ((spawn1Object despawn s kind guid).removeSpawn kind guid p).spawns.isSpawnedObject kind guid = false := by
  cases kind with
  | creature => exact flips_removeSpawn hs hactive hguid hspawned (by rintro ⟨⟩)
  | gameobject => exact flips_removeSpawn hs hactive hguid hspawned (by rintro ⟨⟩)
  | pool =>
    obtain ⟨hmoves, hempty⟩ := hdespawn s guid hguid hs (.inr hspawned)
    have hchild : c.Moves p s.spawns (despawn s guid).spawns :=
      hmoves.ofChild hguid fun _ => by unfold Bounded; rw [hempty]; exact Nat.zero_le _
    obtain ⟨hflips, hgone⟩ := flips_removeSpawn hmoves.kept (hchild.active hactive) hguid
      ((hmoves.members hguid .pool guid hguid).trans hspawned) fun _ => hempty
    refine ⟨⟨hchild.trans hflips.moves, fun other g hg hne => ?_⟩, hgone⟩
    exact (hflips.others other g hg hne).trans (hmoves.members hguid other g hg)

variable (guid) in
theorem clears_despawnOne (hdespawn : c.Despawns p despawn) (hs : c.Kept s.spawns)
    (hactive : c.Active s.spawns p) (hobj : obj ∈ c.members kind p) :
    c.Clears p s.spawns (despawnOne despawn kind p guid s obj).spawns := by
  have hmem : obj.guid ∈ c.guids kind p := mem_map_of_mem hobj
  unfold despawnOne
  by_cases h : s.spawns.isSpawnedObject kind obj.guid = true ∧ (guid = 0 ∨ obj.guid = guid)
  · rw [if_pos h]
    obtain ⟨hflips, hgone⟩ := flips_despawn hdespawn hs hactive hmem h.1
    exact hflips.clears hgone
  · rw [if_neg h]
    exact Clears.refl p hs

theorem despawnOne_all (hdespawn : c.Despawns p despawn) (hs : c.Kept s.spawns)
    (hactive : c.Active s.spawns p) (hobj : obj ∈ c.members kind p) :
    (despawnOne despawn kind p 0 s obj).spawns.isSpawnedObject kind obj.guid = false := by
  have hmem : obj.guid ∈ c.guids kind p := mem_map_of_mem hobj
  unfold despawnOne
  by_cases h : s.spawns.isSpawnedObject kind obj.guid = true
  · rw [if_pos ⟨h, .inl rfl⟩]
    exact (flips_despawn hdespawn hs hactive hmem h).2
  · rw [if_neg fun hand => h hand.1]
    simpa using h

theorem clears_foldl (hdespawn : c.Despawns p despawn) (list : List PoolObject)
    (hlist : ∀ obj ∈ list, obj ∈ c.members kind p) (hs : c.Kept s.spawns) (hactive : c.Active s.spawns p) :
    c.Clears p s.spawns (list.foldl (despawnOne despawn kind p guid) s).spawns := by
  induction list generalizing s with
  | nil => exact Clears.refl p hs
  | cons obj rest ih =>
    have hstep := clears_despawnOne guid hdespawn hs hactive (hlist obj mem_cons_self)
    exact hstep.trans (ih (fun obj hobj => hlist obj (mem_cons_of_mem _ hobj)) hstep.moves.kept
      (hstep.moves.active hactive))

theorem foldl_all (hdespawn : c.Despawns p despawn) (list : List PoolObject)
    (hlist : ∀ obj ∈ list, obj ∈ c.members kind p) (hs : c.Kept s.spawns) (hactive : c.Active s.spawns p) :
    ∀ obj ∈ list, (list.foldl (despawnOne despawn kind p 0) s).spawns.isSpawnedObject kind obj.guid = false := by
  induction list generalizing s with
  | nil => exact fun _ h => absurd h not_mem_nil
  | cons head rest ih =>
    have hhead := hlist head mem_cons_self
    have hrest : ∀ obj ∈ rest, obj ∈ c.members kind p := fun obj hobj => hlist obj (mem_cons_of_mem _ hobj)
    have hstep := clears_despawnOne 0 hdespawn hs hactive hhead
    intro obj hobj
    rcases mem_cons.mp hobj with rfl | hobj
    · exact (clears_foldl hdespawn rest hrest hstep.moves.kept (hstep.moves.active hactive)).fewer kind obj.guid
        (mem_map_of_mem hhead) (despawnOne_all hdespawn hs hactive hhead)
    · exact ih hrest hstep.moves.kept (hstep.moves.active hactive) obj hobj

theorem despawnObject_eq (c : Config) (despawn : MapState → Nat → MapState) (kind : Kind) (p guid : Nat) (s : MapState) :
    despawnObject c despawn kind p guid s =
      (c.equalChanced kind p ++ c.explicitlyChanced kind p).foldl (despawnOne despawn kind p guid) s :=
  (foldl_append ..).symm

theorem mem_members_of_append
    (h : obj ∈ c.equalChanced kind p ++ c.explicitlyChanced kind p) : obj ∈ c.members kind p :=
  mem_append.mpr (mem_append.mp h).symm

variable (guid kind) in
theorem clears_despawnObject (hdespawn : c.Despawns p despawn) (hs : c.Kept s.spawns)
    (hactive : c.Active s.spawns p) : c.Clears p s.spawns (despawnObject c despawn kind p guid s).spawns := by
  rw [despawnObject_eq]
  exact clears_foldl hdespawn _ (fun _ => mem_members_of_append) hs hactive

theorem despawnObject_all (hdespawn : c.Despawns p despawn) (hs : c.Kept s.spawns)
    (hactive : c.Active s.spawns p) (hguid : guid ∈ c.guids kind p) :
    (despawnObject c despawn kind p 0 s).spawns.isSpawnedObject kind guid = false := by
  obtain ⟨obj, hobj, rfl⟩ := mem_map.mp hguid
  rw [despawnObject_eq]
  exact foldl_all hdespawn _ (fun _ => mem_members_of_append) hs hactive obj
    (mem_append.mpr (mem_append.mp hobj).symm)

-- A trigger that is spawned goes, one that is not leaves everything as it is.

theorem foldl_trigger_idle (hne : guid ≠ 0) (hfree : s.spawns.isSpawnedObject kind guid = false)
    (list : List PoolObject) : list.foldl (despawnOne despawn kind p guid) s = s := by
  induction list with
  | nil => rfl
  | cons obj rest ih =>
    have hstep : despawnOne despawn kind p guid s obj = s := by
      refine if_neg ?_
      rintro ⟨hspawned, hzero | rfl⟩
      · exact hne hzero
      · exact absurd (hfree.symm.trans hspawned) Bool.false_ne_true
    rw [foldl_cons, hstep, ih]

theorem despawnObject_trigger_idle (hne : guid ≠ 0)
    (hfree : s.spawns.isSpawnedObject kind guid = false) : despawnObject c despawn kind p guid s = s := by
  rw [despawnObject_eq]
  exact foldl_trigger_idle hne hfree _

theorem foldl_trigger (hdespawn : c.Despawns p despawn) (hs : c.Kept s.spawns)
    (hactive : c.Active s.spawns p) (hguid : guid ∈ c.guids kind p)
    (hspawned : s.spawns.isSpawnedObject kind guid = true) (list : List PoolObject)
    (hmem : guid ∈ list.map PoolObject.guid) :
    c.Flips p kind guid s.spawns (list.foldl (despawnOne despawn kind p guid) s).spawns ∧
      (list.foldl (despawnOne despawn kind p guid) s).spawns.isSpawnedObject kind guid = false := by
  have hne := (ne_zero_of_mem hguid).2
  induction list with
  | nil => exact absurd hmem not_mem_nil
  | cons obj rest ih =>
    rw [foldl_cons]
    by_cases h : obj.guid = guid
    · obtain ⟨hflips, hgone⟩ := flips_despawn hdespawn hs hactive hguid hspawned
      have hstep : despawnOne despawn kind p guid s obj =
          (spawn1Object despawn s kind guid).removeSpawn kind guid p := by
        unfold despawnOne
        rw [h, if_pos ⟨hspawned, .inr rfl⟩]
      rw [hstep, foldl_trigger_idle hne hgone]
      exact ⟨hflips, hgone⟩
    · have hstep : despawnOne despawn kind p guid s obj = s := by
        refine if_neg ?_
        rintro ⟨-, hzero | hsame⟩
        · exact hne hzero
        · exact h hsame
      rw [hstep]
      refine ih ?_
      rcases mem_cons.mp hmem with hhead | hrest
      · exact absurd hhead.symm h
      · exact hrest

theorem despawnObject_trigger (hdespawn : c.Despawns p despawn) (hs : c.Kept s.spawns)
    (hactive : c.Active s.spawns p) (hguid : guid ∈ c.guids kind p)
    (hspawned : s.spawns.isSpawnedObject kind guid = true) :
    c.Flips p kind guid s.spawns (despawnObject c despawn kind p guid s).spawns ∧
      (despawnObject c despawn kind p guid s).spawns.isSpawnedObject kind guid = false := by
  rw [despawnObject_eq]
  refine foldl_trigger hdespawn hs hactive hguid hspawned _ ?_
  obtain ⟨obj, hobj, hsame⟩ := mem_map.mp hguid
  exact mem_map.mpr ⟨obj, mem_append.mpr (mem_append.mp hobj).symm, hsame⟩

theorem clears_despawnPool (fuel : Nat) {p : Nat} (hfuel : c.height p < fuel) (hs : c.Kept s.spawns)
    (hactive : c.Active s.spawns p) :
    c.Clears p s.spawns (despawnPool c fuel s p).spawns ∧ (despawnPool c fuel s p).spawns.getSpawnedObjects p = 0 := by
  induction fuel generalizing p s with
  | zero => exact absurd hfuel (Nat.not_lt_zero _)
  | succ fuel ih =>
    have hdespawn : c.Despawns p (despawnPool c fuel) := by
      intro s q hq hs hactive
      have hheight := c.height_lt p q hq
      obtain ⟨hclears, hzero⟩ := ih (by omega) hs hactive
      exact ⟨hclears.moves, hzero⟩
    have hcreature := clears_despawnObject 0 .creature hdespawn hs hactive
    have hactive1 := hcreature.moves.active hactive
    have hgameobject := clears_despawnObject 0 .gameobject hdespawn hcreature.moves.kept hactive1
    have hactive2 := hgameobject.moves.active hactive1
    have hpool := clears_despawnObject 0 .pool hdespawn hgameobject.moves.kept hactive2
    unfold despawnPool
    refine ⟨(hcreature.trans hgameobject).trans hpool, ?_⟩
    rw [hpool.moves.kept.counted p]
    refine spawnedMembers_eq_zero fun kind guid hguid => ?_
    cases kind with
    | creature =>
      exact hpool.fewer _ _ hguid (hgameobject.fewer _ _ hguid (despawnObject_all hdespawn hs hactive hguid))
    | gameobject =>
      exact hpool.fewer _ _ hguid (despawnObject_all hdespawn hcreature.moves.kept hactive1 hguid)
    | pool => exact despawnObject_all hdespawn hgameobject.moves.kept hactive2 hguid

theorem despawns_despawnPool {fuel p : Nat} (hfuel : c.height p ≤ fuel) : c.Despawns p (despawnPool c fuel) := by
  intro s q hq hs hactive
  obtain ⟨hclears, hzero⟩ := clears_despawnPool fuel ((c.height_lt p q hq).trans_le hfuel) hs hactive
  exact ⟨hclears.moves, hzero⟩

-- A roll is a member that is free, or the trigger.

theorem rollExplicit_some {possible : PoolObject → Bool} {roll : ℚ} {list : List PoolObject}
    (h : rollExplicit possible roll list = some obj) : obj ∈ list ∧ possible obj = true := by
  induction list generalizing roll with
  | nil => exact absurd h (Option.some_ne_none obj).symm
  | cons head rest ih =>
    unfold rollExplicit at h
    by_cases hhit : roll - head.chance < 0 ∧ possible head = true
    · rw [if_pos hhit] at h
      cases h
      exact ⟨mem_cons_self, hhit.2⟩
    · rw [if_neg hhit] at h
      exact ⟨mem_cons_of_mem _ (ih h).1, (ih h).2⟩

theorem rollEqual_spawns (s : MapState) (triggerFrom : Nat) :
    (rollEqual c view s kind p triggerFrom).2.spawns = s.spawns := by
  unfold rollEqual
  by_cases h : ((c.equalChanced kind p).filter (canBeRolled view s kind p triggerFrom)).isEmpty = true
  · simp only [if_pos h]
  · simp only [if_neg h]
    rfl

theorem rollEqual_some {triggerFrom : Nat}
    (h : (rollEqual c view s kind p triggerFrom).1 = some obj) :
    obj ∈ c.equalChanced kind p ∧ canBeRolled view s kind p triggerFrom obj = true := by
  unfold rollEqual at h
  by_cases hempty : ((c.equalChanced kind p).filter (canBeRolled view s kind p triggerFrom)).isEmpty = true
  · simp only [if_pos hempty] at h
    exact absurd h (Option.some_ne_none obj).symm
  · simp only [if_neg hempty] at h
    exact mem_filter.mp (mem_of_getElem? h)

theorem rollOne_spawns (s : MapState) (triggerFrom : Nat) :
    (rollOne c view s kind p triggerFrom).2.spawns = s.spawns := by
  unfold rollOne
  by_cases hempty : (c.explicitlyChanced kind p).isEmpty = true
  · rw [if_pos hempty, rollEqual_spawns]
  · rw [if_neg hempty]
    cases rollExplicit (canBeRolled view s kind p triggerFrom) (view.randChance s.draws)
      (c.explicitlyChanced kind p) with
    | none => exact rollEqual_spawns s.draw triggerFrom
    | some obj => rfl

theorem rollOne_rolled {triggerFrom : Nat}
    (h : (rollOne c view s kind p triggerFrom).1 = some obj) :
    obj ∈ c.members kind p ∧ canBeRolled view s kind p triggerFrom obj = true := by
  unfold rollOne at h
  by_cases hempty : (c.explicitlyChanced kind p).isEmpty = true
  · rw [if_pos hempty] at h
    obtain ⟨hmem, hroll⟩ := rollEqual_some h
    exact ⟨mem_append_right _ hmem, hroll⟩
  · rw [if_neg hempty] at h
    cases hexplicit : rollExplicit (canBeRolled view s kind p triggerFrom) (view.randChance s.draws)
      (c.explicitlyChanced kind p) with
    | none =>
      rw [hexplicit] at h
      obtain ⟨hmem, hroll⟩ := rollEqual_some h
      exact ⟨mem_append_right _ hmem, hroll⟩
    | some hit =>
      rw [hexplicit] at h
      cases h
      obtain ⟨hmem, hroll⟩ := rollExplicit_some hexplicit
      exact ⟨mem_append_left _ hmem, hroll⟩

theorem rollOne_some {triggerFrom : Nat}
    (h : (rollOne c view s kind p triggerFrom).1 = some obj) :
    obj.guid ∈ c.guids kind p ∧
      (obj.guid = triggerFrom ∨ s.spawns.isSpawnedObject kind obj.guid = false) := by
  obtain ⟨hmem, hroll⟩ := rollOne_rolled h
  refine ⟨mem_map_of_mem hmem, ?_⟩
  simp only [canBeRolled, Bool.and_eq_true, Bool.or_eq_true, beq_iff_eq, Bool.not_eq_true'] at hroll
  exact hroll.2

-- Spawning one member, with the pool below it

theorem flips_addAndSpawn (hspawn : c.Spawns p spawn) (hs : c.Kept s.spawns)
    (hactive : c.Active s.spawns p) (hguid : guid ∈ c.guids kind p)
    (hfree : s.spawns.isSpawnedObject kind guid = false) :
    c.Flips p kind guid s.spawns (addAndSpawn spawn kind p s guid).spawns ∧
      (addAndSpawn spawn kind p s guid).spawns.isSpawnedObject kind guid = true := by
  have hflips : c.Flips p kind guid s.spawns (s.addSpawn kind guid p).spawns :=
    flips_addSpawn hs hactive hguid hfree
  have hmark : (s.addSpawn kind guid p).spawns.isSpawnedObject kind guid = true := by
    simp [MapState.addSpawn, SpawnedPoolData.isSpawnedObject_addSpawn]
  cases kind with
  | creature => exact ⟨hflips, hmark⟩
  | gameobject => exact ⟨hflips, hmark⟩
  | pool =>
    have hbounded : c.Bounded (s.addSpawn .pool guid p).spawns guid := by
      unfold Bounded
      rw [MapState.addSpawn, SpawnedPoolData.getSpawnedObjects_addSpawn _ _ _ _ hfree, if_neg (ne_of_child hguid),
        SpawnedPoolData.getSpawnedObjects_of_not _ _ hfree]
      exact Nat.zero_le _
    obtain ⟨hmoves, hlimit⟩ := hspawn _ guid hguid hflips.moves.kept (.inr hmark) hbounded
    exact ⟨hflips.child hmoves hguid fun _ => hlimit, (hmoves.members hguid .pool guid hguid).trans hmark⟩

end Config

end TurtleWow.Pools

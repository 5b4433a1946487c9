import TurtleWow.Pools.Limit

namespace TurtleWow.Pools

open List

namespace Config

variable {c : Config} {view : View} {p trigger motherPool : Nat} {kind : Kind}

-- The recursion goes down the forest, so a depth above the pool's own is enough.

def AgreeBelow (c : Config) (p : Nat) (first second : MapState → Nat → MapState) : Prop :=
  ∀ s q, q ∈ c.guids .pool p → first s q = second s q

section

variable {spawn spawn' despawn despawn' : MapState → Nat → MapState}

theorem AgreeBelow.spawn1Object (h : c.AgreeBelow p spawn spawn') (s : MapState) {guid : Nat}
    (hguid : guid ∈ c.guids kind p) : spawn1Object spawn s kind guid = Pools.spawn1Object spawn' s kind guid := by
  cases kind with
  | creature => rfl
  | gameobject => rfl
  | pool => exact h s guid hguid

theorem AgreeBelow.addAndSpawn (h : c.AgreeBelow p spawn spawn') (s : MapState) {guid : Nat}
    (hguid : guid ∈ c.guids kind p) : addAndSpawn spawn kind p s guid = Pools.addAndSpawn spawn' kind p s guid :=
  h.spawn1Object _ hguid

theorem AgreeBelow.despawnObject (h : c.AgreeBelow p despawn despawn') (s : MapState) (guid : Nat) :
    despawnObject c despawn kind p guid s = Pools.despawnObject c despawn' kind p guid s := by
  rw [despawnObject_eq, despawnObject_eq]
  refine foldl_ext _ _ _ fun t obj hobj => ?_
  unfold despawnOne
  rw [h.spawn1Object t (mem_map_of_mem (mem_members_of_append hobj))]

theorem AgreeBelow.loadTimers (h : c.AgreeBelow p spawn spawn') (s : MapState) (count : Int) :
    loadTimers c view spawn kind p s count = Pools.loadTimers c view spawn' kind p s count := by
  have hload (list : List PoolObject) (hlist : ∀ obj ∈ list, obj ∈ c.members kind p) :
      list.foldl (loadOne view spawn kind p) (s, count) = list.foldl (loadOne view spawn' kind p) (s, count) := by
    refine foldl_ext _ _ _ fun acc obj hobj => ?_
    unfold loadOne
    rw [h.addAndSpawn acc.1 (mem_map_of_mem (hlist obj hobj))]
  unfold Pools.loadTimers
  rw [hload _ fun obj hobj => mem_append_right _ hobj, hload _ fun obj hobj => mem_append_left _ hobj]

variable (h : c.AgreeBelow p spawn spawn') (hd : c.AgreeBelow p despawn despawn')

include h hd

theorem spawnOnce_congr (fired : Bool) (loop : Loop) :
    spawnOnce c view spawn despawn kind p motherPool trigger fired loop =
      spawnOnce c view spawn' despawn' kind p motherPool trigger fired loop := by
  rw [spawnOnce_eq, spawnOnce_eq]
  cases hobj : (rolled c view kind p motherPool loop).1 with
  | none => rfl
  | some obj =>
    have hmem : obj.guid ∈ c.guids kind p := (rollOne_some hobj).1
    have hreplace (next : Loop) : replace c despawn kind p motherPool trigger fired next =
        replace c despawn' kind p motherPool trigger fired next := by
      unfold replace
      simp only [hd.despawnObject]
    dsimp only
    unfold spawnRolled
    rw [h.addAndSpawn _ hmem, hreplace]

theorem spawnRest_congr (fired : Bool) (n : Nat) (loop : Loop) :
    spawnRest c view spawn despawn kind p motherPool trigger fired n loop =
      spawnRest c view spawn' despawn' kind p motherPool trigger fired n loop := by
  induction n generalizing loop with
  | zero => rfl
  | succ n ih =>
    unfold spawnRest
    rw [spawnOnce_congr h hd, ih]

theorem spawnPoolGroup_congr (s : MapState) :
    spawnPoolGroup c view spawn despawn kind s p trigger = spawnPoolGroup c view spawn' despawn' kind s p trigger := by
  unfold spawnPoolGroup spawnObject
  simp only [h.loadTimers, spawnRest_congr h hd]

end

theorem despawnPool_more (fuel : Nat) {more p : Nat} (hfuel : c.height p < fuel) (hmore : fuel ≤ more) (s : MapState) :
    despawnPool c more s p = despawnPool c fuel s p := by
  induction fuel generalizing more p s with
  | zero => exact absurd hfuel (Nat.not_lt_zero _)
  | succ fuel ih =>
    obtain ⟨more, rfl⟩ := Nat.exists_eq_add_of_lt (Nat.lt_of_succ_le hmore)
    have hbelow : c.AgreeBelow p (despawnPool c (fuel + more)) (despawnPool c fuel) := fun s q hq =>
      ih ((c.height_lt p q hq).trans_le (Nat.lt_succ_iff.mp hfuel)) (Nat.le_add_right _ _) s
    unfold despawnPool
    simp only [hbelow.despawnObject]

theorem spawnPool_more (fuel : Nat) {more p : Nat} (hfuel : c.height p < fuel) (hmore : fuel ≤ more) (s : MapState) :
    spawnPool c view more s p = spawnPool c view fuel s p := by
  induction fuel generalizing more p s with
  | zero => exact absurd hfuel (Nat.not_lt_zero _)
  | succ fuel ih =>
    obtain ⟨more, rfl⟩ := Nat.exists_eq_add_of_lt (Nat.lt_of_succ_le hmore)
    have hheight (q : Nat) (hq : q ∈ c.guids .pool p) : c.height q < fuel :=
      (c.height_lt p q hq).trans_le (Nat.lt_succ_iff.mp hfuel)
    have hspawn : c.AgreeBelow p (spawnPool c view (fuel + more)) (spawnPool c view fuel) := fun s q hq =>
      ih (hheight q hq) (Nat.le_add_right _ _) s
    have hdespawn : c.AgreeBelow p (despawnPool c (fuel + more)) (despawnPool c fuel) := fun s q hq =>
      despawnPool_more fuel (hheight q hq) (Nat.le_add_right _ _) s
    unfold spawnPool
    simp only [spawnPoolGroup_congr hspawn hdespawn]

-- An update of a sub-pool goes to its mother, which may hold spawns only when
-- it is spawned itself; any other update is triggered by a member, if by
-- something that is spawned at all.
def Meets (c : Config) (s : SpawnedPoolData) : Input → Prop
  | .init => True
  | .update kind p guid =>
    if c.isPartOfAPool p ≠ 0 then c.Active s (c.isPartOfAPool p)
    else s.isSpawnedObject kind guid = true → guid ∈ c.guids kind p
  | .spawn p => c.isPartOfAPool p = 0
  | .despawn p => c.isPartOfAPool p = 0
  | .exclude _ _ _ _ => True

instance (c : Config) (s : SpawnedPoolData) : (input : Input) → Decidable (c.Meets s input)
  | .init => inferInstanceAs (Decidable True)
  | .update _ _ _ => inferInstanceAs (Decidable (ite _ _ _))
  | .spawn _ => inferInstanceAs (Decidable (_ = _))
  | .despawn _ => inferInstanceAs (Decidable (_ = _))
  | .exclude _ _ _ _ => inferInstanceAs (Decidable True)

structure Sound (c : Config) (s : SpawnedPoolData) : Prop where
  kept : c.Kept s
  bounded : ∀ p, c.Bounded s p

variable {s : MapState}

theorem Sound.accounted {s : SpawnedPoolData} (h : c.Sound s) : c.Accounted s :=
  ⟨h.kept.counted, h.bounded, fun p _ hidle _ _ hguid => not_spawned_of_zero
    ((h.kept.counted p).symm.trans (s.getSpawnedObjects_of_not p hidle)) hguid⟩

theorem sound_empty (c : Config) : c.Sound .empty := by
  refine ⟨⟨fun p => ?_, fun kind => ?_⟩, fun p => Nat.zero_le _⟩
  · refine (spawnedMembers_eq_zero fun kind _ _ => ?_).symm
    cases kind <;> rfl
  · cases kind <;> rfl

theorem Sound.moves {s t : SpawnedPoolData} (h : c.Sound s) (hmoves : c.Moves p s t) (hp : c.Bounded t p) :
    c.Sound t := by
  refine ⟨hmoves.kept, fun q => ?_⟩
  by_cases hq : q = p
  · exact hq ▸ hp
  · exact hmoves.bounded q hq (h.bounded q)

section

variable (h : c.Sound s.spawns)

include h

theorem Sound.spawnPool (htop : c.isPartOfAPool p = 0) :
    c.Sound (spawnPool c view (c.height p + 1) s p).spawns := by
  obtain ⟨hmoves, hbounded⟩ := spawnPool_spec view (c.height p + 1) (Nat.lt_succ_self _) h.kept
    (.inl htop) (h.bounded p)
  exact h.moves hmoves hbounded

theorem Sound.despawnPool (htop : c.isPartOfAPool p = 0) :
    c.Sound (despawnPool c (c.height p + 1) s p).spawns := by
  obtain ⟨hclears, -⟩ := clears_despawnPool (c.height p + 1) (Nat.lt_succ_self _) h.kept (.inl htop)
  exact h.moves hclears.moves (hclears.bounded h.kept (h.bounded p))

theorem Sound.initializePools : c.Sound (initializePools c view s).spawns := by
  unfold Pools.initializePools
  generalize List.range (c.maxPoolId + 1) = list
  induction list generalizing s with
  | nil => exact h
  | cons p rest ih =>
    rw [foldl_cons]
    refine ih ?_
    unfold initSpawnPool
    cases hauto : c.autoSpawn p with
    | false => exact h
    | true =>
      rw [if_pos rfl]
      by_cases hmap : view.canBeSpawnedAtMap p = true
      · rw [if_pos hmap]
        exact h.spawnPool (c.autoSpawn_mother p hauto)
      · rw [if_neg hmap]
        exact h

theorem Sound.updatePool {guid : Nat} (hmeets : c.Meets s.spawns (.update kind p guid)) :
    c.Sound (updatePool c view s kind p guid).spawns := by
  unfold Pools.updatePool
  by_cases hmother : c.isPartOfAPool p ≠ 0
  · simp only [Meets, if_pos hmother] at hmeets
    simp only [if_pos hmother]
    have hmem : p ∈ c.guids .pool (c.isPartOfAPool p) := (c.mother _ p hmother).mp rfl
    obtain ⟨hmoves, hbounded⟩ := spawnPoolGroup_spec view .pool (spawns_spawnPool (Nat.le_refl _))
      (despawns_despawnPool (Nat.le_refl _)) h.kept hmeets (h.bounded _) fun _ => hmem
    exact h.moves hmoves hbounded
  · simp only [Meets, if_neg hmother] at hmeets
    simp only [if_neg hmother]
    obtain ⟨hmoves, hbounded⟩ := spawnPoolGroup_spec view kind (spawns_spawnPool (Nat.le_refl _))
      (despawns_despawnPool (Nat.le_refl _)) h.kept (.inl (not_not.mp hmother)) (h.bounded _) hmeets
    exact h.moves hmoves hbounded

theorem Sound.step {input : View × Input} (hmeets : c.Meets s.spawns input.2) :
    c.Sound (step c s input).spawns := by
  obtain ⟨view, input⟩ := input
  cases input with
  | init => exact h.initializePools
  | update kind p guid => exact h.updatePool hmeets
  | spawn p => exact h.spawnPool hmeets
  | despawn p => exact h.despawnPool hmeets
  | exclude kind p guid state =>
    unfold Pools.step setExcludeObject
    by_cases hmem : guid ∈ c.guids kind p
    · simp only [if_pos hmem]
      exact h
    · simp only [if_neg hmem]
      exact h

end

theorem accounted_run (c : Config) (inputs : List (View × Input))
    (h : Run.Guarded (step c) (fun s input => c.Meets s.spawns input.2) .new inputs) :
    c.Accounted (Run.run (step c) .new inputs).spawns :=
  (Run.run_invariant (step c) (fun s input => c.Meets s.spawns input.2) (fun s => c.Sound s.spawns)
    (fun _ _ hsound hmeets => hsound.step hmeets) (sound_empty c) h).accounted

-- Pool 1 holds one of the pools 2 and 3, pool 2 holds pool 4, and the pools 4
-- and 5 one of two creatures each.

def nestedChanced : Kind → Nat → List PoolObject
  | .pool, 1 => [⟨2, 0, false⟩, ⟨3, 0, false⟩]
  | .pool, 2 => [⟨4, 0, false⟩]
  | .creature, 4 => [⟨7, 0, false⟩, ⟨8, 0, false⟩]
  | .creature, 5 => [⟨9, 0, false⟩, ⟨10, 0, false⟩]
  | _, _ => []

def nestedMother : Nat → Nat
  | 2 => 1
  | 3 => 1
  | 4 => 2
  | _ => 0

def nestedHeight : Nat → Nat
  | 1 => 2
  | 2 => 1
  | _ => 0

theorem nestedChanced_eq_nil (kind : Kind) {p : Nat} (hp : 6 ≤ p) : nestedChanced kind p = [] := by
  unfold nestedChanced
  split <;> first | omega | rfl

theorem lt_of_mem_nestedChanced {kind : Kind} {p guid : Nat}
    (h : guid ∈ (nestedChanced kind p).map PoolObject.guid) : p < 6 := by
  by_contra hp
  rw [nestedChanced_eq_nil kind (Nat.le_of_not_lt hp)] at h
  exact not_mem_nil h

theorem forall_nested {q : List PoolObject → Nat → Prop} (hnil : ∀ p, q [] p) (kind : Kind)
    (hfew : ∀ p < 6, q (nestedChanced kind p) p) (p : Nat) : q (nestedChanced kind p) p := by
  by_cases hp : p < 6
  · exact hfew p hp
  · rw [nestedChanced_eq_nil kind (Nat.le_of_not_lt hp)]
    exact hnil p

theorem nestedMother_iff (p q : Nat) (hp : p ≠ 0) :
    nestedMother q = p ↔ q ∈ ([] ++ nestedChanced .pool p).map PoolObject.guid := by
  have hmother : nestedMother q < 3 := by
    unfold nestedMother
    split <;> omega
  by_cases hlt : p < 3
  · have hcase : p = 1 ∨ p = 2 := by omega
    rcases hcase with rfl | rfl
    · unfold nestedMother
      split <;> simp_all [nestedChanced]
    · unfold nestedMother
      split <;> simp_all [nestedChanced]
  · have hnil : nestedChanced .pool p = [] := by
      unfold nestedChanced
      split <;> first | omega | simp_all
    simp only [hnil, append_nil, map_nil, not_mem_nil, iff_false]
    omega

def nested : Config where
  explicitlyChanced := fun _ _ => []
  equalChanced := nestedChanced
  spawnCount := fun _ => 1
  autoSpawn := fun p => decide (p = 1 ∨ p = 5)
  maxPoolId := 5
  isPartOfAPool := nestedMother
  height := nestedHeight
  spawnCount_lt := fun _ => by decide
  explicit_lt := fun _ _ => by decide
  equal_lt := fun kind p => forall_nested (q := fun list _ => list.length < 2 ^ 31) (fun _ => by decide) kind
    (by cases kind <;> decide) p
  guid_ne := fun kind p => forall_nested (q := fun list p => ∀ obj ∈ [] ++ list, p ≠ 0 ∧ obj.guid ≠ 0)
    (fun _ _ h => absurd h not_mem_nil) kind (by cases kind <;> decide) p
  nodup := fun kind p => forall_nested (q := fun list _ => (([] ++ list).map PoolObject.guid).Nodup)
    (fun _ => nodup_nil) kind (by cases kind <;> decide) p
  once := by
    intro kind p q guid hp hq
    have hdecide : ∀ p < 6, ∀ q < 6, ∀ guid ∈ (nestedChanced kind p).map PoolObject.guid,
        guid ∈ (nestedChanced kind q).map PoolObject.guid → p = q := by
      cases kind <;> decide
    exact hdecide p (lt_of_mem_nestedChanced hp) q (lt_of_mem_nestedChanced hq) guid hp hq
  mother := nestedMother_iff
  height_lt := by
    intro p q hq
    have hdecide : ∀ p < 6, ∀ q ∈ (nestedChanced .pool p).map PoolObject.guid, nestedHeight q < nestedHeight p := by
      decide
    exact hdecide p (lt_of_mem_nestedChanced hq) q hq
  autoSpawn_mother := by
    intro p hp
    rcases of_decide_eq_true hp with rfl | rfl
    · rfl
    · rfl

def die (n : Nat) : View := ⟨fun _ => 0, fun _ => n, fun _ _ => 0, true, fun _ => true⟩

theorem spawnPool_more_nested : spawnPool nested (die 0) 9 .new 1 = spawnPool nested (die 0) 3 .new 1 :=
  spawnPool_more 3 (by decide) (by decide) .new

theorem accounted_run_nested :
    nested.Accounted (Run.run (step nested) .new
      [(die 0, .init), (die 1, .update .creature 4 7), (die 1, .update .creature 5 9), (die 0, .exclude .creature 4 7 true),
        (die 0, .despawn 1), (die 1, .spawn 1)]).spawns :=
  accounted_run nested _ (by decide +kernel)

-- The pools start with pool 3, and an update of pool 4 then spawns it in pool 2,
-- which pool 1 does not count.
theorem not_accounted_run :
    ¬nested.Accounted (Run.run (step nested) .new [(die 1, .init), (die 0, .update .creature 4 0)]).spawns := fun h =>
  absurd (h.counted 1) (by decide +kernel)

-- A creature of pool 4 that triggers pool 5 raises it above its limit.
example : ¬nested.Accounted (Run.run (step nested) .new [(die 0, .init), (die 1, .update .creature 5 7)]).spawns :=
  fun h => absurd (h.bounded 5) (by decide +kernel)

end Config

end TurtleWow.Pools

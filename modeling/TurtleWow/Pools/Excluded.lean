import TurtleWow.Pools.Runs

namespace TurtleWow.Pools

open List

-- Which members a call of SpawnObject hands over, and whether they may be
-- spawned: the roll asks, the loading of stored timers does not.

-- The exclusions are set by the game events only

def KeepsExclude (f : MapState → Nat → MapState) : Prop := ∀ s p, (f s p).exclude = s.exclude

section

variable {c : Config} {view : View} {kind : Kind} {p triggerFrom motherPool subPool limit : Nat} {fired : Bool}
variable {child spawn despawn : MapState → Nat → MapState} {s t : MapState}

theorem canBeSpawned_congr (h : s.exclude = t.exclude) (obj : PoolObject) :
    canBeSpawned view s kind p obj = canBeSpawned view t kind p obj := by
  unfold canBeSpawned
  rw [h]

section

variable (h : KeepsExclude child)

include h

theorem KeepsExclude.spawn1Object (s : MapState) (guid : Nat) :
    (spawn1Object child s kind guid).exclude = s.exclude := by
  cases kind with
  | creature => rfl
  | gameobject => rfl
  | pool => exact h s guid

theorem KeepsExclude.addAndSpawn (s : MapState) (guid : Nat) :
    (addAndSpawn child kind p s guid).exclude = s.exclude := h.spawn1Object _ guid

theorem KeepsExclude.despawnOne (guid : Nat) (s : MapState) (obj : PoolObject) :
    (despawnOne child kind p guid s obj).exclude = s.exclude := by
  unfold Pools.despawnOne
  split_ifs
  · exact h.spawn1Object s obj.guid
  · rfl

theorem KeepsExclude.despawnObject (guid : Nat) (s : MapState) :
    (despawnObject c child kind p guid s).exclude = s.exclude := by
  rw [Config.despawnObject_eq]
  induction c.equalChanced kind p ++ c.explicitlyChanced kind p generalizing s with
  | nil => rfl
  | cons obj rest ih => rw [foldl_cons, ih, h.despawnOne]

end

theorem keepsExclude_despawnPool (fuel : Nat) : KeepsExclude (despawnPool c fuel) := by
  induction fuel with
  | zero => exact fun _ _ => rfl
  | succ fuel ih =>
    intro s p
    unfold despawnPool
    simp only [ih.despawnObject]

theorem rollEqual_exclude (s : MapState) : (rollEqual c view s kind p triggerFrom).2.exclude = s.exclude := by
  unfold rollEqual
  dsimp only
  split_ifs <;> rfl

theorem rollOne_exclude (s : MapState) : (rollOne c view s kind p triggerFrom).2.exclude = s.exclude := by
  unfold rollOne
  split_ifs
  · exact rollEqual_exclude s
  · cases rollExplicit (canBeRolled view s kind p triggerFrom) (view.randChance s.draws)
      (c.explicitlyChanced kind p) with
    | none => exact rollEqual_exclude s.draw
    | some obj => rfl

theorem rolled_exclude (loop : Loop) :
    (Config.rolled c view kind p motherPool loop).2.state.exclude = loop.state.exclude := rollOne_exclude loop.state

theorem KeepsExclude.replace (h : KeepsExclude despawn) (loop : Loop) :
    (replace c despawn kind p motherPool subPool fired loop).state.exclude = loop.state.exclude := by
  unfold Pools.replace
  split_ifs
  · exact h.despawnObject _ loop.state
  · exact h.despawnObject _ loop.state
  · rfl

theorem KeepsExclude.spawnRolled (h : KeepsExclude spawn) (hd : KeepsExclude despawn) (loop : Loop) (obj : PoolObject) :
    (spawnRolled c spawn despawn kind p motherPool subPool fired loop obj).state.exclude = loop.state.exclude := by
  unfold Pools.spawnRolled
  dsimp only
  split_ifs
  · rfl
  · rfl
  · exact (hd.replace _).trans (h.addAndSpawn loop.state obj.guid)
  · exact (hd.replace _).trans (h.addAndSpawn loop.state obj.guid)

theorem KeepsExclude.spawnOnce (h : KeepsExclude spawn) (hd : KeepsExclude despawn) (loop : Loop) :
    (spawnOnce c view spawn despawn kind p motherPool subPool fired loop).state.exclude = loop.state.exclude := by
  rw [Config.spawnOnce_eq]
  cases (Config.rolled c view kind p motherPool loop).1 with
  | none => exact rolled_exclude loop
  | some obj => exact (h.spawnRolled hd _ obj).trans (rolled_exclude loop)

theorem KeepsExclude.spawnRest (h : KeepsExclude spawn) (hd : KeepsExclude despawn) (n : Nat) (loop : Loop) :
    (spawnRest c view spawn despawn kind p motherPool subPool fired n loop).state.exclude = loop.state.exclude := by
  induction n generalizing loop with
  | zero => rfl
  | succ n ih => exact (ih _).trans (h.spawnOnce hd loop)

theorem KeepsExclude.loadOne (h : KeepsExclude child) (acc : MapState × Int) (obj : PoolObject) :
    (loadOne view child kind p acc obj).1.exclude = acc.1.exclude := by
  unfold Pools.loadOne
  split_ifs
  · exact h.addAndSpawn acc.1 obj.guid
  · rfl

theorem KeepsExclude.loading (h : KeepsExclude child) (list : List PoolObject) (acc : MapState × Int) :
    (list.foldl (Pools.loadOne view child kind p) acc).1.exclude = acc.1.exclude := by
  induction list generalizing acc with
  | nil => rfl
  | cons obj rest ih => exact (ih _).trans (h.loadOne acc obj)

theorem KeepsExclude.loadTimers (h : KeepsExclude child) (s : MapState) (count : Int) :
    (Pools.loadTimers c view child kind p s count).1.exclude = s.exclude := by
  unfold Pools.loadTimers
  split_ifs <;> exact h.loading _ (s, count)

theorem KeepsExclude.spawnObject (h : KeepsExclude spawn) (hd : KeepsExclude despawn) (s : MapState) :
    (spawnObject c view spawn despawn kind p limit triggerFrom motherPool s).exclude = s.exclude := by
  unfold Pools.spawnObject
  refine (h.spawnRest hd _ _).trans ?_
  split_ifs
  · rfl
  · rfl
  · exact h.loadTimers s _
  · rfl

theorem KeepsExclude.spawnPoolGroup (h : KeepsExclude spawn) (hd : KeepsExclude despawn) (s : MapState) (guid : Nat) :
    (spawnPoolGroup c view spawn despawn kind s p guid).exclude = s.exclude := by
  unfold Pools.spawnPoolGroup
  split_ifs
  · rfl
  · exact h.spawnObject hd s
  · exact h.spawnObject hd s

theorem keepsExclude_spawnPool (fuel : Nat) : KeepsExclude (spawnPool c view fuel) := by
  induction fuel with
  | zero => exact fun _ _ => rfl
  | succ fuel ih =>
    intro s p
    unfold spawnPool
    simp only [ih.spawnPoolGroup (keepsExclude_despawnPool fuel)]

end

-- The members that a call hands over, each with the state it finds

section

variable (c : Config) (view : View) (spawn despawn : MapState → Nat → MapState) (kind : Kind)
variable (p motherPool subPool : Nat) (fired : Bool)

def handedLoading : MapState × Int → List PoolObject → List (MapState × PoolObject)
  | _, [] => []
  | acc, obj :: rest =>
    (if acc.2 ≠ 0 ∧ getPoolObjectRespawnTime view kind obj.guid ≠ 0 then [(acc.1, obj)] else []) ++
      handedLoading (loadOne view spawn kind p acc obj) rest

def handedOnce (loop : Loop) : Option (MapState × PoolObject) :=
  let rolled := Config.rolled c view kind p motherPool loop
  rolled.1.bind fun obj =>
    if obj.guid = rolled.2.lastDespawned ∨ (obj.guid = rolled.2.triggerFrom ∧ fired = true) then none
    else some (rolled.2.state, obj)

def handedRest : Nat → Loop → List (MapState × PoolObject)
  | 0, _ => []
  | n + 1, loop =>
    (handedOnce c view kind p motherPool fired loop).toList ++
      handedRest n (spawnOnce c view spawn despawn kind p motherPool subPool fired loop)

def timed : List PoolObject :=
  if (c.explicitlyChanced kind p).isEmpty then c.equalChanced kind p else c.explicitlyChanced kind p

def missing (s : MapState) (limit : Nat) : Int := Int.bmod ((limit : Int) - s.spawns.getSpawnedObjects p) (2 ^ 32)

def Loads (s : MapState) (limit triggerFrom : Nat) : Prop :=
  triggerFrom = 0 ∧ missing p s limit ≠ 0 ∧ missing p s limit % 2 ^ 32 = limit

instance (s : MapState) (limit triggerFrom : Nat) : Decidable (Loads p s limit triggerFrom) :=
  inferInstanceAs (Decidable (_ ∧ _ ∧ _))

def handed (limit triggerFrom : Nat) (s : MapState) : List (MapState × PoolObject) :=
  let fired := s.spawns.isSpawnedObject kind triggerFrom
  let rest (start : MapState × Int) := handedRest c view spawn despawn kind p motherPool triggerFrom fired
    start.2.toNat ⟨start.1, triggerFrom, 0⟩
  if triggerFrom ≠ 0 then rest (s, if fired then missing p s limit + 1 else missing p s limit)
  else if Loads p s limit triggerFrom then
    handedLoading view spawn kind p (s, missing p s limit) (timed c kind p) ++
      rest (loadTimers c view spawn kind p s (missing p s limit))
  else rest (s, missing p s limit)

end

section

variable {c : Config} {view : View} {kind : Kind} {p triggerFrom motherPool subPool limit : Nat} {fired : Bool}
variable {spawn despawn : MapState → Nat → MapState} {s t : MapState}

-- A step of the loop hands over one member or none.

variable {entry : MapState × PoolObject}

theorem of_handedOnce {loop : Loop}
    (h : handedOnce c view kind p motherPool fired loop = some entry) :
    (Config.rolled c view kind p motherPool loop).1 = some entry.2 ∧
      entry.1 = (Config.rolled c view kind p motherPool loop).2.state ∧
      entry.2.guid ≠ (Config.rolled c view kind p motherPool loop).2.lastDespawned ∧
      ¬(entry.2.guid = (Config.rolled c view kind p motherPool loop).2.triggerFrom ∧ fired = true) := by
  unfold handedOnce at h
  dsimp only at h
  cases hobj : (Config.rolled c view kind p motherPool loop).1 with
  | none => simp [hobj] at h
  | some obj =>
    rw [hobj, Option.bind_some] at h
    split_ifs at h with hout
    cases h
    rw [not_or] at hout
    exact ⟨rfl, rfl, hout⟩

theorem handedOnce_canBeSpawned {loop : Loop}
    (h : handedOnce c view kind p motherPool fired loop = some entry) :
    canBeSpawned view entry.1 kind p entry.2 = true := by
  obtain ⟨hroll, hstate, -, -⟩ := of_handedOnce h
  have hrolled := (Config.rollOne_rolled hroll).2
  unfold canBeRolled at hrolled
  rw [Bool.and_eq_true] at hrolled
  rw [hstate, canBeSpawned_congr (rolled_exclude loop)]
  exact hrolled.1

theorem handedRest_canBeSpawned {n : Nat} {loop : Loop}
    (h : entry ∈ handedRest c view spawn despawn kind p motherPool subPool fired n loop) :
    canBeSpawned view entry.1 kind p entry.2 = true := by
  induction n generalizing loop with
  | zero => simp [handedRest] at h
  | succ n ih =>
    unfold handedRest at h
    rcases mem_append.mp h with hone | hrest
    · exact handedOnce_canBeSpawned (Option.mem_toList.mp hone)
    · exact ih hrest

-- The loading takes the first that have a stored timer, as many as the limit
-- says.

theorem handedLoading_exclude (h : KeepsExclude spawn) {list : List PoolObject} {acc : MapState × Int}
    (hentry : entry ∈ handedLoading view spawn kind p acc list) :
    entry.1.exclude = acc.1.exclude := by
  induction list generalizing acc with
  | nil => simp [handedLoading] at hentry
  | cons obj rest ih =>
    unfold handedLoading at hentry
    rcases mem_append.mp hentry with hone | hrest
    · split_ifs at hone
      · rw [mem_singleton.mp hone]
      · simp at hone
    · exact (ih hrest).trans (h.loadOne acc obj)

def hasTimer (view : View) (kind : Kind) (obj : PoolObject) : Bool := getPoolObjectRespawnTime view kind obj.guid != 0

theorem handedLoading_take (list : List PoolObject) (s : MapState) (n : Nat) :
    (handedLoading view spawn kind p (s, n) list).map Prod.snd = (list.filter (hasTimer view kind)).take n := by
  induction list generalizing s n with
  | nil => simp [handedLoading]
  | cons obj rest ih =>
    unfold handedLoading loadOne
    by_cases htimer : getPoolObjectRespawnTime view kind obj.guid = 0
    · have hnot : hasTimer view kind obj = false := by simp [hasTimer, htimer]
      simp [htimer, hnot, ih]
    · have hhas : hasTimer view kind obj = true := by simp [hasTimer, htimer]
      cases n with
      | zero =>
        have hrest := ih s 0
        simpa [htimer] using hrest
      | succ n =>
        have hless : ((n + 1 : Nat) : Int) - 1 = n := by omega
        have hne : ((n + 1 : Nat) : Int) ≠ 0 := by omega
        rw [if_pos ⟨hne, htimer⟩, if_pos ⟨hne, htimer⟩, hless, filter_cons_of_pos hhas, map_append, ih]
        simp

-- A limit from 2 ^ 31 on is a negative count, which no list brings to 0.
theorem handedLoading_all (list : List PoolObject) (s : MapState) {count : Int} (hcount : count < 0) :
    (handedLoading view spawn kind p (s, count) list).map Prod.snd = list.filter (hasTimer view kind) := by
  induction list generalizing s count with
  | nil => simp [handedLoading]
  | cons obj rest ih =>
    unfold handedLoading loadOne
    by_cases htimer : getPoolObjectRespawnTime view kind obj.guid = 0
    · have hnot : hasTimer view kind obj = false := by simp [hasTimer, htimer]
      simp [htimer, hnot, ih s hcount]
    · have hhas : hasTimer view kind obj = true := by simp [hasTimer, htimer]
      have hload : count ≠ 0 ∧ getPoolObjectRespawnTime view kind obj.guid ≠ 0 := ⟨by omega, htimer⟩
      have hless : count - 1 < 0 := by omega
      rw [if_pos hload, if_pos hload, filter_cons_of_pos hhas, map_append, ih _ hless]
      rfl

theorem length_timed_lt (c : Config) (kind : Kind) (p : Nat) : (timed c kind p).length < 2 ^ 31 := by
  unfold timed
  split_ifs
  · exact c.equal_lt kind p
  · exact c.explicit_lt kind p

theorem handedLoading_of_loads (h : Loads p s limit triggerFrom) :
    (handedLoading view spawn kind p (s, missing p s limit) (timed c kind p)).map Prod.snd =
      ((timed c kind p).filter (hasTimer view kind)).take limit := by
  obtain ⟨-, hne, hlimit⟩ := h
  have hlow : -(2 ^ 31) ≤ missing p s limit := by
    unfold missing
    have := Int.le_bmod (x := (limit : Int) - s.spawns.getSpawnedObjects p) (m := 2 ^ 32) (by decide)
    omega
  have hhigh : missing p s limit < 2 ^ 31 := by
    unfold missing
    have := Int.bmod_lt (x := (limit : Int) - s.spawns.getSpawnedObjects p) (m := 2 ^ 32) (by decide)
    omega
  generalize missing p s limit = count at hne hlimit hlow hhigh
  by_cases hneg : count < 0
  · rw [handedLoading_all _ s hneg, take_of_length_le]
    have hlength := length_timed_lt c kind p
    have hfilter := length_filter_le (hasTimer view kind) (timed c kind p)
    omega
  · have hsame : count = limit := by omega
    rw [hsame, handedLoading_take]

-- A call hands over none but members that can be spawned exactly when the
-- stored timers that it loads are those of members that can be.
theorem handed_canBeSpawned_iff (c : Config) (view : View) (fuel : Nat) (kind : Kind)
    (p motherPool limit triggerFrom : Nat) (s : MapState) :
    (∀ entry ∈ handed c view (spawnPool c view fuel) (despawnPool c fuel) kind p motherPool limit triggerFrom s,
        canBeSpawned view entry.1 kind p entry.2 = true) ↔
      (Loads p s limit triggerFrom → ∀ obj ∈ ((timed c kind p).filter (hasTimer view kind)).take limit,
        canBeSpawned view s kind p obj = true) := by
  have hkeeps : KeepsExclude (spawnPool c view fuel) := keepsExclude_spawnPool fuel
  unfold handed
  dsimp only
  by_cases hloads : Loads p s limit triggerFrom
  · rw [if_neg (not_not.mpr hloads.1), if_pos hloads, List.forall_mem_append, ← handedLoading_of_loads
      hloads, List.forall_mem_map]
    have hsame : ∀ entry ∈ handedLoading view (spawnPool c view fuel) kind p (s, missing p s limit) (timed c kind p),
        canBeSpawned view entry.1 kind p entry.2 = canBeSpawned view s kind p entry.2 :=
      fun entry hentry => canBeSpawned_congr (handedLoading_exclude hkeeps hentry) entry.2
    constructor
    · rintro ⟨hloading, -⟩ - entry hentry
      rw [← hsame entry hentry]
      exact hloading entry hentry
    · intro hall
      refine ⟨fun entry hentry => ?_, fun entry hentry => handedRest_canBeSpawned hentry⟩
      rw [hsame entry hentry]
      exact hall hloads entry hentry
  · refine iff_of_true (fun entry hentry => ?_) fun h => absurd h hloads
    rw [if_neg hloads] at hentry
    split_ifs at hentry <;> exact handedRest_canBeSpawned hentry

-- A creature that a game event has excluded, with a stored respawn time
theorem not_handed_canBeSpawned :
    ¬∀ c view fuel kind p motherPool limit triggerFrom s,
      ∀ entry ∈ handed c view (spawnPool c view fuel) (despawnPool c fuel) kind p motherPool limit triggerFrom s,
        canBeSpawned view entry.1 kind p entry.2 = true := by
  intro h
  have hspawned := h Config.nested { Config.die 0 with respawnTime := fun _ guid => if guid = 7 then 1 else 0 } 0 .creature
    4 0 1 0 (setExcludeObject Config.nested .new .creature 4 7 true)
  revert hspawned
  decide +kernel

end

end TurtleWow.Pools

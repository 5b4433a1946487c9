import TurtleWow.Pools.Turnover

namespace TurtleWow.Pools

open List

-- Spawning up to the limit: while the trigger is still counted, the loop may go
-- one round further, and that round replaces it.

namespace Config

variable {c : Config} {view : View} {p trigger motherPool n : Nat} {kind : Kind} {fired : Bool}
variable {spawn despawn : MapState → Nat → MapState}

-- The trigger is a spawned member, and waits for the object that replaces it.
structure Armed (c : Config) (kind : Kind) (p motherPool trigger : Nat) (fired : Bool) (loop : Loop) : Prop where
  fired : fired = true
  member : trigger ∈ c.guids kind p
  spawned : loop.state.spawns.isSpawnedObject kind trigger = true
  triggerFrom : motherPool = 0 → loop.triggerFrom = trigger
  lastDespawned : loop.lastDespawned = 0

-- No trigger is spawned: it has gone, or has been rolled, or never was.
structure Idle (c : Config) (kind : Kind) (p motherPool trigger : Nat) (fired : Bool) (loop : Loop) : Prop where
  below : motherPool ≠ 0 → fired = true → loop.lastDespawned = trigger ∧ trigger ∈ c.guids kind p ∧
    loop.state.spawns.isSpawnedObject kind trigger = false
  here : motherPool = 0 → loop.triggerFrom = 0 ∨ fired = false ∧
    (loop.triggerFrom ∈ c.guids kind p → loop.state.spawns.isSpawnedObject kind loop.triggerFrom = false)

structure Room (c : Config) (kind : Kind) (p motherPool trigger : Nat) (fired : Bool) (n : Nat) (loop : Loop) :
    Prop where
  kept : c.Kept loop.state.spawns
  active : c.Active loop.state.spawns p
  bounded : c.Bounded loop.state.spawns p
  room : c.Armed kind p motherPool trigger fired loop ∧
      loop.state.spawns.getSpawnedObjects p + n ≤ c.spawnCount p + 1 ∨
    c.Idle kind p motherPool trigger fired loop ∧ loop.state.spawns.getSpawnedObjects p + n ≤ c.spawnCount p

variable {loop : Loop}

theorem Room.less (h : c.Room kind p motherPool trigger fired (n + 1) loop) :
    c.Room kind p motherPool trigger fired n loop := by
  refine ⟨h.kept, h.active, h.bounded, ?_⟩
  rcases h.room with ⟨harmed, hroom⟩ | ⟨hidle, hroom⟩
  · exact .inl ⟨harmed, by omega⟩
  · exact .inr ⟨hidle, by omega⟩

theorem Room.roll (h : c.Room kind p motherPool trigger fired n loop) {state : MapState}
    (hsame : state.spawns = loop.state.spawns) :
    c.Room kind p motherPool trigger fired n
      ⟨state, if motherPool ≠ 0 then motherPool else loop.triggerFrom, loop.lastDespawned⟩ := by
  refine ⟨hsame ▸ h.kept, hsame ▸ h.active, hsame ▸ h.bounded, ?_⟩
  rcases h.room with ⟨harmed, hroom⟩ | ⟨hidle, hroom⟩
  · refine .inl ⟨⟨harmed.fired, harmed.member, hsame ▸ harmed.spawned, fun htop => ?_, harmed.lastDespawned⟩,
      hsame ▸ hroom⟩
    rw [if_neg (not_not.mpr htop)]
    exact harmed.triggerFrom htop
  · refine .inr ⟨⟨hsame ▸ hidle.below, fun htop => ?_⟩, hsame ▸ hroom⟩
    rw [if_neg (not_not.mpr htop), hsame]
    exact hidle.here htop

theorem Idle.free (h : c.Idle kind p motherPool trigger fired loop) (hmother : motherPool ∉ c.guids kind p)
    (hfrom : motherPool ≠ 0 → loop.triggerFrom = motherPool) {guid : Nat} (hguid : guid ∈ c.guids kind p)
    (hroll : guid = loop.triggerFrom ∨ loop.state.spawns.isSpawnedObject kind guid = false) :
    ¬(guid = loop.triggerFrom ∧ fired = true) ∧ loop.state.spawns.isSpawnedObject kind guid = false := by
  by_cases hsame : guid = loop.triggerFrom
  · have htop : motherPool = 0 := by
      by_contra hne
      exact hmother (hfrom hne ▸ hsame ▸ hguid)
    rcases h.here htop with hzero | ⟨hfired, hfree⟩
    · exact absurd (hsame.trans hzero) (ne_zero_of_mem hguid).2
    · refine ⟨fun hand => ?_, ?_⟩
      · exact absurd (hfired.symm.trans hand.2) Bool.false_ne_true
      · rw [hsame]
        exact hfree (hsame ▸ hguid)
  · exact ⟨fun hand => hsame hand.1, hroll.resolve_left hsame⟩

section

variable (hspawn : c.Spawns p spawn) (hdespawn : c.Despawns p despawn) (hmother : motherPool ∉ c.guids kind p)
variable (hfrom : motherPool ≠ 0 → loop.triggerFrom = motherPool)

include hspawn hmother hfrom

theorem spawnRolled_idle (hs : c.Kept loop.state.spawns) (hactive : c.Active loop.state.spawns p)
    (hidle : c.Idle kind p motherPool trigger fired loop)
    (hroom : loop.state.spawns.getSpawnedObjects p + (n + 1) ≤ c.spawnCount p) {obj : PoolObject}
    (hobj : obj.guid ∈ c.guids kind p) (hlast : obj.guid ≠ loop.lastDespawned)
    (hroll : obj.guid = loop.triggerFrom ∨ loop.state.spawns.isSpawnedObject kind obj.guid = false) :
    c.Moves p loop.state.spawns (spawnRolled c spawn despawn kind p motherPool trigger fired loop obj).state.spawns ∧
      c.Room kind p motherPool trigger fired n
        (spawnRolled c spawn despawn kind p motherPool trigger fired loop obj) := by
  obtain ⟨hnot, hfree⟩ := hidle.free hmother hfrom hobj hroll
  obtain ⟨hflips, hmark⟩ := flips_addAndSpawn hspawn hs hactive hobj hfree
  have hcount := hflips.count_add hs hobj hfree hmark
  have hbounded : c.Bounded (addAndSpawn spawn kind p loop.state obj.guid).spawns p := by
    unfold Bounded
    omega
  have hroomed (triggerFrom lastDespawned : Nat)
      (hnext : c.Idle kind p motherPool trigger fired
        ⟨addAndSpawn spawn kind p loop.state obj.guid, triggerFrom, lastDespawned⟩) :
      c.Room kind p motherPool trigger fired n
        ⟨addAndSpawn spawn kind p loop.state obj.guid, triggerFrom, lastDespawned⟩ :=
    ⟨hflips.moves.kept, hflips.moves.active hactive, hbounded, .inr ⟨hnext, by rw [hcount]; omega⟩⟩
  unfold spawnRolled
  rw [if_neg hlast, if_neg hnot]
  by_cases hreplace : loop.triggerFrom ≠ 0 ∧ fired = true
  · -- The sub-pool that triggered has gone in an earlier round.
    have hbelow : motherPool ≠ 0 := by
      intro htop
      rcases hidle.here htop with hzero | ⟨hfired, -⟩
      · exact hreplace.1 hzero
      · exact absurd (hfired.symm.trans hreplace.2) Bool.false_ne_true
    obtain ⟨hgone, hmem, hunmarked⟩ := hidle.below hbelow hreplace.2
    have hstill : (addAndSpawn spawn kind p loop.state obj.guid).spawns.isSpawnedObject kind trigger = false :=
      (hflips.others kind trigger hmem (.inr fun h => hlast (h.symm.trans hgone.symm))).trans hunmarked
    have hstep : replace c despawn kind p motherPool trigger fired
        { loop with state := addAndSpawn spawn kind p loop.state obj.guid } =
        ⟨addAndSpawn spawn kind p loop.state obj.guid, 0, trigger⟩ := by
      unfold replace
      simp only [if_pos hreplace, if_pos hbelow, despawnObject_trigger_idle (ne_zero_of_mem hmem).2 hstill]
    simp only [hstep, if_neg (ne_zero_of_mem hobj).2.symm]
    exact ⟨hflips.moves, hroomed 0 trigger
      ⟨fun _ _ => ⟨rfl, hmem, hstill⟩, fun _ => .inl rfl⟩⟩
  · have hstep : replace c despawn kind p motherPool trigger fired
        { loop with state := addAndSpawn spawn kind p loop.state obj.guid } =
        { loop with state := addAndSpawn spawn kind p loop.state obj.guid } := if_neg hreplace
    have hbelow (hne : motherPool ≠ 0) (hfired : fired = true) : False :=
      hreplace ⟨fun hzero => hne ((hfrom hne).symm.trans hzero), hfired⟩
    simp only [hstep]
    by_cases hown : loop.triggerFrom = obj.guid
    · rw [if_pos hown]
      exact ⟨hflips.moves, hroomed 0 loop.lastDespawned
        ⟨fun hne hfired => (hbelow hne hfired).elim, fun _ => .inl rfl⟩⟩
    · rw [if_neg hown]
      refine ⟨hflips.moves, hroomed loop.triggerFrom loop.lastDespawned
        ⟨fun hne hfired => (hbelow hne hfired).elim, fun htop => ?_⟩⟩
      refine (hidle.here htop).imp_right fun hright => ⟨hright.1, fun hmem => ?_⟩
      exact (hflips.others kind _ hmem (.inr hown)).trans (hright.2 hmem)

include hdespawn

theorem spawnRolled_armed (hs : c.Kept loop.state.spawns) (hactive : c.Active loop.state.spawns p)
    (hbounded : c.Bounded loop.state.spawns p) (harmed : c.Armed kind p motherPool trigger fired loop)
    (hroom : loop.state.spawns.getSpawnedObjects p + (n + 1) ≤ c.spawnCount p + 1) {obj : PoolObject}
    (hobj : obj.guid ∈ c.guids kind p)
    (hroll : obj.guid = loop.triggerFrom ∨ loop.state.spawns.isSpawnedObject kind obj.guid = false) :
    c.Moves p loop.state.spawns (spawnRolled c spawn despawn kind p motherPool trigger fired loop obj).state.spawns ∧
      c.Room kind p motherPool trigger fired n
        (spawnRolled c spawn despawn kind p motherPool trigger fired loop obj) := by
  have hlast : obj.guid ≠ loop.lastDespawned := by
    rw [harmed.lastDespawned]
    exact (ne_zero_of_mem hobj).2
  unfold spawnRolled
  rw [if_neg hlast]
  by_cases hown : obj.guid = loop.triggerFrom
  · have htop : motherPool = 0 := by
      by_contra hne
      exact hmother (hfrom hne ▸ hown ▸ hobj)
    rw [if_pos ⟨hown, harmed.fired⟩]
    exact ⟨Moves.refl p hs, hs, hactive, hbounded,
      .inr ⟨⟨fun hne => absurd htop hne, fun _ => .inl rfl⟩, by dsimp only; omega⟩⟩
  · have hfree := hroll.resolve_left hown
    rw [if_neg fun hand => hown hand.1]
    obtain ⟨hflips, hmark⟩ := flips_addAndSpawn hspawn hs hactive hobj hfree
    have hcount := hflips.count_add hs hobj hfree hmark
    have hother : trigger ≠ obj.guid := by
      rintro rfl
      exact absurd (hfree.symm.trans harmed.spawned) Bool.false_ne_true
    have hstill := (hflips.others kind trigger harmed.member (.inr hother)).trans harmed.spawned
    have hactive' := hflips.moves.active hactive
    obtain ⟨hgoes, hgone⟩ := despawnObject_trigger hdespawn hflips.moves.kept hactive' harmed.member hstill
    have hback := hgoes.count_sub hflips.moves.kept harmed.member hstill hgone
    have htrigger : (if motherPool ≠ 0 then trigger else loop.triggerFrom) = trigger := by
      by_cases htop : motherPool = 0
      · rw [if_neg (not_not.mpr htop), harmed.triggerFrom htop]
      · rw [if_pos htop]
    have hne : loop.triggerFrom ≠ 0 := by
      by_cases htop : motherPool = 0
      · rw [harmed.triggerFrom htop]
        exact (ne_zero_of_mem harmed.member).2
      · rw [hfrom htop]
        exact htop
    have hstep : replace c despawn kind p motherPool trigger fired
        { loop with state := addAndSpawn spawn kind p loop.state obj.guid } =
        ⟨despawnObject c despawn kind p trigger (addAndSpawn spawn kind p loop.state obj.guid), 0, trigger⟩ := by
      unfold replace
      simp only [if_pos (show loop.triggerFrom ≠ 0 ∧ fired = true from ⟨hne, harmed.fired⟩), htrigger]
    simp only [hstep, if_neg (ne_zero_of_mem hobj).2.symm]
    have hlimit : c.Bounded loop.state.spawns p := hbounded
    unfold Bounded at hlimit
    refine ⟨hflips.moves.trans hgoes.moves, hgoes.moves.kept, hgoes.moves.active hactive', ?_,
      .inr ⟨⟨fun _ _ => ⟨rfl, harmed.member, hgone⟩, fun _ => .inl rfl⟩, by dsimp only; omega⟩⟩
    unfold Bounded
    dsimp only
    omega

end

-- The loop with its roll made, under the trigger of this round.
def rolled (c : Config) (view : View) (kind : Kind) (p motherPool : Nat) (loop : Loop) : Option PoolObject × Loop :=
  let triggerFrom := if motherPool ≠ 0 then motherPool else loop.triggerFrom
  let roll := rollOne c view loop.state kind p triggerFrom
  (roll.1, ⟨roll.2, triggerFrom, loop.lastDespawned⟩)

theorem spawnOnce_eq (spawn despawn : MapState → Nat → MapState) (loop : Loop) :
    spawnOnce c view spawn despawn kind p motherPool trigger fired loop =
      match (rolled c view kind p motherPool loop).1 with
      | none => (rolled c view kind p motherPool loop).2
      | some obj => spawnRolled c spawn despawn kind p motherPool trigger fired
          (rolled c view kind p motherPool loop).2 obj := rfl

variable (view) in
theorem spawnOnce_room (hspawn : c.Spawns p spawn) (hdespawn : c.Despawns p despawn)
    (hmother : motherPool ∉ c.guids kind p) (h : c.Room kind p motherPool trigger fired (n + 1) loop) :
    c.Moves p loop.state.spawns (spawnOnce c view spawn despawn kind p motherPool trigger fired loop).state.spawns ∧
      c.Room kind p motherPool trigger fired n
        (spawnOnce c view spawn despawn kind p motherPool trigger fired loop) := by
  have hsame : (rolled c view kind p motherPool loop).2.state.spawns = loop.state.spawns :=
    rollOne_spawns loop.state _
  have hrolled : c.Room kind p motherPool trigger fired (n + 1) (rolled c view kind p motherPool loop).2 :=
    h.roll hsame
  have hbelow (hne : motherPool ≠ 0) : (rolled c view kind p motherPool loop).2.triggerFrom = motherPool :=
    if_pos hne
  have hroll (obj : PoolObject) (hobj : (rolled c view kind p motherPool loop).1 = some obj) :
      obj.guid ∈ c.guids kind p ∧ (obj.guid = (rolled c view kind p motherPool loop).2.triggerFrom ∨
        (rolled c view kind p motherPool loop).2.state.spawns.isSpawnedObject kind obj.guid = false) := by
    rw [hsame]
    exact rollOne_some hobj
  rw [spawnOnce_eq, ← hsame]
  generalize rolled c view kind p motherPool loop = next at *
  obtain ⟨result, loop⟩ := next
  cases result with
  | none => exact ⟨Moves.refl p hrolled.kept, hrolled.less⟩
  | some obj =>
    obtain ⟨hmem, hfree⟩ := hroll obj rfl
    dsimp only
    by_cases hlast : obj.guid = loop.lastDespawned
    · have hstep : spawnRolled c spawn despawn kind p motherPool trigger fired loop obj = loop := if_pos hlast
      rw [hstep]
      exact ⟨Moves.refl p hrolled.kept, hrolled.less⟩
    · rcases hrolled.room with ⟨harmed, hroom⟩ | ⟨hidle, hroom⟩
      · exact spawnRolled_armed hspawn hdespawn hmother hbelow hrolled.kept hrolled.active hrolled.bounded harmed
          hroom hmem hfree
      · exact spawnRolled_idle hspawn hmother hbelow hrolled.kept hrolled.active hidle hroom hmem hlast hfree

variable (view) in
theorem spawnRest_room (hspawn : c.Spawns p spawn) (hdespawn : c.Despawns p despawn)
    (hmother : motherPool ∉ c.guids kind p) (n : Nat) (loop : Loop)
    (h : c.Room kind p motherPool trigger fired n loop) :
    c.Moves p loop.state.spawns
        (spawnRest c view spawn despawn kind p motherPool trigger fired n loop).state.spawns ∧
      c.Bounded (spawnRest c view spawn despawn kind p motherPool trigger fired n loop).state.spawns p := by
  induction n generalizing loop with
  | zero => exact ⟨Moves.refl p h.kept, h.bounded⟩
  | succ n ih =>
    obtain ⟨hmoves, hroom⟩ := spawnOnce_room view hspawn hdespawn hmother h
    obtain ⟨hrest, hbounded⟩ := ih _ hroom
    exact ⟨hmoves.trans hrest, hbounded⟩

variable {s : MapState}

variable (view) in
theorem loadTimers_foldl (hspawn : c.Spawns p spawn) (list : List PoolObject)
    (hlist : ∀ obj ∈ list, obj.guid ∈ c.guids kind p) (hnodup : (list.map PoolObject.guid).Nodup)
    (hs : c.Kept s.spawns) (hactive : c.Active s.spawns p)
    (hfree : ∀ obj ∈ list, s.spawns.isSpawnedObject kind obj.guid = false) (count : Int) :
    let result := list.foldl (loadOne view spawn kind p) (s, count)
    c.Moves p s.spawns result.1.spawns ∧
      (result.1.spawns.getSpawnedObjects p : Int) + result.2 = s.spawns.getSpawnedObjects p + count ∧
      result.1.spawns.getSpawnedObjects p ≤ s.spawns.getSpawnedObjects p + list.length ∧ (0 ≤ count → 0 ≤ result.2) := by
  induction list generalizing s count with
  | nil => exact ⟨Moves.refl p hs, rfl, Nat.le_refl _, id⟩
  | cons obj rest ih =>
    have hmem := hlist obj mem_cons_self
    have hrest : ∀ obj ∈ rest, obj.guid ∈ c.guids kind p := fun obj hobj => hlist obj (mem_cons_of_mem _ hobj)
    obtain ⟨hhead, hnodup⟩ := nodup_cons.mp hnodup
    by_cases hload : count ≠ 0 ∧ getPoolObjectRespawnTime view kind obj.guid ≠ 0
    · obtain ⟨hflips, hmark⟩ := flips_addAndSpawn hspawn hs hactive hmem (hfree obj mem_cons_self)
      have hcount := hflips.count_add hs hmem (hfree obj mem_cons_self) hmark
      have hstep : loadOne view spawn kind p (s, count) obj =
          (addAndSpawn spawn kind p s obj.guid, count - 1) := if_pos hload
      obtain ⟨hmoves, hsum, hle, hnonneg⟩ := ih hrest hnodup hflips.moves.kept (hflips.moves.active hactive)
        (fun other hother => by
          rw [hflips.others kind other.guid (hrest other hother)
            (.inr fun h => hhead (h ▸ mem_map_of_mem hother))]
          exact hfree other (mem_cons_of_mem _ hother)) (count - 1)
      simp only [foldl_cons, hstep, length_cons]
      refine ⟨hflips.moves.trans hmoves, ?_, ?_, fun hpos => hnonneg ?_⟩
      · rw [hsum, hcount]
        push_cast
        omega
      · omega
      · have := hload.1
        omega
    · have hstep : loadOne view spawn kind p (s, count) obj = (s, count) := if_neg hload
      obtain ⟨hmoves, hsum, hle, hnonneg⟩ := ih hrest hnodup hs hactive
        (fun other hother => hfree other (mem_cons_of_mem _ hother)) count
      simp only [foldl_cons, hstep, length_cons]
      exact ⟨hmoves, hsum, by omega, hnonneg⟩

variable (view kind) in
theorem loadTimers_spec (hspawn : c.Spawns p spawn) (hs : c.Kept s.spawns)
    (hactive : c.Active s.spawns p) (hempty : s.spawns.getSpawnedObjects p = 0) (count : Int) :
    let result := loadTimers c view spawn kind p s count
    c.Moves p s.spawns result.1.spawns ∧ (result.1.spawns.getSpawnedObjects p : Int) + result.2 = count ∧
      result.1.spawns.getSpawnedObjects p < 2 ^ 31 ∧ (0 ≤ count → 0 ≤ result.2) := by
  have hfree : ∀ obj ∈ c.members kind p, s.spawns.isSpawnedObject kind obj.guid = false := fun obj hobj =>
    not_spawned_of_zero ((hs.counted p).symm.trans hempty) (mem_map_of_mem hobj)
  have hnodup := c.nodup kind p
  rw [map_append] at hnodup
  have hload (list : List PoolObject) (hlist : ∀ obj ∈ list, obj ∈ c.members kind p)
      (hnodup : (list.map PoolObject.guid).Nodup) (hlt : list.length < 2 ^ 31) :
      let result := list.foldl (loadOne view spawn kind p) (s, count)
      c.Moves p s.spawns result.1.spawns ∧ (result.1.spawns.getSpawnedObjects p : Int) + result.2 = count ∧
        result.1.spawns.getSpawnedObjects p < 2 ^ 31 ∧ (0 ≤ count → 0 ≤ result.2) := by
    obtain ⟨hmoves, hsum, hle, hnonneg⟩ := loadTimers_foldl view hspawn list
      (fun obj hobj => mem_map_of_mem (hlist obj hobj)) hnodup hs hactive
      (fun obj hobj => hfree obj (hlist obj hobj)) count
    rw [hempty] at hsum hle
    exact ⟨hmoves, by simpa using hsum, by omega, hnonneg⟩
  unfold loadTimers
  by_cases hexplicit : (c.explicitlyChanced kind p).isEmpty = true
  · rw [if_pos hexplicit]
    exact hload _ (fun obj hobj => mem_append_right _ hobj) hnodup.of_append_right (c.equal_lt kind p)
  · rw [if_neg hexplicit]
    exact hload _ (fun obj hobj => mem_append_left _ hobj) hnodup.of_append_left (c.explicit_lt kind p)

theorem count_spec {limit spawned : Nat} (hle : spawned ≤ limit) (hlt : limit < 2 ^ 32) :
    Int.bmod ((limit : Int) - spawned) (2 ^ 32) ≤ (limit : Int) - spawned ∧
      Int.bmod ((limit : Int) - spawned) (2 ^ 32) % 2 ^ 32 = (limit : Int) - spawned ∧
      (Int.bmod ((limit : Int) - spawned) (2 ^ 32) < 0 → 2 ^ 31 ≤ limit) := by
  rw [Int.bmod_def]
  push_cast
  have hmod : ((limit : Int) - spawned) % 4294967296 = (limit : Int) - spawned := by omega
  rw [hmod]
  by_cases h : (limit : Int) - spawned < 2147483648
  · rw [if_pos h]
    omega
  · rw [if_neg h]
    omega

theorem spawnObject_spec (hspawn : c.Spawns p spawn) (hdespawn : c.Despawns p despawn)
    (hmother : motherPool ∉ c.guids kind p) (hs : c.Kept s.spawns) (hactive : c.Active s.spawns p)
    (hbounded : c.Bounded s.spawns p)
    (htrigger : s.spawns.isSpawnedObject kind trigger = true → trigger ∈ c.guids kind p) :
    c.Moves p s.spawns
        (spawnObject c view spawn despawn kind p (c.spawnCount p) trigger motherPool s).spawns ∧
      c.Bounded (spawnObject c view spawn despawn kind p (c.spawnCount p) trigger motherPool s).spawns p := by
  have hle : s.spawns.getSpawnedObjects p ≤ c.spawnCount p := hbounded
  have hlt := c.spawnCount_lt p
  obtain ⟨hcount, hmod, hneg⟩ := count_spec hle hlt
  unfold spawnObject
  generalize hk : Int.bmod ((c.spawnCount p : Int) - s.spawns.getSpawnedObjects p) (2 ^ 32) = count at hcount hmod hneg
  by_cases hzero : trigger = 0
  · subst hzero
    have hidle (state : MapState) : c.Idle kind p motherPool 0 (s.spawns.isSpawnedObject kind 0) ⟨state, 0, 0⟩ :=
      ⟨fun _ hfired => absurd ((hs.zero kind).symm.trans hfired) Bool.false_ne_true, fun _ => .inl rfl⟩
    simp only [if_neg (not_not.mpr (rfl : (0 : Nat) = 0))]
    by_cases hload : count ≠ 0 ∧ count % 2 ^ 32 = c.spawnCount p
    · rw [if_pos hload]
      have hempty : s.spawns.getSpawnedObjects p = 0 := by
        have := hload.2
        omega
      obtain ⟨hmoves, hsum, hfew, hnonneg⟩ := loadTimers_spec view kind hspawn hs hactive hempty
        count
      generalize loadTimers c view spawn kind p s count = result at hmoves hsum hfew hnonneg ⊢
      have hroom : result.1.spawns.getSpawnedObjects p + result.2.toNat ≤ c.spawnCount p := by
        by_cases hpos : 0 ≤ count
        · have := hnonneg hpos
          omega
        · have := hneg (by omega)
          omega
      obtain ⟨hrest, hlimit⟩ := spawnRest_room view hspawn hdespawn hmother result.2.toNat
        ⟨result.1, 0, 0⟩ ⟨hmoves.kept, hmoves.active hactive, by unfold Bounded; dsimp only; omega,
          .inr ⟨hidle result.1, hroom⟩⟩
      exact ⟨hmoves.trans hrest, hlimit⟩
    · rw [if_neg hload]
      exact spawnRest_room view hspawn hdespawn hmother count.toNat ⟨s, 0, 0⟩
        ⟨hs, hactive, hbounded, .inr ⟨hidle s, by dsimp only; omega⟩⟩
  · simp only [if_pos hzero]
    cases hfired : s.spawns.isSpawnedObject kind trigger with
    | true =>
      simp only [if_true]
      exact spawnRest_room view hspawn hdespawn hmother (count + 1).toNat ⟨s, trigger, 0⟩
        ⟨hs, hactive, hbounded, .inl ⟨⟨rfl, htrigger hfired, hfired, fun _ => rfl, rfl⟩, by dsimp only; omega⟩⟩
    | false =>
      simp only [Bool.false_eq_true, if_false]
      exact spawnRest_room view hspawn hdespawn hmother count.toNat ⟨s, trigger, 0⟩
        ⟨hs, hactive, hbounded, .inr ⟨⟨fun _ hf => absurd hf Bool.false_ne_true,
          fun _ => .inr ⟨rfl, fun _ => hfired⟩⟩, by dsimp only; omega⟩⟩

variable (view kind) in
theorem spawnPoolGroup_spec (hspawn : c.Spawns p spawn) (hdespawn : c.Despawns p despawn)
    (hs : c.Kept s.spawns) (hactive : c.Active s.spawns p) (hbounded : c.Bounded s.spawns p)
    (htrigger : s.spawns.isSpawnedObject kind trigger = true → trigger ∈ c.guids kind p) :
    c.Moves p s.spawns (spawnPoolGroup c view spawn despawn kind s p trigger).spawns ∧
      c.Bounded (spawnPoolGroup c view spawn despawn kind s p trigger).spawns p := by
  unfold spawnPoolGroup
  by_cases hempty : (c.members kind p).isEmpty = true
  · rw [if_pos hempty]
    exact ⟨Moves.refl p hs, hbounded⟩
  · rw [if_neg hempty]
    refine spawnObject_spec hspawn hdespawn ?_ hs hactive hbounded htrigger
    by_cases hkind : kind = .pool
    · rw [if_pos hkind, hkind]
      exact c.not_mem_own p
    · rw [if_neg hkind]
      exact fun h => (ne_zero_of_mem h).2 rfl

variable (view) in
theorem spawnPool_spec (fuel : Nat) {p : Nat} (hfuel : c.height p < fuel) (hs : c.Kept s.spawns)
    (hactive : c.Active s.spawns p) (hbounded : c.Bounded s.spawns p) :
    c.Moves p s.spawns (spawnPool c view fuel s p).spawns ∧ c.Bounded (spawnPool c view fuel s p).spawns p := by
  induction fuel generalizing p s with
  | zero => exact absurd hfuel (Nat.not_lt_zero _)
  | succ fuel ih =>
    have hspawn : c.Spawns p (spawnPool c view fuel) := fun s q hq hs hactive hbounded =>
      ih ((c.height_lt p q hq).trans_le (Nat.lt_succ_iff.mp hfuel)) hs hactive hbounded
    have hdespawn : c.Despawns p (despawnPool c fuel) := despawns_despawnPool (Nat.lt_succ_iff.mp hfuel)
    have hnone (kind : Kind) {t : MapState} (ht : c.Kept t.spawns)
        (h : t.spawns.isSpawnedObject kind 0 = true) : 0 ∈ c.guids kind p :=
      absurd ((ht.zero kind).symm.trans h) Bool.false_ne_true
    obtain ⟨hpool, hbounded⟩ := spawnPoolGroup_spec view .pool hspawn hdespawn hs hactive
      hbounded (hnone .pool hs)
    have hactive := hpool.active hactive
    obtain ⟨hgameobject, hbounded⟩ := spawnPoolGroup_spec view .gameobject hspawn hdespawn
      hpool.kept hactive hbounded (hnone .gameobject hpool.kept)
    have hactive := hgameobject.active hactive
    obtain ⟨hcreature, hbounded⟩ := spawnPoolGroup_spec view .creature hspawn hdespawn
      hgameobject.kept hactive hbounded (hnone .creature hgameobject.kept)
    exact ⟨(hpool.trans hgameobject).trans hcreature, hbounded⟩

theorem spawns_spawnPool {fuel p : Nat} (hfuel : c.height p ≤ fuel) : c.Spawns p (spawnPool c view fuel) :=
  fun _ q hq hs hactive hbounded =>
    spawnPool_spec view fuel ((c.height_lt p q hq).trans_le hfuel) hs hactive hbounded

end Config

end TurtleWow.Pools

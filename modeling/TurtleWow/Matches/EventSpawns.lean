import TurtleWow.Lib.Lists
import TurtleWow.Lib.Run

namespace TurtleWow.Matches.Spawns

open Run List Function

-- The creatures and game objects of a battleground belong to events
-- (event1, event2), and of each event1 one event2 is active.

abbrev EventIdx := UInt8 × UInt8

def BG_EVENT_NONE : UInt8 := 255

def BG_EVENT_DOOR : UInt8 := 254

def RESPAWN_NEVER : Nat := 31536000

def RESPAWN_2MINUTES : Nat := 120

-- The events of each spawn, by its low guid: those of `creature_battleground`
-- or of `gameobject_battleground`
structure EventTable where
  find : Nat → Option (List EventIdx)
  nonempty : ∀ guid events, find guid = some events → events ≠ []
  known : ∀ guid events, find guid = some events → ∀ event ∈ events,
    event.1 ≠ BG_EVENT_NONE ∧ event.2 ≠ BG_EVENT_NONE

namespace EventTable

def eventsOf (rows : List (Nat × EventIdx)) (guid : Nat) : List EventIdx :=
  (rows.filter fun row => row.1 = guid ∧ ¬(row.2.1 = BG_EVENT_NONE ∨ row.2.2 = BG_EVENT_NONE)).map Prod.snd

-- BattleGroundMgr::LoadBattleEventIndexes
def loadBattleEventIndexes (rows : List (Nat × EventIdx)) : EventTable where
  find guid := if eventsOf rows guid = [] then none else some (eventsOf rows guid)
  nonempty guid events h := by
    split_ifs at h with hempty
    cases h
    exact hempty
  known guid events h event hmem := by
    split_ifs at h with hempty
    cases h
    obtain ⟨row, hrow, rfl⟩ := mem_map.mp hmem
    exact not_or.mp (of_decide_eq_true (mem_filter.mp hrow).2).2

variable (t : EventTable)

def getEventsVector (guid : Nat) : List EventIdx := (t.find guid).getD [(BG_EVENT_NONE, BG_EVENT_NONE)]

def events (guid : Nat) : List EventIdx := (t.find guid).getD []

def hasNone (guid : Nat) : Bool := ((t.getEventsVector guid).head?.map Prod.fst) = some BG_EVENT_NONE

theorem hasNone_iff (guid : Nat) : t.hasNone guid = true ↔ t.find guid = none := by
  unfold hasNone getEventsVector
  cases hfind : t.find guid with
  | none => simp
  | some events =>
    obtain ⟨event, rest, rfl⟩ := exists_cons_of_ne_nil (t.nonempty guid events hfind)
    simpa using (t.known guid _ hfind event (by simp)).1

theorem getEventsVector_eq {guid : Nat} (h : t.hasNone guid = false) : t.getEventsVector guid = t.events guid := by
  have hfind : t.find guid ≠ none := fun hnone => by simp [(t.hasNone_iff guid).mpr hnone] at h
  obtain ⟨list, hlist⟩ := Option.ne_none_iff_exists'.mp hfind
  simp [getEventsVector, events, hlist]

theorem events_eq_nil_iff (guid : Nat) : t.events guid = [] ↔ t.find guid = none := by
  unfold events
  cases hfind : t.find guid with
  | none => simp
  | some events => simpa using t.nonempty guid events hfind

theorem known_events {guid : Nat} {event : EventIdx} (h : event ∈ t.events guid) :
    event.1 ≠ BG_EVENT_NONE ∧ event.2 ≠ BG_EVENT_NONE := by
  unfold events at h
  cases hfind : t.find guid with
  | none => simp [hfind] at h
  | some events => exact t.known guid events hfind event (by simpa [hfind] using h)

end EventTable

inductive DeathState where
  | ALIVE
  | CORPSE
  | DEAD
deriving DecidableEq

inductive CreatureSpawnMode where
  | DESPAWN_FORCED
  | RESPAWN_STOP
  | RESPAWN_START
  | RESPAWN_FORCED
deriving DecidableEq

structure Creature where
  deathState : DeathState
  respawnDelay : Nat
  respawnTime : Nat

namespace Creature

variable (c : Creature) (now : Nat)

-- SetDeathState(JUST_DIED)
def die : Creature := { c with deathState := .CORPSE, respawnTime := now + c.respawnDelay }

def removeCorpse : Creature := if c.deathState = .CORPSE then { c with deathState := .DEAD } else c

-- SetRespawnTime(1)
def respawnSoon : Creature := { c with respawnTime := now + 1 }

-- BattleGround::SpawnCreature, for a creature that the map has
def spawn : CreatureSpawnMode → Creature
  | .RESPAWN_FORCED | .RESPAWN_START =>
    let c := { c with respawnDelay := RESPAWN_2MINUTES }
    if now < c.respawnTime then c.respawnSoon now else c
  | .DESPAWN_FORCED => ({ c with respawnDelay := RESPAWN_NEVER }.die now).removeCorpse
  | .RESPAWN_STOP =>
    let c := { c with respawnDelay := RESPAWN_NEVER }
    if c.deathState = .DEAD then (c.die now).removeCorpse
    else if c.respawnTime < now then c.respawnSoon now else c

-- Dead, with no respawn to come
def Despawned : Prop := c.deathState = .DEAD ∧ c.respawnDelay = RESPAWN_NEVER

instance : Decidable c.Despawned := inferInstanceAs (Decidable (_ ∧ _))

theorem despawned_spawn_despawn : (c.spawn now .DESPAWN_FORCED).Despawned := ⟨rfl, rfl⟩

theorem not_despawned_spawn_respawn : ¬(c.spawn now .RESPAWN_FORCED).Despawned := by
  unfold spawn Despawned
  dsimp only
  split_ifs <;> simp [respawnSoon, RESPAWN_2MINUTES, RESPAWN_NEVER]

end Creature

inductive LootState where
  | NOT_READY
  | READY
  | ACTIVATED
  | JUST_DEACTIVATED
deriving DecidableEq

inductive GOState where
  | ACTIVE
  | READY
  | ACTIVE_ALTERNATIVE
deriving DecidableEq

structure GameObjectInfo where
  entry : Nat
  flagStand : Bool

structure GameObject where
  lootState : LootState
  goState : GOState
  respawnTime : Nat
  respawnDelay : Nat

namespace GameObject

variable (obj : GameObject) (now : Nat)

def setRespawnTime (respawn : Nat) : GameObject :=
  { obj with
    respawnTime := if 0 < respawn then now + respawn else 0
    respawnDelay := respawn }

-- What BattleGround::SpawnObject does to an object that is to be seen
def appear (info : GameObjectInfo) (respawnTime : Nat) : GameObject :=
  let obj := if obj.lootState = .JUST_DEACTIVATED then { obj with lootState := .READY } else obj
  let obj := if info.flagStand then obj else { obj with goState := .READY }
  let obj := obj.setRespawnTime now respawnTime
  -- BattleGroundAV, supplies
  let obj := if info.entry ∈ [178786, 178787, 178788, 178789] then { obj with respawnDelay := 60 } else obj
  -- BattleGroundSV, chests
  if info.entry = 179311 then { obj with respawnDelay := 600 } else obj

-- DoorOpen: the loot state is READY, so that the door is switched.
def useDoorOrButton : GameObject :=
  { obj with
    goState := if obj.goState = .READY then .ACTIVE else .READY
    lootState := .ACTIVATED }

end GameObject

structure SpawnData where
  creatureEvents : EventTable
  gameobjectEvents : EventTable
  spawntimesecs : Nat → Nat
  info : Nat → GameObjectInfo
  gameObject : Nat → GameObject

structure EventObjects where
  gameobjects : List Nat
  creatures : List Nat

structure Ground where
  activeEvents : UInt8 → Option UInt8
  eventObjects : EventIdx → EventObjects
  creatures : Nat → Option Creature
  gameobjects : Nat → Option GameObject

def start (activeEvents : UInt8 → Option UInt8) : Ground := ⟨activeEvents, fun _ => ⟨[], []⟩, fun _ => none, fun _ => none⟩

namespace Ground

variable (data : SpawnData) (bg : Ground) (now : Nat)

def isActiveEvent (event : EventIdx) : Bool := bg.activeEvents event.1 = some event.2

def allActive (events : List EventIdx) : Bool := events.all bg.isActiveEvent

-- m_ActiveEvents[event1] makes an event1 that is not in the map 0.
def active (event1 : UInt8) : UInt8 := (bg.activeEvents event1).getD 0

def activate (event1 event2 : UInt8) : Ground :=
  { bg with activeEvents := Function.update bg.activeEvents event1 (some event2) }

def spawnCreature (guid : Nat) (mode : CreatureSpawnMode) : Ground :=
  { bg with creatures := Function.update bg.creatures guid ((bg.creatures guid).map (·.spawn now mode)) }

-- A despawned object is taken from the map. It has been loaded once, and loads again.
def spawnedObject (guid respawnTime : Nat) (found : Option GameObject) : Option GameObject :=
  if respawnTime ≠ RESPAWN_NEVER then
    some ((found.getD (data.gameObject guid)).appear now (data.info guid) respawnTime)
  else none

def spawnObject (guid respawnTime : Nat) : Ground :=
  { bg with
    gameobjects := Function.update bg.gameobjects guid (spawnedObject data now guid respawnTime (bg.gameobjects guid)) }

def creatureMode (spawn forced_despawn : Bool) (guid : Nat) : CreatureSpawnMode :=
  if spawn && bg.allActive (data.creatureEvents.getEventsVector guid) then .RESPAWN_FORCED
  else if forced_despawn then .DESPAWN_FORCED else .RESPAWN_STOP

-- The two loops of SpawnEvent
def spawnEventObjects (event : EventIdx) (spawn forced_despawn : Bool) (delay : Nat) : Ground :=
  { bg with
    creatures := (bg.eventObjects event).creatures.foldl (fun creatures guid => Function.update creatures guid
      ((creatures guid).map (·.spawn now (bg.creatureMode data spawn forced_despawn guid)))) bg.creatures
    gameobjects := (bg.eventObjects event).gameobjects.foldl (fun gameobjects guid => Function.update gameobjects guid
      (spawnedObject data now guid (if spawn then delay else RESPAWN_NEVER) (gameobjects guid))) bg.gameobjects }

def despawnEvent (event1 event2 : UInt8) (forced_despawn : Bool) : Ground :=
  if event2 = BG_EVENT_NONE then bg
  else
    let bg := bg.activate event1 (bg.active event1)
    if bg.active event1 ≠ event2 then bg
    else (bg.activate event1 BG_EVENT_NONE).spawnEventObjects data now (event1, event2) false forced_despawn 0

-- If an event gets spawned, the current active event must get despawned.
def spawnEvent (event1 event2 : UInt8) (spawn forced_despawn : Bool) (delay : Nat) : Ground :=
  if spawn then
    if event2 = BG_EVENT_NONE then bg
    else
      let bg := bg.activate event1 (bg.active event1)
      if bg.active event1 = event2 then bg
      else ((bg.despawnEvent data now event1 (bg.active event1) forced_despawn).activate event1 event2).spawnEventObjects
        data now (event1, event2) true forced_despawn delay
  else bg.despawnEvent data now event1 event2 forced_despawn

def pushCreature (guid : Nat) (event : EventIdx) : Ground :=
  { bg with
    eventObjects := Function.update bg.eventObjects event
      { bg.eventObjects event with creatures := (bg.eventObjects event).creatures ++ [guid] } }

def pushGameObject (guid : Nat) (event : EventIdx) : Ground :=
  { bg with
    eventObjects := Function.update bg.eventObjects event
      { bg.eventObjects event with gameobjects := (bg.eventObjects event).gameobjects ++ [guid] } }

-- OnObjectDBLoad
def onCreatureLoad (guid : Nat) : Ground :=
  if data.creatureEvents.hasNone guid then bg
  else (data.creatureEvents.getEventsVector guid).foldl (fun bg event =>
    let bg := bg.pushCreature guid event
    if bg.isActiveEvent event then bg else bg.spawnCreature now guid .DESPAWN_FORCED) bg

def isDoor (event : EventIdx) : Bool := event.1 = BG_EVENT_DOOR ∧ event.2 = 0

def doorOpen (guid : Nat) : Ground :=
  { bg with gameobjects := Function.update bg.gameobjects guid ((bg.gameobjects guid).map (·.useDoorOrButton)) }

def onGameObjectLoad (inProgress : Bool) (guid : Nat) : Ground :=
  if data.gameobjectEvents.hasNone guid then bg
  else (data.gameobjectEvents.getEventsVector guid).foldl (fun bg event =>
    let bg := bg.pushGameObject guid event
    if bg.isActiveEvent event then
      if inProgress && isDoor event then bg.doorOpen guid else bg
    else bg.spawnObject data now guid RESPAWN_NEVER) bg

-- A creature is loaded alive, with the respawn delay of its row.
def loadCreature (guid : Nat) : Ground :=
  Ground.onCreatureLoad data
    { bg with creatures := Function.update bg.creatures guid (some ⟨.ALIVE, data.spawntimesecs guid, 0⟩) } now guid

def loadGameObject (inProgress : Bool) (guid : Nat) : Ground :=
  Ground.onGameObjectLoad data
    { bg with gameobjects := Function.update bg.gameobjects guid (some (data.gameObject guid)) } now inProgress guid

structure Listed : Prop where
  creatures : ∀ event guid, guid ∈ (bg.eventObjects event).creatures ↔
    (bg.creatures guid).isSome = true ∧ event ∈ data.creatureEvents.events guid
  gameobjects : ∀ event guid, guid ∈ (bg.eventObjects event).gameobjects →
    event ∈ data.gameobjectEvents.events guid ∧
      ∀ other ∈ data.gameobjectEvents.events guid, guid ∈ (bg.eventObjects other).gameobjects

-- A loaded spawn is spawned exactly while all of its events are active.
structure Followed : Prop where
  creatures : ∀ guid c, bg.creatures guid = some c →
    (¬c.Despawned ↔ bg.allActive (data.creatureEvents.events guid) = true)
  gameobjects : ∀ event guid, guid ∈ (bg.eventObjects event).gameobjects →
    ((bg.gameobjects guid).isSome = true ↔ bg.allActive (data.gameobjectEvents.events guid) = true)

variable {data bg now}

section

variable {event1 event2 : UInt8} {events : List EventIdx}

@[simp] theorem activate_activate (first second : UInt8) :
    (bg.activate event1 first).activate event1 second = bg.activate event1 second := by
  simp [activate]

@[simp] theorem active_activate : (bg.activate event1 event2).active event1 = event2 := by
  simp [active, activate]

theorem activate_active (h : bg.activeEvents event1 ≠ none) : bg.activate event1 (bg.active event1) = bg := by
  obtain ⟨held, hheld⟩ := Option.ne_none_iff_exists'.mp h
  have hsame : Function.update bg.activeEvents event1 (some held) = bg.activeEvents := by
    rw [← hheld, update_eq_self]
  simp only [activate, active, hheld, Option.getD_some, hsame]

theorem isActiveEvent_activate (event : EventIdx) : (bg.activate event1 event2).isActiveEvent event =
    if event.1 = event1 then decide (event.2 = event2) else bg.isActiveEvent event := by
  unfold isActiveEvent activate
  by_cases h : event.1 = event1
  · simp [h, eq_comm]
  · simp [h]

theorem allActive_congr {other : Ground} (h : ∀ event ∈ events, other.isActiveEvent event = bg.isActiveEvent event) :
    other.allActive events = bg.allActive events := by
  unfold allActive
  rw [Bool.eq_iff_iff, all_eq_true, all_eq_true]
  exact forall₂_congr fun event hevent => by rw [h event hevent]

theorem allActive_of_eq {other : Ground} (h : other.activeEvents = bg.activeEvents) :
    other.allActive events = bg.allActive events :=
  allActive_congr fun event _ => by unfold isActiveEvent; rw [h]

theorem allActive_eq_false {event : EventIdx} (hmem : event ∈ events) (h : bg.isActiveEvent event = false) :
    bg.allActive events = false := by
  rw [allActive, all_eq_false]
  exact ⟨event, hmem, by simp [h]⟩

end

section

variable (bg) (event : EventIdx) (spawn forced_despawn : Bool) (delay : Nat)

@[simp] theorem activeEvents_spawnEventObjects :
    (bg.spawnEventObjects data now event spawn forced_despawn delay).activeEvents = bg.activeEvents := rfl

theorem creatures_spawnEventObjects (guid : Nat) :
    (bg.spawnEventObjects data now event spawn forced_despawn delay).creatures guid =
      (Option.map (·.spawn now (bg.creatureMode data spawn forced_despawn guid)))^[(bg.eventObjects event).creatures.count guid]
        (bg.creatures guid) :=
  Lists.foldl_update (fun guid => Option.map fun c : Creature => c.spawn now (bg.creatureMode data spawn forced_despawn guid))
    _ _ _

theorem gameobjects_spawnEventObjects (guid : Nat) :
    (bg.spawnEventObjects data now event spawn forced_despawn delay).gameobjects guid =
      (spawnedObject data now guid (if spawn then delay else RESPAWN_NEVER))^[(bg.eventObjects event).gameobjects.count guid]
        (bg.gameobjects guid) :=
  Lists.foldl_update (fun guid => spawnedObject data now guid (if spawn then delay else RESPAWN_NEVER)) _ _ _

variable {bg event spawn forced_despawn delay} {guid : Nat}

theorem isSome_spawnEventObjects :
    ((bg.spawnEventObjects data now event spawn forced_despawn delay).creatures guid).isSome = (bg.creatures guid).isSome := by
  rw [creatures_spawnEventObjects]
  generalize (bg.eventObjects event).creatures.count guid = n
  induction n with
  | zero => rfl
  | succ n ih => rw [iterate_succ_apply', Option.isSome_map, ih]

theorem spawned_spawnEventObjects (hmem : guid ∈ (bg.eventObjects event).creatures) {c : Creature}
    (hc : (bg.spawnEventObjects data now event spawn true delay).creatures guid = some c) :
    ¬c.Despawned ↔ spawn = true ∧ bg.allActive (data.creatureEvents.getEventsVector guid) = true := by
  rw [creatures_spawnEventObjects] at hc
  have hmode : ∀ found : Option Creature,
      ∀ c ∈ found.map (·.spawn now (bg.creatureMode data spawn true guid)),
        ¬c.Despawned ↔ spawn = true ∧ bg.allActive (data.creatureEvents.getEventsVector guid) = true := by
    intro found c hc
    obtain ⟨before, -, rfl⟩ := Option.mem_map.mp hc
    rw [← Bool.and_eq_true]
    unfold creatureMode
    rw [if_pos rfl]
    split_ifs with hspawn
    · exact iff_of_true (before.not_despawned_spawn_respawn now) hspawn
    · exact iff_of_false (not_not.mpr (before.despawned_spawn_despawn now)) hspawn
  exact @Lists.iterate_count _ _ _ _ (fun found => ∀ c ∈ found, ¬Creature.Despawned c ↔
    spawn = true ∧ bg.allActive (data.creatureEvents.getEventsVector guid) = true) hmode _ _ hmem _ c hc

theorem creatures_of_notMem (hmem : guid ∉ (bg.eventObjects event).creatures) :
    (bg.spawnEventObjects data now event spawn forced_despawn delay).creatures guid = bg.creatures guid := by
  rw [creatures_spawnEventObjects, count_eq_zero_of_not_mem hmem, iterate_zero_apply]

theorem isSome_gameobjects_spawnEventObjects (hmem : guid ∈ (bg.eventObjects event).gameobjects) :
    ((bg.spawnEventObjects data now event spawn forced_despawn delay).gameobjects guid).isSome = true ↔
      spawn = true ∧ delay ≠ RESPAWN_NEVER := by
  rw [gameobjects_spawnEventObjects]
  refine @Lists.iterate_count _ _ _ _ (fun found => Option.isSome found = true ↔ spawn = true ∧ delay ≠ RESPAWN_NEVER)
    (fun found => ?_) _ _ hmem _
  unfold spawnedObject
  cases spawn <;> by_cases hdelay : delay = RESPAWN_NEVER <;> simp [hdelay]

theorem gameobjects_of_notMem (hmem : guid ∉ (bg.eventObjects event).gameobjects) :
    (bg.spawnEventObjects data now event spawn forced_despawn delay).gameobjects guid = bg.gameobjects guid := by
  rw [gameobjects_spawnEventObjects, count_eq_zero_of_not_mem hmem, iterate_zero_apply]

end

theorem Listed.of_same (hl : Listed data bg) {bg' : Ground} (hlists : bg'.eventObjects = bg.eventObjects)
    (hloaded : ∀ guid, (bg'.creatures guid).isSome = (bg.creatures guid).isSome) : Listed data bg' where
  creatures event guid := by rw [hlists, hloaded]; exact hl.creatures event guid
  gameobjects := by rw [hlists]; exact hl.gameobjects

theorem Listed.activate (hl : Listed data bg) (event1 event2 : UInt8) : Listed data (bg.activate event1 event2) :=
  hl.of_same rfl fun _ => rfl

theorem Listed.spawnEventObjects (hl : Listed data bg) (event : EventIdx) (spawn forced_despawn : Bool) (delay : Nat) :
    Listed data (bg.spawnEventObjects data now event spawn forced_despawn delay) :=
  hl.of_same rfl fun _ => isSome_spawnEventObjects

theorem getEventsVector_of_mem (t : EventTable) {guid : Nat} {event : EventIdx} (h : event ∈ t.events guid) :
    t.getEventsVector guid = t.events guid := by
  apply t.getEventsVector_eq
  rw [Bool.eq_false_iff, Ne, t.hasNone_iff, ← t.events_eq_nil_iff]
  exact ne_nil_of_mem h

theorem allActive_activate {event1 event2 : UInt8} {events : List EventIdx}
    (hbefore : ∀ event ∈ events, event.1 = event1 → bg.isActiveEvent event = false)
    (hafter : ∀ event ∈ events, event.1 = event1 → event.2 ≠ event2) :
    (bg.activate event1 event2).allActive events = bg.allActive events := by
  refine allActive_congr fun event hmem => ?_
  rw [isActiveEvent_activate]
  split_ifs with h
  · rw [hbefore event hmem h, decide_eq_false (hafter event hmem h)]
  · rfl

-- A call that spawns or despawns one event, when the other events of a spawn stay as they were
theorem followed_spawnEventObjects_iff (hf : Followed data bg) (hl : Listed data bg) {event1 event2 : UInt8} {event : EventIdx}
    {spawn : Bool} {delay : Nat} (haway : ∀ (t : EventTable) guid, event ∉ t.events guid →
      (bg.activate event1 event2).allActive (t.events guid) = bg.allActive (t.events guid))
    (hspawn : ∀ (t : EventTable) guid, event ∈ t.events guid →
      (bg.activate event1 event2).allActive (t.events guid) = true → spawn = true) :
    Followed data ((bg.activate event1 event2).spawnEventObjects data now event spawn true delay) ↔
      ∀ guid ∈ (bg.eventObjects event).gameobjects, ((spawn = true ∧ delay ≠ RESPAWN_NEVER) ↔
        (bg.activate event1 event2).allActive (data.gameobjectEvents.events guid) = true) := by
  refine ⟨fun hafter guid hmem => ?_, fun hobjects => ⟨fun guid c hc => ?_, fun other guid hguid => ?_⟩⟩
  · have hlisted : guid ∈ ((bg.activate event1 event2).eventObjects event).gameobjects := hmem
    rw [← allActive_of_eq (activeEvents_spawnEventObjects ..), ← hafter.gameobjects event guid hmem,
      isSome_gameobjects_spawnEventObjects hlisted]
  · rw [allActive_of_eq (activeEvents_spawnEventObjects ..)]
    by_cases hmem : guid ∈ ((bg.activate event1 event2).eventObjects event).creatures
    · have hevent := ((hl.creatures _ guid).mp hmem).2
      rw [spawned_spawnEventObjects hmem hc, getEventsVector_of_mem _ hevent]
      exact and_iff_right_of_imp (hspawn _ guid hevent)
    · rw [creatures_of_notMem hmem] at hc
      have hloaded : (bg.creatures guid).isSome = true := Option.isSome_of_eq_some hc
      rw [haway _ guid fun h => hmem ((hl.creatures _ guid).mpr ⟨hloaded, h⟩)]
      exact hf.creatures guid c hc
  · rw [allActive_of_eq (activeEvents_spawnEventObjects ..)]
    by_cases hmem : guid ∈ ((bg.activate event1 event2).eventObjects event).gameobjects
    · rw [isSome_gameobjects_spawnEventObjects hmem, hobjects guid hmem]
    · rw [gameobjects_of_notMem hmem, haway _ guid fun h => hmem ((hl.gameobjects other guid hguid).2 _ h)]
      exact hf.gameobjects other guid hguid

theorem Followed.despawn (hf : Followed data bg) (hl : Listed data bg) {event1 held : UInt8}
    (hheld : held ≠ BG_EVENT_NONE) (honly : ∀ event2, bg.isActiveEvent (event1, event2) = true → event2 = held) :
    Followed data ((bg.activate event1 BG_EVENT_NONE).spawnEventObjects data now (event1, held) false true 0) := by
  have hgone : (bg.activate event1 BG_EVENT_NONE).isActiveEvent (event1, held) = false := by
    simp [isActiveEvent_activate, hheld]
  refine (followed_spawnEventObjects_iff hf hl (fun t guid hnot => allActive_activate ?_ fun event hmem _ => (t.known_events hmem).2)
    fun t guid hmem hall => ?_).mpr fun guid hmem => ?_
  · rintro ⟨first, second⟩ hmem (rfl : first = event1)
    rw [Bool.eq_false_iff]
    intro hactive
    rw [honly second hactive] at hmem
    exact hnot hmem
  · rw [allActive_eq_false hmem hgone] at hall
    exact hall
  · rw [allActive_eq_false (hl.gameobjects _ guid hmem).1 hgone]
    simp

theorem followed_spawn_iff (hf : Followed data bg) (hl : Listed data bg) {event1 event2 : UInt8} {delay : Nat}
    (hnone : ∀ event2, event2 ≠ BG_EVENT_NONE → bg.isActiveEvent (event1, event2) = false) :
    Followed data ((bg.activate event1 event2).spawnEventObjects data now (event1, event2) true true delay) ↔
      ∀ guid ∈ (bg.eventObjects (event1, event2)).gameobjects,
        (delay ≠ RESPAWN_NEVER ↔ (bg.activate event1 event2).allActive (data.gameobjectEvents.events guid) = true) := by
  refine (followed_spawnEventObjects_iff hf hl (fun t guid hnot => allActive_activate ?_ ?_) fun _ _ _ _ => rfl).trans
    (by simp only [true_and])
  · rintro ⟨first, second⟩ hmem (rfl : first = event1)
    exact hnone second (t.known_events hmem).2
  · rintro ⟨first, second⟩ hmem (rfl : first = event1) (rfl : second = event2)
    exact hnot hmem

theorem isActiveEvent_active {event1 event2 : UInt8} (h : bg.isActiveEvent (event1, event2) = true) :
    event2 = bg.active event1 := by
  simp only [isActiveEvent, decide_eq_true_eq] at h
  simp [active, h]

theorem isActiveEvent_none {event1 : UInt8} (h : bg.activeEvents event1 = none) (event2 : UInt8) :
    bg.isActiveEvent (event1, event2) = false := by
  simp [isActiveEvent, h]

theorem despawnEvent_eq {event1 event2 : UInt8} {forced_despawn : Bool} (hnone : event2 ≠ BG_EVENT_NONE) :
    bg.despawnEvent data now event1 event2 forced_despawn =
      if bg.active event1 ≠ event2 then bg.activate event1 (bg.active event1)
      else (bg.activate event1 BG_EVENT_NONE).spawnEventObjects data now (event1, event2) false forced_despawn 0 := by
  unfold despawnEvent
  rw [if_neg hnone]
  simp only [active_activate, activate_activate]

-- The state in which a spawned event2 is made active
def cleared (data : SpawnData) (bg : Ground) (now : Nat) (event1 : UInt8) (forced_despawn : Bool) : Ground :=
  if bg.active event1 = BG_EVENT_NONE then bg
  else (bg.activate event1 BG_EVENT_NONE).spawnEventObjects data now (event1, bg.active event1) false forced_despawn 0

theorem spawnEvent_eq {event1 event2 : UInt8} {forced_despawn : Bool} {delay : Nat} (hnone : event2 ≠ BG_EVENT_NONE) :
    bg.spawnEvent data now event1 event2 true forced_despawn delay =
      if bg.active event1 = event2 then bg.activate event1 (bg.active event1)
      else ((bg.cleared data now event1 forced_despawn).activate event1 event2).spawnEventObjects data now (event1, event2)
        true forced_despawn delay := by
  unfold spawnEvent cleared
  rw [if_pos rfl, if_neg hnone]
  simp only [active_activate]
  by_cases hsame : bg.active event1 = event2
  · rw [if_pos hsame, if_pos hsame]
  rw [if_neg hsame, if_neg hsame]
  by_cases hfree : bg.active event1 = BG_EVENT_NONE
  · have hheld : bg.activeEvents event1 ≠ none := fun h => by simp [active, h, BG_EVENT_NONE] at hfree
    rw [if_pos hfree, activate_active hheld]
    unfold despawnEvent
    rw [if_pos hfree]
  · rw [if_neg hfree, despawnEvent_eq hfree]
    simp only [active_activate, activate_activate, ne_eq, not_true_eq_false, if_false]

theorem eventObjects_cleared (event1 : UInt8) (forced_despawn : Bool) :
    (bg.cleared data now event1 forced_despawn).eventObjects = bg.eventObjects := by
  unfold cleared
  split_ifs <;> rfl

theorem activate_cleared (event1 event2 : UInt8) (forced_despawn : Bool) :
    ((bg.cleared data now event1 forced_despawn).activate event1 event2).activeEvents =
      (bg.activate event1 event2).activeEvents := by
  unfold cleared
  split_ifs
  · rfl
  · simp [activate]

theorem Listed.cleared (hl : Listed data bg) (event1 : UInt8) (forced_despawn : Bool) :
    Listed data (bg.cleared data now event1 forced_despawn) := by
  unfold Ground.cleared
  split_ifs
  · exact hl
  · exact (hl.activate ..).spawnEventObjects ..

theorem Followed.cleared (hf : Followed data bg) (hl : Listed data bg) (event1 : UInt8) :
    Followed data (bg.cleared data now event1 true) := by
  unfold Ground.cleared
  split_ifs with hfree
  · exact hf
  · exact hf.despawn hl hfree fun _ => isActiveEvent_active

theorem isActiveEvent_cleared {event1 event2 : UInt8} (hnone : event2 ≠ BG_EVENT_NONE) (forced_despawn : Bool) :
    (bg.cleared data now event1 forced_despawn).isActiveEvent (event1, event2) = false := by
  unfold Ground.cleared
  split_ifs with hfree
  · rw [Bool.eq_false_iff]
    intro hactive
    exact hnone ((isActiveEvent_active hactive).trans hfree)
  · change (bg.activate event1 BG_EVENT_NONE).isActiveEvent (event1, event2) = false
    simp [isActiveEvent_activate, hnone]

-- The operator[] of a map makes event2 0 active, with nothing spawned for it.
theorem followed_default_iff (hf : Followed data bg) (hl : Listed data bg) {event1 : UInt8}
    (hmissing : bg.activeEvents event1 = none) :
    Followed data (bg.activate event1 0) ↔
      (∀ guid ∈ (bg.eventObjects (event1, 0)).creatures,
        (bg.activate event1 0).allActive (data.creatureEvents.events guid) = false) ∧
      ∀ guid ∈ (bg.eventObjects (event1, 0)).gameobjects,
        (bg.activate event1 0).allActive (data.gameobjectEvents.events guid) = false := by
  have hbefore : ∀ (t : EventTable) guid, (event1, 0) ∈ t.events guid → bg.allActive (t.events guid) = false :=
    fun t guid hmem => allActive_eq_false hmem (isActiveEvent_none hmissing 0)
  have haway : ∀ (t : EventTable) guid, (event1, 0) ∉ t.events guid →
      (bg.activate event1 0).allActive (t.events guid) = bg.allActive (t.events guid) := by
    intro t guid hnot
    apply allActive_activate
    · rintro ⟨first, second⟩ hmem (rfl : first = event1)
      exact isActiveEvent_none hmissing second
    · rintro ⟨first, second⟩ hmem (rfl : first = event1) (rfl : second = 0)
      exact hnot hmem
  constructor
  · intro hafter
    constructor
    · intro guid hmem
      obtain ⟨hloaded, hevent⟩ := (hl.creatures _ guid).mp hmem
      obtain ⟨c, hc⟩ := Option.isSome_iff_exists.mp hloaded
      have hsame := hf.creatures guid c hc
      rw [hafter.creatures guid c hc, hbefore _ guid hevent] at hsame
      simpa using hsame
    · intro guid hmem
      have hsame := (hafter.gameobjects _ guid hmem).symm.trans (hf.gameobjects _ guid hmem)
      rw [hbefore _ guid (hl.gameobjects _ guid hmem).1] at hsame
      simpa using hsame
  · rintro ⟨hcreatures, hobjects⟩
    constructor
    · intro guid c hc
      have hsame := hf.creatures guid c hc
      have hloaded : (bg.creatures guid).isSome = true := Option.isSome_of_eq_some hc
      by_cases hevent : (event1, 0) ∈ data.creatureEvents.events guid
      · rw [hcreatures guid ((hl.creatures _ guid).mpr ⟨hloaded, hevent⟩), hsame, hbefore _ guid hevent]
      · rw [haway _ guid hevent, hsame]
    · intro event guid hguid
      have hsame := hf.gameobjects event guid hguid
      by_cases hevent : (event1, 0) ∈ data.gameobjectEvents.events guid
      · have hmem := (hl.gameobjects event guid hguid).2 _ hevent
        rw [hobjects guid hmem, ← hbefore _ guid hevent]
        exact hsame
      · rw [haway _ guid hevent]
        exact hsame

structure LoadsCreature (bg bg' : Ground) (guid : Nat) (events : List EventIdx) : Prop where
  activeEvents : bg'.activeEvents = bg.activeEvents
  gameobjects : bg'.gameobjects = bg.gameobjects
  objectLists : ∀ event, (bg'.eventObjects event).gameobjects = (bg.eventObjects event).gameobjects
  listed : ∀ event other, other ∈ (bg'.eventObjects event).creatures ↔
    other ∈ (bg.eventObjects event).creatures ∨ other = guid ∧ event ∈ events
  others : ∀ other ≠ guid, bg'.creatures other = bg.creatures other
  isSome : (bg'.creatures guid).isSome = (bg.creatures guid).isSome
  spawned : bg.allActive events = true → bg'.creatures guid = bg.creatures guid
  despawned : bg.allActive events = false → ∀ c ∈ bg'.creatures guid, c.Despawned

theorem loadsCreature_fold (guid : Nat) (events : List EventIdx) (bg : Ground) :
    LoadsCreature bg (events.foldl (fun bg event =>
      let bg := bg.pushCreature guid event
      if bg.isActiveEvent event then bg else bg.spawnCreature now guid .DESPAWN_FORCED) bg) guid events := by
  induction events generalizing bg with
  | nil =>
    exact {
      activeEvents := rfl
      gameobjects := rfl
      objectLists := fun _ => rfl
      listed := by simp
      others := fun _ _ => rfl
      isSome := rfl
      spawned := fun _ => rfl
      despawned := by simp [allActive] }
  | cons event rest ih =>
    rw [foldl_cons]
    have hpushed : ∀ other guid', guid' ∈ ((bg.pushCreature guid event).eventObjects other).creatures ↔
        guid' ∈ (bg.eventObjects other).creatures ∨ guid' = guid ∧ other = event := by
      intro other guid'
      unfold pushCreature
      by_cases hother : other = event
      · subst hother
        simp
      · simp [hother]
    have hobjects : ∀ other, ((bg.pushCreature guid event).eventObjects other).gameobjects =
        (bg.eventObjects other).gameobjects := by
      intro other
      unfold pushCreature
      by_cases hother : other = event
      · subst hother
        simp
      · simp [hother]
    have hactive : (bg.pushCreature guid event).isActiveEvent event = bg.isActiveEvent event := rfl
    dsimp only
    rw [hactive]
    cases hevent : bg.isActiveEvent event with
    | true =>
      rw [if_pos rfl]
      have hrest := ih (bg.pushCreature guid event)
      have hall : bg.allActive (event :: rest) = (bg.pushCreature guid event).allActive rest := by
        rw [allActive_of_eq (show (bg.pushCreature guid event).activeEvents = bg.activeEvents from rfl)]
        simp [allActive, hevent]
      exact {
        activeEvents := hrest.activeEvents
        gameobjects := hrest.gameobjects
        objectLists := fun other => (hrest.objectLists other).trans (hobjects other)
        listed := fun other guid' => by
          rw [hrest.listed, hpushed, mem_cons, or_assoc, ← and_or_left]
        others := hrest.others
        isSome := hrest.isSome
        spawned := fun h => hrest.spawned (hall ▸ h)
        despawned := fun h => hrest.despawned (hall ▸ h) }
    | false =>
      rw [if_neg (by simp)]
      have hrest := ih ((bg.pushCreature guid event).spawnCreature now guid .DESPAWN_FORCED)
      have hall : bg.allActive (event :: rest) = false := allActive_eq_false mem_cons_self hevent
      have hfound : ((bg.pushCreature guid event).spawnCreature now guid .DESPAWN_FORCED).creatures guid =
          (bg.creatures guid).map (·.spawn now .DESPAWN_FORCED) := update_self ..
      exact {
        activeEvents := hrest.activeEvents
        gameobjects := hrest.gameobjects
        objectLists := fun other => (hrest.objectLists other).trans (hobjects other)
        listed := fun other guid' => by
          rw [hrest.listed, mem_cons, and_or_left, ← or_assoc]
          exact or_congr_left (hpushed other guid')
        others := fun other hother => (hrest.others other hother).trans (update_of_ne hother ..)
        isSome := by rw [hrest.isSome, hfound, Option.isSome_map]
        spawned := fun h => by simp [hall] at h
        despawned := fun _ c hc => by
          cases hallRest : ((bg.pushCreature guid event).spawnCreature now guid .DESPAWN_FORCED).allActive rest with
          | true =>
            rw [hrest.spawned hallRest, hfound] at hc
            obtain ⟨before, -, rfl⟩ := Option.mem_map.mp hc
            exact before.despawned_spawn_despawn now
          | false => exact hrest.despawned hallRest c hc }

structure LoadsGameObject (bg bg' : Ground) (guid : Nat) (events : List EventIdx) : Prop where
  activeEvents : bg'.activeEvents = bg.activeEvents
  creatures : bg'.creatures = bg.creatures
  creatureLists : ∀ event, (bg'.eventObjects event).creatures = (bg.eventObjects event).creatures
  listed : ∀ event other, other ∈ (bg'.eventObjects event).gameobjects ↔
    other ∈ (bg.eventObjects event).gameobjects ∨ other = guid ∧ event ∈ events
  others : ∀ other ≠ guid, bg'.gameobjects other = bg.gameobjects other
  isSome : (bg'.gameobjects guid).isSome = ((bg.gameobjects guid).isSome && bg.allActive events)

theorem loadsGameObject_fold (inProgress : Bool) (guid : Nat) (events : List EventIdx) (bg : Ground) :
    LoadsGameObject bg (events.foldl (fun bg event =>
      let bg := bg.pushGameObject guid event
      if bg.isActiveEvent event then
        if inProgress && isDoor event then bg.doorOpen guid else bg
      else bg.spawnObject data now guid RESPAWN_NEVER) bg) guid events := by
  induction events generalizing bg with
  | nil =>
    exact {
      activeEvents := rfl
      creatures := rfl
      creatureLists := fun _ => rfl
      listed := by simp
      others := fun _ _ => rfl
      isSome := by simp [allActive] }
  | cons event rest ih =>
    rw [foldl_cons]
    -- The event's own part changes the object of the guid alone.
    generalize hnext : (let bg := bg.pushGameObject guid event
      if bg.isActiveEvent event then
        if inProgress && isDoor event then bg.doorOpen guid else bg
      else bg.spawnObject data now guid RESPAWN_NEVER) = next
    have hone : LoadsGameObject bg next guid [event] := by
      have hlists : next.eventObjects = (bg.pushGameObject guid event).eventObjects := by
        subst hnext
        dsimp only
        split_ifs <;> rfl
      have hpushed : ∀ other, (next.eventObjects other).creatures = (bg.eventObjects other).creatures ∧
          ∀ guid', guid' ∈ (next.eventObjects other).gameobjects ↔
            guid' ∈ (bg.eventObjects other).gameobjects ∨ guid' = guid ∧ other ∈ [event] := by
        intro other
        rw [hlists]
        unfold pushGameObject
        by_cases hother : other = event
        · subst hother
          simp
        · simp [hother]
      exact {
        activeEvents := by subst hnext; dsimp only; split_ifs <;> rfl
        creatures := by subst hnext; dsimp only; split_ifs <;> rfl
        creatureLists := fun other => (hpushed other).1
        listed := fun other => (hpushed other).2
        others := fun other hother => by
          subst hnext
          dsimp only
          split_ifs
          · exact update_of_ne hother ..
          · rfl
          · exact update_of_ne hother ..
        isSome := by
          subst hnext
          have hactive : (bg.pushGameObject guid event).isActiveEvent event = bg.isActiveEvent event := rfl
          dsimp only
          rw [hactive]
          cases hevent : bg.isActiveEvent event with
          | true =>
            rw [if_pos rfl]
            split_ifs
            · simp [doorOpen, pushGameObject, allActive, hevent]
            · simp [pushGameObject, allActive, hevent]
          | false =>
            rw [if_neg (by simp)]
            simp [spawnObject, spawnedObject, allActive, hevent] }
    have hrest := ih next
    have hall : bg.allActive (event :: rest) = (bg.allActive [event] && next.allActive rest) := by
      rw [allActive_of_eq hone.activeEvents]
      simp [allActive]
    exact {
      activeEvents := hrest.activeEvents.trans hone.activeEvents
      creatures := hrest.creatures.trans hone.creatures
      creatureLists := fun other => (hrest.creatureLists other).trans (hone.creatureLists other)
      listed := fun other guid' => by
        simp only [hrest.listed, hone.listed, mem_cons, not_mem_nil, or_false, or_assoc, and_or_left]
      others := fun other hother => (hrest.others other hother).trans (hone.others other hother)
      isSome := by rw [hrest.isSome, hone.isSome, hall, Bool.and_assoc] }

theorem events_of_hasNone {t : EventTable} {guid : Nat} (h : t.hasNone guid = true) : t.events guid = [] :=
  (t.events_eq_nil_iff guid).mpr ((t.hasNone_iff guid).mp h)

variable (data) in
theorem loadsCreature (bg : Ground) (now guid : Nat) :
    LoadsCreature { bg with creatures := Function.update bg.creatures guid (some ⟨.ALIVE, data.spawntimesecs guid, 0⟩) }
      (bg.loadCreature data now guid) guid (data.creatureEvents.events guid) := by
  unfold loadCreature onCreatureLoad
  split_ifs with hnone
  · rw [events_of_hasNone hnone]
    exact @loadsCreature_fold now guid [] _
  · rw [data.creatureEvents.getEventsVector_eq (Bool.eq_false_iff.mpr hnone)]
    exact loadsCreature_fold guid _ _

variable (data) in
theorem loadsGameObject (bg : Ground) (now : Nat) (inProgress : Bool) (guid : Nat) :
    LoadsGameObject { bg with gameobjects := Function.update bg.gameobjects guid (some (data.gameObject guid)) }
      (bg.loadGameObject data now inProgress guid) guid (data.gameobjectEvents.events guid) := by
  unfold loadGameObject onGameObjectLoad
  split_ifs with hnone
  · rw [events_of_hasNone hnone]
    exact @loadsGameObject_fold data now inProgress guid [] _
  · rw [data.gameobjectEvents.getEventsVector_eq (Bool.eq_false_iff.mpr hnone)]
    exact loadsGameObject_fold inProgress guid _ _

theorem Listed.loadCreature (hl : Listed data bg) (guid : Nat) : Listed data (bg.loadCreature data now guid) := by
  have h := loadsCreature data bg now guid
  constructor
  · intro event other
    rw [h.listed, hl.creatures event other]
    by_cases hother : other = guid
    · subst hother
      rw [h.isSome]
      simp
    · rw [h.others other hother]
      simp [hother]
  · intro event other hmem
    rw [h.objectLists] at hmem
    obtain ⟨hevent, hall⟩ := hl.gameobjects event other hmem
    exact ⟨hevent, fun next hnext => by rw [h.objectLists]; exact hall next hnext⟩

theorem Followed.loadCreature (hf : Followed data bg) (guid : Nat) : Followed data (bg.loadCreature data now guid) := by
  have h := loadsCreature data bg now guid
  have hactive : ∀ events, (bg.loadCreature data now guid).allActive events = bg.allActive events :=
    fun events => allActive_of_eq h.activeEvents
  constructor
  · intro other c hc
    rw [hactive]
    by_cases hother : other = guid
    · subst hother
      cases hall : bg.allActive (data.creatureEvents.events other) with
      | true =>
        rw [h.spawned hall] at hc
        dsimp only at hc
        rw [update_self, Option.some_inj] at hc
        subst hc
        exact iff_of_true (by simp [Creature.Despawned]) rfl
      | false => exact iff_of_false (not_not.mpr (h.despawned hall c hc)) (by simp)
    · rw [h.others other hother] at hc
      exact hf.creatures other c ((update_of_ne hother ..).symm.trans hc)
  · intro event other hmem
    rw [h.objectLists] at hmem
    rw [hactive, h.gameobjects]
    exact hf.gameobjects event other hmem

theorem Listed.loadGameObject (hl : Listed data bg) (inProgress : Bool) (guid : Nat) :
    Listed data (bg.loadGameObject data now inProgress guid) := by
  have h := loadsGameObject data bg now inProgress guid
  constructor
  · intro event other
    rw [h.creatureLists, h.creatures]
    exact hl.creatures event other
  · intro event other hmem
    rcases (h.listed event other).mp hmem with hold | ⟨rfl, hevent⟩
    · obtain ⟨hevent, hall⟩ := hl.gameobjects event other hold
      exact ⟨hevent, fun next hnext => (h.listed next other).mpr (.inl (hall next hnext))⟩
    · exact ⟨hevent, fun next hnext => (h.listed next other).mpr (.inr ⟨rfl, hnext⟩)⟩

theorem Followed.loadGameObject (hf : Followed data bg) (inProgress : Bool) (guid : Nat) :
    Followed data (bg.loadGameObject data now inProgress guid) := by
  have h := loadsGameObject data bg now inProgress guid
  have hactive : ∀ events, (bg.loadGameObject data now inProgress guid).allActive events = bg.allActive events :=
    fun events => allActive_of_eq h.activeEvents
  constructor
  · intro other c hc
    rw [h.creatures] at hc
    rw [hactive]
    exact hf.creatures other c hc
  · intro event other hmem
    rw [hactive]
    by_cases hother : other = guid
    · subst hother
      rw [h.isSome]
      dsimp only
      rw [update_self]
      exact Iff.rfl
    · have hold : other ∈ (bg.eventObjects event).gameobjects :=
        ((h.listed event other).mp hmem).resolve_right fun hnew => hother hnew.1
      rw [h.others other hother]
      dsimp only
      rw [update_of_ne hother]
      exact hf.gameobjects event other hold

end Ground

inductive Step where
  | spawnEvent (now : Nat) (event1 event2 : UInt8) (spawn : Bool) (delay : Nat)
  | loadCreature (now guid : Nat)
  | loadGameObject (now : Nat) (inProgress : Bool) (guid : Nat)

namespace Ground

variable (data : SpawnData) (bg : Ground)

def step : Step → Ground
  | .spawnEvent now event1 event2 spawn delay => bg.spawnEvent data now event1 event2 spawn true delay
  | .loadCreature now guid => bg.loadCreature data now guid
  | .loadGameObject now inProgress guid => bg.loadGameObject data now inProgress guid

-- The call finds no entry for its event1, and leaves one with event2 0 active.
def Defaults (event1 event2 : UInt8) (spawn : Bool) : Prop :=
  bg.activeEvents event1 = none ∧ (spawn = true ↔ event2 = 0)

instance (event1 event2 : UInt8) (spawn : Bool) : Decidable (bg.Defaults event1 event2 spawn) :=
  inferInstanceAs (Decidable (_ ∧ _))

-- An event is spawned together with the last of the other events of each of its
-- game objects, and an event1 has an entry from the start.
def Meets : Step → Prop
  | .spawnEvent _ event1 event2 spawn delay =>
    event2 ≠ BG_EVENT_NONE →
      if bg.Defaults event1 event2 spawn then
        (∀ guid ∈ (bg.eventObjects (event1, 0)).creatures,
          (bg.activate event1 0).allActive (data.creatureEvents.events guid) = false) ∧
        ∀ guid ∈ (bg.eventObjects (event1, 0)).gameobjects,
          (bg.activate event1 0).allActive (data.gameobjectEvents.events guid) = false
      else spawn = true → bg.active event1 ≠ event2 →
        ∀ guid ∈ (bg.eventObjects (event1, event2)).gameobjects,
          (delay ≠ RESPAWN_NEVER ↔ (bg.activate event1 event2).allActive (data.gameobjectEvents.events guid) = true)
  | _ => True

variable {data bg}

theorem Listed.spawnEvent (hl : Listed data bg) (now : Nat) (event1 event2 : UInt8) (spawn forced_despawn : Bool)
    (delay : Nat) : Listed data (bg.spawnEvent data now event1 event2 spawn forced_despawn delay) := by
  by_cases hnone : event2 = BG_EVENT_NONE
  · cases spawn <;> simpa [Ground.spawnEvent, despawnEvent, hnone] using hl
  cases spawn with
  | false =>
    change Listed data (bg.despawnEvent data now event1 event2 forced_despawn)
    rw [despawnEvent_eq hnone]
    split_ifs
    · exact hl.activate ..
    · exact (hl.activate ..).spawnEventObjects ..
  | true =>
    rw [spawnEvent_eq hnone]
    split_ifs
    · exact hl.activate ..
    · exact ((hl.cleared ..).activate ..).spawnEventObjects ..

theorem followed_spawnEvent_iff (hf : Followed data bg) (hl : Listed data bg) (now : Nat) (event1 event2 : UInt8)
    (spawn : Bool) (delay : Nat) :
    Followed data (bg.spawnEvent data now event1 event2 spawn true delay) ↔
      Meets data bg (.spawnEvent now event1 event2 spawn delay) := by
  unfold Meets
  by_cases hnone : event2 = BG_EVENT_NONE
  · have hsame : bg.spawnEvent data now event1 event2 spawn true delay = bg := by
      cases spawn <;> simp [Ground.spawnEvent, despawnEvent, hnone]
    rw [hsame]
    exact iff_of_true hf fun h => absurd hnone h
  dsimp only
  rw [imp_iff_right (show event2 ≠ BG_EVENT_NONE from hnone)]
  -- A call that changes nothing but the entry of its event1
  have htouched : ∀ hother : ¬bg.Defaults event1 event2 spawn,
      (bg.activeEvents event1 = none → (spawn = true ↔ event2 = 0)) →
      Followed data (bg.activate event1 (bg.active event1)) := by
    intro hother himp
    rw [activate_active fun hmissing => hother ⟨hmissing, himp hmissing⟩]
    exact hf
  split_ifs with hdefaults
  · obtain ⟨hmissing, hspawn⟩ := hdefaults
    have hzero : bg.active event1 = 0 := by simp [active, hmissing]
    rw [← followed_default_iff hf hl hmissing]
    cases spawn with
    | true =>
      rw [spawnEvent_eq hnone, hzero, if_pos (hspawn.mp rfl).symm]
    | false =>
      change Followed data (bg.despawnEvent data now event1 event2 true) ↔ _
      rw [despawnEvent_eq hnone, hzero, if_pos fun h => Bool.noConfusion (hspawn.mpr h.symm)]
  · cases spawn with
    | false =>
      refine iff_of_true ?_ (by simp)
      change Followed data (bg.despawnEvent data now event1 event2 true)
      rw [despawnEvent_eq hnone]
      split_ifs with hheld
      · apply htouched hdefaults
        intro hmissing
        refine iff_of_false (by simp) fun hzero => hheld ?_
        simp [active, hmissing, hzero]
      · exact hf.despawn hl hnone fun _ hactive => (isActiveEvent_active hactive).trans (not_not.mp hheld)
    | true =>
      rw [imp_iff_right rfl, spawnEvent_eq hnone]
      by_cases hheld : bg.active event1 = event2
      · rw [if_pos hheld]
        refine iff_of_true (htouched hdefaults fun hmissing => ?_) fun h => absurd hheld h
        rw [← hheld]
        simp [active, hmissing]
      · rw [if_neg hheld, imp_iff_right hheld,
          followed_spawn_iff (hf.cleared hl event1) (hl.cleared event1 true)
            fun _ hother => isActiveEvent_cleared hother true,
          eventObjects_cleared]
        refine forall₂_congr fun guid _ => ?_
        rw [allActive_of_eq (activate_cleared event1 event2 true)]

theorem Listed.step (hl : Listed data bg) (input : Step) : Listed data (bg.step data input) := by
  cases input with
  | spawnEvent now event1 event2 spawn delay => exact hl.spawnEvent ..
  | loadCreature now guid => exact hl.loadCreature guid
  | loadGameObject now inProgress guid => exact hl.loadGameObject inProgress guid

theorem followed_step_iff (hl : Listed data bg) (hf : Followed data bg) (input : Step) :
    Followed data (bg.step data input) ↔ Meets data bg input := by
  cases input with
  | spawnEvent now event1 event2 spawn delay => exact followed_spawnEvent_iff hf hl now event1 event2 spawn delay
  | loadCreature now guid => exact iff_of_true (hf.loadCreature guid) trivial
  | loadGameObject now inProgress guid => exact iff_of_true (hf.loadGameObject inProgress guid) trivial

-- A game object of one event is in the map exactly while the event is active.
structure Tied (data : SpawnData) (bg : Ground) : Prop where
  listed : Listed data bg
  loaded : ∀ guid, (bg.gameobjects guid).isSome = true → ∀ event ∈ data.gameobjectEvents.events guid,
    guid ∈ (bg.eventObjects event).gameobjects
  single : ∀ guid event, data.gameobjectEvents.events guid = [event] → guid ∈ (bg.eventObjects event).gameobjects →
    ((bg.gameobjects guid).isSome = true ↔ bg.isActiveEvent event = true)

theorem Tied.isActiveEvent (h : Tied data bg) {guid : Nat} {event : EventIdx}
    (hevents : data.gameobjectEvents.events guid = [event]) (hfound : (bg.gameobjects guid).isSome = true) :
    bg.isActiveEvent event = true :=
  (h.single guid event hevents (h.loaded guid hfound event (by rw [hevents]; exact mem_singleton_self event))).mp hfound

theorem single_spawnEventObjects (hl : Listed data bg) {guid : Nat} {event other : EventIdx} {spawn : Bool} {delay now : Nat}
    (hdelay : delay ≠ RESPAWN_NEVER ∨ spawn = false) (hevents : data.gameobjectEvents.events guid = [event])
    (hmem : guid ∈ (bg.eventObjects event).gameobjects) :
    ((bg.spawnEventObjects data now other spawn true delay).gameobjects guid).isSome =
      if other = event then spawn else (bg.gameobjects guid).isSome := by
  split_ifs with hother
  · subst hother
    rw [Bool.eq_iff_iff, isSome_gameobjects_spawnEventObjects hmem]
    cases spawn <;> simp_all
  · have hnot : guid ∉ (bg.eventObjects other).gameobjects := by
      intro hlisted
      have hmem := (hl.gameobjects other guid hlisted).1
      rw [hevents, mem_singleton] at hmem
      exact hother hmem
    rw [gameobjects_of_notMem hnot]

theorem loaded_spawnEventObjects (hl : Listed data bg)
    (hloaded : ∀ guid, (bg.gameobjects guid).isSome = true → ∀ event ∈ data.gameobjectEvents.events guid,
      guid ∈ (bg.eventObjects event).gameobjects)
    (other : EventIdx) (spawn : Bool) (delay now guid : Nat)
    (hfound : ((bg.spawnEventObjects data now other spawn true delay).gameobjects guid).isSome = true) :
    ∀ event ∈ data.gameobjectEvents.events guid, guid ∈ (bg.eventObjects event).gameobjects := by
  by_cases hmem : guid ∈ (bg.eventObjects other).gameobjects
  · exact (hl.gameobjects other guid hmem).2
  · rw [gameobjects_of_notMem hmem] at hfound
    exact hloaded guid hfound

theorem loaded_cleared (h : Tied data bg) (event1 : UInt8) (now guid : Nat)
    (hfound : ((bg.cleared data now event1 true).gameobjects guid).isSome = true) :
    ∀ event ∈ data.gameobjectEvents.events guid, guid ∈ ((bg.cleared data now event1 true).eventObjects event).gameobjects := by
  rw [eventObjects_cleared]
  unfold cleared at hfound
  split_ifs at hfound
  · exact h.loaded guid hfound
  · exact loaded_spawnEventObjects (h.listed.activate event1 BG_EVENT_NONE) h.loaded _ _ _ _ guid hfound

theorem single_cleared (h : Tied data bg) (event1 : UInt8) (now : Nat) {guid : Nat} {event : EventIdx}
    (hevents : data.gameobjectEvents.events guid = [event]) (hmem : guid ∈ (bg.eventObjects event).gameobjects) :
    ((bg.cleared data now event1 true).gameobjects guid).isSome = true ↔
      bg.isActiveEvent event = true ∧ event.1 ≠ event1 := by
  have hknown : event.2 ≠ BG_EVENT_NONE :=
    (data.gameobjectEvents.known_events (by rw [hevents]; exact mem_singleton_self event)).2
  unfold cleared
  split_ifs with hfree
  · rw [h.single guid event hevents hmem, iff_self_and]
    rintro hactive rfl
    exact hknown ((isActiveEvent_active hactive).trans hfree)
  · rw [single_spawnEventObjects (h.listed.activate event1 BG_EVENT_NONE) (.inr rfl) hevents hmem]
    split_ifs with hheld
    · refine iff_of_false (by simp) fun hboth => hboth.2 ?_
      rw [← hheld]
    · change (bg.gameobjects guid).isSome = true ↔ _
      rw [h.single guid event hevents hmem, iff_self_and]
      rintro hactive rfl
      exact hheld (Prod.ext rfl (isActiveEvent_active hactive).symm)

theorem Tied.spawnEvent (h : Tied data bg) (now : Nat) {event1 event2 : UInt8} {delay : Nat}
    (hknown : bg.activeEvents event1 ≠ none) (hnone : event2 ≠ BG_EVENT_NONE) (hdelay : delay ≠ RESPAWN_NEVER) :
    Tied data (bg.spawnEvent data now event1 event2 true true delay) := by
  rw [spawnEvent_eq hnone]
  split_ifs with hsame
  · rw [activate_active hknown]
    exact h
  have hcleared : Listed data (bg.cleared data now event1 true) := h.listed.cleared event1 true
  have hl := hcleared.activate event1 event2
  refine ⟨hl.spawnEventObjects .., fun guid => ?_, fun guid event hevents hmem => ?_⟩
  · exact loaded_spawnEventObjects hl (loaded_cleared h event1 now) (event1, event2) true delay now guid
  · have hlisted : guid ∈ (bg.eventObjects event).gameobjects := by
      rw [← @eventObjects_cleared data bg now event1 true]
      exact hmem
    rw [single_spawnEventObjects hl (.inl hdelay) hevents hmem]
    have hactive : (((bg.cleared data now event1 true).activate event1 event2).spawnEventObjects data now (event1, event2) true
        true delay).isActiveEvent event = (bg.activate event1 event2).isActiveEvent event := by
      unfold Ground.isActiveEvent
      rw [activeEvents_spawnEventObjects, activate_cleared]
    rw [hactive, isActiveEvent_activate]
    by_cases hfirst : event.1 = event1
    · rw [if_pos hfirst, decide_eq_true_iff]
      split_ifs with hevent
      · exact iff_of_true rfl (by rw [← hevent])
      · refine iff_of_false (fun hfound => ?_) fun hsecond => hevent (Prod.ext hfirst.symm hsecond.symm)
        exact ((single_cleared h event1 now hevents hlisted).mp hfound).2 hfirst
    · rw [if_neg hfirst, if_neg fun hevent => hfirst (by rw [← hevent])]
      exact (single_cleared h event1 now hevents hlisted).trans (and_iff_left hfirst)

theorem Tied.loadGameObject (h : Tied data bg) (now : Nat) (inProgress : Bool) (guid : Nat) :
    Tied data (bg.loadGameObject data now inProgress guid) := by
  have hload := loadsGameObject data bg now inProgress guid
  refine ⟨h.listed.loadGameObject inProgress guid, fun other hfound event hevent => ?_, fun other event hevents hmem => ?_⟩
  · rw [hload.listed]
    by_cases hother : other = guid
    · subst hother
      exact .inr ⟨rfl, hevent⟩
    · rw [hload.others other hother] at hfound
      dsimp only at hfound
      rw [update_of_ne hother] at hfound
      exact .inl (h.loaded other hfound event hevent)
  · rw [show (bg.loadGameObject data now inProgress guid).isActiveEvent event = bg.isActiveEvent event by
      unfold Ground.isActiveEvent; rw [hload.activeEvents]]
    by_cases hother : other = guid
    · subst hother
      rw [hload.isSome, hevents]
      simp [allActive, Ground.isActiveEvent]
    · rw [hload.others other hother]
      dsimp only
      rw [update_of_ne hother]
      exact h.single other event hevents (((hload.listed event other).mp hmem).resolve_right fun hnew => hother hnew.1)

section

variable (activeEvents : UInt8 → Option UInt8)

theorem listed_start : Listed data (start activeEvents) where
  creatures := by simp [start]
  gameobjects := by simp [start]

theorem followed_start : Followed data (start activeEvents) where
  creatures := by simp [start]
  gameobjects := by simp [start]

theorem tied_start : Tied data (start activeEvents) :=
  ⟨listed_start activeEvents, by simp [start], by simp [start]⟩

end

theorem eventSpawns_followed_iff (data : SpawnData) (activeEvents : UInt8 → Option UInt8) (inputs : List Step) :
    (∀ before, before <+: inputs → Followed data (run (step data) (start activeEvents) before)) ↔
      Guarded (step data) (Meets data) (start activeEvents) inputs :=
  prefixes_iff_guarded (step data) (fun _ _ => True) (Meets data) (Listed data) (Followed data)
    (fun _ input hl _ => hl.step input) (fun _ input hl hf _ => followed_step_iff hl hf input)
    (listed_start activeEvents) (followed_start activeEvents) (guarded_of_forall _ _ (fun _ _ => trivial) _ _)

-- A game object of two events, and no creature
def twoEvents : SpawnData where
  creatureEvents := EventTable.loadBattleEventIndexes []
  gameobjectEvents := EventTable.loadBattleEventIndexes [(1, 1, 0), (1, 2, 0)]
  spawntimesecs _ := 300
  info _ := ⟨180000, false⟩
  gameObject _ := ⟨.READY, .READY, 0, 0⟩

-- It is spawned with the first of its events, while the second is not active.
theorem not_eventSpawns_followed : ¬∀ (data : SpawnData) (activeEvents : UInt8 → Option UInt8) (inputs : List Step),
    Followed data (run (step data) (start activeEvents) inputs) := by
  intro hall
  have h := (hall twoEvents (fun _ => some BG_EVENT_NONE)
    [.loadGameObject 100 true 1, .spawnEvent 100 1 0 true 0]).gameobjects (1, 0) 1 (by decide +kernel)
  revert h
  decide +kernel

end Ground

end TurtleWow.Matches.Spawns

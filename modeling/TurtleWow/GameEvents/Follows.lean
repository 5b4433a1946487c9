import Mathlib.Data.Finset.Insert
import Mathlib.Data.List.Nodup
import TurtleWow.GameEvents.GameEventMgr

namespace TurtleWow.GameEvents

open List

-- The spawns, quests and creatures follow the active events, as long as no event stops
-- while another active one lists a quest or a creature of it.

namespace Database

variable {db : Database} {kind : SpawnKind} {guid event quest : Nat} {tag other : Int} {data : GameEventCreatureData}

theorem of_mem_spawnGuids (h : guid ∈ db.spawnGuids kind tag) :
    (guid, tag) ∈ db.gameEventSpawn kind ∧ tag ≠ 0 ∧ db.isValidEvent tag.natAbs = true := by
  obtain ⟨hguid, -⟩ := mem_filter.mp h
  obtain ⟨row, hlisted, rfl⟩ := mem_map.mp hguid
  obtain ⟨hrow, hkeep⟩ := mem_filter.mp hlisted
  simp only [Bool.and_eq_true, decide_eq_true_eq] at hkeep
  obtain ⟨⟨⟨rfl, hzero⟩, hvalid⟩, -⟩ := hkeep
  exact ⟨hrow, hzero, hvalid⟩

theorem tag_unique (h : guid ∈ db.spawnGuids kind tag) (hother : guid ∈ db.spawnGuids kind other) : tag = other := by
  have hpair := inj_on_of_nodup_map (db.once kind) (of_mem_spawnGuids h).1 (of_mem_spawnGuids hother).1 rfl
  exact congrArg Prod.snd hpair

theorem mem_creatureData : (guid, data) ∈ db.creatureData event ↔
    (guid, event, data) ∈ db.gameEventCreatureData ∧ event ≠ 0 ∧ db.isValidEvent event = true := by
  unfold creatureData
  rw [mem_map]
  constructor
  · rintro ⟨⟨guid', event', data'⟩, hlisted, heq⟩
    obtain ⟨hrow, hkeep⟩ := mem_filter.mp hlisted
    simp only [Bool.and_eq_true, decide_eq_true_eq] at hkeep
    obtain ⟨⟨rfl, hzero⟩, hvalid⟩ := hkeep
    cases heq
    exact ⟨hrow, hzero, hvalid⟩
  · rintro ⟨hrow, hzero, hvalid⟩
    refine ⟨(guid, event, data), mem_filter.mpr ⟨hrow, ?_⟩, rfl⟩
    simp only [Bool.and_eq_true, decide_eq_true_eq]
    exact ⟨⟨trivial, hzero⟩, hvalid⟩

theorem mem_creatureDataPerGuid : event ∈ db.creatureDataPerGuid guid ↔ ∃ data, (guid, data) ∈ db.creatureData event := by
  unfold creatureDataPerGuid
  rw [mem_map]
  constructor
  · rintro ⟨⟨guid', event', data⟩, hlisted, rfl⟩
    obtain ⟨hrow, hkeep⟩ := mem_filter.mp hlisted
    simp only [Bool.and_eq_true, decide_eq_true_eq] at hkeep
    obtain ⟨⟨rfl, hzero⟩, hvalid⟩ := hkeep
    exact ⟨data, mem_creatureData.mpr ⟨hrow, hzero, hvalid⟩⟩
  · rintro ⟨data, hdata⟩
    obtain ⟨hrow, hzero, hvalid⟩ := mem_creatureData.mp hdata
    refine ⟨(guid, event, data), mem_filter.mpr ⟨hrow, ?_⟩, rfl⟩
    simp only [Bool.and_eq_true, decide_eq_true_eq]
    exact ⟨⟨trivial, hzero⟩, hvalid⟩

theorem not_valid_zero : db.isValidEvent 0 = false := by
  rw [isValidEvent, db.reserved]
  exact Bool.and_false _

end Database

namespace World

def wants (w : World) (tag : Int) : Bool :=
  if 0 < tag then tag.natAbs ∈ w.activeEvents else tag.natAbs ∉ w.activeEvents

def Settled (db : Database) (w : World) (tag : Int) : Prop :=
  ∀ kind, ∀ guid ∈ db.spawnGuids kind tag, w.grid kind guid = w.wants tag

def QuestsFollow (db : Database) (w : World) : Prop :=
  ∀ quest ∈ db.listedQuests, w.questActive quest = true ↔ ∃ event ∈ w.activeEvents, quest ∈ db.quests event

def RightData (db : Database) (activeEvents : Finset Nat) (guid : Nat) : Option GameEventCreatureData → Prop
  | none => ∀ event ∈ activeEvents, ∀ data, (guid, data) ∉ db.creatureData event
  | some data => ∃ event ∈ activeEvents, (guid, data) ∈ db.creatureData event

def CreaturesFollow (db : Database) (w : World) : Prop :=
  ∀ map guid data, w.creatures map guid = some data → RightData db w.activeEvents guid data

structure Sound (db : Database) (w : World) : Prop where
  length : ∀ event, (w.event event).length = (db.event event).length
  active : ∀ event ∈ w.activeEvents, Settled db w (-(event : Int))
  spawns : ∀ tag, 0 < tag → Settled db w tag
  quests : w.QuestsFollow db
  data : w.CreaturesFollow db
  spawned : ∀ map guid data, w.creatures map guid = some data → db.hasData .creature guid = true

def Separate (db : Database) (w : World) (event : Nat) (created : Nat → Nat → Bool) : Prop :=
  ∀ other ∈ w.activeEvents, other ≠ event →
    (∀ quest ∈ db.quests event, quest ∉ db.quests other) ∧
    ∀ guid data data', (guid, data) ∈ db.creatureData event → (guid, data') ∈ db.creatureData other →
      ∀ map, w.creatures map guid = none ∧ created map guid = false

variable {db : Database} {w : World} {event guid map : Nat} {tag : Int} {created : Nat → Nat → Bool}

theorem rightData_get (w : World) (guid : Nat) :
    RightData db w.activeEvents guid (w.getCreatureUpdateDataForActiveEvent db guid) := by
  unfold getCreatureUpdateDataForActiveEvent
  split
  · next hnone =>
      intro event hactive data hdata
      have hnot := List.find?_eq_none.mp hnone event (Database.mem_creatureDataPerGuid.mpr ⟨data, hdata⟩)
      exact hnot (decide_eq_true hactive)
  · next event hsome =>
      have hactive : event ∈ w.activeEvents := by
        simpa using List.find?_some hsome
      obtain ⟨data, hdata⟩ := Database.mem_creatureDataPerGuid.mp (mem_of_find?_eq_some hsome)
      cases hentry : (db.creatureData event).find? fun entry => entry.1 = guid with
      | none =>
        have hnot := List.find?_eq_none.mp hentry _ hdata
        exact absurd (decide_eq_true rfl) hnot
      | some entry =>
        have hguid : entry.1 = guid := by simpa using List.find?_some hentry
        subst hguid
        exact ⟨event, hactive, mem_of_find?_eq_some hentry⟩

theorem RightData.mono {small large : Finset Nat} {data : Option GameEventCreatureData} (h : RightData db small guid data)
    (hsub : small ⊆ large) (hnew : ∀ event ∈ large, event ∉ small → ∀ data, (guid, data) ∉ db.creatureData event) :
    RightData db large guid data := by
  cases data with
  | none =>
    intro event hevent
    by_cases hsmall : event ∈ small
    · exact h event hsmall
    · exact hnew event hevent hsmall
  | some data =>
    obtain ⟨event, hevent, hdata⟩ := h
    exact ⟨event, hsub hevent, hdata⟩

theorem of_create {data : Option GameEventCreatureData} (h : (w.create db created).creatures map guid = some data) :
    w.creatures map guid = some data ∨
      w.creatures map guid = none ∧ created map guid = true ∧ db.hasData .creature guid = true ∧
        RightData db w.activeEvents guid data := by
  unfold create at h
  dsimp only at h
  split at h
  · next hnew =>
      rw [Bool.and_eq_true, Bool.and_eq_true, Option.isNone_iff_eq_none] at hnew
      cases h
      exact .inr ⟨hnew.1.2, hnew.1.1, hnew.2, rightData_get w guid⟩
  · exact .inl h

theorem of_updateCreatures {activate : Bool} {entries : List (Nat × GameEventCreatureData)}
    {data : Option GameEventCreatureData}
    (h : (entries.foldl (updateCreature db activate) w).creatures map guid = some data) :
    ((∃ entry ∈ entries, entry.1 = guid ∧ data = if activate then some entry.2 else none) ∧
      ∃ before, w.creatures map guid = some before) ∨
    (db.hasData .creature guid = true → ∀ entry ∈ entries, entry.1 ≠ guid) ∧ w.creatures map guid = some data := by
  induction entries generalizing w with
  | nil => exact .inr ⟨fun _ _ hentry => absurd hentry not_mem_nil, h⟩
  | cons entry rest ih =>
    rcases ih h with ⟨⟨later, hlater, hguid, hdata⟩, before, hbefore⟩ | ⟨hrest, hnow⟩
    · refine .inl ⟨⟨later, mem_cons_of_mem _ hlater, hguid, hdata⟩, ?_⟩
      unfold updateCreature at hbefore
      split at hbefore
      · dsimp only at hbefore
        split at hbefore
        · obtain ⟨old, hold, -⟩ := Option.map_eq_some_iff.mp hbefore
          exact ⟨old, hold⟩
        · exact ⟨before, hbefore⟩
      · exact ⟨before, hbefore⟩
    · unfold updateCreature at hnow
      split at hnow
      · dsimp only at hnow
        split at hnow
        · next hguid =>
            obtain ⟨old, hold, hdata⟩ := Option.map_eq_some_iff.mp hnow
            exact .inl ⟨⟨entry, mem_cons_self, hguid.symm, hdata.symm⟩, old, hold⟩
        · next hguid =>
            refine .inr ⟨fun hhas other hother => ?_, hnow⟩
            rcases mem_cons.mp hother with rfl | hother
            · exact Ne.symm hguid
            · exact hrest hhas other hother
      · next hhasnot =>
          refine .inr ⟨fun hhas other hother => ?_, hnow⟩
          rcases mem_cons.mp hother with rfl | hother
          · rintro rfl
            exact hhasnot hhas
          · exact hrest hhas other hother

theorem updateCreatures_frame (db : Database) (activate : Bool) (entries : List (Nat × GameEventCreatureData)) (w : World) :
    ∃ creatures, entries.foldl (updateCreature db activate) w = { w with creatures := creatures } := by
  induction entries generalizing w with
  | nil => exact ⟨w.creatures, rfl⟩
  | cons entry rest ih =>
    obtain ⟨creatures, hrest⟩ := ih (updateCreature db activate w entry)
    refine ⟨creatures, hrest.trans ?_⟩
    unfold updateCreature
    split
    · rfl
    · rfl

-- What starting (`on`) and stopping an event do to all but the creatures
structure Changes (db : Database) (event : Nat) (on : Bool) (w w' : World) : Prop where
  table : w'.event = w.event
  active : w'.activeEvents = if on then insert event w.activeEvents else w.activeEvents.erase event
  grid : ∀ kind guid, w'.grid kind guid =
    if guid ∈ db.spawnGuids kind (-(event : Int)) then !on
    else if guid ∈ db.spawnGuids kind event then on else w.grid kind guid
  quests : ∀ quest, w'.questActive quest = if quest ∈ db.quests event then on else w.questActive quest
  init : w'.isGameEventsInit = w.isGameEventsInit

theorem inRange_of_valid (hvalid : db.isValidEvent event = true) :
    0 < event ∧ event < db.size ∧ db.inRange event = true ∧ db.inRange (-(event : Int)) = true := by
  have hpos : 0 < event := by
    rcases Nat.eq_zero_or_pos event with rfl | hpos
    · rw [Database.not_valid_zero] at hvalid
      cases hvalid
    · exact hpos
  unfold Database.isValidEvent at hvalid
  rw [Bool.and_eq_true, decide_eq_true_eq] at hvalid
  unfold Database.inRange
  simp only [Bool.and_eq_true, decide_eq_true_eq]
  exact ⟨hpos, hvalid.1, by omega, by omega⟩

theorem i16_eq {n : Int} (hlow : -2 ^ 15 < n) (hhigh : n < 2 ^ 15) : i16 n = n := by
  rw [i16, Int.bmod_def]
  omega

theorem applyNewEvent_eq (hvalid : db.isValidEvent event = true) (hsize : db.size ≤ 2 ^ 15) (w : World)
    (created : Nat → Nat → Bool) : w.applyNewEvent db event created =
      (((((({ w with activeEvents := insert event w.activeEvents } : World).setGrid db event true).create db created).setGrid
        db (-(event : Int)) false).updateCreatureData db event true).updateEventQuests db event true) := by
  obtain ⟨hpos, hlt, hrange, hrange'⟩ := inRange_of_valid hvalid
  unfold applyNewEvent gameEventSpawn gameEventUnspawn
  dsimp only
  rw [i16_eq (by omega) (by omega), i16_eq (by omega) (by omega), if_pos hrange, if_pos hrange']

theorem unApplyEvent_eq (hvalid : db.isValidEvent event = true) (hsize : db.size ≤ 2 ^ 15) (w : World)
    (created : Nat → Nat → Bool) : w.unApplyEvent db event created =
      (((((({ w with activeEvents := w.activeEvents.erase event } : World).setGrid db event false).setGrid
        db (-(event : Int)) true).create db created).updateCreatureData db event false).updateEventQuests db event false) := by
  obtain ⟨hpos, hlt, hrange, hrange'⟩ := inRange_of_valid hvalid
  unfold unApplyEvent gameEventSpawn gameEventUnspawn
  dsimp only
  rw [i16_eq (by omega) (by omega), i16_eq (by omega) (by omega), if_pos hrange, if_pos hrange']

theorem changes_of_frame {w' : World} (w : World) (on : Bool) (h : Changes db event on w (w'.updateEventQuests db event on)) :
    Changes db event on w ((w'.updateCreatureData db event on).updateEventQuests db event on) := by
  obtain ⟨creatures, hframe⟩ := updateCreatures_frame db on (db.creatureData event) w'
  unfold updateCreatureData
  rw [hframe]
  exact ⟨h.table, h.active, h.grid, h.quests, h.init⟩

theorem applyNewEvent_changes (hvalid : db.isValidEvent event = true) (hsize : db.size ≤ 2 ^ 15) (w : World)
    (created : Nat → Nat → Bool) : Changes db event true w (w.applyNewEvent db event created) := by
  rw [applyNewEvent_eq hvalid hsize]
  exact changes_of_frame w true ⟨rfl, rfl, fun _ _ => rfl, fun _ => rfl, rfl⟩

theorem unApplyEvent_changes (hvalid : db.isValidEvent event = true) (hsize : db.size ≤ 2 ^ 15) (w : World)
    (created : Nat → Nat → Bool) : Changes db event false w (w.unApplyEvent db event created) := by
  rw [unApplyEvent_eq hvalid hsize]
  exact changes_of_frame w false ⟨rfl, rfl, fun _ _ => rfl, fun _ => rfl, rfl⟩

namespace Changes

variable {w' : World} {on : Bool}

theorem mem_active (h : Changes db event on w w') (other : Nat) :
    other ∈ w'.activeEvents ↔ if other = event then on = true else other ∈ w.activeEvents := by
  rw [h.active]
  cases on with
  | true =>
    rw [if_pos rfl, Finset.mem_insert]
    split
    · next heq => exact iff_of_true (.inl heq) rfl
    · next hne => exact or_iff_right hne
  | false =>
    rw [if_neg Bool.false_ne_true, Finset.mem_erase]
    split
    · next heq => exact iff_of_false (fun hboth => hboth.1 heq) Bool.false_ne_true
    · next hne => exact and_iff_right hne

theorem settled (h : Changes db event on w w') (hpos : 0 < event)
    (htag : tag.natAbs = event ∨ Settled db w tag) : Settled db w' tag := by
  intro kind guid hguid
  have hwants := h.mem_active tag.natAbs
  rw [h.grid]
  unfold wants
  by_cases hminus : tag = -(event : Int)
  · subst hminus
    rw [if_pos hguid, if_neg (by omega)]
    rw [Int.natAbs_neg, Int.natAbs_natCast, if_pos rfl] at hwants
    simp [hwants]
  · rw [if_neg fun hmem => hminus (Database.tag_unique hguid hmem)]
    by_cases hplus : tag = event
    · subst hplus
      rw [Int.natAbs_natCast, if_pos rfl] at hwants
      rw [if_pos hguid, if_pos (by omega)]
      simp [hwants]
    · rw [if_neg fun hmem => hplus (Database.tag_unique hguid hmem)]
      have hne : tag.natAbs ≠ event := by omega
      rw [if_neg hne] at hwants
      have hbefore := htag.resolve_left hne kind guid hguid
      unfold wants at hbefore
      simpa [hwants] using hbefore

theorem sound_spawns (h : Changes db event on w w') (hpos : 0 < event) (hw : Sound db w) :
    (∀ other ∈ w'.activeEvents, Settled db w' (-(other : Int))) ∧ ∀ tag, 0 < tag → Settled db w' tag := by
  refine ⟨fun other hother => h.settled hpos ?_, fun tag htag => h.settled hpos (.inr (hw.spawns tag htag))⟩
  rw [h.mem_active] at hother
  split at hother
  · next heq => exact .inl (by omega)
  · exact .inr (hw.active other hother)

theorem sound_start (h : Changes db event true w w') (hw : w.QuestsFollow db) : w'.QuestsFollow db := by
  intro quest hquest
  rw [h.quests, h.active, if_pos rfl]
  split
  · next hlisted => exact iff_of_true rfl ⟨event, Finset.mem_insert_self _ _, hlisted⟩
  · next hnot =>
      rw [hw quest hquest]
      constructor
      · rintro ⟨other, hother, hlisted⟩
        exact ⟨other, Finset.mem_insert_of_mem hother, hlisted⟩
      · rintro ⟨other, hother, hlisted⟩
        rcases Finset.mem_insert.mp hother with rfl | hother
        · exact absurd hlisted hnot
        · exact ⟨other, hother, hlisted⟩

theorem sound_stop (h : Changes db event false w w') (hw : w.QuestsFollow db)
    (hseparate : ∀ other ∈ w.activeEvents, other ≠ event → ∀ quest ∈ db.quests event, quest ∉ db.quests other) :
    w'.QuestsFollow db := by
  intro quest hquest
  rw [h.quests, h.active, if_neg Bool.false_ne_true]
  split
  · next hlisted =>
      refine iff_of_false Bool.false_ne_true ?_
      rintro ⟨other, hother, hlisted'⟩
      obtain ⟨hne, hother⟩ := Finset.mem_erase.mp hother
      exact hseparate other hother hne quest hlisted hlisted'
  · next hnot =>
      rw [hw quest hquest]
      constructor
      · rintro ⟨other, hother, hlisted⟩
        refine ⟨other, Finset.mem_erase.mpr ⟨?_, hother⟩, hlisted⟩
        rintro rfl
        exact hnot hlisted
      · rintro ⟨other, hother, hlisted⟩
        exact ⟨other, Finset.mem_of_mem_erase hother, hlisted⟩

end Changes

theorem of_changed {x y : World} {on : Bool} {data : Option GameEventCreatureData} (hw : Sound db w)
    (hx : x.creatures = w.creatures) (hy : y.creatures = (x.create db created).creatures)
    (h : (y.updateCreatureData db event on).creatures map guid = some data) :
    db.hasData .creature guid = true ∧
    ((∃ own, (guid, own) ∈ db.creatureData event ∧ data = (if on then some own else none) ∧
        ¬ (w.creatures map guid = none ∧ created map guid = false)) ∨
      (∀ own, (guid, own) ∉ db.creatureData event) ∧
        (RightData db w.activeEvents guid data ∨ RightData db x.activeEvents guid data)) := by
  have hold : ∀ old, y.creatures map guid = some old → db.hasData .creature guid = true ∧
      ¬ (w.creatures map guid = none ∧ created map guid = false) ∧
      (RightData db w.activeEvents guid old ∨ RightData db x.activeEvents guid old) := by
    intro old hold
    rw [hy] at hold
    rcases of_create hold with hbefore | ⟨-, hcreated, hhas, hright⟩
    · rw [hx] at hbefore
      refine ⟨hw.spawned map guid old hbefore, fun hboth => ?_, .inl (hw.data map guid old hbefore)⟩
      rw [hboth.1] at hbefore
      cases hbefore
    · refine ⟨hhas, fun hboth => ?_, .inr hright⟩
      rw [hboth.2] at hcreated
      cases hcreated
  rcases of_updateCreatures h with ⟨⟨entry, hentry, rfl, hdata⟩, old, hbefore⟩ | ⟨hnone, hnow⟩
  · obtain ⟨hhas, hspawned, -⟩ := hold old hbefore
    exact ⟨hhas, .inl ⟨entry.2, hentry, hdata, hspawned⟩⟩
  · obtain ⟨hhas, -, hright⟩ := hold data hnow
    exact ⟨hhas, .inr ⟨fun own hown => hnone hhas _ hown rfl, hright⟩⟩

theorem Sound.applyNewEvent (h : Sound db w) (hvalid : db.isValidEvent event = true) (hsize : db.size ≤ 2 ^ 15)
    (created : Nat → Nat → Bool) : Sound db (w.applyNewEvent db event created) := by
  have hchanges := applyNewEvent_changes hvalid hsize w created
  obtain ⟨hactive, hspawns⟩ := hchanges.sound_spawns (inRange_of_valid hvalid).1 h
  let started : World := ({ w with activeEvents := insert event w.activeEvents } : World).setGrid db event true
  have hchanged := fun map guid data (hdata : (w.applyNewEvent db event created).creatures map guid = some data) =>
    of_changed (x := started) (y := (started.create db created).setGrid db (-(event : Int)) false) h rfl rfl
      ((congrArg (fun w => World.creatures w map guid) (applyNewEvent_eq hvalid hsize w created)).symm.trans hdata)
  refine ⟨fun other => ?_, hactive, hspawns, hchanges.sound_start h.quests, fun map guid data hdata => ?_,
    fun map guid data hdata => (hchanged map guid data hdata).1⟩
  · rw [hchanges.table]
    exact h.length other
  · obtain ⟨-, ⟨own, hown, rfl, -⟩ | ⟨hnone, hright⟩⟩ := hchanged map guid data hdata
    · rw [hchanges.active]
      exact ⟨event, Finset.mem_insert_self _ _, hown⟩
    · rw [hchanges.active, if_pos rfl]
      refine hright.elim (fun hright => hright.mono (Finset.subset_insert _ _) fun other hother hnot => ?_) id
      rcases Finset.mem_insert.mp hother with rfl | hother
      · exact hnone
      · exact absurd hother hnot

theorem Sound.unApplyEvent (h : Sound db w) (hvalid : db.isValidEvent event = true) (hsize : db.size ≤ 2 ^ 15)
    (hseparate : Separate db w event created) : Sound db (w.unApplyEvent db event created) := by
  have hchanges := unApplyEvent_changes hvalid hsize w created
  obtain ⟨hactive, hspawns⟩ := hchanges.sound_spawns (inRange_of_valid hvalid).1 h
  have hchanged := fun map guid data (hdata : (w.unApplyEvent db event created).creatures map guid = some data) =>
    of_changed (x := (({ w with activeEvents := w.activeEvents.erase event } : World).setGrid db event false).setGrid
      db (-(event : Int)) true) h rfl rfl
      ((congrArg (fun w => World.creatures w map guid) (unApplyEvent_eq hvalid hsize w created)).symm.trans hdata)
  refine ⟨fun other => ?_, hactive, hspawns,
    hchanges.sound_stop h.quests fun other hother hne => (hseparate other hother hne).1, fun map guid data hdata => ?_,
    fun map guid data hdata => (hchanged map guid data hdata).1⟩
  · rw [hchanges.table]
    exact h.length other
  · rw [hchanges.active, if_neg Bool.false_ne_true]
    obtain ⟨-, ⟨own, hown, rfl, hspawned⟩ | ⟨hnone, hright⟩⟩ := hchanged map guid data hdata
    · rw [if_neg Bool.false_ne_true]
      intro other hother data' hdata'
      obtain ⟨hne, hother⟩ := Finset.mem_erase.mp hother
      exact hspawned ((hseparate other hother hne).2 guid own data' hown hdata' map)
    · refine hright.elim (fun hright => ?_) id
      cases data with
      | none => exact fun other hother => hright other (Finset.mem_of_mem_erase hother)
      | some data =>
        obtain ⟨other, hother, hdata'⟩ := hright
        refine ⟨other, Finset.mem_erase.mpr ⟨?_, hother⟩, hdata'⟩
        rintro rfl
        exact hnone data hdata'

end World

end TurtleWow.GameEvents

import TurtleWow.Instances.RaidResets

namespace TurtleWow.Instances

open Run List

-- What instance_reset holds, and the times that the resets set

-- The statements that wait touch the rows of their own maps only.

theorem updateRow_of_ne (stored : UInt16 → Option Nat) {statement : UInt16 × Nat} {mapid : UInt16}
    (h : mapid ≠ statement.1) : updateRow stored statement mapid = stored mapid := if_neg h

theorem updateRow_self (stored : UInt16 → Option Nat) (mapid : UInt16) (t : Nat) :
    updateRow stored (mapid, t) mapid = (stored mapid).map fun _ => t := if_pos rfl

namespace DungeonResetScheduler

theorem executeAll_congr {stored other : UInt16 → Option Nat} {mapid : UInt16} (h : stored mapid = other mapid)
    (pending : List (UInt16 × Nat)) : executeAll stored pending mapid = executeAll other pending mapid := by
  induction pending generalizing stored other with
  | nil => exact h
  | cons statement rest ih =>
    refine ih ?_
    rw [updateRow, updateRow, h]

theorem isSome_executeAll (stored : UInt16 → Option Nat) (pending : List (UInt16 × Nat)) (mapid : UInt16) :
    (executeAll stored pending mapid).isSome = (stored mapid).isSome := by
  induction pending generalizing stored with
  | nil => rfl
  | cons statement rest ih =>
    refine (ih _).trans ?_
    unfold updateRow
    split
    · rw [Option.isSome_map]
    · rfl

theorem executeAll_concat (stored : UInt16 → Option Nat) (pending : List (UInt16 × Nat)) (statement : UInt16 × Nat) :
    executeAll stored (pending ++ [statement]) = updateRow (executeAll stored pending) statement :=
  foldl_append

variable (world : World)

def Stored (s : DungeonResetScheduler) : Prop :=
  ∀ entry ∈ world.raids, s.settled entry.id = some (s.resetTimeByMapId entry.id)

variable {world} {s : DungeonResetScheduler} {view : View} {t : Int} {event : DungeonResetEvent} {entry : MapEntry}

theorem map_const_of_isSome {row : Option Nat} (h : row.isSome) (t : Nat) : (row.map fun _ => t) = some t := by
  obtain ⟨old, rfl⟩ := Option.isSome_iff_exists.mp h
  rfl

theorem settled_reset (hreset : entry.hasReset) (hrow : (s.settled event.mapid).isSome)
    (hagree : view.early ∨
      world.calculateNextResetTime entry (s.clock + view.lag + timeLeft (s.resetTimeByMapId event.mapid) s.clock) =
        world.calculateNextResetTime entry (s.resetTimeByMapId event.mapid)) (mapid : UInt16) :
    (s.reset world event entry view).settled mapid =
      if mapid = event.mapid then some (world.calculateNextResetTime entry (s.resetTimeByMapId event.mapid))
      else s.settled mapid := by
  rw [settled, isSome_executeAll] at hrow
  unfold settled reset
  simp only [hreset, if_true]
  by_cases hearly : view.early
  · simp only [hearly, if_true]
    rw [executeAll_concat]
    change updateRow _ _ mapid = _
    by_cases hmapid : mapid = event.mapid
    · rw [hmapid, if_pos rfl, updateRow_self]
      refine map_const_of_isSome ?_ _
      rw [updateRow_self, Option.isSome_map, isSome_executeAll]
      exact hrow
    · rw [if_neg hmapid, updateRow_of_ne _ hmapid, updateRow_of_ne _ hmapid]
  · have hagree := hagree.resolve_left hearly
    rw [if_neg hearly, if_neg hearly, executeAll_concat]
    by_cases hmapid : mapid = event.mapid
    · rw [hmapid, if_pos rfl, updateRow_self, hagree]
      refine map_const_of_isSome ?_ _
      rw [isSome_executeAll, updateRow_self, Option.isSome_map]
      exact hrow
    · rw [if_neg hmapid, updateRow_of_ne _ hmapid]
      exact executeAll_congr (updateRow_of_ne _ hmapid) _

theorem Stored.pass (h : s.Stored world) (hholds : s.Holds world) (hagree : Agreeing world s view) :
    (s.pass world view).Stored world := by
  unfold DungeonResetScheduler.pass
  split
  · exact h
  · next t event hbegin =>
      split
      · next hdue =>
          split
          · exact h
          · next hraid =>
              have hraid : event.type.isRaid := isRaid_iff.mpr hraid
              split
              · exact h
              · next entry hlookup =>
                  split
                  · next hlast =>
                      obtain ⟨other, hother, hid, hfound⟩ := hholds.lookup hbegin hraid
                      obtain rfl := Option.some.inj (hlookup.symm.trans hfound)
                      have hrow : (s.settled event.mapid).isSome := by
                        rw [← hid, h entry hother]
                        rfl
                      have hsame := hagree _ (resetting_eq hbegin hdue hlast hlookup)
                      intro map hmap
                      rw [settled_reset (World.mem_raids.mp hother).2 hrow hsame]
                      change _ = some (Function.update s.resetTimeByMapId event.mapid _ map.id)
                      rw [Function.update_apply]
                      split
                      · rfl
                      · exact h map hmap
                  · exact h
      · exact h

theorem settled_executeDelayed : (s.step world .executeDelayed).settled = s.settled := by
  unfold DungeonResetScheduler.step settled
  dsimp only
  split
  · rfl
  · next statement rest hpending =>
      rw [hpending]
      rfl

theorem time_executeDelayed : (s.step world .executeDelayed).resetTimeByMapId = s.resetTimeByMapId := by
  unfold DungeonResetScheduler.step
  dsimp only
  split
  · rfl
  · rfl

theorem Stored.resetAllRaid (h : s.Stored world)
    (hunforced : ∀ entry ∈ s.resetTimeQueue.entries, entry.2.type.isRaid →
      s.resetTimeByMapId entry.2.mapid = s.clock + forcedTime) : s.resetAllRaid.Stored world := by
  intro map hmap
  rw [show s.resetAllRaid.settled map.id = s.settled map.id from rfl, h map hmap]
  by_cases hany : ∃ entry ∈ s.resetTimeQueue.entries, entry.2.type.isRaid ∧ entry.2.mapid = map.id
  · rw [resetAllRaid_time hany]
    obtain ⟨entry, hentry, hraid, hmapid⟩ := hany
    rw [← hmapid, hunforced entry hentry hraid]
  · refine congrArg some (if_neg fun htrue => hany ?_).symm
    obtain ⟨entry, hentry, hmatch⟩ := any_eq_true.mp htrue
    rw [Bool.and_eq_true, decide_eq_true_eq, decide_eq_true_eq] at hmatch
    exact ⟨entry, hentry, isRaid_iff.mpr hmatch.1, hmatch.2⟩

def Meets (world : World) (s : DungeonResetScheduler) (input : Step) : Prop :=
  InUpdate world (Agreeing world) s input ∧ s.Unforced input

instance (world : World) (s : DungeonResetScheduler) (input : Step) : Decidable (s.Meets world input) :=
  inferInstanceAs (Decidable (_ ∧ _))

theorem Stored.step (h : s.Stored world) (hholds : s.Holds world) {input : Step}
    (hun : InUpdate world (Undisturbed world) s input) (hmeets : s.Meets world input) :
    (s.step world input).Stored world := by
  cases input with
  | update elapsed views =>
    exact (run_invariant (DungeonResetScheduler.pass world) (fun s view => Undisturbed world s view ∧ Agreeing world s view)
      (fun s => s.Holds world ∧ s.Stored world)
      (fun state view hstate hview => ⟨hstate.1.pass hview.1, hstate.2.pass hstate.1 hview.2⟩)
      ⟨hholds.elapse elapsed, h⟩ (Guarded.and _ hun hmeets.1)).2
  | resetAllRaid elapsed => exact Stored.resetAllRaid (s := s.elapse elapsed) h hmeets.2
  | scheduleReset add time mapid instanceId => exact h
  | executeDelayed =>
    intro entry hentry
    rw [settled_executeDelayed, time_executeDelayed]
    exact h entry hentry

-- The start of the server stores what it schedules.

theorem scheduleMap_other (now : Nat) (s : DungeonResetScheduler) {map : MapEntry} {mapid : UInt16} (h : mapid ≠ map.id) :
    (scheduleMap world now s map).stored mapid = s.stored mapid ∧
      (scheduleMap world now s map).resetTimeByMapId mapid = s.resetTimeByMapId mapid := by
  unfold scheduleMap
  split
  · refine ⟨?_, Function.update_of_ne h _ _⟩
    dsimp only [scheduleReset, setResetTimeFor]
    have hinserted : (if s.resetTimeByMapId map.id = 0 then insertRow s.stored
        (map.id, now / day * day + World.getMaxResetTimeFor map + world.diff) else s.stored) mapid = s.stored mapid := by
      split
      · exact if_neg h
      · rfl
    generalize (if s.resetTimeByMapId map.id = 0 then insertRow s.stored
        (map.id, now / day * day + World.getMaxResetTimeFor map + world.diff) else s.stored) = inserted at hinserted ⊢
    generalize (if s.resetTimeByMapId map.id = 0 then now / day * day + World.getMaxResetTimeFor map + world.diff
        else s.resetTimeByMapId map.id) = t
    split
    · rw [updateRow_of_ne _ h]
      exact hinserted
    · exact hinserted
  · exact ⟨rfl, rfl⟩

theorem scheduleMap_self (now : Nat) (s : DungeonResetScheduler) {map : MapEntry} (hreset : map.hasReset)
    (hloaded : s.resetTimeByMapId map.id = (s.stored map.id).getD 0) (hzero : s.stored map.id ≠ some 0) :
    (scheduleMap world now s map).stored map.id = some ((scheduleMap world now s map).resetTimeByMapId map.id) := by
  unfold scheduleMap
  rw [if_pos hreset]
  dsimp only [scheduleReset, setResetTimeFor]
  rw [Function.update_self, initialTime]
  cases hrow : s.stored map.id with
  | none =>
    rw [hrow, Option.getD_none] at hloaded
    rw [hloaded, if_pos rfl, if_pos rfl]
    split
    · rw [updateRow_self, insertRow, if_pos rfl, hrow]
      rfl
    · rw [insertRow, if_pos rfl, hrow]
      rfl
  | some before =>
    rw [hrow, Option.getD_some] at hloaded
    have hne : before ≠ 0 := fun heq => hzero (hrow.trans (congrArg some heq))
    rw [hloaded, if_neg hne, if_neg hne]
    split
    · rw [updateRow_self, hrow]
      rfl
    · exact hrow

theorem maps_other (now : Nat) (maps : List MapEntry) (s : DungeonResetScheduler) {mapid : UInt16}
    (h : mapid ∉ maps.map MapEntry.id) :
    (maps.foldl (scheduleMap world now) s).stored mapid = s.stored mapid ∧
      (maps.foldl (scheduleMap world now) s).resetTimeByMapId mapid = s.resetTimeByMapId mapid := by
  induction maps generalizing s with
  | nil => exact ⟨rfl, rfl⟩
  | cons map rest ih =>
    rw [map_cons, mem_cons, not_or] at h
    obtain ⟨hstored, htime⟩ := ih (scheduleMap world now s map) h.2
    obtain ⟨hstored', htime'⟩ := scheduleMap_other now s h.1
    exact ⟨hstored.trans hstored', htime.trans htime'⟩

theorem stored_maps (now : Nat) (maps : List MapEntry) (s : DungeonResetScheduler) (hnodup : (maps.map MapEntry.id).Nodup)
    (hloaded : ∀ map ∈ maps, map.hasReset →
      s.resetTimeByMapId map.id = (s.stored map.id).getD 0 ∧ s.stored map.id ≠ some 0) :
    ∀ map ∈ maps, map.hasReset → (maps.foldl (scheduleMap world now) s).stored map.id =
      some ((maps.foldl (scheduleMap world now) s).resetTimeByMapId map.id) := by
  induction maps generalizing s with
  | nil => simp
  | cons head rest ih =>
    rw [map_cons, nodup_cons] at hnodup
    intro map hmap hreset
    rcases mem_cons.mp hmap with rfl | hmap
    · obtain ⟨hstored, htime⟩ := maps_other now rest (scheduleMap world now s map) hnodup.1
      obtain ⟨hload, hzero⟩ := hloaded map mem_cons_self hreset
      rw [foldl_cons, hstored, htime]
      exact scheduleMap_self now s hreset hload hzero
    · refine ih (scheduleMap world now s head) hnodup.2 (fun other hother hother' => ?_) map hmap hreset
      have hne : other.id ≠ head.id := fun heq => hnodup.1 (heq ▸ mem_map_of_mem hother)
      obtain ⟨hstored, htime⟩ := scheduleMap_other now s hne
      rw [hstored, htime]
      exact hloaded other (mem_cons_of_mem _ hother) hother'

variable (world) in
-- No stored time is zero once it follows the hour of the configuration.
def Loadable (table : UInt16 → Option Nat) : Prop :=
  ∀ entry ∈ world.raids, ∀ old, table entry.id = some old → old / day * day + world.diff ≠ 0

theorem pending_maps (now : Nat) (maps : List MapEntry) :
    (maps.foldl (scheduleMap world now) s).pending = s.pending := by
  induction maps generalizing s with
  | nil => rfl
  | cons map rest ih =>
    rw [foldl_cons, ih, scheduleMap]
    split
    · rfl
    · rfl

theorem stored_scheduled {table : UInt16 → Option Nat} (hloadable : Loadable world table) (saved : List SavedInstance)
    (now : Nat) : (scheduled world table saved now).Stored world := by
  intro entry hentry
  obtain ⟨hmem, hreset⟩ := World.mem_raids.mp hentry
  unfold settled
  rw [show (scheduled world table saved now).pending = [] from pending_maps now world.maps]
  refine stored_maps now world.maps _ world.nodup (fun map hmap hreset => ⟨rfl, ?_⟩) entry hmem hreset
  have hdungeon : map.isDungeon = true := (Bool.and_eq_true _ _ ▸ hreset).1
  intro hzero
  simp only [loadResetTimes, World.lookup_of_mem hmap, if_pos hdungeon] at hzero
  obtain ⟨old, hold, heq⟩ := Option.map_eq_some_iff.mp hzero
  exact hloadable map (World.mem_raids.mpr ⟨hmap, hreset⟩) old hold heq

def Ahead (s : DungeonResetScheduler) : Prop := ∀ reset ∈ s.resets, reset.now < reset.next

theorem Ahead.pass (h : s.Ahead) (hprompt : Prompt world s view) : (s.pass world view).Ahead := by
  unfold DungeonResetScheduler.pass
  split
  · exact h
  · next t event hbegin =>
      split
      · next hdue =>
          split
          · exact h
          · split
            · exact h
            · next entry hlookup =>
                split
                · next hlast =>
                    intro reset hmem
                    unfold DungeonResetScheduler.reset at hmem
                    split at hmem
                    · rcases mem_append.mp hmem with hmem | hmem
                      · exact h reset hmem
                      · obtain rfl := mem_singleton.mp hmem
                        have hahead := hprompt _ (resetting_eq hbegin hdue hlast hlookup)
                        exact hahead
                    · exact h reset hmem
                · exact h
      · exact h

theorem Ahead.step (h : s.Ahead) {input : Step} (hprompt : InUpdate world (Prompt world) s input) :
    (s.step world input).Ahead := by
  cases input with
  | update elapsed views =>
    have hstart : (s.elapse elapsed).Ahead := h
    exact run_invariant (DungeonResetScheduler.pass world) (Prompt world) Ahead
      (fun state view hstate hview => hstate.pass hview) hstart hprompt
  | resetAllRaid elapsed => exact h
  | scheduleReset add time mapid instanceId => exact h
  | executeDelayed =>
    unfold DungeonResetScheduler.step
    dsimp only
    split
    · exact h
    · exact h

def lairEntry : MapEntry := ⟨249, .mapRaid, 1, by decide⟩

def lairWorld : World := ⟨[lairEntry], by decide, 4⟩

def quietView : View := ⟨0, [], false⟩

def lairStart : DungeonResetScheduler := scheduled lairWorld (fun _ => none) [] 907200

def lairSteps : List Step := [.update 57541 (List.replicate 4 quietView), .executeDelayed]

end DungeonResetScheduler

end TurtleWow.Instances

import TurtleWow.Events.Aborts
import TurtleWow.Events.Order

namespace TurtleWow.Events

open Run List

namespace EventProcessor

variable {w after : EventProcessor} {event time : Nat} {head : Entry} {rest : List Entry} {actions : List Action}
  {answer : Answer}

-- The entries whose time has come
def due (w : EventProcessor) : Nat := (w.events.filter fun entry => decide (entry.time ≤ w.time)).length

theorem due_insert (hloop : w.loop = .updating) (h : w.time < time) : (w.insert event time).due = w.due := by
  rw [due, time_insert, insert, behind_updating hloop]
  show ((insertEntry ⟨time, event, w.nextSeq⟩ w.events).filter _).length = _
  rw [((insertEntry_perm _ _).filter _).length_eq, filter_cons_of_neg, due]
  simp only [decide_eq_true_eq]
  omega

theorem due_run (hloop : w.loop = .updating) (hlegal : Guarded act LegalAction w actions) :
    (run act w actions).due = w.due := by
  refine (run_invariant _ LegalAction (fun v => v.loop = .updating ∧ v.due = w.due) (fun v action hkept haction => ?_)
    ⟨hloop, rfl⟩ hlegal).2
  refine ⟨(Calls.act haction).loop.trans hkept.1, ?_⟩
  cases action with
  | addEvent event time => exact (due_insert hkept.1 haction.2).trans hkept.2
  | scheduleAbort event =>
    rw [act, scheduleAbort_eq haction.2]
    exact hkept.2

theorem due_cons (hevents : w.events = head :: rest) (hdue : head.time ≤ w.time) (left : EventProcessor)
    (hleft : left.events = rest) (htime : left.time = w.time) : left.due < w.due := by
  have hhead : decide (head.time ≤ w.time) = true := decide_eq_true hdue
  rw [due, due, hleft, htime, hevents, filter_cons, if_pos hhead, length_cons]
  exact Nat.lt_succ_self _

theorem due_setAborted : (w.setAborted event).due = w.due := by
  rw [setAborted]
  split_ifs <;> rfl

theorem updateTurn_due (hloop : w.loop = .updating) (hclock : w.time + 1 < 18446744073709551616)
    (hlegal : w.LegalUpdate answer) :
    (w.updateTurn answer).loop = .idle ∨
      (w.updateTurn answer).loop = .updating ∧ (w.updateTurn answer).time = w.time ∧
        (w.updateTurn answer).due < w.due := by
  rw [LegalUpdate] at hlegal
  rw [updateTurn]
  split
  · exact .inl rfl
  · next head rest hevents =>
      rw [hevents] at hlegal
      split_ifs with hlater hrunning
      · exact .inl rfl
      · have hdue := Nat.le_of_not_lt hlater
        have hexecute := hlegal hdue
        rw [if_pos hrunning] at hexecute
        have hcalls := Calls.run hexecute.1
        have hless : (run act (w.take head rest) answer.actions).due < w.due := by
          rw [due_run (w := w.take head rest) hloop hexecute.1]
          exact due_cons hevents hdue (w.take head rest) rfl rfl
        refine .inr ?_
        rw [execute]
        split_ifs with hdestroy
        · exact ⟨hcalls.loop.trans hloop, hcalls.time, hless⟩
        · exact ⟨hcalls.loop.trans hloop, hcalls.time, hless⟩
      · have hdue := Nat.le_of_not_lt hlater
        have habort := hlegal hdue
        rw [if_neg hrunning] at habort
        have hless := due_cons hevents hdue (w.hold head rest) rfl rfl
        obtain ⟨hloop', htime, hdue'⟩ : (w.abort head rest answer).loop = .updating ∧
            (w.abort head rest answer).time = w.time ∧ (w.abort head rest answer).due < w.due := by
          rw [abort]
          split_ifs with hstate
          · have hcalls := Calls.run (habort hstate)
            rw [loop_setAborted, setAborted_time, due_setAborted,
              due_run (w := (w.hold head rest).record (.abort head.event)) hloop (habort hstate)]
            exact ⟨hcalls.loop.trans hloop, hcalls.time, hless⟩
          · exact ⟨hloop, rfl, hless⟩
        have hfuture : (w.abort head rest answer).time < (w.abort head rest answer).calculateTime 1 := by
          rw [calculateTime_one (by rw [htime]; exact hclock)]
          exact Nat.lt_succ_self _
        refine .inr ?_
        rw [drop]
        split_ifs with hdeletable
        · exact ⟨hloop', htime, hdue'⟩
        · exact ⟨loop_insert.trans hloop', time_insert.trans htime, (due_insert hloop' hfuture).symm ▸ hdue'⟩

theorem idle_turns (turns : List Answer) (h : w.loop = .idle) : run step w (turns.map .turn) = w := by
  induction turns with
  | nil => rfl
  | cons answer rest ih =>
    have hstep : w.step (.turn answer) = w := by rw [step, h]
    rw [map_cons, run_cons, hstep, ih]

theorem update_ends (turns : List Answer) : ∀ w : EventProcessor, w.loop = .updating →
    w.time + 1 < 18446744073709551616 → Guarded step Legal w (turns.map .turn) → w.due < turns.length →
      (run step w (turns.map .turn)).loop = .idle := by
  induction turns with
  | nil => exact fun w _ _ _ hless => absurd hless (Nat.not_lt_zero _)
  | cons answer rest ih =>
    intro w hloop hclock hguarded hless
    obtain ⟨hlegal, hrest⟩ := hguarded
    have hstep : w.step (.turn answer) = w.updateTurn answer := by rw [step, hloop]
    rw [Legal, hloop] at hlegal
    rw [hstep] at hrest
    rw [map_cons, run_cons, hstep]
    rcases updateTurn_due hloop hclock hlegal with hidle | ⟨hupdating, htime, hdue⟩
    · rw [idle_turns rest hidle]
      exact hidle
    · refine ih _ hupdating (by rw [htime]; exact hclock) hrest ?_
      rw [length_cons] at hless
      omega

-- What holds between any two steps of a run
structure Timely (w : EventProcessor) : Prop where
  deletedOnce : w.deleted.Nodup
  destroyed : w.loop = .destroyed → ∀ event ∈ w.created, event ∈ w.deleted ∨ event ∈ w.released
  abortedOnce : w.aborts.Nodup
  aborted : ∀ event, event ∈ w.aborts ↔ w.abortState event = .aborted
  carried : ∀ event, .deleted event false ∈ w.trace → event ∈ w.aborts
  quiet : w.trace.Pairwise Quiet
  ran : w.ran.Pairwise Before
  ends : w.loop = .updating → ∀ turns : List Answer, Guarded step Legal w (turns.map .turn) →
    w.due < turns.length → (run step w (turns.map .turn)).loop = .idle
  failed : w.failed = false

-- Nothing is added in the past from outside either.
def NotPast (w : EventProcessor) : Input → Prop
  | .addEvent _ time => w.time ≤ time
  | _ => True

structure Kept (w : EventProcessor) : Prop where
  accounted : w.Accounted
  flagged : w.Flagged
  sorted : w.Sorted
  ran : w.ran.Pairwise Before
  led : w.loop = .updating → Led w.ran w
  clock : w.loop = .updating → w.time + 1 < 18446744073709551616
  final : ∀ force, w.loop = .killing force true → force = true
  destroyed : w.loop = .destroyed → w.entries = []

theorem kept_new : new.Kept where
  accounted := accounted_new
  flagged := flagged_new
  sorted := ⟨List.Pairwise.nil, fun _ h => absurd h not_mem_nil⟩
  ran := List.Pairwise.nil
  led := fun h => by cases h
  clock := fun h => by cases h
  final := fun _ h => by cases h
  destroyed := fun h => by cases h

theorem Kept.turned (h : w.Kept) {input : Input} (hmeets : w.Meets input) (hturn : ∃ answer, input = .turn answer) :
    Turned w (w.step input) := by
  obtain ⟨answer, rfl⟩ := hturn
  obtain ⟨hlegal, -⟩ := hmeets
  rw [step]
  rw [Legal] at hlegal
  split
  · exact Turned.quiet h.sorted (List.Sublist.refl _) rfl rfl rfl rfl
  · next hloop =>
      rw [hloop] at hlegal
      have hkilling : ∀ force final, w.loop ≠ .killing force final := by simp [hloop]
      exact Turned.updateTurn h.sorted hloop (h.accounted.passed hkilling) (h.clock hloop) hlegal
  · next force final hloop =>
      rw [hloop] at hlegal
      exact Turned.killTurn h.sorted hloop hlegal
  · exact Turned.quiet h.sorted (List.Sublist.refl _) rfl rfl rfl rfl

theorem Kept.loop_turn (h : w.Kept) (hmeets : w.Meets (.turn answer)) :
    ((w.step (.turn answer)).loop = .updating → w.loop = .updating) ∧
      (∀ force, (w.step (.turn answer)).loop = .killing force true → force = true) ∧
        ((w.step (.turn answer)).loop = .destroyed → (w.step (.turn answer)).entries = []) := by
  obtain ⟨hlegal, -⟩ := hmeets
  rw [step]
  rw [Legal] at hlegal
  split
  · exact ⟨id, h.final, h.destroyed⟩
  · next hloop =>
      rw [hloop] at hlegal
      rcases updateTurn_due hloop (h.clock hloop) hlegal with hidle | ⟨hupdating, -, -⟩
      · simp [hidle]
      · simp [hupdating, hloop]
  · next force final hloop =>
      rw [hloop] at hlegal
      rw [killTurn]
      split
      · have hforce := h.final force
        rw [hloop] at hforce
        cases final with
        | false => simp
        | true =>
          rw [hforce rfl]
          simp [entries]
      · next head rest hevents =>
          rw [LegalKill, hevents] at hlegal
          have hat : At head w := ⟨⟨force, final, hloop⟩, by rw [hevents]; rfl⟩
          rw [(fields_advance (w.kill head answer) head force answer).2, (kill_keeps hat hlegal).2.2]
          exact ⟨id, h.final, fun hdestroyed => by rw [hloop] at hdestroyed; cases hdestroyed⟩
  · exact ⟨id, h.final, h.destroyed⟩

theorem ran_turn (hloop : w.loop ≠ .updating) (hlegal : w.Legal (.turn answer)) :
    (w.step (.turn answer)).ran = w.ran := by
  rw [step]
  rw [Legal] at hlegal
  split
  · rfl
  · next hupdating => exact absurd hupdating hloop
  · next force final hkilling =>
      rw [hkilling, LegalKill] at hlegal
      rw [killTurn]
      split
      · rfl
      · next head rest hevents =>
          rw [hevents] at hlegal
          have hkill : (w.kill head answer).ran = w.ran := by
            rw [kill]
            split_ifs with hstate
            · rfl
            · refine (Calls.run (hlegal hstate)).ran.trans ?_
              rw [setAborted, if_neg hstate]
              rfl
          rw [advance]
          split_ifs <;> exact hkill
  · rfl

theorem Kept.step (h : w.Kept) {input : Input} (hmeets : w.Meets input) : (w.step input).Kept := by
  have haccounted := h.accounted.step hmeets
  have hflagged := h.flagged.step hmeets.1
  cases input with
  | addEvent event time =>
    have hidle : w.loop = .idle := hmeets.1.1
    have hpassed := h.accounted.passed (by simp [hidle])
    have hloop : (w.step (.addEvent event time)).loop = .idle := loop_insert.trans hidle
    have hran : (w.step (.addEvent event time)).ran = w.ran := ran_insert
    have hsorted : (w.insert event time).Sorted := h.sorted.insert (.inl ⟨hpassed, by simp [hidle]⟩)
    exact ⟨haccounted, hflagged, hsorted.sublist (List.Sublist.refl _) rfl, hran.symm ▸ h.ran,
      by simp [hloop], by simp [hloop], by simp [hloop], by simp [hloop]⟩
  | scheduleAbort event =>
    have hidle : w.loop = .idle := hmeets.1.1
    have hcalls := Calls.scheduleAbort hmeets.1.2
    have hloop : (w.step (.scheduleAbort event)).loop = .idle := hcalls.loop.trans hidle
    have hran : (w.step (.scheduleAbort event)).ran = w.ran := hcalls.ran
    have hsorted : (w.scheduleAbort event).Sorted := by
      rw [scheduleAbort_eq hmeets.1.2.2]
      exact h.sorted.sublist (List.Sublist.refl _) rfl
    exact ⟨haccounted, hflagged, hsorted, hran.symm ▸ h.ran,
      by simp [hloop], by simp [hloop], by simp [hloop], by simp [hloop]⟩
  | update pTime =>
    have hclock : w.time + pTime + 1 < 18446744073709551616 := hmeets.2
    have htime : (w.step (.update pTime)).time = w.time + pTime := Nat.mod_eq_of_lt (by omega)
    refine ⟨haccounted, hflagged, h.sorted.sublist (List.Sublist.refl _) rfl, List.Pairwise.nil, fun _ => ?_,
      fun _ => by rw [htime]; exact hclock, (by intro force h; cases h), (by intro h; cases h)⟩
    exact ⟨List.Pairwise.nil, fun _ h => absurd h not_mem_nil, fun _ h => absurd h not_mem_nil,
      fun _ h => absurd h not_mem_nil⟩
  | killAllEvents force =>
    exact ⟨haccounted, hflagged, h.sorted.sublist (List.Sublist.refl _) rfl, h.ran, (by intro h; cases h),
      (by intro h; cases h), (by intro force h; cases h), (by intro h; cases h)⟩
  | destroy =>
    exact ⟨haccounted, hflagged, h.sorted.sublist (List.Sublist.refl _) rfl, h.ran, (by intro h; cases h),
      (by intro h; cases h), (by intro force h; cases h; rfl), (by intro h; cases h)⟩
  | turn answer =>
    have hturned := h.turned hmeets ⟨answer, rfl⟩
    obtain ⟨hupdating, hfinal, hdestroyed⟩ := h.loop_turn hmeets
    obtain ⟨more, hran, -, hled⟩ := hturned.ran
    refine ⟨haccounted, hflagged, hturned.sorted, ?_, fun hloop => ?_, fun hloop => ?_, hfinal, hdestroyed⟩
    · by_cases hloop : w.loop = .updating
      · rw [hran]
        exact (hled _ (h.led hloop)).before
      · rw [ran_turn hloop hmeets.1]
        exact h.ran
    · rw [hran]
      exact hled _ (h.led (hupdating hloop))
    · rw [hturned.time]
      exact h.clock (hupdating hloop)

theorem Kept.timely (h : w.Kept) : w.Timely where
  deletedOnce := nodup_iff_count_le_one.mpr fun event => by
    have hcounts := h.accounted.placed.counts event
    have honce := nodup_iff_count_le_one.mp h.accounted.placed.once event
    omega
  destroyed := by
    intro hdestroyed event hcreated
    have hcounts := h.accounted.placed.counts event
    have hpos := count_pos_iff.mpr hcreated
    have hheld : w.held.count event = 0 := by
      have hempty := h.destroyed hdestroyed
      obtain ⟨hpassed, hevents⟩ := append_eq_nil_iff.mp hempty
      rw [held, hpassed, hevents, map_nil, ite_self]
      rfl
    rw [h.accounted.event, hheld, Option.toList_none, count_nil] at hcounts
    by_cases hdeleted : event ∈ w.deleted
    · exact .inl hdeleted
    · rw [count_eq_zero.mpr hdeleted] at hcounts
      exact .inr (count_pos_iff.mp (by omega))
  abortedOnce := nodup_iff_count_le_one.mpr fun event => by
    rw [h.flagged.aborts]
    split_ifs <;> omega
  aborted := by
    intro event
    rw [← count_pos_iff, h.flagged.aborts]
    split_ifs with hstate <;> simp [hstate]
  carried := by
    intro event hmem
    rw [← count_pos_iff, h.flagged.aborts, if_pos (h.flagged.carried event hmem)]
    exact Nat.one_pos
  quiet := h.flagged.quiet
  ran := h.ran
  ends := fun hloop turns hguarded hless => update_ends turns w hloop (h.clock hloop) hguarded hless
  failed := h.flagged.failed

-- The executions of all updates are in order when nothing is added in the past.
theorem Kept.history (h : w.Kept) (hled : Led w.executions w) {input : Input} (hmeets : w.Meets input)
    (hnot : w.NotPast input) : Led (w.step input).executions (w.step input) := by
  cases input with
  | addEvent event time =>
    have hexecutions : (w.step (.addEvent event time)).executions = w.executions := Calls.addEvent.executions
    rw [hexecutions]
    exact (hled.insert hnot).sublist (Nat.le_refl _) rfl (List.Sublist.refl _)
  | scheduleAbort event =>
    have hexecutions : (w.step (.scheduleAbort event)).executions = w.executions :=
      (Calls.scheduleAbort hmeets.1.2).executions
    rw [hexecutions]
    show Led w.executions (w.scheduleAbort event)
    rw [scheduleAbort_eq hmeets.1.2.2]
    exact hled.sublist (Nat.le_refl _) rfl (List.Sublist.refl _)
  | update pTime =>
    have hclock : w.time + pTime + 1 < 18446744073709551616 := hmeets.2
    have htime : (w.step (.update pTime)).time = w.time + pTime := Nat.mod_eq_of_lt (by omega)
    exact hled.sublist (by rw [htime]; exact Nat.le_add_right _ _) rfl (List.Sublist.refl _)
  | killAllEvents force => exact hled.sublist (Nat.le_refl _) rfl (List.Sublist.refl _)
  | destroy => exact hled.sublist (Nat.le_refl _) rfl (List.Sublist.refl _)
  | turn answer =>
    obtain ⟨more, -, hexecutions, hmore⟩ := (h.turned hmeets ⟨answer, rfl⟩).ran
    rw [hexecutions]
    exact hmore _ hled

-- Every event is deleted once, aborted once and executed in the order of the
-- times in every run whose forced loops add nothing in front of the iterator.
theorem timely_run (inputs : List Input) (hmeets : Guarded step Meets new inputs) :
    (run step new inputs).Timely ∧
      (Guarded step NotPast new inputs → (run step new inputs).executions.Pairwise Before) := by
  constructor
  · exact (run_invariant step Meets Kept (fun _ _ h hmeets => h.step hmeets) kept_new hmeets).timely
  · intro hnot
    have hled : Led new.executions new := ⟨List.Pairwise.nil, fun _ h => absurd h List.not_mem_nil,
      fun _ h => absurd h List.not_mem_nil, fun _ h => absurd h List.not_mem_nil⟩
    exact (run_invariant step _ (fun w => w.Kept ∧ Led w.executions w)
      (fun _ _ h hboth => ⟨h.1.step hboth.1, h.1.history h.2 hboth.1 hboth.2⟩) ⟨kept_new, hled⟩
      (hmeets.and step hnot)).2.before

-- An event that is executed and added again, and one whose abort adds a third
private def answered : List Input :=
  [.addEvent 1 5, .addEvent 2 5, .scheduleAbort 2, .update 5, .turn ⟨[.addEvent 1 9], false, true⟩,
    .turn ⟨[.addEvent 3 7], false, false⟩, .turn ⟨[], false, false⟩, .destroy, .turn ⟨[], false, true⟩,
    .turn ⟨[.addEvent 4 8], false, true⟩, .turn ⟨[], false, true⟩, .turn ⟨[], false, true⟩, .turn ⟨[], false, true⟩]

theorem timely_run_answered : (run step new answered).Timely :=
  (timely_run answered (by decide +kernel)).1

-- The abort of a forced loop adds an event that comes first: it is never deleted.
theorem not_timely_run :
    ¬∀ inputs : List Input, Guarded step Legal new inputs → (run step new inputs).Timely := by
  intro h
  have hlost := (h [.addEvent 1 100, .destroy, .turn ⟨[.addEvent 2 1], false, true⟩, .turn ⟨[], false, true⟩]
    (by decide +kernel)).destroyed (by decide +kernel) 2 (by decide +kernel)
  exact absurd hlost (by decide +kernel)

end EventProcessor

end TurtleWow.Events

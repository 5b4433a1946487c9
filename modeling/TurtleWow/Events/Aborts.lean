import TurtleWow.Events.Callbacks

namespace TurtleWow.Events

open Run List

-- The abort states against what has been called: Abort once for every event
-- that is aborted, and no Execute once an abort is scheduled.

-- What may stand in front of an execution
def Quiet (first second : Record) : Prop :=
  ∀ entry, second = .executed entry → first ≠ .abortScheduled entry.event ∧ first ≠ .abort entry.event

namespace EventProcessor

variable {w after : EventProcessor} {event : Nat} {head : Entry} {rest : List Entry} {answer : Answer}

structure Flagged (w : EventProcessor) : Prop where
  aborts : ∀ event, w.aborts.count event = if w.abortState event = .aborted then 1 else 0
  carried : ∀ event, .deleted event false ∈ w.trace → w.abortState event = .aborted
  stopped : ∀ event, .abortScheduled event ∈ w.trace ∨ .abort event ∈ w.trace → w.abortState event ≠ .running
  quiet : w.trace.Pairwise Quiet
  failed : w.failed = false

theorem flagged_new : new.Flagged :=
  ⟨fun _ => rfl, fun _ h => absurd h not_mem_nil, fun _ h => h.elim (absurd · not_mem_nil) (absurd · not_mem_nil),
    List.Pairwise.nil, rfl⟩

theorem Flagged.congr (h : w.Flagged) (htrace : after.trace = w.trace) (hstate : after.abortState = w.abortState)
    (hfailed : after.failed = w.failed) : after.Flagged := by
  have haborts : after.aborts = w.aborts := by rw [EventProcessor.aborts, htrace, EventProcessor.aborts]
  exact ⟨fun event => by rw [haborts, hstate]; exact h.aborts event,
    fun event => by rw [htrace, hstate]; exact h.carried event,
    fun event => by rw [htrace, hstate]; exact h.stopped event, htrace ▸ h.quiet, hfailed.trans h.failed⟩

theorem aborted_ne_running : AbortState.aborted ≠ .running := fun h => by cases h

theorem Flagged.calls (h : w.Flagged) (hcalls : Calls w after) : after.Flagged := by
  obtain ⟨events, htrace, hevents⟩ := hcalls.trace
  have hscheduled : ∀ r ∈ events.map Record.abortScheduled, ∃ event ∈ events, r = .abortScheduled event := by
    intro r hr
    obtain ⟨event, hevent, rfl⟩ := mem_map.mp hr
    exact ⟨event, hevent, rfl⟩
  constructor
  · intro event
    rw [hcalls.aborts, h.aborts]
    rcases hcalls.states event with hsame | ⟨hrunning, hafter⟩
    · rw [hsame]
    · rw [hrunning, hafter]
      rfl
  · intro event hmem
    rw [htrace] at hmem
    rcases mem_append.mp hmem with hold | hnew
    · have hstate := h.carried event hold
      rw [hcalls.stopped (by rw [hstate]; exact aborted_ne_running), hstate]
    · obtain ⟨_, -, heq⟩ := hscheduled _ hnew
      cases heq
  · intro event hmem
    rw [htrace, mem_append, mem_append] at hmem
    rcases hmem with (hold | hnew) | (hold | hnew)
    · have hstate := h.stopped event (.inl hold)
      rw [hcalls.stopped hstate]
      exact hstate
    · obtain ⟨other, hother, heq⟩ := hscheduled _ hnew
      cases heq
      exact hevents event hother
    · have hstate := h.stopped event (.inr hold)
      rw [hcalls.stopped hstate]
      exact hstate
    · obtain ⟨_, -, heq⟩ := hscheduled _ hnew
      cases heq
  · rw [htrace, pairwise_append]
    refine ⟨h.quiet, ?_, ?_⟩
    · rw [pairwise_map]
      exact pairwise_of_forall fun _ _ entry heq => by cases heq
    · intro first _ second hsecond entry heq
      obtain ⟨_, -, hscheduled⟩ := hscheduled _ hsecond
      cases hscheduled.symm.trans heq
  · exact hcalls.failed.trans h.failed

private theorem quiet_append {trace : List Record} {r : Record} (h : trace.Pairwise Quiet)
    (hr : ∀ first ∈ trace, Quiet first r) : (trace ++ [r]).Pairwise Quiet := by
  refine pairwise_append.mpr ⟨h, pairwise_singleton _ _, fun first hfirst second hsecond => ?_⟩
  rw [mem_singleton.mp hsecond]
  exact hr first hfirst

theorem Flagged.record_executed (h : w.Flagged) (hrunning : w.abortState head.event = .running) :
    (w.record (.executed head)).Flagged := by
  have haborts : (w.record (.executed head)).aborts = w.aborts := by
    rw [aborts_record]
    exact append_nil _
  constructor
  · intro event
    rw [haborts]
    exact h.aborts event
  · intro event hmem
    rcases mem_append.mp hmem with hold | hnew
    · exact h.carried event hold
    · cases mem_singleton.mp hnew
  · rintro event (hmem | hmem)
    all_goals rcases mem_append.mp hmem with hold | hnew
    · exact h.stopped event (.inl hold)
    · cases mem_singleton.mp hnew
    · exact h.stopped event (.inr hold)
    · cases mem_singleton.mp hnew
  · refine quiet_append h.quiet fun first hfirst entry heq => ?_
    cases heq
    constructor
    · rintro rfl
      exact h.stopped head.event (.inl hfirst) hrunning
    · rintro rfl
      exact h.stopped head.event (.inr hfirst) hrunning
  · exact h.failed

theorem Flagged.record_deleted (h : w.Flagged) {executed : Bool}
    (hstate : executed = false → w.abortState event = .aborted) : (w.record (.deleted event executed)).Flagged := by
  have haborts : (w.record (.deleted event executed)).aborts = w.aborts := by
    rw [aborts_record]
    exact append_nil _
  constructor
  · intro other
    rw [haborts]
    exact h.aborts other
  · intro other hmem
    rcases mem_append.mp hmem with hold | hnew
    · exact h.carried other hold
    · cases mem_singleton.mp hnew
      exact hstate rfl
  · rintro other (hmem | hmem)
    all_goals rcases mem_append.mp hmem with hold | hnew
    · exact h.stopped other (.inl hold)
    · cases mem_singleton.mp hnew
    · exact h.stopped other (.inr hold)
    · cases mem_singleton.mp hnew
  · exact quiet_append h.quiet fun first _ entry heq => by cases heq
  · exact h.failed

theorem Flagged.mark (h : w.Flagged) (hstate : w.abortState event ≠ .aborted) :
    ((w.setState event .aborted).record (.abort event)).Flagged := by
  have haborts : ((w.setState event .aborted).record (.abort event)).aborts = w.aborts ++ [event] := by
    rw [aborts_record]
    rfl
  have hself : ((w.setState event .aborted).record (.abort event)).abortState event = .aborted := if_pos rfl
  have hother : ∀ other, other ≠ event →
      ((w.setState event .aborted).record (.abort event)).abortState other = w.abortState other :=
    fun other hne => if_neg hne
  have hkept : ∀ other, w.abortState other ≠ .running →
      ((w.setState event .aborted).record (.abort event)).abortState other ≠ .running := by
    intro other hstopped
    by_cases hsame : other = event
    · rw [hsame, hself]
      exact aborted_ne_running
    · rw [hother other hsame]
      exact hstopped
  constructor
  · intro other
    rw [haborts, count_append, count_singleton, h.aborts]
    by_cases hsame : other = event
    · rw [hsame, hself, if_neg hstate]
      simp
    · rw [hother other hsame, beq_eq_false_iff_ne.mpr (Ne.symm hsame)]
      rfl
  · intro other hmem
    rcases mem_append.mp hmem with hold | hnew
    · by_cases hsame : other = event
      · rw [hsame, hself]
      · rw [hother other hsame]
        exact h.carried other hold
    · cases mem_singleton.mp hnew
  · rintro other (hmem | hmem)
    all_goals rcases mem_append.mp hmem with hold | hnew
    · exact hkept other (h.stopped other (.inl hold))
    · cases mem_singleton.mp hnew
    · exact hkept other (h.stopped other (.inr hold))
    · cases mem_singleton.mp hnew
      rw [hself]
      exact aborted_ne_running
  · exact quiet_append h.quiet fun first _ entry heq => by cases heq
  · exact h.failed

variable (event) in
theorem Calls.mark (h : Calls w after) : Calls (w.setState event .aborted) (after.setState event .aborted) where
  time := h.time
  loop := h.loop
  event := h.event
  ran := h.ran
  failed := h.failed
  states := by
    intro other
    by_cases hsame : other = event
    · exact .inl ((if_pos hsame).trans (if_pos hsame).symm)
    · have hw : (w.setState event .aborted).abortState other = w.abortState other := if_neg hsame
      have hafter : (after.setState event .aborted).abortState other = after.abortState other := if_neg hsame
      rw [hw, hafter]
      exact h.states other
  trace := by
    obtain ⟨events, htrace, hevents⟩ := h.trace
    refine ⟨events, htrace, fun other hmem => ?_⟩
    by_cases hsame : other = event
    · have hafter : (after.setState event .aborted).abortState other = .aborted := if_pos hsame
      rw [hafter]
      exact aborted_ne_running
    · have hafter : (after.setState event .aborted).abortState other = after.abortState other := if_neg hsame
      rw [hafter]
      exact hevents other hmem

section

variable (h : w.Flagged)

include h

theorem Flagged.execute (hrunning : w.abortState head.event = .running)
    (hlegal : w.LegalExecute head rest answer) : (w.execute head rest answer).Flagged := by
  have htaken : (w.take head rest).Flagged := (h.record_executed hrunning).congr rfl rfl rfl
  have hcalled := htaken.calls (Calls.run hlegal.1)
  rw [EventProcessor.execute]
  split_ifs with hdestroy
  · exact (hcalled.record_deleted fun hfalse => by cases hfalse).congr rfl rfl rfl
  · exact hcalled

theorem Flagged.abort (hstopped : w.abortState head.event ≠ .running) (hlegal : w.LegalAbort head rest answer) :
    (w.abort head rest answer).Flagged ∧ (w.abort head rest answer).abortState head.event = .aborted := by
  rw [EventProcessor.abort]
  have hhold : (w.hold head rest).Flagged := h.congr rfl rfl rfl
  split_ifs with hscheduled
  · have hcalls := Calls.run (hlegal hscheduled)
    have hmark := Calls.mark head.event hcalls
    have hne : w.abortState head.event ≠ .aborted := by rw [hscheduled]; exact fun h => by cases h
    have hstate : (run act ((w.hold head rest).record (.abort head.event)) answer.actions).abortState head.event ≠
        .aborted := by
      rw [hcalls.stopped hstopped]
      exact hne
    rw [setAborted, if_neg hstate]
    exact ⟨(hhold.mark hne).calls hmark, if_pos rfl⟩
  · refine ⟨hhold, ?_⟩
    cases hstate : w.abortState head.event with
    | running => exact absurd hstate hstopped
    | abortScheduled => exact absurd hstate hscheduled
    | aborted => exact hstate

theorem Flagged.drop (hstate : w.abortState event = .aborted) (answer : Answer) : (w.drop event answer).Flagged := by
  rw [EventProcessor.drop]
  split_ifs with hdeletable
  · exact (h.record_deleted fun _ => hstate).congr rfl rfl rfl
  · exact h.congr trace_insert abortState_insert failed_insert

theorem Flagged.updateTurn (hlegal : w.LegalUpdate answer) : (w.updateTurn answer).Flagged := by
  rw [LegalUpdate] at hlegal
  rw [EventProcessor.updateTurn]
  split
  · exact h.congr rfl rfl rfl
  · next head rest hevents =>
      rw [hevents] at hlegal
      split_ifs with hlater hrunning
      · exact h.congr rfl rfl rfl
      · have hexecute := hlegal (Nat.le_of_not_lt hlater)
        rw [if_pos hrunning] at hexecute
        exact h.execute hrunning hexecute
      · have habort := hlegal (Nat.le_of_not_lt hlater)
        rw [if_neg hrunning] at habort
        obtain ⟨hflagged, hstate⟩ := h.abort hrunning habort
        exact hflagged.drop hstate answer

theorem Flagged.killTurn (hlegal : w.LegalKill answer) (force final : Bool) :
    (w.killTurn force final answer).Flagged := by
  rw [LegalKill] at hlegal
  rw [EventProcessor.killTurn]
  split
  · exact h.congr rfl rfl rfl
  · next head rest hevents =>
      rw [hevents] at hlegal
      obtain ⟨hkilled, hstate⟩ : (w.kill head answer).Flagged ∧
          (w.kill head answer).abortState head.event = .aborted := by
        rw [EventProcessor.kill]
        split_ifs with haborted
        · exact ⟨h, haborted⟩
        · have hcalls := Calls.run (hlegal haborted)
          rw [setAborted, if_neg haborted] at hcalls ⊢
          have hself : ((w.setState head.event .aborted).record (.abort head.event)).abortState head.event =
              .aborted := if_pos rfl
          exact ⟨(h.mark haborted).calls hcalls,
            (hcalls.stopped (by rw [hself]; exact aborted_ne_running)).trans hself⟩
      rw [EventProcessor.advance]
      split_ifs
      · exact hkilled.congr rfl rfl rfl
      · exact (hkilled.record_deleted fun _ => hstate).congr rfl rfl rfl
      · exact (hkilled.record_deleted fun _ => hstate).congr rfl rfl rfl

theorem Flagged.step {input : Input} (hlegal : w.Legal input) : (w.step input).Flagged := by
  cases input with
  | addEvent event time => exact h.calls Calls.addEvent
  | scheduleAbort event => exact h.calls (Calls.scheduleAbort hlegal.2)
  | update pTime => exact h.congr rfl rfl rfl
  | killAllEvents force => exact h.congr rfl rfl rfl
  | destroy => exact h.congr rfl rfl rfl
  | turn answer =>
    rw [EventProcessor.step]
    rw [Legal] at hlegal
    split
    · exact h
    · next hloop =>
        rw [hloop] at hlegal
        exact h.updateTurn hlegal
    · next force final hloop =>
        rw [hloop] at hlegal
        exact h.killTurn hlegal force final
    · exact h

end

end EventProcessor

end TurtleWow.Events

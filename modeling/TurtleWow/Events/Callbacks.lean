import TurtleWow.Events.Processor

namespace TurtleWow.Events

open Run List

-- What the callbacks of one turn change: they add entries and schedule aborts.

namespace EventProcessor

variable {w after : EventProcessor} {event time : Nat} {r : Record} {actions : List Action}

@[simp] theorem time_insert : (w.insert event time).time = w.time := by
  unfold insert
  split <;> rfl

@[simp] theorem abortState_insert : (w.insert event time).abortState = w.abortState := by
  unfold insert
  split <;> rfl

@[simp] theorem loop_insert : (w.insert event time).loop = w.loop := by
  unfold insert
  split <;> rfl

@[simp] theorem event_insert : (w.insert event time).event = w.event := by
  unfold insert
  split <;> rfl

@[simp] theorem nextSeq_insert : (w.insert event time).nextSeq = w.nextSeq + 1 := by
  unfold insert
  split <;> rfl

@[simp] theorem created_insert : (w.insert event time).created = w.created := by
  unfold insert
  split <;> rfl

@[simp] theorem released_insert : (w.insert event time).released = w.released := by
  unfold insert
  split <;> rfl

@[simp] theorem trace_insert : (w.insert event time).trace = w.trace := by
  unfold insert
  split <;> rfl

@[simp] theorem ran_insert : (w.insert event time).ran = w.ran := by
  unfold insert
  split <;> rfl

@[simp] theorem failed_insert : (w.insert event time).failed = w.failed := by
  unfold insert
  split <;> rfl

-- What the callbacks leave alone, and what they do to the others
structure Calls (w after : EventProcessor) : Prop where
  time : after.time = w.time
  loop : after.loop = w.loop
  event : after.event = w.event
  ran : after.ran = w.ran
  failed : after.failed = w.failed
  states : ∀ event, after.abortState event = w.abortState event ∨
    w.abortState event = .running ∧ after.abortState event = .abortScheduled
  trace : ∃ events : List Nat, after.trace = w.trace ++ events.map .abortScheduled ∧
    ∀ event ∈ events, after.abortState event ≠ .running

theorem Calls.refl (w : EventProcessor) : Calls w w where
  time := rfl
  loop := rfl
  event := rfl
  ran := rfl
  failed := rfl
  states := fun _ => .inl rfl
  trace := ⟨[], (append_nil _).symm, fun _ h => absurd h not_mem_nil⟩

theorem Calls.stopped (h : Calls w after) (hstate : w.abortState event ≠ .running) :
    after.abortState event = w.abortState event := by
  rcases h.states event with hsame | ⟨hrunning, -⟩
  · exact hsame
  · exact absurd hrunning hstate

theorem Calls.trans {last : EventProcessor} (first : Calls w after) (second : Calls after last) : Calls w last where
  time := second.time.trans first.time
  loop := second.loop.trans first.loop
  event := second.event.trans first.event
  ran := second.ran.trans first.ran
  failed := second.failed.trans first.failed
  states := by
    intro event
    rcases first.states event with hsame | ⟨hrunning, hscheduled⟩
    · rw [← hsame]
      exact second.states event
    · refine .inr ⟨hrunning, ?_⟩
      rw [second.stopped (by rw [hscheduled]; exact fun h => by cases h), hscheduled]
  trace := by
    obtain ⟨events, htrace, hevents⟩ := first.trace
    obtain ⟨more, hmore, hrest⟩ := second.trace
    refine ⟨events ++ more, by rw [hmore, htrace, map_append, append_assoc], fun event hevent => ?_⟩
    rcases mem_append.mp hevent with hfirst | hsecond
    · rw [second.stopped (hevents event hfirst)]
      exact hevents event hfirst
    · exact hrest event hsecond

theorem Calls.addEvent : Calls w (w.addEvent event time) where
  time := time_insert
  loop := loop_insert
  event := event_insert
  ran := ran_insert
  failed := failed_insert
  states := fun other => .inl (congrFun abortState_insert other)
  trace := ⟨[], by rw [map_nil, append_nil]; exact trace_insert, fun _ h => absurd h not_mem_nil⟩

theorem scheduleAbort_eq (h : w.abortState event = .running) :
    w.scheduleAbort event = (w.setState event .abortScheduled).record (.abortScheduled event) := if_pos h

theorem Calls.scheduleAbort (h : w.Abortable event) : Calls w (w.scheduleAbort event) := by
  rw [scheduleAbort_eq h.2]
  refine ⟨rfl, rfl, rfl, rfl, rfl, fun other => ?_, [event], rfl, fun other hother => ?_⟩
  · by_cases hother : other = event
    · exact .inr ⟨hother ▸ h.2, if_pos hother⟩
    · exact .inl (if_neg hother)
  · have hstate : ((w.setState event .abortScheduled).record (.abortScheduled event)).abortState other =
        .abortScheduled := if_pos (mem_singleton.mp hother)
    rw [hstate]
    exact fun h => by cases h

theorem Calls.act {action : Action} (h : w.LegalAction action) : Calls w (w.act action) := by
  cases action with
  | addEvent event time => exact Calls.addEvent
  | scheduleAbort event => exact Calls.scheduleAbort h

theorem Calls.run (h : Guarded EventProcessor.act LegalAction w actions) : Calls w (run EventProcessor.act w actions) :=
  run_rel EventProcessor.act LegalAction (fun _ => True) Calls Calls.refl (fun _ _ _ => Calls.trans)
    (fun _ _ _ haction => ⟨trivial, Calls.act haction⟩) trivial h

private theorem filterMap_scheduled {β : Type} (f : Record → Option β) (hf : ∀ event, f (.abortScheduled event) = none)
    (events : List Nat) : (events.map Record.abortScheduled).filterMap f = [] := by
  rw [filterMap_map, filterMap_eq_nil_iff]
  exact fun event _ => hf event

theorem Calls.deleted (h : Calls w after) : after.deleted = w.deleted := by
  obtain ⟨events, htrace, -⟩ := h.trace
  simp only [EventProcessor.deleted, htrace, filterMap_append]
  rw [filterMap_scheduled _ (fun _ => rfl), append_nil]

theorem Calls.aborts (h : Calls w after) : after.aborts = w.aborts := by
  obtain ⟨events, htrace, -⟩ := h.trace
  simp only [EventProcessor.aborts, htrace, filterMap_append]
  rw [filterMap_scheduled _ (fun _ => rfl), append_nil]

theorem Calls.executions (h : Calls w after) : after.executions = w.executions := by
  obtain ⟨events, htrace, -⟩ := h.trace
  simp only [EventProcessor.executions, htrace, filterMap_append]
  rw [filterMap_scheduled _ (fun _ => rfl), append_nil]

theorem deleted_record : (w.record r).deleted = w.deleted ++ [r].filterMap fun | .deleted event _ => some event | _ => none :=
  filterMap_append

theorem aborts_record : (w.record r).aborts = w.aborts ++ [r].filterMap fun | .abort event => some event | _ => none :=
  filterMap_append

theorem executions_record :
    (w.record r).executions = w.executions ++ [r].filterMap fun | .executed entry => some entry | _ => none :=
  filterMap_append

end EventProcessor

end TurtleWow.Events

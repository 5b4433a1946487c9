import Mathlib.Data.List.Nodup
import TurtleWow.Events.Callbacks

namespace TurtleWow.Events

open Run List

-- Where every event is: in the container, in the hands of Update, released by
-- its Execute, or deleted.

theorem insertEntry_perm (entry : Entry) (entries : List Entry) :
    (insertEntry entry entries).Perm (entry :: entries) := by
  induction entries with
  | nil => exact List.Perm.refl _
  | cons head rest ih =>
    rw [insertEntry]
    split_ifs with h
    · exact List.Perm.refl _
    · exact (ih.cons head).trans (List.Perm.swap entry head rest)

namespace EventProcessor

variable {w : EventProcessor} {event time : Nat} {head : Entry} {rest : List Entry} {actions : List Action}

def forced (w : EventProcessor) : Bool :=
  match w.loop with
  | .killing true _ => true
  | _ => false

-- The events of the container; what a forced loop has passed it has deleted.
def held (w : EventProcessor) : List Nat :=
  (if w.forced then [] else w.passed.map Entry.event) ++ w.events.map Entry.event

theorem held_of_forced (h : w.forced = true) : w.held = w.events.map Entry.event := by
  rw [held, if_pos h, nil_append]

theorem held_of_not_forced (h : w.forced = false) : w.held = (w.passed ++ w.events).map Entry.event := by
  rw [held, if_neg (by rw [h]; exact Bool.false_ne_true), map_append]

structure Placed (w : EventProcessor) : Prop where
  once : w.created.Nodup
  counts : ∀ event, w.created.count event =
    w.event.toList.count event + w.held.count event + w.released.count event + w.deleted.count event

@[simp] theorem forced_insert : (w.insert event time).forced = w.forced := by
  unfold forced
  rw [loop_insert]

variable (w event time) in
theorem held_insert (h : w.behind time = true → w.forced = false) :
    (w.insert event time).held.Perm (event :: w.held) := by
  have hforced : (w.insert event time).forced = w.forced := forced_insert
  unfold held
  rw [hforced, insert]
  by_cases hbehind : w.behind time = true
  · rw [if_pos hbehind, h hbehind]
    exact ((insertEntry_perm ⟨time, event, w.nextSeq⟩ w.passed).map Entry.event).append_right _
  · rw [if_neg hbehind]
    refine List.Perm.trans (List.Perm.append_left _
      ((insertEntry_perm ⟨time, event, w.nextSeq⟩ w.events).map Entry.event)) ?_
    exact perm_middle

theorem Placed.addEvent (h : w.Placed) (haddable : w.Addable event)
    (hbehind : w.behind time = true → w.forced = false) : (w.addEvent event time).Placed := by
  have hheld := fun other => (held_insert w event time hbehind).count_eq other
  have hcounts := h.counts
  have hone := fun other => nodup_iff_count_le_one.mp h.once other
  constructor
  · show (if event ∈ (w.insert event time).created then _ else _ : List Nat).Nodup
    rw [created_insert]
    split_ifs with hmem
    · exact h.once
    · exact nodup_cons.mpr ⟨hmem, h.once⟩
  · intro other
    have hdeleted : (w.addEvent event time).deleted = w.deleted := Calls.addEvent.deleted
    have hheld' : (w.addEvent event time).held = (w.insert event time).held := rfl
    have hevent : (w.addEvent event time).event = w.event := event_insert
    rw [hdeleted, hheld', hevent, hheld other]
    show (if event ∈ (w.insert event time).created then _ else _ : List Nat).count other =
      _ + _ + ((w.insert event time).released.erase event).count other + _
    rw [created_insert, released_insert, count_erase, count_cons]
    have hother := hcounts other
    have hle := hone other
    rcases haddable with hfresh | hreleased
    · rw [if_neg hfresh, count_cons]
      have hzero := count_eq_zero.mpr hfresh
      by_cases hsame : event = other
      · subst hsame
        simp only [beq_self_eq_true, if_true]
        omega
      · simp only [beq_eq_false_iff_ne.mpr hsame, Bool.false_eq_true, if_false]
        omega
    · have hpos := count_pos_iff.mpr hreleased
      have hmem : event ∈ w.created := by
        have hevent := hcounts event
        exact count_pos_iff.mp (by omega)
      rw [if_pos hmem]
      by_cases hsame : event = other
      · subst hsame
        simp only [beq_self_eq_true, if_true]
        omega
      · simp only [beq_eq_false_iff_ne.mpr hsame, Bool.false_eq_true, if_false]
        omega

theorem Placed.congr (h : w.Placed) {after : EventProcessor} (hcreated : after.created = w.created)
    (hcounts : ∀ event, after.event.toList.count event + after.held.count event + after.released.count event +
        after.deleted.count event =
      w.event.toList.count event + w.held.count event + w.released.count event + w.deleted.count event) :
    after.Placed :=
  ⟨hcreated.symm ▸ h.once, fun event => by rw [hcreated, h.counts, hcounts]⟩

theorem Placed.scheduleAbort (h : w.Placed) (hlegal : w.Abortable event) : (w.scheduleAbort event).Placed := by
  have hdeleted : (w.scheduleAbort event).deleted = w.deleted := (Calls.scheduleAbort hlegal).deleted
  rw [scheduleAbort_eq hlegal.2] at hdeleted ⊢
  exact h.congr rfl fun other => by rw [hdeleted]; rfl

-- The iterator stays at the head while the callbacks of a kill run.
def At (head : Entry) (w : EventProcessor) : Prop :=
  (∃ force final, w.loop = .killing force final) ∧ w.events.head? = some head

theorem At.behind (h : At head w) : w.behind time = decide (time < head.time) := by
  obtain ⟨⟨force, final, hloop⟩, hhead⟩ := h
  obtain ⟨rest, hevents⟩ := List.head?_eq_some_iff.mp hhead
  rw [EventProcessor.behind, hloop, hevents]

theorem At.addEvent (h : At head w) : At head (w.addEvent event time) := by
  have hbehind : w.behind time = decide (time < head.time) := h.behind
  obtain ⟨⟨force, final, hloop⟩, hhead⟩ := h
  obtain ⟨rest, hevents⟩ := List.head?_eq_some_iff.mp hhead
  refine ⟨⟨force, final, loop_insert.trans hloop⟩, ?_⟩
  show (w.insert event time).events.head? = some head
  rw [insert]
  split_ifs with hcond
  · exact hhead
  · have hnot : ¬time < head.time := by
      rw [hbehind] at hcond
      exact fun hless => hcond (decide_eq_true hless)
    show (insertEntry ⟨time, event, w.nextSeq⟩ w.events).head? = some head
    rw [hevents, insertEntry, if_neg hnot]
    rfl

theorem At.act (h : At head w) {action : Action} (hlegal : w.LegalAction action) : At head (w.act action) := by
  cases action with
  | addEvent event time => exact h.addEvent
  | scheduleAbort event =>
    rw [EventProcessor.act, scheduleAbort_eq hlegal.2]
    exact h

theorem At.run (h : At head w) (hlegal : Guarded EventProcessor.act LegalAction w actions) :
    At head (run EventProcessor.act w actions) :=
  run_invariant _ LegalAction (At head) (fun _ _ hat haction => hat.act haction) h hlegal

theorem Placed.act (h : w.Placed) (hforced : w.forced = false) {action : Action} (hlegal : w.LegalAction action) :
    (w.act action).Placed := by
  cases action with
  | addEvent event time => exact h.addEvent hlegal.1 fun _ => hforced
  | scheduleAbort event => exact h.scheduleAbort hlegal

theorem Calls.forced {after : EventProcessor} (h : Calls w after) : after.forced = w.forced := by
  unfold EventProcessor.forced
  rw [h.loop]

theorem Placed.run (h : w.Placed) (hforced : w.forced = false)
    (hlegal : Guarded EventProcessor.act LegalAction w actions) : (run EventProcessor.act w actions).Placed :=
  (run_invariant _ LegalAction (fun w => w.Placed ∧ w.forced = false)
    (fun _ _ hkept haction =>
      ⟨hkept.1.act hkept.2 haction, (Calls.act haction).forced.trans hkept.2⟩) ⟨h, hforced⟩ hlegal).1

theorem Placed.run_ahead (h : w.Placed) (hat : At head w)
    (hlegal : Guarded EventProcessor.act LegalAction w actions)
    (hahead : ∀ action ∈ actions, action.NotBefore head.time) :
    (Run.run EventProcessor.act w actions).Placed := by
  have hboth : Guarded EventProcessor.act (fun w action => w.LegalAction action ∧ action.NotBefore head.time)
      w actions := hlegal.and_mem _ hahead
  refine (run_invariant _ _ (fun w => w.Placed ∧ At head w) (fun w action hkept haction => ?_) ⟨h, hat⟩ hboth).1
  refine ⟨?_, hkept.2.act haction.1⟩
  cases action with
  | addEvent event time =>
    refine hkept.1.addEvent haction.1.1 fun hbehind => ?_
    rw [hkept.2.behind] at hbehind
    exact absurd (of_decide_eq_true hbehind) (Nat.not_lt.mpr haction.2)
  | scheduleAbort event => exact hkept.1.scheduleAbort haction.1

theorem forced_eq_false (h : w.loop = .updating) : w.forced = false := by
  rw [forced, h]

theorem count_held_cons (h : w.events = head :: rest) (event : Nat) :
    w.held.count event = List.count event [head.event] +
      ((if w.forced then [] else w.passed.map Entry.event) ++ rest.map Entry.event).count event := by
  rw [held, h, map_cons, count_append, count_append, count_cons, count_singleton]
  omega

theorem Placed.take (h : w.Placed) (hevents : w.events = head :: rest) : (w.take head rest).Placed := by
  refine h.congr rfl fun event => ?_
  have hheld := count_held_cons hevents event
  have hdeleted : (w.take head rest).deleted = w.deleted := by
    show (w.record (.executed head)).deleted = w.deleted
    rw [deleted_record]
    exact append_nil _
  have hafter : (w.take head rest).held =
      (if w.forced then [] else w.passed.map Entry.event) ++ rest.map Entry.event := rfl
  show w.event.toList.count event + (w.take head rest).held.count event +
    (head.event :: w.released).count event + (w.take head rest).deleted.count event = _
  rw [hdeleted, hafter, count_cons]
  rw [count_singleton] at hheld
  omega

theorem Placed.delete (h : w.Placed) {after : EventProcessor} {executed : Bool} (hcreated : after.created = w.created)
    (htrace : after.trace = w.trace ++ [.deleted event executed])
    (hcounts : ∀ other, w.event.toList.count other + w.held.count other + w.released.count other =
      List.count other [event] +
        (after.event.toList.count other + after.held.count other + after.released.count other)) : after.Placed := by
  refine h.congr hcreated fun other => ?_
  have hother := hcounts other
  have hdeleted : after.deleted = w.deleted ++ [event] := by
    show after.trace.filterMap _ = _
    rw [htrace]
    exact filterMap_append
  rw [hdeleted, count_append]
  omega

theorem Placed.finish (h : w.Placed) (hmem : event ∈ w.released) : (w.finish event).Placed := by
  refine h.delete rfl rfl fun other => ?_
  have hreleased : w.released.count other = List.count other [event] + (w.released.erase event).count other := by
    rw [(perm_cons_erase hmem).count_eq other, ← singleton_append, count_append]
  show _ = _ + (w.event.toList.count other + w.held.count other + (w.released.erase event).count other)
  omega

variable {answer : Answer}

section

variable (h : w.Placed)

include h

theorem Placed.execute (hforced : w.forced = false) (hevents : w.events = head :: rest)
    (hlegal : w.LegalExecute head rest answer) : (w.execute head rest answer).Placed := by
  have hcalled := (h.take hevents).run hforced hlegal.1
  rw [EventProcessor.execute]
  split_ifs with hdestroy
  · exact hcalled.finish (hlegal.2 hdestroy)
  · exact hcalled

theorem Placed.hold (hnone : w.event = none) (hevents : w.events = head :: rest) :
    (w.hold head rest).Placed := by
  refine h.congr rfl fun event => ?_
  have hheld := count_held_cons hevents event
  have hdeleted : (w.hold head rest).deleted = w.deleted := rfl
  rw [hnone, hheld, hdeleted]
  show List.count event [head.event] +
    ((if w.forced then [] else w.passed.map Entry.event) ++ rest.map Entry.event).count event +
      w.released.count event + w.deleted.count event = List.count event [] + _ + _ + _
  rw [count_nil]
  omega

theorem Placed.setAborted : (w.setAborted event).Placed := by
  rw [EventProcessor.setAborted]
  split_ifs with hstate
  · exact h.congr rfl fun other => rfl
  · exact h.congr rfl fun other => rfl

theorem Placed.record_abort : (w.record (.abort event)).Placed := by
  refine h.congr rfl fun other => ?_
  rw [deleted_record]
  show _ + _ + _ + (w.deleted ++ []).count other = _
  rw [append_nil]
  rfl

theorem Placed.abort (hnone : w.event = none) (hforced : w.forced = false)
    (hevents : w.events = head :: rest) (hlegal : w.LegalAbort head rest answer) :
    (w.abort head rest answer).Placed := by
  rw [EventProcessor.abort]
  split_ifs with hstate
  · exact ((h.hold hnone hevents).record_abort.run hforced (hlegal hstate)).setAborted
  · exact h.hold hnone hevents

theorem Placed.drop (hevent : w.event = some event) (hforced : w.forced = false) (answer : Answer) :
    (w.drop event answer).Placed := by
  rw [EventProcessor.drop]
  split_ifs with hdeletable
  · refine h.delete rfl rfl fun other => ?_
    rw [hevent]
    show List.count other [event] + _ + _ = _ + (List.count other [] + w.held.count other + w.released.count other)
    rw [count_nil]
    omega
  · refine h.congr created_insert fun other => ?_
    have hheld := (held_insert w event (w.calculateTime 1) fun _ => hforced).count_eq other
    rw [← singleton_append, count_append] at hheld
    have hdeleted : (w.insert event (w.calculateTime 1)).deleted = w.deleted := by
      rw [deleted, trace_insert]
      rfl
    show List.count other [] + (w.insert event (w.calculateTime 1)).held.count other +
      (w.insert event (w.calculateTime 1)).released.count other +
        (w.insert event (w.calculateTime 1)).deleted.count other = _
    rw [hheld, released_insert, hdeleted, hevent, count_nil]
    show _ = List.count other [event] + _ + _ + _
    omega

theorem Placed.kill (hat : At head w)
    (hlegal : w.abortState head.event ≠ .aborted →
      Guarded EventProcessor.act LegalAction ((w.setAborted head.event).record (.abort head.event)) answer.actions)
    (hahead : w.forced = true → w.abortState head.event ≠ .aborted →
      ∀ action ∈ answer.actions, action.NotBefore head.time) :
    (w.kill head answer).Placed := by
  rw [EventProcessor.kill]
  split_ifs with hstate
  · exact h
  · have hbegun : (w.setAborted head.event).Placed := h.setAborted
    by_cases hforced : w.forced = true
    · refine hbegun.record_abort.run_ahead ?_ (hlegal hstate) (hahead hforced hstate)
      rw [EventProcessor.setAborted, if_neg hstate]
      exact hat
    · refine hbegun.record_abort.run ?_ (hlegal hstate)
      rw [EventProcessor.setAborted, if_neg hstate]
      exact Bool.eq_false_iff.mpr hforced

theorem Placed.advance (hevents : w.events = head :: rest) {force : Bool} (hforced : w.forced = force)
    (answer : Answer) : (w.advance head force answer).Placed := by
  rw [EventProcessor.advance, hevents, tail_cons]
  cases force with
  | false =>
    by_cases hdeletable : answer.deletable = true
    · rw [hdeletable]
      refine h.delete rfl rfl fun other => ?_
      have hafter : ({ w.record (.deleted head.event false) with events := rest } : EventProcessor).held =
          (w.passed ++ rest).map Entry.event := held_of_not_forced hforced
      have hbefore : w.held = (w.passed ++ head :: rest).map Entry.event := by
        rw [held_of_not_forced hforced, hevents]
      have hmiddle : (w.passed ++ head :: rest).Perm (head :: (w.passed ++ rest)) := perm_middle
      have hcount := hmiddle.map Entry.event
      have hother := hcount.count_eq other
      rw [← hbefore, map_cons, ← singleton_append, count_append] at hother
      show _ = _ + (w.event.toList.count other + _ + w.released.count other)
      rw [Bool.not_true, Bool.not_false, Bool.and_false, if_neg Bool.false_ne_true, if_neg Bool.false_ne_true, hafter]
      omega
    · rw [Bool.eq_false_iff.mpr hdeletable]
      refine h.congr rfl fun other => ?_
      have hafter : ({ w with passed := w.passed ++ [head], events := rest } : EventProcessor).held =
          (w.passed ++ [head] ++ rest).map Entry.event := held_of_not_forced hforced
      have hbefore : w.held = (w.passed ++ head :: rest).map Entry.event := by
        rw [held_of_not_forced hforced, hevents]
      show _ + ({ w with passed := w.passed ++ [head], events := rest } : EventProcessor).held.count other +
        _ + w.deleted.count other = _
      rw [hafter, hbefore, append_assoc]
      rfl
  | true =>
    refine h.delete rfl rfl fun other => ?_
    have hafter : ({ w.record (.deleted head.event false) with passed := w.passed ++ [head], events := rest } :
        EventProcessor).held = rest.map Entry.event := held_of_forced hforced
    have hbefore : w.held = (head :: rest).map Entry.event := by
      rw [held_of_forced hforced, hevents]
    rw [hbefore, map_cons, ← singleton_append, count_append]
    show _ = _ + (w.event.toList.count other +
      ({ w.record (.deleted head.event false) with passed := w.passed ++ [head], events := rest } :
        EventProcessor).held.count other + w.released.count other)
    rw [hafter]
    omega

end

-- The state between two steps
structure Accounted (w : EventProcessor) : Prop where
  placed : w.Placed
  event : w.event = none
  passed : (∀ force final, w.loop ≠ .killing force final) → w.passed = []

theorem accounted_new : new.Accounted := ⟨⟨nodup_nil, fun _ => rfl⟩, rfl, fun _ => rfl⟩

theorem Accounted.setLoop (h : w.Accounted) (hloop : ∀ force final, w.loop ≠ .killing force final) (loop : Loop) :
    Accounted { w with loop := loop } := by
  have hpassed := h.passed hloop
  refine ⟨h.placed.congr rfl fun other => ?_, h.event, fun _ => hpassed⟩
  have hheld : ({ w with loop := loop } : EventProcessor).held = w.held := by
    simp only [held, hpassed, map_nil, ite_self]
  rw [hheld]
  rfl

theorem behind_updating (hloop : w.loop = .updating) : w.behind time = false := by
  rw [behind, hloop]

theorem passed_insert (hloop : w.loop = .updating) : (w.insert event time).passed = w.passed := by
  rw [insert, behind_updating hloop]
  rfl

theorem passed_run (hloop : w.loop = .updating) (hpassed : w.passed = [])
    (hlegal : Guarded EventProcessor.act LegalAction w actions) : (run EventProcessor.act w actions).passed = [] := by
  refine (run_invariant _ LegalAction (fun w => w.loop = .updating ∧ w.passed = []) (fun w action hkept haction => ?_)
    ⟨hloop, hpassed⟩ hlegal).2
  refine ⟨(Calls.act haction).loop.trans hkept.1, ?_⟩
  cases action with
  | addEvent event time => exact (passed_insert hkept.1).trans hkept.2
  | scheduleAbort event =>
    rw [EventProcessor.act, scheduleAbort_eq haction.2]
    exact hkept.2

theorem Accounted.execute (h : w.Accounted) (hloop : w.loop = .updating) (hevents : w.events = head :: rest)
    (hlegal : w.LegalExecute head rest answer) : (w.execute head rest answer).Accounted := by
  have hkilling : ∀ force final, w.loop ≠ .killing force final := by simp [hloop]
  have hcalls := Calls.run hlegal.1
  have hpassed := passed_run (w := w.take head rest) hloop (h.passed hkilling) hlegal.1
  refine ⟨h.placed.execute (forced_eq_false hloop) hevents hlegal, ?_, fun _ => ?_⟩
  all_goals
    rw [EventProcessor.execute]
    split_ifs
  · exact hcalls.event.trans h.event
  · exact hcalls.event.trans h.event
  · exact hpassed
  · exact hpassed

@[simp] theorem event_setAborted : (w.setAborted event).event = w.event := by
  rw [setAborted]
  split_ifs <;> rfl

@[simp] theorem passed_setAborted : (w.setAborted event).passed = w.passed := by
  rw [setAborted]
  split_ifs <;> rfl

@[simp] theorem loop_setAborted : (w.setAborted event).loop = w.loop := by
  rw [setAborted]
  split_ifs <;> rfl

theorem fields_abort (hloop : w.loop = .updating) (hpassed : w.passed = [])
    (hlegal : w.LegalAbort head rest answer) : (w.abort head rest answer).event = some head.event ∧
      (w.abort head rest answer).loop = .updating ∧ (w.abort head rest answer).passed = [] := by
  rw [EventProcessor.abort]
  split_ifs with hstate
  · have hcalls := Calls.run (hlegal hstate)
    rw [event_setAborted, loop_setAborted, passed_setAborted]
    exact ⟨hcalls.event, hcalls.loop.trans hloop,
      passed_run (w := (w.hold head rest).record (.abort head.event)) hloop hpassed (hlegal hstate)⟩
  · exact ⟨rfl, hloop, hpassed⟩

theorem Accounted.updateTurn (h : w.Accounted) (hloop : w.loop = .updating)
    (hlegal : w.LegalUpdate answer) : (w.updateTurn answer).Accounted := by
  have hkilling : ∀ force final, w.loop ≠ .killing force final := by simp [hloop]
  rw [LegalUpdate] at hlegal
  rw [EventProcessor.updateTurn]
  split
  · exact h.setLoop hkilling .idle
  · next head rest hevents =>
      rw [hevents] at hlegal
      split_ifs with hlater hrunning
      · exact h.setLoop hkilling .idle
      · have hexecute := hlegal (Nat.le_of_not_lt hlater)
        rw [if_pos hrunning] at hexecute
        exact h.execute hloop hevents hexecute
      · have habort := hlegal (Nat.le_of_not_lt hlater)
        rw [if_neg hrunning] at habort
        obtain ⟨hevent, hloop', hpassed⟩ := fields_abort hloop (h.passed hkilling) habort
        have hplaced := h.placed.abort h.event (forced_eq_false hloop) hevents habort
        refine ⟨hplaced.drop hevent (forced_eq_false hloop') answer, ?_, fun _ => ?_⟩
        all_goals
          rw [EventProcessor.drop]
          split_ifs
        · rfl
        · rfl
        · exact hpassed
        · exact (passed_insert hloop').trans hpassed

theorem kill_keeps (hat : At head w)
    (hlegal : w.abortState head.event ≠ .aborted →
      Guarded EventProcessor.act LegalAction ((w.setAborted head.event).record (.abort head.event)) answer.actions) :
    At head (w.kill head answer) ∧ (w.kill head answer).event = w.event ∧ (w.kill head answer).loop = w.loop := by
  rw [EventProcessor.kill]
  split_ifs with hstate
  · exact ⟨hat, rfl, rfl⟩
  · have hcalls := Calls.run (hlegal hstate)
    have hbegun : At head ((w.setAborted head.event).record (.abort head.event)) := by
      rw [setAborted, if_neg hstate]
      exact hat
    exact ⟨hbegun.run (hlegal hstate), hcalls.event.trans event_setAborted, hcalls.loop.trans loop_setAborted⟩

variable (w head) in
theorem fields_advance (force : Bool) (answer : Answer) : (w.advance head force answer).event = w.event ∧
    (w.advance head force answer).loop = w.loop := by
  rw [EventProcessor.advance]
  split_ifs <;> exact ⟨rfl, rfl⟩

theorem Accounted.killTurn (h : w.Accounted) {force final : Bool} (hloop : w.loop = .killing force final)
    (hlegal : w.LegalKill answer) (hahead : w.Ahead answer) :
    (w.killTurn force final answer).Accounted := by
  have hforced : w.forced = force := by
    rw [forced, hloop]
    cases force <;> rfl
  rw [EventProcessor.killTurn]
  split
  · next hnil =>
      refine ⟨h.placed.congr rfl fun other => ?_, h.event, fun _ => rfl⟩
      have hafter : ∀ (events : List Entry) (loop : Loop), (∀ final, loop ≠ .killing true final) →
          ({ w with passed := [], events := events, loop := loop } : EventProcessor).held =
            events.map Entry.event := by
        intro events loop hnot
        rw [held, map_nil, ite_self, nil_append]
      have hheld : w.held = (if force then [] else w.passed).map Entry.event := by
        rw [held, hnil, hforced]
        cases force
        · exact append_nil _
        · rfl
      show _ + ({ w with passed := [], events := _, loop := _ } : EventProcessor).held.count other + _ +
        w.deleted.count other = _
      rw [hafter _ _ (by cases final <;> simp), hheld]
  · next head rest hevents =>
      have hat : At head w := ⟨⟨force, final, hloop⟩, by rw [hevents]; rfl⟩
      rw [LegalKill, hevents] at hlegal
      obtain ⟨hafter, hevent, hloop'⟩ := kill_keeps hat hlegal
      obtain ⟨rest', hrest⟩ := List.head?_eq_some_iff.mp hafter.2
      have hforced' : (w.kill head answer).forced = force := by
        rw [forced, hloop', ← hforced, forced]
      have hplaced := h.placed.kill hat hlegal fun hforce hstate => by
        rw [hforced] at hforce
        rw [Ahead, hloop, hforce, hevents] at hahead
        exact hahead hstate
      obtain ⟨hevent', hloop''⟩ := fields_advance (w.kill head answer) head force answer
      refine ⟨hplaced.advance hrest hforced' answer, (hevent'.trans hevent).trans h.event, fun hkilling => ?_⟩
      exact absurd ((hloop''.trans hloop').trans hloop) (hkilling force final)

theorem Accounted.step (h : w.Accounted) {input : Input} (hmeets : w.Meets input) : (w.step input).Accounted := by
  obtain ⟨hlegal, hcovered⟩ := hmeets
  cases input with
  | addEvent event time =>
    have hkilling : ∀ force final, w.loop ≠ .killing force final := by simp [hlegal.1]
    have hbehind : w.behind time = false := by rw [behind, hlegal.1]
    refine ⟨h.placed.addEvent hlegal.2 fun hcond => absurd hcond (by rw [hbehind]; exact Bool.false_ne_true),
      event_insert.trans h.event, fun _ => ?_⟩
    show (w.insert event time).passed = []
    rw [insert, hbehind]
    exact h.passed hkilling
  | scheduleAbort event =>
    have hkilling : ∀ force final, w.loop ≠ .killing force final := by simp [hlegal.1]
    have hcalls := Calls.scheduleAbort hlegal.2
    refine ⟨h.placed.scheduleAbort hlegal.2, hcalls.event.trans h.event, fun _ => ?_⟩
    show (w.scheduleAbort event).passed = []
    rw [scheduleAbort_eq hlegal.2.2]
    exact h.passed hkilling
  | update pTime =>
    have hkilling : ∀ force final, w.loop ≠ .killing force final := by
      rw [show w.loop = .idle from hlegal]
      exact fun _ _ h => by cases h
    exact ⟨(h.setLoop hkilling .updating).placed.congr rfl fun _ => rfl, h.event, fun _ => h.passed hkilling⟩
  | killAllEvents force =>
    exact h.setLoop (by rw [show w.loop = .idle from hlegal]; exact fun _ _ h => by cases h) _
  | destroy => exact h.setLoop (by rw [show w.loop = .idle from hlegal]; exact fun _ _ h => by cases h) _
  | turn answer =>
    rw [EventProcessor.step]
    rw [Legal] at hlegal
    split
    · exact h
    · next hloop =>
        rw [hloop] at hlegal
        exact h.updateTurn hloop hlegal
    · next force final hloop =>
        rw [hloop] at hlegal
        exact h.killTurn hloop hlegal hcovered
    · exact h

end EventProcessor

end TurtleWow.Events

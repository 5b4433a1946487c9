import TurtleWow.Lib.Run

namespace TurtleWow.Events

open Run

-- The event processor. One step is one operation or one turn of the loop that
-- is running. The callbacks of a turn are views: what they add and which aborts
-- they schedule is part of the turn, and so are their answers.

inductive AbortState
  | running
  | abortScheduled
  | aborted
deriving DecidableEq

-- An event in the container, under its execution time. `seq` counts the
-- insertions, which orders the events of one time.
structure Entry where
  time : Nat
  event : Nat
  seq : Nat
deriving DecidableEq

-- The order in which a multimap keeps its entries
def Before (first second : Entry) : Prop :=
  first.time < second.time ∨ first.time = second.time ∧ first.seq < second.seq

inductive Action
  | addEvent (event time : Nat)
  | scheduleAbort (event : Nat)

-- `destroy` is what Execute returns, `deletable` what IsDeletable does.
structure Answer where
  actions : List Action
  destroy : Bool
  deletable : Bool

inductive Record
  | executed (entry : Entry)
  | abortScheduled (event : Nat)
  | abort (event : Nat)
  -- whether Execute returned true
  | deleted (event : Nat) (executed : Bool)

inductive Loop
  | idle
  | updating
  | killing (force : Bool) (final : Bool)
  | destroyed
deriving DecidableEq

-- The container is `passed ++ events`: the iterator of KillAllEvents stands at
-- the head of `events`, and `passed` is empty outside of that loop. `event` is
-- the event that Update has taken out and aborts. `released` are the events
-- that Execute took out without destroying them. `ran` are the executions of
-- the last Update.
structure EventProcessor where
  time : Nat
  passed : List Entry
  events : List Entry
  abortState : Nat → AbortState
  loop : Loop
  event : Option Nat
  nextSeq : Nat
  created : List Nat
  released : List Nat
  trace : List Record
  ran : List Entry
  failed : Bool

def insertEntry (entry : Entry) : List Entry → List Entry
  | [] => [entry]
  | head :: rest => if entry.time < head.time then entry :: head :: rest else head :: insertEntry entry rest

namespace EventProcessor

def new : EventProcessor where
  time := 0
  passed := []
  events := []
  abortState := fun _ => .running
  loop := .idle
  event := none
  nextSeq := 0
  created := []
  released := []
  trace := []
  ran := []
  failed := false

section

variable (w : EventProcessor)

def calculateTime (offset : Nat) : Nat := (w.time + offset) % 18446744073709551616

def record (r : Record) : EventProcessor := { w with trace := w.trace ++ [r] }

def setState (event : Nat) (state : AbortState) : EventProcessor :=
  { w with abortState := fun other => if other = event then state else w.abortState other }

def scheduleAbort (event : Nat) : EventProcessor :=
  if w.abortState event = .running then (w.setState event .abortScheduled).record (.abortScheduled event)
  else { w with failed := true }

def setAborted (event : Nat) : EventProcessor :=
  if w.abortState event = .aborted then { w with failed := true } else w.setState event .aborted

def behind (time : Nat) : Bool :=
  match w.loop, w.events with
  | .killing _ _, head :: _ => decide (time < head.time)
  | _, _ => false

def insert (event time : Nat) : EventProcessor :=
  let entry : Entry := ⟨time, event, w.nextSeq⟩
  if w.behind time then { w with passed := insertEntry entry w.passed, nextSeq := w.nextSeq + 1 }
  else { w with events := insertEntry entry w.events, nextSeq := w.nextSeq + 1 }

def addEvent (event time : Nat) : EventProcessor :=
  let w := w.insert event time
  { w with
    created := if event ∈ w.created then w.created else event :: w.created
    released := w.released.erase event }

def act : Action → EventProcessor
  | .addEvent event time => w.addEvent event time
  | .scheduleAbort event => w.scheduleAbort event

def take (head : Entry) (rest : List Entry) : EventProcessor :=
  { w.record (.executed head) with
    events := rest, released := head.event :: w.released, ran := w.ran ++ [head] }

def finish (event : Nat) : EventProcessor :=
  { w.record (.deleted event true) with released := w.released.erase event }

def execute (head : Entry) (rest : List Entry) (answer : Answer) : EventProcessor :=
  let w := run act (w.take head rest) answer.actions
  if answer.destroy then w.finish head.event else w

-- The head is taken out, and it was aborted already or is aborted now.
def hold (head : Entry) (rest : List Entry) : EventProcessor :=
  { w with events := rest, event := some head.event }

def abort (head : Entry) (rest : List Entry) (answer : Answer) : EventProcessor :=
  if w.abortState head.event = .abortScheduled then
    (run act ((w.hold head rest).record (.abort head.event)) answer.actions).setAborted head.event
  else w.hold head rest

def drop (event : Nat) (answer : Answer) : EventProcessor :=
  if answer.deletable then { w.record (.deleted event false) with event := none }
  else { w.insert event (w.calculateTime 1) with event := none }

def updateTurn (answer : Answer) : EventProcessor :=
  match w.events with
  | [] => { w with loop := .idle }
  | head :: rest =>
    if head.time > w.time then { w with loop := .idle }
    else if w.abortState head.event = .running then w.execute head rest answer
    else (w.abort head rest answer).drop head.event answer

def kill (head : Entry) (answer : Answer) : EventProcessor :=
  if w.abortState head.event = .aborted then w
  else run act ((w.setAborted head.event).record (.abort head.event)) answer.actions

-- The iterator moves on. A forced loop leaves the entry of the event that it
-- has deleted where it is.
def advance (head : Entry) (force : Bool) (answer : Answer) : EventProcessor :=
  if !force && !answer.deletable then { w with passed := w.passed ++ [head], events := w.events.tail }
  else if force then
    { w.record (.deleted head.event false) with passed := w.passed ++ [head], events := w.events.tail }
  else { w.record (.deleted head.event false) with events := w.events.tail }

-- The body of the loop of KillAllEvents, and what follows the loop
def killTurn (force final : Bool) (answer : Answer) : EventProcessor :=
  match w.events with
  | [] =>
    { w with
      passed := []
      events := if force then [] else w.passed
      loop := if final then .destroyed else .idle }
  | head :: _ => (w.kill head answer).advance head force answer

end

end EventProcessor

def Action.NotBefore (first : Nat) : Action → Prop
  | .addEvent _ time => first ≤ time
  | .scheduleAbort _ => True

inductive Input
  | addEvent (event time : Nat)
  | scheduleAbort (event : Nat)
  | update (pTime : Nat)
  | killAllEvents (force : Bool)
  -- the destructor
  | destroy
  | turn (answer : Answer)

namespace EventProcessor

section

variable (w : EventProcessor)

def step : Input → EventProcessor
  | .addEvent event time => w.addEvent event time
  | .scheduleAbort event => w.scheduleAbort event
  | .update pTime => { w with time := (w.time + pTime) % 18446744073709551616, loop := .updating, ran := [] }
  | .killAllEvents force => { w with loop := .killing force false }
  | .destroy => { w with loop := .killing true true }
  | .turn answer =>
    match w.loop with
    | .idle => w
    | .updating => w.updateTurn answer
    | .killing force final => w.killTurn force final answer
    | .destroyed => w

def deleted : List Nat :=
  w.trace.filterMap fun | .deleted event _ => some event | _ => none

def aborts : List Nat :=
  w.trace.filterMap fun | .abort event => some event | _ => none

def executions : List Entry :=
  w.trace.filterMap fun | .executed entry => some entry | _ => none

-- What the callers promise: an event is added when it is in no container and
-- not deleted, a callback adds events in the future only, and the abort of a
-- running event is scheduled once.
def Addable (event : Nat) : Prop := event ∉ w.created ∨ event ∈ w.released

def Abortable (event : Nat) : Prop := event ∉ w.deleted ∧ w.abortState event = .running

def LegalAction : Action → Prop
  | .addEvent event time => w.Addable event ∧ w.time < time
  | .scheduleAbort event => w.Abortable event

-- An Execute that adds its event again returns false.
def LegalExecute (head : Entry) (rest : List Entry) (answer : Answer) : Prop :=
  Guarded act LegalAction (w.take head rest) answer.actions ∧
    (answer.destroy = true → head.event ∈ (run act (w.take head rest) answer.actions).released)

def LegalAbort (head : Entry) (rest : List Entry) (answer : Answer) : Prop :=
  w.abortState head.event = .abortScheduled →
    Guarded act LegalAction ((w.hold head rest).record (.abort head.event)) answer.actions

def LegalUpdate (answer : Answer) : Prop :=
  match w.events with
  | [] => True
  | head :: rest =>
    head.time ≤ w.time →
      if w.abortState head.event = .running then w.LegalExecute head rest answer
      else w.LegalAbort head rest answer

def LegalKill (answer : Answer) : Prop :=
  match w.events with
  | [] => True
  | head :: _ =>
    w.abortState head.event ≠ .aborted →
      Guarded act LegalAction ((w.setAborted head.event).record (.abort head.event)) answer.actions

def Legal : Input → Prop
  | .addEvent event _ => w.loop = .idle ∧ w.Addable event
  | .scheduleAbort event => w.loop = .idle ∧ w.Abortable event
  | .update _ => w.loop = .idle
  | .killAllEvents _ => w.loop = .idle
  | .destroy => w.loop = .idle
  | .turn answer =>
    match w.loop with
    | .idle => True
    | .updating => w.LegalUpdate answer
    | .killing _ _ => w.LegalKill answer
    | .destroyed => True

-- No abort of a forced loop adds an event in front of the iterator.
def Ahead (answer : Answer) : Prop :=
  match w.loop, w.events with
  | .killing true _, head :: _ =>
    w.abortState head.event ≠ .aborted → ∀ action ∈ answer.actions, action.NotBefore head.time
  | _, _ => True

-- The clock does not wrap around either.
def Covered : Input → Prop
  | .turn answer => w.Ahead answer
  | .update pTime => w.time + pTime + 1 < 18446744073709551616
  | _ => True

def Meets (input : Input) : Prop := w.Legal input ∧ w.Covered input

end

instance (first : Nat) : ∀ action : Action, Decidable (action.NotBefore first)
  | .addEvent _ time => inferInstanceAs (Decidable (first ≤ time))
  | .scheduleAbort _ => inferInstanceAs (Decidable True)

instance (w : EventProcessor) (event : Nat) : Decidable (w.Addable event) :=
  inferInstanceAs (Decidable (event ∉ w.created ∨ event ∈ w.released))

instance (w : EventProcessor) (event : Nat) : Decidable (w.Abortable event) :=
  inferInstanceAs (Decidable (event ∉ w.deleted ∧ w.abortState event = .running))

instance : ∀ (w : EventProcessor) (action : Action), Decidable (w.LegalAction action)
  | w, .addEvent event time => inferInstanceAs (Decidable (w.Addable event ∧ w.time < time))
  | w, .scheduleAbort event => inferInstanceAs (Decidable (w.Abortable event))

instance (w : EventProcessor) (head : Entry) (rest : List Entry) (answer : Answer) :
    Decidable (w.LegalExecute head rest answer) :=
  inferInstanceAs (Decidable (_ ∧ (_ → _)))

instance (w : EventProcessor) (head : Entry) (rest : List Entry) (answer : Answer) :
    Decidable (w.LegalAbort head rest answer) :=
  inferInstanceAs (Decidable (_ → _))

instance (w : EventProcessor) (answer : Answer) : Decidable (w.LegalUpdate answer) :=
  match h : w.events with
  | [] => .isTrue (by rw [LegalUpdate, h]; trivial)
  | head :: rest =>
    decidable_of_iff (head.time ≤ w.time →
      if w.abortState head.event = .running then w.LegalExecute head rest answer
      else w.LegalAbort head rest answer) (by rw [LegalUpdate, h])

instance (w : EventProcessor) (answer : Answer) : Decidable (w.LegalKill answer) :=
  match h : w.events with
  | [] => .isTrue (by rw [LegalKill, h]; trivial)
  | head :: _ =>
    decidable_of_iff (w.abortState head.event ≠ .aborted →
      Guarded act LegalAction ((w.setAborted head.event).record (.abort head.event)) answer.actions)
      (by rw [LegalKill, h])

instance : ∀ (w : EventProcessor) (input : Input), Decidable (w.Legal input)
  | w, .addEvent event _ => inferInstanceAs (Decidable (w.loop = .idle ∧ w.Addable event))
  | w, .scheduleAbort event => inferInstanceAs (Decidable (w.loop = .idle ∧ w.Abortable event))
  | w, .update _ => inferInstanceAs (Decidable (w.loop = .idle))
  | w, .killAllEvents _ => inferInstanceAs (Decidable (w.loop = .idle))
  | w, .destroy => inferInstanceAs (Decidable (w.loop = .idle))
  | w, .turn answer =>
    match h : w.loop with
    | .idle => .isTrue (by rw [Legal, h]; trivial)
    | .updating => decidable_of_iff (w.LegalUpdate answer) (by rw [Legal, h])
    | .killing _ _ => decidable_of_iff (w.LegalKill answer) (by rw [Legal, h])
    | .destroyed => .isTrue (by rw [Legal, h]; trivial)

instance (w : EventProcessor) (answer : Answer) : Decidable (w.Ahead answer) :=
  match hloop : w.loop, hevents : w.events with
  | .killing true _, head :: _ =>
    decidable_of_iff (w.abortState head.event ≠ .aborted → ∀ action ∈ answer.actions, action.NotBefore head.time)
      (by rw [Ahead, hloop, hevents])
  | .killing true _, [] => .isTrue (by rw [Ahead, hloop, hevents]; trivial)
  | .killing false _, _ => .isTrue (by rw [Ahead, hloop]; trivial)
  | .idle, _ => .isTrue (by rw [Ahead, hloop]; trivial)
  | .updating, _ => .isTrue (by rw [Ahead, hloop]; trivial)
  | .destroyed, _ => .isTrue (by rw [Ahead, hloop]; trivial)

instance : ∀ (w : EventProcessor) (input : Input), Decidable (w.Covered input)
  | w, .turn answer => inferInstanceAs (Decidable (w.Ahead answer))
  | w, .update pTime => inferInstanceAs (Decidable (w.time + pTime + 1 < 18446744073709551616))
  | _, .addEvent _ _ => inferInstanceAs (Decidable True)
  | _, .scheduleAbort _ => inferInstanceAs (Decidable True)
  | _, .killAllEvents _ => inferInstanceAs (Decidable True)
  | _, .destroy => inferInstanceAs (Decidable True)

instance (w : EventProcessor) (input : Input) : Decidable (w.Meets input) :=
  inferInstanceAs (Decidable (w.Legal input ∧ w.Covered input))

end EventProcessor

end TurtleWow.Events

import TurtleWow.Lib.Run

namespace TurtleWow.Sql

-- The delay threads of a database. One step is one submission, one locked step
-- of a thread, or one step of the thread that halts the others.

structure SqlOperation where
  id : Nat
  serialId : Nat
deriving DecidableEq

structure Submission where
  op : SqlOperation
  seq : Nat
deriving DecidableEq

-- Where the body of a delay thread stands: at the test of `m_running`, asleep,
-- or in one of the two loops of ProcessRequests, holding the operation it
-- executes. `exited` is a thread that has left `run`, `gone` a body that has
-- been destroyed.
inductive Body
  | head
  | sleeping
  | shared (executing : Option Submission)
  | serial (executing : Option Submission)
  | exited
  | gone
deriving DecidableEq

inductive Halt
  | none
  | stopping (thread : Nat)
  | joining (thread : Nat)
  | clearing (thread : Nat)
  | halted
deriving DecidableEq

inductive Record
  | started (s : Submission)
  | finished (s : Submission)
deriving DecidableEq

structure Database where
  delayQueue : List Submission
  serialDelayQueue : Nat → List Submission
  running : Nat → Bool
  body : Nat → Body
  halt : Halt
  submitted : List Submission
  log : List Record

inductive Step
  -- a plain, prepared or query operation, whose serial id is zero
  | execute (id : Nat)
  | commitTransaction (transaction : SqlOperation)
  | delayQueryHolder (holder : SqlOperation)
  | thread (i : Nat)
  | haltDelayThread

-- `numAsyncWorkers` is set when the database is initialized.
variable (numAsyncWorkers : Nat)

namespace Database

def initialized : Database where
  delayQueue := []
  serialDelayQueue := fun _ => []
  running := fun _ => true
  body := fun _ => .head
  halt := .none
  submitted := []
  log := []

def setBody (c : Database) (i : Nat) (body : Body) : Database :=
  { c with body := fun j => if j = i then body else c.body j }

def setSerial (c : Database) (i : Nat) (queue : List Submission) : Database :=
  { c with serialDelayQueue := fun j => if j = i then queue else c.serialDelayQueue j }

def record (c : Database) (r : Record) : Database := { c with log := c.log ++ [r] }

def submission (c : Database) (op : SqlOperation) : Submission := ⟨op, c.submitted.length⟩

def addToDelayQueue (c : Database) (op : SqlOperation) : Database :=
  { c with delayQueue := c.delayQueue ++ [c.submission op], submitted := c.submitted ++ [c.submission op] }

def addSerialOperation (c : Database) (worker : Nat) (op : SqlOperation) : Database :=
  { c.setSerial worker (c.serialDelayQueue worker ++ [c.submission op]) with
    submitted := c.submitted ++ [c.submission op] }

def addToSerialDelayQueue (c : Database) (op : SqlOperation) : Database :=
  if op.serialId = 0 ∨ numAsyncWorkers = 0 then c.addToDelayQueue op
  else c.addSerialOperation (op.serialId % numAsyncWorkers) op

def commitTransaction (c : Database) (transaction : SqlOperation) : Database :=
  if transaction.serialId > 0 then c.addToSerialDelayQueue numAsyncWorkers transaction else c.addToDelayQueue transaction

-- One step of ProcessRequests: an operation is taken, or the one taken is
-- executed. `last` is where the body stands behind the second loop.
def processRequests (c : Database) (i : Nat) (last : Body) : Database :=
  match c.body i with
  | .shared none =>
    match c.delayQueue with
    | [] => c.setBody i (.serial none)
    | s :: rest => ({ c.setBody i (.shared (some s)) with delayQueue := rest }).record (.started s)
  | .shared (some s) => (c.setBody i (.shared none)).record (.finished s)
  | .serial none =>
    match c.serialDelayQueue i with
    | [] => c.setBody i last
    | s :: rest => ((c.setBody i (.serial (some s))).setSerial i rest).record (.started s)
  | .serial (some s) => (c.setBody i (.serial none)).record (.finished s)
  | _ => c

-- One step of the loop of SqlDelayThread::run
def runThread (c : Database) (i : Nat) : Database :=
  match c.body i with
  | .head => if c.running i then c.setBody i .sleeping else c.setBody i .exited
  | .sleeping => c.setBody i (.shared none)
  | _ => c.processRequests i .head

-- One step of the destructor of the body, which ends with the body gone
def destroy (c : Database) (i : Nat) : Database :=
  match c.body i with
  | .exited => c.setBody i (.shared none)
  | _ => c.processRequests i .gone

def next (i : Nat) (more done : Halt) : Halt := if i + 1 < numAsyncWorkers then more else done

def haltDelayThread (c : Database) : Database :=
  match c.halt with
  | .none => { c with halt := if numAsyncWorkers = 0 then .halted else .stopping 0 }
  | .stopping i =>
    { c with
      running := fun j => if j = i then false else c.running j
      halt := next numAsyncWorkers i (.stopping (i + 1)) (.joining 0) }
  | .joining i =>
    if c.body i = .exited then { c with halt := next numAsyncWorkers i (.joining (i + 1)) (.clearing 0) } else c
  | .clearing i =>
    let c := c.destroy i
    if c.body i = .gone then { c with halt := next numAsyncWorkers i (.clearing (i + 1)) .halted } else c
  | .halted => c

-- The threads have ended and their bodies are being destroyed.
def ended (c : Database) : Bool :=
  match c.halt with
  | .clearing _ => true
  | .halted => true
  | _ => false

-- The halt is final: a queue takes operations until it is drained for the last
-- time, which for the shared queue is in the last destructor.
def sharedOpen (c : Database) : Bool :=
  match c.halt with
  | .clearing i =>
    match c.body i with
    | .serial _ => decide (i + 1 < numAsyncWorkers)
    | _ => true
  | .halted => false
  | _ => true

def takes (c : Database) (op : SqlOperation) : Bool :=
  if op.serialId = 0 ∨ numAsyncWorkers = 0 then c.sharedOpen numAsyncWorkers
  else decide (c.body (op.serialId % numAsyncWorkers) ≠ .gone)

def step (c : Database) : Step → Database
  | .execute id => if c.takes numAsyncWorkers ⟨id, 0⟩ then c.addToDelayQueue ⟨id, 0⟩ else c
  | .commitTransaction transaction =>
    if c.takes numAsyncWorkers transaction then c.commitTransaction numAsyncWorkers transaction else c
  | .delayQueryHolder holder =>
    if c.takes numAsyncWorkers holder then c.addToSerialDelayQueue numAsyncWorkers holder else c
  | .thread i => if c.ended || decide (numAsyncWorkers ≤ i) then c else c.runThread i
  | .haltDelayThread => c.haltDelayThread numAsyncWorkers

def held : Body → List Submission
  | .shared (some s) => [s]
  | .serial (some s) => [s]
  | _ => []

inductive Move (c : Database) : Database → Prop
  | still : Move c c
  | quiet (i : Nat) (body : Body) (hbefore : held (c.body i) = []) (hafter : held body = []) :
      Move c (c.setBody i body)
  | takeShared (i : Nat) (s : Submission) (rest : List Submission) (hi : i < numAsyncWorkers)
      (hbody : c.body i = .shared none) (hqueue : c.delayQueue = s :: rest) :
      Move c (({ c.setBody i (.shared (some s)) with delayQueue := rest }).record (.started s))
  | takeSerial (i : Nat) (s : Submission) (rest : List Submission) (hi : i < numAsyncWorkers)
      (hbody : c.body i = .serial none) (hqueue : c.serialDelayQueue i = s :: rest) :
      Move c (((c.setBody i (.serial (some s))).setSerial i rest).record (.started s))
  | finish (i : Nat) (s : Submission) (body : Body) (hi : i < numAsyncWorkers) (hbefore : held (c.body i) = [s])
      (hafter : held body = []) : Move c ((c.setBody i body).record (.finished s))
  | addShared (op : SqlOperation) (hserial : op.serialId = 0) : Move c (c.addToDelayQueue op)
  | addSerial (op : SqlOperation) (hserial : op.serialId ≠ 0) :
      Move c (c.addSerialOperation (op.serialId % numAsyncWorkers) op)
  | control (halt : Halt) (running : Nat → Bool) : Move c { c with halt := halt, running := running }

variable {numAsyncWorkers}

variable {c : Database}

theorem move_processRequests {i : Nat} (hi : i < numAsyncWorkers) {last : Body} (hlast : held last = []) :
    Move numAsyncWorkers c (c.processRequests i last) := by
  unfold processRequests
  split
  · next hbody =>
      split
      · exact .quiet i _ (by rw [hbody]; rfl) rfl
      · next s rest hqueue => exact .takeShared i s rest hi hbody hqueue
  · next s hbody => exact .finish i s _ hi (by rw [hbody]; rfl) rfl
  · next hbody =>
      split
      · exact .quiet i _ (by rw [hbody]; rfl) hlast
      · next s rest hqueue => exact .takeSerial i s rest hi hbody hqueue
  · next s hbody => exact .finish i s _ hi (by rw [hbody]; rfl) rfl
  · exact .still

theorem move_runThread {i : Nat} (hi : i < numAsyncWorkers) :
    Move numAsyncWorkers c (c.runThread i) := by
  unfold runThread
  split
  · next hbody =>
      split
      · exact .quiet i _ (by rw [hbody]; rfl) rfl
      · exact .quiet i _ (by rw [hbody]; rfl) rfl
  · next hbody => exact .quiet i _ (by rw [hbody]; rfl) rfl
  · exact move_processRequests hi rfl

theorem move_destroy {i : Nat} (hi : i < numAsyncWorkers) : Move numAsyncWorkers c (c.destroy i) := by
  unfold destroy
  split
  · next hbody => exact .quiet i _ (by rw [hbody]; rfl) rfl
  · exact move_processRequests hi rfl

theorem move_addToSerialDelayQueue {op : SqlOperation} (hn : 1 ≤ numAsyncWorkers) :
    Move numAsyncWorkers c (c.addToSerialDelayQueue numAsyncWorkers op) := by
  unfold addToSerialDelayQueue
  split
  · next h =>
      rcases h with hzero | hnone
      · exact .addShared op hzero
      · omega
  · next h => exact .addSerial op fun hzero => h (.inl hzero)

theorem moves_step (hn : 1 ≤ numAsyncWorkers) (hclearing : ∀ i, c.halt = .clearing i → i < numAsyncWorkers)
    (action : Step) : ∃ middle, Move numAsyncWorkers c middle ∧
      Move numAsyncWorkers middle (c.step numAsyncWorkers action) := by
  cases action with
  | execute id =>
    refine ⟨c, .still, ?_⟩
    rw [step]
    split
    · exact .addShared _ rfl
    · exact .still
  | commitTransaction transaction =>
    refine ⟨c, .still, ?_⟩
    rw [step]
    split
    · rw [commitTransaction]
      split
      · exact move_addToSerialDelayQueue hn
      · next h => exact .addShared _ (Nat.eq_zero_of_not_pos h)
    · exact .still
  | delayQueryHolder holder =>
    refine ⟨c, .still, ?_⟩
    rw [step]
    split
    · exact move_addToSerialDelayQueue hn
    · exact .still
  | thread i =>
    refine ⟨c, .still, ?_⟩
    rw [step]
    split
    · exact .still
    · next h =>
        rw [Bool.or_eq_true, decide_eq_true_eq, not_or] at h
        exact move_runThread (Nat.lt_of_not_le h.2)
  | haltDelayThread =>
    rw [step, haltDelayThread]
    split
    · exact ⟨c, .still, .control _ c.running⟩
    · exact ⟨c, .still, .control _ _⟩
    · refine ⟨c, .still, ?_⟩
      split
      · exact .control _ c.running
      · exact .still
    · next i hhalt =>
        refine ⟨c.destroy i, move_destroy (hclearing i hhalt), ?_⟩
        dsimp only
        split
        · exact .control _ (c.destroy i).running
        · exact .still
    · exact ⟨c, .still, .still⟩

end Database

end TurtleWow.Sql

import TurtleWow.Lib.Control

namespace TurtleWow.Movement

inductive MovementGeneratorType
  | idle | random | waypoint | confused | chase | home | flight | point | fleeing | distract | assistance
  | assistanceDistract | timedFleeing | follow | effect | patrol | charge | distancing
deriving DecidableEq, Repr

-- `si_idleMovement` is one object for all units. The other generators are
-- allocated for one, and told apart by the allocation.
inductive MovementGenerator
  | idleMovement
  | allocated (id : Nat) (type : MovementGeneratorType)
deriving DecidableEq, Repr

def MovementGenerator.type : MovementGenerator → MovementGeneratorType
  | .idleMovement => .idle
  | .allocated _ type => type

def isStatic (mv : MovementGenerator) : Bool := mv == .idleMovement

-- What the operations ask of the unit at the moment they run
structure Owner where
  isCreature : Bool
  isAlive : Bool
  possessed : Bool
  canNotMove : Bool
  defaultMovementType : MovementGeneratorType
  -- what `selectMovementGenerator` makes, if anything
  selected : Option MovementGeneratorType
deriving DecidableEq, Repr

structure MotionMaster where
  -- the top first
  stack : List MovementGenerator
  expList : Option (List MovementGenerator)
  -- the two bits of `m_cleanFlag`: MMCF_UPDATE and MMCF_RESET
  inUpdate : Bool
  toReset : Bool
  -- what happened so far: allocations, pushes of a new generator, `Finalize`
  -- calls, deletions, and whether C++ leaves the execution undefined
  allocated : List MovementGenerator
  pushed : List MovementGenerator
  finalized : List MovementGenerator
  deleted : List MovementGenerator
  undefined : Bool
deriving DecidableEq, Repr

inductive Callback
  | finalize | reset | update
deriving DecidableEq, Repr

-- What an operation in progress has still to do. `delayed` generators go to the
-- expire list, the others are deleted; `tested` asks `isStatic` first.
inductive Instr
  | callback (kind : Callback)
  | finalize (mv : MovementGenerator) (delayed tested : Bool)
  | dispose (mv : MovementGenerator) (delayed tested : Bool)
  -- Initialize: the call, and what follows its Clear
  | initializeMotion
  | setDefault
  -- InitializeNewDefault and MoveWaypointAsDefault, after their Clear
  | newDefault (curr : MovementGenerator) (alwaysReplace : Bool) (type : MovementGeneratorType)
  | waypointDefault (newWPMMgen : MovementGenerator) (curr : Option MovementGenerator)
  -- DirectClean: the Reset of what stays
  | resetKept
  -- DirectExpire, after the dropped generators and after the expired one
  | expire (curr : MovementGenerator) (reset : Bool)
  | expired (reset : Bool) (nowTop : Option MovementGenerator)
  | resetTop (reset : Bool) (nowTop : Option MovementGenerator)
  -- Mutate, after MovementExpired
  | mutated (m : MovementGenerator)
  -- UpdateMotion: the expire list, the pending Reset, and after it
  | updated
  | resetFlagged
  | resetDone
  -- ClearType: the loop, and the erasure after the Finalize
  | clearType (moveType : MovementGeneratorType)
  | erase (it : Nat)
  -- an Initialize or UpdateMotion is complete
  | completed
deriving DecidableEq, Repr

namespace MotionMaster

def fresh : MotionMaster := ⟨[], none, false, false, [], [], [], [], false⟩

section

variable (m : MotionMaster)

def push (mv : MovementGenerator) : MotionMaster :=
  { m with stack := mv :: m.stack, pushed := mv :: m.pushed }

-- The generator taken off the stack before a Clear goes back on it.
def putBack (mv : MovementGenerator) : MotionMaster := { m with stack := mv :: m.stack }

def next (type : MovementGeneratorType) : MovementGenerator := .allocated m.allocated.length type

def allocate (type : MovementGeneratorType) : MotionMaster :=
  { m with allocated := m.next type :: m.allocated }

def needExpList : MotionMaster := { m with expList := some (m.expList.getD []) }

-- `while (all ? !empty() : size() > 1)`
def toPop (all : Bool) : Nat := if all then m.stack.length else m.stack.length - 1

def directClean (reset all : Bool) : MotionMaster × List Instr :=
  let mvtGensToFinalize := m.stack.take (m.toPop all)
  let kept := m.stack.drop (m.toPop all)
  ({ m with stack := kept },
    (if !all && reset then (if kept.isEmpty then [.initializeMotion] else []) ++ [.resetKept] else []) ++
      mvtGensToFinalize.map fun itr => .finalize itr false true)

def delayedClean (reset all : Bool) : MotionMaster × List Instr :=
  let m := { m with toReset := reset }
  if m.stack.isEmpty || (!all && m.stack.length == 1) then (m, [])
  else
    let mvtGensToFinalize := m.stack.take (m.toPop all)
    ({ m.needExpList with stack := m.stack.drop (m.toPop all) },
      mvtGensToFinalize.map fun itr => .finalize itr true true)

def clear (reset all : Bool) : MotionMaster × List Instr :=
  if m.inUpdate then m.delayedClean reset all else m.directClean reset all

def drops (curr mv : MovementGenerator) : Bool :=
  (mv.type == .chase || mv.type == .follow) && curr.type != .distancing

def directExpire (reset : Bool) : MotionMaster × List Instr :=
  match m.stack with
  | curr :: under :: rest =>
    let mvtGensToFinalize := (under :: rest).takeWhile (drops curr)
    ({ m with stack := (under :: rest).dropWhile (drops curr) },
      mvtGensToFinalize.map (fun itr => .finalize itr false false) ++ [.expire curr reset])
  | _ => (m, [])

def delayedExpire (reset : Bool) : MotionMaster × List Instr :=
  let m := { m with toReset := reset }
  match m.stack with
  | curr :: under :: rest =>
    let mvtGensToFinalize := (under :: rest).takeWhile (drops curr)
    ({ m.needExpList with stack := (under :: rest).dropWhile (drops curr) },
      mvtGensToFinalize.map (fun itr => .finalize itr true false) ++ [.finalize curr true true])
  | _ => (m, [])

def movementExpired (reset : Bool) : MotionMaster × List Instr :=
  if m.inUpdate then m.delayedExpire reset else m.directExpire reset

section

variable (owner : Owner)

-- `push(movement == nullptr ? &si_idleMovement : movement)`
def pushSelected : MotionMaster :=
  match owner.selected with
  | none => m.push .idleMovement
  | some type => (m.allocate type).push (m.next type)

def setDefault : MotionMaster :=
  if owner.isCreature && owner.isAlive && !owner.possessed then m.pushSelected owner else m.push .idleMovement

def startInitialize : MotionMaster × List Instr :=
  let (m, cleared) := m.clear false true
  (m, cleared ++ [.setDefault, .completed])

def initializeNewDefault (alwaysReplace : Bool) : MotionMaster × List Instr :=
  match m.stack with
  | [] => m.startInitialize
  | curr :: rest =>
    if !owner.isCreature then (m, [])
    else if !alwaysReplace && rest.isEmpty && curr.type == owner.defaultMovementType then (m, [])
    else
      let (m, cleared) := { m with stack := rest }.clear false true
      (m, cleared ++ [.newDefault curr alwaysReplace owner.defaultMovementType])

-- The new default on the stack, and its type
def pushNewDefault (type : MovementGeneratorType) : MotionMaster × MovementGeneratorType :=
  if owner.possessed then (m.push .idleMovement, type) else (m.pushSelected owner, owner.selected.getD type)

def newDefault (curr : MovementGenerator) (alwaysReplace : Bool)
    (type : MovementGeneratorType) : MotionMaster × List Instr :=
  if alwaysReplace || curr.type != type then
    let replaced := m.pushNewDefault owner type
    if curr.type != replaced.2 then (replaced.1.putBack curr, [])
    else (replaced.1.needExpList, [.finalize curr true true])
  else (m.putBack curr, [])

def moveWaypointAsDefault : MotionMaster × List Instr :=
  -- an empty stack answers IDLE_MOTION_TYPE
  if !owner.isCreature || m.stack.head?.any (·.type == .waypoint) then (m, [])
  else
    let newWPMMgen := m.next .waypoint
    let m := m.allocate .waypoint
    match m.stack with
    | curr :: under :: rest =>
      let (m, cleared) := { m with stack := under :: rest }.clear false true
      (m, cleared ++ [.waypointDefault newWPMMgen (some curr)])
    | _ =>
      let (m, cleared) := m.clear false true
      (m, cleared ++ [.waypointDefault newWPMMgen none])

end

def waypointDefault (newWPMMgen : MovementGenerator) : Option MovementGenerator → MotionMaster
  | some curr => (m.push newWPMMgen).putBack curr
  | none => m.push newWPMMgen

end

def gives (top m : MovementGeneratorType) : Bool :=
  match top with
  | .chase => m != .distancing
  | .home | .distract | .distancing => true
  | _ => false

section

variable (m : MotionMaster)

def mutate (type : MovementGeneratorType) : MotionMaster × List Instr :=
  let mv := m.next type
  let m := m.allocate type
  if m.stack.head?.any (gives ·.type type) then
    let (m, expired) := m.movementExpired false
    (m, expired ++ [.mutated mv])
  else (m, [.mutated mv])

def moveIdle : MotionMaster :=
  if m.stack.head?.all (!isStatic ·) then m.push .idleMovement else m

-- `begin()` is the bottom of the stack. The generator is still on the stack
-- while its Finalize runs, and nobody deletes it.
def clearType (moveType : MovementGeneratorType) : MotionMaster × List Instr :=
  match m.stack.reverse.findIdx? (·.type == moveType) with
  | none => (m, [])
  | some it =>
    ({ m with finalized := (m.stack.reverse[it]?).toList ++ m.finalized },
      [.callback .finalize, .erase it, .clearType moveType])

def erase (it : Nat) : MotionMaster :=
  if it < m.stack.length then { m with stack := (m.stack.reverse.eraseIdx it).reverse }
  else { m with undefined := true }

def dispose (mv : MovementGenerator) (delayed tested : Bool) : MotionMaster :=
  if tested && isStatic mv then m
  else if delayed then
    match m.expList with
    -- `m_expList` is a null pointer
    | none => { m with undefined := true }
    | some list => { m with expList := some (list ++ [mv]) }
  else { m with deleted := mv :: m.deleted }

-- `none`: MANGOS_ASSERT(!empty()) ends the execution
def updateMotion (owner : Owner) : Option (MotionMaster × List Instr) :=
  if owner.canNotMove then some (m, [.completed])
  else if m.stack.isEmpty then none
  else some ({ m with inUpdate := true }, [.callback .update, .updated, .completed])

def updated : MotionMaster × List Instr :=
  match m.expList with
  | none => (m, [])
  | some list =>
    ({ m with expList := none, deleted := list.filter (!isStatic ·) ++ m.deleted },
      (if m.stack.isEmpty then [.initializeMotion] else []) ++ [.resetFlagged])

-- top()->Reset(*m_owner)
def callReset (rest : List Instr) : MotionMaster × List Instr :=
  if m.stack.isEmpty then ({ m with undefined := true }, []) else (m, .callback .reset :: rest)

end

end MotionMaster

inductive Operation
  | initializeMotion
  | initializeNewDefault (alwaysReplace : Bool)
  | mutate (type : MovementGeneratorType)
  | clear (reset all : Bool)
  | movementExpired (reset : Bool)
  | clearType (moveType : MovementGeneratorType)
  | moveWaypointAsDefault
  | moveIdle
  | updateMotion
deriving DecidableEq, Repr

def call (owner : Owner) (operation : Operation) (m : MotionMaster) : Option (MotionMaster × List Instr) :=
  match operation with
  | .initializeMotion => some m.startInitialize
  | .initializeNewDefault alwaysReplace => some (m.initializeNewDefault owner alwaysReplace)
  | .mutate type => some (m.mutate type)
  | .clear reset all => some (m.clear reset all)
  | .movementExpired reset => some (m.movementExpired reset)
  | .clearType moveType => some (m.clearType moveType)
  | .moveWaypointAsDefault => some (m.moveWaypointAsDefault owner)
  | .moveIdle => some (m.moveIdle, [])
  | .updateMotion => m.updateMotion owner

-- A callback returns. The answer of Update clears the flag either way, and
-- `false` expires the top.
def back (_ : Owner) (answer : Bool) (instr : Instr) (m : MotionMaster) : Option (MotionMaster × List Instr) :=
  match instr with
  | .callback .update =>
    let m := { m with inUpdate := false }
    some (if answer then (m, []) else m.movementExpired true)
  | .callback _ => some (m, [])
  | _ => none

def exec (owner : Owner) (instr : Instr) (m : MotionMaster) : Option (MotionMaster × List Instr) :=
  match instr with
  | .callback _ => none
  | .finalize mv delayed tested =>
    some ({ m with finalized := mv :: m.finalized }, [.callback .finalize, .dispose mv delayed tested])
  | .dispose mv delayed tested => some (m.dispose mv delayed tested, [])
  | .initializeMotion => some m.startInitialize
  | .setDefault => some (m.setDefault owner, [])
  | .newDefault curr alwaysReplace type => some (m.newDefault owner curr alwaysReplace type)
  | .waypointDefault newWPMMgen curr => some (m.waypointDefault newWPMMgen curr, [])
  -- MANGOS_ASSERT(!empty())
  | .resetKept => if m.stack.isEmpty then none else some (m.callReset [])
  | .expire curr reset => some (m, [.finalize curr false true, .expired reset m.stack.head?])
  | .expired reset nowTop =>
    some (m, (if m.stack.isEmpty then [.initializeMotion] else []) ++ [.resetTop reset nowTop])
  | .resetTop reset nowTop =>
    some (if reset && (m.stack.isEmpty || m.stack.head? == nowTop) then m.callReset [] else (m, []))
  | .mutated mv => some (m.push mv, [])
  | .updated => some m.updated
  | .resetFlagged => some (if m.toReset then m.callReset [.resetDone] else (m, []))
  | .resetDone => some ({ m with toReset := false }, [])
  | .clearType moveType => some (m.clearType moveType)
  | .erase it => some (m.erase it, [])
  | .completed => some (m, [])

def Instr.waits : Instr → Bool
  | .callback _ => true
  | _ => false

abbrev State := Control.State MotionMaster Instr

def machine : Control.Machine MotionMaster Instr Owner Operation Bool := ⟨call, back, exec, Instr.waits⟩

abbrev Input := Owner × Control.Input Operation Bool

def step (state : State) (input : Input) : State := machine.step state input

def start : State := ⟨MotionMaster.fresh, []⟩

end TurtleWow.Movement

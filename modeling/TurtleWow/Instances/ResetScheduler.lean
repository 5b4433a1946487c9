import Mathlib.Data.Int.Order.Basic
import Mathlib.Data.List.Sort
import Mathlib.Logic.Function.Basic
import TurtleWow.Lib.Run
import TurtleWow.Lib.Multimap

namespace TurtleWow.Instances

open Run

-- The schedule of the resets. Times are in seconds; the keys of the queue may lie
-- before the epoch.

def minute : Nat := 60
def hour : Nat := 60 * minute
def day : Nat := 24 * hour

inductive MapType
  | mapCommon
  | mapInstance
  | mapRaid
  | mapBattleground
deriving DecidableEq

-- The period is what uint32 makes of it.
structure MapEntry where
  id : UInt16
  mapType : MapType
  resetDelay : Nat
  period_ne : resetDelay ≠ 0 → resetDelay * day % 2 ^ 32 ≠ 0

namespace MapEntry

def isRaid (entry : MapEntry) : Bool := entry.mapType = .mapRaid

def isDungeon (entry : MapEntry) : Bool := entry.mapType = .mapInstance || entry.mapType = .mapRaid

def hasReset (entry : MapEntry) : Bool := entry.isDungeon && entry.resetDelay ≠ 0

end MapEntry

structure World where
  maps : List MapEntry
  nodup : (maps.map MapEntry.id).Nodup
  resetTimeHour : Nat

namespace World

variable (world : World)

def lookupEntry (mapid : UInt16) : Option MapEntry := world.maps.find? fun entry => entry.id = mapid

def diff : Nat := world.resetTimeHour * hour % 2 ^ 32

def getMaxResetTimeFor (entry : MapEntry) : Nat := entry.resetDelay * day % 2 ^ 32

def calculateNextResetTime (entry : MapEntry) (prevResetTime : Nat) : Nat :=
  (prevResetTime + minute) / day * day + getMaxResetTimeFor entry + world.diff

end World

inductive ResetEventType
  | normalDungeon
  | inform1
  | inform2
  | inform3
  | informLast
  | forcedInform1
  | forcedInform2
  | forcedInform3
  | forcedInformLast
deriving DecidableEq

namespace ResetEventType

def delay : ResetEventType → Nat
  | normalDungeon => 0
  | inform1 => 3600
  | inform2 => 900
  | inform3 => 300
  | informLast => 60
  | forcedInform1 => 60
  | forcedInform2 => 30
  | forcedInform3 => 10
  | forcedInformLast => 5

-- ResetEventType(type + 1), which is never asked of the last one
def next : ResetEventType → ResetEventType
  | normalDungeon => inform1
  | inform1 => inform2
  | inform2 => inform3
  | inform3 => informLast
  | informLast => forcedInform1
  | forcedInform1 => forcedInform2
  | forcedInform2 => forcedInform3
  | forcedInform3 => forcedInformLast
  | forcedInformLast => forcedInformLast

def last (type : ResetEventType) : Bool := type = informLast || type = forcedInformLast

def firstAhead (t now : Nat) : ResetEventType :=
  ([inform1, inform2, inform3].find? fun type => (now : Int) < t - type.delay).getD informLast

end ResetEventType

structure DungeonResetEvent where
  type : ResetEventType
  mapid : UInt16
  instanceId : Nat

-- operator ==
def DungeonResetEvent.same (event other : DungeonResetEvent) : Bool :=
  other.mapid = event.mapid && other.instanceId = event.instanceId

abbrev InstanceId := {id : Nat // id ≠ 0}

structure SavedInstance where
  id : InstanceId
  map : UInt16
  resettime : Nat

structure Reset where
  mapid : UInt16
  now : Nat
  resetTime : Nat
  forced : Bool
  next : Nat

-- `stored` is the table instance_reset, `pending` the statements for it that wait
-- for the thread of the database. `resets` are the global resets so far.
structure DungeonResetScheduler where
  clock : Nat
  resetTimeByMapId : UInt16 → Nat
  resetTimeQueue : Multimap Int DungeonResetEvent
  stored : UInt16 → Option Nat
  pending : List (UInt16 × Nat)
  resets : List Reset

-- What a pass of Update finds outside of the scheduler: the second reading of the
-- clock is `lag` later than the first; `left` are the instances that the reset
-- empties of their last player; `early` says that the thread of the database
-- executes its statements before the one that Update executes itself.
structure View where
  lag : Nat
  left : List (InstanceId × Nat)
  early : Bool

inductive Step
  | update (elapsed : Nat) (views : List View)
  | resetAllRaid (elapsed : Nat)
  | scheduleReset (add : Bool) (time : Nat) (mapid : UInt16) (instanceId : InstanceId)
  | executeDelayed

def updateRow (stored : UInt16 → Option Nat) (statement : UInt16 × Nat) (mapid : UInt16) : Option Nat :=
  if mapid = statement.1 then (stored mapid).map fun _ => statement.2 else stored mapid

def insertRow (stored : UInt16 → Option Nat) (statement : UInt16 × Nat) (mapid : UInt16) : Option Nat :=
  if mapid = statement.1 then some ((stored mapid).getD statement.2) else stored mapid

namespace DungeonResetScheduler

variable (world : World)

def setResetTimeFor (s : DungeonResetScheduler) (mapid : UInt16) (t : Nat) : DungeonResetScheduler :=
  { s with resetTimeByMapId := Function.update s.resetTimeByMapId mapid t }

-- The rows of maps that are no dungeons are deleted, the others follow the hour of
-- the configuration.
def loadResetTimes (table : UInt16 → Option Nat) : DungeonResetScheduler :=
  let loaded := fun mapid =>
    match world.lookupEntry mapid with
    | some entry => if entry.isDungeon then (table mapid).map fun old => old / day * day + world.diff else none
    | none => none
  { clock := 0
    resetTimeByMapId := fun mapid => (loaded mapid).getD 0
    resetTimeQueue := Multimap.empty
    stored := loaded
    pending := []
    resets := [] }

def dungeonEvent (mapid : UInt16) (instanceId : InstanceId) : DungeonResetEvent where
  type := .normalDungeon
  mapid := mapid
  instanceId := instanceId.val

-- The events of one time come first, then all.
def removeEvent (queue : Multimap Int DungeonResetEvent) (time : Int) (event : DungeonResetEvent) :
    Multimap Int DungeonResetEvent :=
  if queue.entries.any fun entry => entry.1 = time && entry.2.same event then
    queue.eraseFirst fun entry => entry.1 = time && entry.2.same event
  else queue.eraseFirst fun entry => entry.2.same event

def scheduleReset (s : DungeonResetScheduler) (add : Bool) (time : Int) (event : DungeonResetEvent) :
    DungeonResetScheduler :=
  { s with
    resetTimeQueue := if add then s.resetTimeQueue.insert time event else removeEvent s.resetTimeQueue time event }

def initialTime (t now : Nat) (entry : MapEntry) : Nat :=
  let period := World.getMaxResetTimeFor entry
  let today := now / day * day
  let t := if t = 0 then today + period + world.diff else t
  if t < now then t / day * day + ((today - t / day * day) / period + 1) * period + world.diff else t

def scheduleMap (now : Nat) (s : DungeonResetScheduler) (entry : MapEntry) : DungeonResetScheduler :=
  if entry.hasReset then
    let before := s.resetTimeByMapId entry.id
    let fresh := now / day * day + World.getMaxResetTimeFor entry + world.diff
    let t := initialTime world before now entry
    let inserted := if before = 0 then insertRow s.stored (entry.id, fresh) else s.stored
    let stored := if (if before = 0 then fresh else before) < now then updateRow inserted (entry.id, t) else inserted
    let type := ResetEventType.firstAhead t now
    (({ s with stored := stored }).setResetTimeFor entry.id t).scheduleReset true (t - type.delay) ⟨type, entry.id, 0⟩
  else s

def scheduleAllDungeonResets (s : DungeonResetScheduler) (now : Nat) (saved : List SavedInstance) :
    DungeonResetScheduler :=
  let timed := (saved.filter fun row => row.resettime ≠ 0).insertionSort fun first second => first.id.val ≤ second.id.val
  let s := { s with
    clock := now
    resetTimeQueue := s.resetTimeQueue.insertAll (timed.map fun row => ((row.resettime : Int), dungeonEvent row.map row.id)) }
  world.maps.foldl (scheduleMap world now) s

-- uint32(std::max(int32(resetTime - now), 0))
def timeLeft (resetTime now : Nat) : Nat := (((resetTime : Int) - now).bmod (2 ^ 32)).toNat

-- The event is edited in its place, and the first one is erased at the end.
def requeue (queue : Multimap Int DungeonResetEvent) (event : DungeonResetEvent) (added : List (Int × DungeonResetEvent))
    (time : Int) : Multimap Int DungeonResetEvent :=
  (((queue.setBegin event).insertAll added).insert time event).eraseBegin

def leftBehind (entry : MapEntry) (view : View) : List (Int × DungeonResetEvent) :=
  if entry.isRaid then [] else view.left.map fun left => ((left.2 : Int), dungeonEvent entry.id left.1)

def executeAll (stored : UInt16 → Option Nat) (pending : List (UInt16 × Nat)) : UInt16 → Option Nat :=
  pending.foldl updateRow stored

-- The branch of Update for a reset, with _ResetOrWarnAll
def reset (s : DungeonResetScheduler) (event : DungeonResetEvent) (entry : MapEntry) (view : View) :
    DungeonResetScheduler :=
  let resetTime := s.resetTimeByMapId event.mapid
  let delayed := world.calculateNextResetTime entry (s.clock + view.lag + timeLeft resetTime s.clock)
  let nextReset := world.calculateNextResetTime entry resetTime
  let type := ResetEventType.firstAhead nextReset s.clock
  let added := if entry.hasReset then leftBehind entry view else []
  let pending := if entry.hasReset then s.pending ++ [(event.mapid, delayed)] else s.pending
  let resets := if entry.hasReset then
      s.resets ++ [⟨event.mapid, s.clock, resetTime, event.type = .forcedInformLast, nextReset⟩]
    else s.resets
  { s.setResetTimeFor event.mapid nextReset with
    resetTimeQueue := requeue s.resetTimeQueue { event with type := type } added (nextReset - type.delay)
    stored := updateRow (if view.early then executeAll s.stored pending else s.stored) (event.mapid, nextReset)
    pending := if view.early then [] else pending
    resets := resets }

-- The branch of Update for a warning
def warn (s : DungeonResetScheduler) (event : DungeonResetEvent) : DungeonResetScheduler :=
  { s with
    resetTimeQueue := requeue s.resetTimeQueue { event with type := event.type.next } []
      (s.resetTimeByMapId event.mapid - event.type.next.delay) }

-- One pass of the loop of Update, which ends when no event is due. A map without
-- an entry would stop the server.
def pass (s : DungeonResetScheduler) (view : View) : DungeonResetScheduler :=
  match s.resetTimeQueue.begin with
  | none => s
  | some (t, event) =>
    if t < s.clock then
      if event.type = .normalDungeon then { s with resetTimeQueue := s.resetTimeQueue.eraseBegin }
      else
        match world.lookupEntry event.mapid with
        | none => s
        | some entry => if event.type.last then s.reset world event entry view else s.warn event
    else s

def forcedTime : Nat := ResetEventType.delay .forcedInform1

def force (now : Nat) (entry : Int × DungeonResetEvent) : Int × DungeonResetEvent :=
  if entry.2.type = .normalDungeon then entry else (now, { entry.2 with type := .forcedInform1 })

def resetAllRaid (s : DungeonResetScheduler) : DungeonResetScheduler :=
  { s with
    resetTimeByMapId := fun mapid =>
      if s.resetTimeQueue.entries.any fun entry => entry.2.type ≠ .normalDungeon && entry.2.mapid = mapid then
        s.clock + forcedTime
      else s.resetTimeByMapId mapid
    resetTimeQueue := Multimap.empty.insertAll (s.resetTimeQueue.entries.map (force s.clock)) }

def elapse (s : DungeonResetScheduler) (elapsed : Nat) : DungeonResetScheduler := { s with clock := s.clock + elapsed }

def step (s : DungeonResetScheduler) : Step → DungeonResetScheduler
  | .update elapsed views => run (pass world) (s.elapse elapsed) views
  | .resetAllRaid elapsed => (s.elapse elapsed).resetAllRaid
  | .scheduleReset add time mapid instanceId => s.scheduleReset add time (dungeonEvent mapid instanceId)
  | .executeDelayed =>
    match s.pending with
    | [] => s
    | statement :: rest => { s with stored := updateRow s.stored statement, pending := rest }

def scheduled (table : UInt16 → Option Nat) (saved : List SavedInstance) (now : Nat) : DungeonResetScheduler :=
  scheduleAllDungeonResets world (loadResetTimes world table) now saved

end DungeonResetScheduler

end TurtleWow.Instances

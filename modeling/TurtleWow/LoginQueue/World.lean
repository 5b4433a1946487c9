import Mathlib.Data.Nat.Basic
import Mathlib.Logic.Function.Iterate
import Mathlib.Order.Basic
import TurtleWow.Lib.Multimap
import TurtleWow.Lib.Run

namespace TurtleWow.LoginQueue

-- The login queue of the world with the priority queue enabled. `updateSessions` is
-- the first part of World::UpdateSessions; the sessions that arrive and leave in its
-- later parts are steps of their own.

inductive Region
  | regional
  | nonRegional
deriving DecidableEq

-- What is read from the configuration, with the maxima that the percentages give
structure Config where
  hardPlayerLimit : Nat
  maxPop : Region → Nat
  loginPerTick : Nat
  priorityPerTick : Nat
  enableIpPenalty : Bool
  priorityReductionMultibox : Nat

-- `player` is a player of the session in the world.
structure WorldSession where
  account : Nat
  region : Region
  binaryAddress : Nat
  socket : Bool
  player : Bool
  inQueue : Bool
  passedQueue : Bool

structure Admission where
  skipped : Bool
  count : Int
  maxPop : Nat
  active : Nat
  hardPlayerLimit : Nat

-- Sessions have the number of their creation. `sessions` leads from the account to
-- its session; a deleted session is `none`.
structure World where
  session : Nat → Option WorldSession
  nextSession : Nat
  sessions : OrderedMap Nat Nat
  disconnectedSessions : List Nat
  priorityQueue : Region → List (Nat × Nat)
  logged : Region → Int
  playerLimit : Int
  ipconnections : Nat → Nat
  admissions : List Admission

-- A session from the socket threads or a bot's. `basePriority` and `skips` are the
-- answers of GetBasePriority and CanSkipQueue, `loading` says that the session of
-- the account loads its player, `delay` that its player in the world stays there.
structure Arrival where
  account : Nat
  region : Region
  binaryAddress : Nat
  socket : Bool
  basePriority : Nat
  skips : Bool
  loading : Bool
  delay : Bool

inductive Step
  | updateSessions (config : Config) (diff : Nat)
  | arrive (config : Config) (arrival : Arrival)
  | login (id : Nat)
  | logout (id : Nat)
  -- the socket is closed; `delay` as above
  | lose (account : Nat) (delay : Bool)
  -- Update returns false for another reason
  | remove (account : Nat)
  | expire (id : Nat)

namespace World

def initial : World where
  session := fun _ => none
  nextSession := 0
  sessions := OrderedMap.empty
  disconnectedSessions := []
  priorityQueue := fun _ => []
  logged := fun _ => 0
  playerLimit := 0
  ipconnections := fun _ => 0
  admissions := []

section

variable (w : World)

def getQueuedSessionCount : Nat :=
  (w.priorityQueue .regional).length + (w.priorityQueue .nonRegional).length

def getActiveSessionCount : Nat := w.sessions.size - w.getQueuedSessionCount

def setSession (id : Nat) (s : WorldSession) : World :=
  { w with session := Function.update w.session id (some s) }

def setQueue (region : Region) (queue : List (Nat × Nat)) : World :=
  { w with priorityQueue := Function.update w.priorityQueue region queue }

def count (region : Region) (difference : Int) : World :=
  { w with logged := Function.update w.logged region (w.logged region + difference) }

-- SetInQueue
def setInQueue (id : Nat) (state : Bool) : World :=
  match w.session id with
  | none => w
  | some s => w.setSession id { s with inQueue := state }

def onPassedQueue (id : Nat) : World :=
  match w.session id with
  | none => w
  | some s => (w.setSession id { s with passedQueue := true }).count s.region 1

-- ~WorldSession
def delete (id : Nat) : World :=
  match w.session id with
  | none => w
  | some s =>
    let w := if s.passedQueue then w.count s.region (-1) else w
    { w with session := Function.update w.session id none }

section

variable (config : Config)

def admission (region : Region) (skipped : Bool) : Admission where
  skipped := skipped
  count := w.logged region
  maxPop := config.maxPop region
  active := w.getActiveSessionCount
  hardPlayerLimit := config.hardPlayerLimit

def letIn (id : Nat) (region : Region) (skipped : Bool) : World :=
  let w := w.onPassedQueue id
  { w with admissions := w.admissions ++ [w.admission config region skipped] }

def insertByPriority (priority id : Nat) : List (Nat × Nat) → List (Nat × Nat)
  | [] => [(priority, id)]
  | entry :: rest =>
    if entry.1 < priority then (priority, id) :: entry :: rest else entry :: insertByPriority priority id rest

def penalized (priority binaryAddress : Nat) : Nat :=
  if config.enableIpPenalty && 1 < w.ipconnections binaryAddress then priority - config.priorityReductionMultibox
  else priority

def addQueuedSession (id : Nat) (arrival : Arrival) : World :=
  let w := w.setInQueue id true
  w.setQueue arrival.region
    (insertByPriority (w.penalized config arrival.basePriority arrival.binaryAddress) id (w.priorityQueue arrival.region))

def removeQueuedSession (id : Nat) : World :=
  match w.session id with
  | none => w
  | some s =>
    if (w.priorityQueue s.region).any fun entry => entry.2 = id then
      (w.setInQueue id false).setQueue s.region ((w.priorityQueue s.region).eraseP fun entry => entry.2 = id)
    else w

-- SetDisconnectedSession
def setSessionDisconnected (id : Nat) : World :=
  match w.session id with
  | none => w
  | some s =>
    { w with
      sessions := w.sessions.erase s.account
      disconnectedSessions := id :: w.disconnectedSessions }

def staysInWorld (id : Nat) (delay : Bool) : Bool :=
  match w.session id with
  | none => false
  | some s => s.player && delay

def replaceOld (account : Nat) (delay : Bool) : World :=
  match w.sessions.find account with
  | none => w
  | some old =>
    let w := w.removeQueuedSession old
    if w.staysInWorld old delay then w.setSessionDisconnected old else w.delete old

-- AddSession_
def addSession (arrival : Arrival) : World :=
  if arrival.loading && (w.sessions.find arrival.account).isSome then w
  else
    let w := w.replaceOld arrival.account arrival.delay
    let id := w.nextSession
    let w := { w with
      session := Function.update w.session id (some {
        account := arrival.account
        region := arrival.region
        binaryAddress := arrival.binaryAddress
        socket := arrival.socket
        player := false
        inQueue := false
        passedQueue := false })
      nextSession := id + 1
      sessions := w.sessions.insert arrival.account id
      ipconnections := Function.update w.ipconnections arrival.binaryAddress (w.ipconnections arrival.binaryAddress + 1) }
    if ((config.maxPop arrival.region : Int) ≤ w.logged arrival.region ∨
        config.hardPlayerLimit ≤ w.getActiveSessionCount) ∧ arrival.skips = false then
      w.addQueuedSession config id arrival
    else w.letIn config id arrival.region arrival.skips

end

end

def u32 (n : Int) : Nat := (n % 2 ^ 32).toNat

def i32 (n : Int) : Int := n.bmod (2 ^ 32)

section

variable (config : Config)

def popFront (region : Region) (w : World) : World :=
  match w.priorityQueue region with
  | [] => w
  | entry :: rest => ((w.setInQueue entry.2 false).setQueue region rest).letIn config entry.2 region false

def raise (diff : Nat) (entry : Nat × Nat) : Nat × Nat :=
  (u32 (entry.1 + u32 (diff * config.priorityPerTick)), entry.2)

-- m_playerLimit before a batch
def raisedLimit (pop : Region → Int) (w : World) : Int :=
  i32 (min (u32 (w.playerLimit + config.loginPerTick)) (u32 (pop .nonRegional + pop .regional + config.loginPerTick)))

def full (pop : Region → Int) (w : World) : Bool :=
  (config.hardPlayerLimit ≠ 0 && i32 config.hardPlayerLimit < raisedLimit config pop w) ||
    config.hardPlayerLimit ≤ w.getActiveSessionCount

def opens (pop : Region → Int) (w : World) (region : Region) : Bool :=
  pop region < config.maxPop region && w.priorityQueue region ≠ [] && config.loginPerTick ≠ 0

-- The queue of one region, with the populations read before both
def admitRegion (diff : Nat) (pop : Region → Int) (w : World) (region : Region) : World :=
  if opens config pop w region then
    let acceptNow := if full config pop w then 0 else config.loginPerTick
    let limit := if full config pop w then i32 config.hardPlayerLimit else raisedLimit config pop w
    let w := (popFront config region)^[acceptNow] { w with playerLimit := limit }
    w.setQueue region ((w.priorityQueue region).map (raise config diff))
  else w

end

section

variable (w : World)

def capLimit (config : Config) : World :=
  if config.hardPlayerLimit ≠ 0 then { w with playerLimit := min (i32 config.hardPlayerLimit) w.playerLimit } else w

def updateSessions (config : Config) (diff : Nat) : World :=
  let w := w.capLimit config
  admitRegion config diff w.logged (admitRegion config diff w.logged w .regional) .nonRegional

-- A queued session with a socket is not let to its characters; bots do not ask.
def login (id : Nat) : World :=
  match w.session id with
  | none => w
  | some s => if s.socket && s.inQueue then w else w.setSession id { s with player := true }

def logout (id : Nat) : World :=
  match w.session id with
  | none => w
  | some s => w.setSession id { s with player := false }

def removeSession (account : Nat) : World :=
  match w.sessions.find account with
  | none => w
  | some id =>
    match w.session id with
    | none => w
    | some s =>
      let w := w.removeQueuedSession id
      ({ w with
        sessions := w.sessions.erase account
        ipconnections := Function.update w.ipconnections s.binaryAddress (w.ipconnections s.binaryAddress - 1) }).delete id

def loseSocket (account : Nat) (delay : Bool) : World :=
  match w.sessions.find account with
  | none => w
  | some id =>
    match w.session id with
    | none => w
    | some s =>
      if !s.socket then w
      else if w.staysInWorld id delay then (w.setSession id { s with socket := false }).setSessionDisconnected id
      else w.removeSession account

def expire (id : Nat) : World :=
  if id ∈ w.disconnectedSessions then
    { w with disconnectedSessions := w.disconnectedSessions.filter (· ≠ id) }.delete id
  else w

def step : Step → World
  | .updateSessions config diff => w.updateSessions config diff
  | .arrive config arrival => w.addSession config arrival
  | .login id => w.login id
  | .logout id => w.logout id
  | .lose account delay => w.loseSocket account delay
  | .remove account => w.removeSession account
  | .expire id => w.expire id

end

end World

end TurtleWow.LoginQueue

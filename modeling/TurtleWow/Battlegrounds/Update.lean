import TurtleWow.Battlegrounds.Queue
import Mathlib.Algebra.Order.Group.Int

namespace TurtleWow.Battlegrounds

-- BattleGroundQueue::Update: who is invited to which battleground.

def STATUS_WAIT_QUEUE : Nat := 1

def STATUS_WAIT_JOIN : Nat := 2

def STATUS_IN_PROGRESS : Nat := 3

def STATUS_WAIT_LEAVE : Nat := 4

def OFFLINE_BG_QUEUE_TIME : Nat := 60 * 1000

structure BattleGround where
  bracketId : Bracket
  status : Nat
  clientInstanceId : Nat
  isArena : Bool
  maxPlayersPerTeam : Nat
  maxPlayers : Nat
  invited : Team → Nat
  players : OrderedMap Nat Team

namespace BattleGround

variable (bg : BattleGround)

def increaseInvitedCount (team : Team) : BattleGround :=
  { bg with invited := Function.update bg.invited team (Word.add32 (bg.invited team) 1) }

def decreaseInvitedCount (team : Team) : BattleGround :=
  { bg with invited := Function.update bg.invited team (Word.sub32 (bg.invited team) 1) }

def getFreeSlotsForTeam (team : Team) : Nat :=
  if bg.status = STATUS_WAIT_JOIN ∨ bg.status = STATUS_IN_PROGRESS then
    if bg.invited team < bg.maxPlayersPerTeam then bg.maxPlayersPerTeam - bg.invited team else 0
  else 0

def hasFreeSlots : Bool := decide (bg.players.size < bg.maxPlayers)

end BattleGround

-- One type of battleground: its queue and its instances, of which those in
-- `freeSlots` are waiting for players.
structure State where
  queue : BattleGroundQueue
  bgs : OrderedMap Nat BattleGround
  freeSlots : List Nat

structure Settings where
  testing : Bool
  isAlterac : Bool
  premadeQueueGroupMinSize : Nat
  premadeGroupWaitForMatch : Nat
  invitationType : Nat
  avMinPlayersInQueue : Nat
  avInitialMaxPlayers : Nat

structure Template where
  minPlayersPerTeam : Nat
  maxPlayersPerTeam : Nat
  maxPlayers : Nat
  isArena : Bool

-- What an update sees: the players who are found but are in a battleground, in
-- flight, disconnected or logging out; those whom an invitation reaches; and the
-- instances it can create, by the number of the attempt, with the numbers that
-- clients see.
structure View where
  time : Nat
  busy : Nat → Bool
  reached : Nat → Bool
  beyondEmpty : Bool
  randomize : Option (Team → BattleGroundQueue.Shuffle)
  alterac : Team → BattleGroundQueue.Shuffle
  template : Option Template
  newBattleGround : Nat → Option (Nat × Nat)

structure SelectionPool where
  selectedGroups : List Nat
  playerCount : Nat

namespace SelectionPool

def init : SelectionPool := ⟨[], 0⟩

def addGroup (q : BattleGroundQueue) (busy : Nat → Bool) (desiredCount bgInstanceId : Nat) (pool : SelectionPool)
    (ginfo : Nat) : SelectionPool × Bool :=
  match q.infos.find ginfo with
  | none => (pool, decide (pool.playerCount < desiredCount))
  | some info =>
    if info.isInvitedToBGInstanceGUID = 0 ∧ (info.desiredInstanceId = 0 ∨ info.desiredInstanceId = bgInstanceId) ∧
        desiredCount ≥ pool.playerCount + info.players.card ∧ ¬∃ guid ∈ info.players, busy guid = true then
      (⟨pool.selectedGroups ++ [ginfo], pool.playerCount + info.players.card⟩, true)
    else (pool, decide (pool.playerCount < desiredCount))

def sizeOf (q : BattleGroundQueue) (ginfo : Nat) : Nat :=
  match q.infos.find ginfo with
  | none => 0
  | some info => info.players.card

-- Which group is kicked: the last one of about the size, or else the largest.
def kickIndex (q : BattleGroundQueue) (size : Nat) : List Nat → Nat → Nat × Nat → Bool → Nat
  | [], _, kick, _ => kick.1
  | ginfo :: rest, index, kick, found =>
    let players := sizeOf q ginfo
    if (Word.i32 (players - size)).natAbs ≤ 1 then kickIndex q size rest (index + 1) (index, players) true
    else if found = false ∧ players ≥ kick.2 then kickIndex q size rest (index + 1) (index, players) found
    else kickIndex q size rest (index + 1) kick found

def kickGroup (q : BattleGroundQueue) (size : Nat) (pool : SelectionPool) : SelectionPool × Bool :=
  match pool.selectedGroups with
  | [] => (pool, true)
  | first :: _ =>
    if pool.playerCount = 0 then (pool, true)
    else
      let index := kickIndex q size pool.selectedGroups 0 (0, sizeOf q first) false
      let players := sizeOf q (pool.selectedGroups.getD index first)
      (⟨pool.selectedGroups.eraseIdx index, pool.playerCount - players⟩, !decide (players ≤ size + 1))

end SelectionPool

abbrev Pools := Team → SelectionPool

def Pools.init : Pools := fun _ => .init

namespace BattleGroundQueue

variable (q : BattleGroundQueue) (settings : Settings) (view : View)

def isInvited (ginfo : Nat) : Bool :=
  match q.infos.find ginfo with
  | none => true
  | some info => decide (info.isInvitedToBGInstanceGUID ≠ 0)

def fill (test : Nat → Bool) (desiredCount enough : Nat) : SelectionPool → List Nat → SelectionPool × List Nat
  | pool, [] => (pool, [])
  | pool, ginfo :: rest =>
    if test ginfo then
      let pool := (SelectionPool.addGroup q view.busy desiredCount 0 pool ginfo).1
      if pool.playerCount ≥ enough then (pool, ginfo :: rest) else fill test desiredCount enough pool rest
    else fill test desiredCount enough pool rest

def isPremadeGroup (ginfo : Nat) : Bool :=
  !q.isInvited ginfo && decide (SelectionPool.sizeOf q ginfo ≥ settings.premadeQueueGroupMinSize)

section

variable (bracket : Bracket)

def premadePool (minPlayersPerTeam maxPlayersPerTeam : Nat) (pools : Pools) (team : Team) : SelectionPool :=
  let pool := (fill q view (q.isPremadeGroup settings) maxPlayersPerTeam minPlayersPerTeam (pools team)
    (q.queuedGroups bracket (BG_QUEUE_PREMADE_ALLIANCE + getTeamIndexByTeamId team))).1
  (fill q view (q.isPremadeGroup settings) maxPlayersPerTeam minPlayersPerTeam pool
    (q.queuedGroups bracket (BG_QUEUE_NORMAL_ALLIANCE + getTeamIndexByTeamId team))).1

-- allow 1v0 if debug bg
def someInTesting (pools : Pools) : Bool :=
  settings.testing && decide ((pools .ALLIANCE).playerCount ≠ 0 ∨ (pools .HORDE).playerCount ≠ 0)

def enoughInBoth (minPlayersPerTeam : Nat) (pools : Pools) : Bool :=
  decide ((pools .ALLIANCE).playerCount ≥ minPlayersPerTeam ∧ (pools .HORDE).playerCount ≥ minPlayersPerTeam)

def checkPremadeMatch (minPlayersPerTeam maxPlayersPerTeam : Nat) (pools : Pools) :
    BattleGroundQueue × Pools × Bool :=
  let pools : Pools := q.premadePool settings view bracket minPlayersPerTeam maxPlayersPerTeam pools
  if someInTesting settings pools || enoughInBoth minPlayersPerTeam pools then (q, pools, true)
  else
    let timeBefore := Word.sub32 view.time settings.premadeGroupWaitForMatch
    let q := (q.movePremade bracket timeBefore minPlayersPerTeam .ALLIANCE).movePremade bracket timeBefore minPlayersPerTeam
      .HORDE
    -- selection pools are not set
    (q, pools, false)

def balance (desiredCount : Nat) : SelectionPool → List Nat → SelectionPool
  | pool, [] => pool
  | pool, ginfo :: rest =>
    if q.isInvited ginfo then balance desiredCount pool rest
    else
      let result := SelectionPool.addGroup q view.busy desiredCount 0 pool ginfo
      if result.2 then balance desiredCount result.1 rest else result.1

def otherTeam : Team → Team
  | .ALLIANCE => .HORDE
  | .HORDE => .ALLIANCE

def normalWalk (minPlayers maxPlayers : Nat) (pools : Pools) (team : Team) : SelectionPool × List Nat :=
  fill q view (fun ginfo => !q.isInvited ginfo) maxPlayers minPlayers (pools team)
    (q.queuedGroups bracket (BG_QUEUE_NORMAL_ALLIANCE + getTeamIndexByTeamId team))

-- None where the walk over the smaller team has not stopped before the end of
-- its list: the iterator is then moved beyond it.
def checkNormalMatch (minPlayers maxPlayers : Nat) (pools : Pools) : Option (Pools × Bool) :=
  let walked := q.normalWalk view bracket minPlayers maxPlayers pools
  let pools : Pools := fun team => (walked team).1
  let j := if (pools .HORDE).playerCount < (pools .ALLIANCE).playerCount then Team.HORDE else Team.ALLIANCE
  if settings.invitationType ≠ 0 ∧ enoughInBoth minPlayers pools then
    match (walked j).2 with
    | [] => none
    | _ :: rest =>
      let pools : Pools := Function.update pools j (q.balance view (pools (otherTeam j)).playerCount (pools j) rest)
      -- do not allow to start bg with more than 1 players more on 1 faction
      if (Word.i32 ((pools .HORDE).playerCount - (pools .ALLIANCE).playerCount)).natAbs > 1 then some (pools, false)
      else some (pools, someInTesting settings pools || enoughInBoth minPlayers pools)
  else some (pools, someInTesting settings pools || enoughInBoth minPlayers pools)

def isAllQueuesEmpty : Bool :=
  (List.range BG_QUEUE_GROUP_TYPES_COUNT).all (fun index => (q.queuedGroups bracket index).isEmpty) && view.beyondEmpty

end

def addWhile (desiredCount bgInstanceId : Nat) : SelectionPool → List Nat → SelectionPool × List Nat
  | pool, [] => (pool, [])
  | pool, ginfo :: rest =>
    let result := SelectionPool.addGroup q view.busy desiredCount bgInstanceId pool ginfo
    if result.2 then addWhile desiredCount bgInstanceId result.1 rest else (result.1, ginfo :: rest)

-- A team whose pool leaves fewer places than the other's: a group is kicked, and
-- others are tried in its place.
def kickAndRefill (free : Nat) (diffOther : Int) (diff bgInstanceId : Nat) (side : SelectionPool × List Nat) :
    SelectionPool × List Nat :=
  let kicked := SelectionPool.kickGroup q diff side.1
  if kicked.2 then
    let desiredCount := if (free : Int) ≥ diffOther then (free - diffOther).toNat else 0
    q.addWhile view desiredCount bgInstanceId kicked.1 side.2
  else (kicked.1, side.2)

def equalize (free : Team → Nat) (differential bgInstanceId : Nat) :
    Nat → (Team → SelectionPool × List Nat) → Team → SelectionPool × List Nat
  | 0, sides => sides
  | rounds + 1, sides =>
    let diff (team : Team) : Int := free team - (sides team).1.playerCount
    if (diff .ALLIANCE - diff .HORDE).natAbs > differential ∧
        ((sides .HORDE).1.playerCount > 0 ∨ (sides .ALLIANCE).1.playerCount > 0) then
      let team := if diff .ALLIANCE < diff .HORDE then Team.ALLIANCE else Team.HORDE
      let other := otherTeam team
      let size := (diff other - diff team).toNat
      let side := q.kickAndRefill view (free team) (diff other) size bgInstanceId (sides team)
      let sides := Function.update sides team side
      if side.1.playerCount = 0 then
        if (free team : Int) ≤ diff other + 1 then sides
        else
          let kicked := (SelectionPool.kickGroup q size (sides other).1).1
          equalize free differential bgInstanceId rounds (Function.update sides other (kicked, (sides other).2))
      else equalize free differential bgInstanceId rounds sides
    else sides

def fillPlayersToBG (bg : BattleGround) (bracket : Bracket) : Pools :=
  if bg.isArena then Pools.init
  else
    let queued (team : Team) := q.queuedGroups bracket (BG_QUEUE_NORMAL_ALLIANCE + getTeamIndexByTeamId team)
    let sides (team : Team) := q.addWhile view (bg.getFreeSlotsForTeam team) bg.clientInstanceId .init (queued team)
    if settings.invitationType = 0 then fun team => (sides team).1
    else
      let differential := if settings.isAlterac then 3 else 0
      let rounds := 2 * ((queued .ALLIANCE).length + (queued .HORDE).length) + 1
      fun team => (q.equalize view bg.getFreeSlotsForTeam differential bg.clientInstanceId rounds sides team).1

end BattleGroundQueue

namespace State

variable (s : State) (settings : Settings) (view : View)

def decreaseInvited (decreased : Option (Nat × Team)) : State :=
  match decreased with
  | none => s
  | some (instanceId, team) =>
    match s.bgs.find instanceId with
    | none => s
    | some bg => { s with bgs := s.bgs.insert instanceId (bg.decreaseInvitedCount team) }

def removePlayer (guid : Nat) (decreaseInvitedCount : Bool) : State :=
  let result := s.queue.removePlayer guid decreaseInvitedCount
  { s with queue := result.1 }.decreaseInvited result.2

def inviteGroup (instanceId : Nat) (s : State) (ginfo : Nat) : State :=
  match s.queue.infos.find ginfo, s.bgs.find instanceId with
  | some info, some bg =>
    let result := s.queue.inviteGroupToBG ginfo instanceId (some info.groupTeam) view.time view.reached
    { s with
      queue := result.1
      bgs := s.bgs.insert instanceId (result.2.card.iterate (fun bg => bg.increaseInvitedCount info.groupTeam) bg) }
  | _, _ => s

def inviteAllGroups (instanceId : Nat) (pools : Pools) : State :=
  (pools .HORDE).selectedGroups.foldl (inviteGroup view instanceId)
    ((pools .ALLIANCE).selectedGroups.foldl (inviteGroup view instanceId) s)

-- Those are removed who have been offline too long, or whose battleground has
-- ended. After a removal the walk starts again, and comes again to nobody whom
-- it has passed.
def getMSTimeDiff (oldMSTime newMSTime : Nat) : Nat :=
  if oldMSTime > newMSTime then min (4294967295 - oldMSTime + newMSTime) (oldMSTime - newMSTime) else newMSTime - oldMSTime

def isStale (guid : Nat) : Bool :=
  match s.queue.queuedPlayers.find guid with
  | none => false
  | some itr =>
    if itr.online = false ∧ getMSTimeDiff itr.lastOnlineTime view.time > OFFLINE_BG_QUEUE_TIME then true
    else
      match s.queue.infos.find itr.groupInfo with
      | none => false
      | some group =>
        if group.isInvitedToBGInstanceGUID ≠ 0 then
          match s.bgs.find group.isInvitedToBGInstanceGUID with
          | none => false
          | some bg => decide (bg.status = STATUS_WAIT_LEAVE)
        else false

def removeStale (s : State) (guid : Nat) : State := if s.isStale view guid then s.removePlayer guid true else s

def shuffleNormal (bracket : Bracket) (order : Team → BattleGroundQueue.Shuffle) : State :=
  let index (team : Team) := BG_QUEUE_NORMAL_ALLIANCE + getTeamIndexByTeamId team
  let queue := s.queue.shuffleGroups bracket (index .ALLIANCE) (order .ALLIANCE)
  { s with queue := queue.shuffleGroups bracket (index .HORDE) (order .HORDE) }

def fillRunning (bracket : Bracket) (s : State) (instanceId : Nat) : State :=
  match s.bgs.find instanceId with
  | none => s
  | some bg =>
    if bg.bracketId = bracket ∧ bg.status > STATUS_WAIT_QUEUE ∧ bg.status < STATUS_WAIT_LEAVE then
      let s := s.inviteAllGroups view instanceId (s.queue.fillPlayersToBG settings view bg bracket)
      if bg.hasFreeSlots then s else { s with freeSlots := s.freeSlots.erase instanceId }
    else s

end State

structure Created where
  instanceId : Nat
  minPlayersPerTeam : Nat
  maxPlayersPerTeam : Nat
  queue : BattleGroundQueue
  pools : Pools

-- While battlegrounds are created: the pools are members of the queue, and
-- `stopped` says that one could not be created.
structure Formation where
  state : State
  pools : Pools
  created : List Created
  stopped : Bool

structure Match where
  bracket : Bracket
  minPlayersPerTeam : Nat
  maxPlayersPerTeam : Nat
  templateMaxPlayersPerTeam : Nat
  maxPlayers : Nat
  isArena : Bool

namespace Formation

variable (f : Formation) (settings : Settings) (view : View) (m : Match)

def newBattleGround (clientInstanceId : Nat) : BattleGround :=
  ⟨m.bracket, STATUS_WAIT_JOIN, clientInstanceId, m.isArena, m.templateMaxPlayersPerTeam, m.maxPlayers, fun _ => 0, .empty⟩

def create (pools : Pools) (attempt : Nat) : Formation :=
  match view.newBattleGround attempt with
  | none => { f with pools := pools, stopped := true }
  | some (instanceId, clientInstanceId) =>
    let state := { f.state with bgs := f.state.bgs.insert instanceId (newBattleGround m clientInstanceId) }
    let invited := state.inviteAllGroups view instanceId pools
    ⟨{ invited with freeSlots := instanceId :: invited.freeSlots }, .init,
      f.created ++ [⟨instanceId, m.minPlayersPerTeam, m.maxPlayersPerTeam, f.state.queue, pools⟩], false⟩

def premade : Formation :=
  let result := f.state.queue.checkPremadeMatch settings view m.bracket m.minPlayersPerTeam m.maxPlayersPerTeam f.pools
  let f := { f with state := { f.state with queue := result.1 }, pools := result.2.1 }
  if result.2.2 then f.create view m f.pools 0 else f

-- None is an update that walks beyond the end of a list.
def normal (f : Option Formation) (attempt : Nat) : Option Formation :=
  f.bind fun f =>
    if f.stopped then some f
    else
      (f.state.queue.checkNormalMatch settings view m.bracket m.minPlayersPerTeam m.maxPlayersPerTeam f.pools).map fun result =>
        if result.2 then f.create view m result.1 attempt else { f with pools := result.1 }

end Formation

namespace State

variable (s : State) (settings : Settings) (view : View)

def playersInQueue (bracket : Bracket) (team : Team) : Nat :=
  (s.queue.queuedGroups bracket (BG_QUEUE_NORMAL_ALLIANCE + getTeamIndexByTeamId team)).countP fun ginfo => !s.queue.isInvited ginfo

def attempts (bracket : Bracket) : Nat :=
  if settings.isAlterac ∧ settings.avMinPlayersInQueue ≠ 0 ∧ settings.testing = false ∧
      (s.playersInQueue bracket .ALLIANCE < settings.avMinPlayersInQueue ∨
        s.playersInQueue bracket .HORDE < settings.avMinPlayersInQueue) then 0
  else if settings.isAlterac ∧ settings.avInitialMaxPlayers ≠ 0 ∧ settings.testing = false then 2
  else 1

def shuffleAlterac (bracket : Bracket) : State :=
  if settings.isAlterac ∧ settings.avMinPlayersInQueue ≠ 0 ∧ settings.testing = false ∧ s.attempts settings bracket ≠ 0 then
    s.shuffleNormal bracket view.alterac
  else s

def maxPlayersPerTeam (template : Template) (bracket : Bracket) : Nat :=
  if s.attempts settings bracket = 2 then max settings.avInitialMaxPlayers template.minPlayersPerTeam
  else template.maxPlayersPerTeam

def newMatch (template : Template) (bracket : Bracket) : Match where
  bracket := bracket
  minPlayersPerTeam := if settings.testing then 1 else template.minPlayersPerTeam
  maxPlayersPerTeam := s.maxPlayersPerTeam settings template bracket
  templateMaxPlayersPerTeam := template.maxPlayersPerTeam
  maxPlayers := template.maxPlayers
  isArena := template.isArena

def premadeMatch (template : Template) (bracket : Bracket) : Formation :=
  Formation.premade ⟨s.shuffleAlterac settings view bracket, .init, [], false⟩ settings view (s.newMatch settings template bracket)

def newMatches (template : Template) (bracket : Bracket) : Option Formation :=
  (List.range (s.attempts settings bracket)).foldl
    (fun f attempt => Formation.normal settings view (s.newMatch settings template bracket) f (attempt + 1))
    (some (s.premadeMatch settings view template bracket))

def cleaned : State := s.queue.queuedPlayers.keys.foldl (removeStale view) s

def filled (bracket : Bracket) : State :=
  let s := match view.randomize with
    | none => s
    | some order => s.shuffleNormal bracket order
  s.freeSlots.foldl (fillRunning settings view bracket) s

def update (bracket : Bracket) : Option (State × List Created) :=
  let s := s.cleaned view
  if s.queue.isAllQueuesEmpty view bracket then some (s, [])
  else
    let s := s.filled settings view bracket
    match view.template with
    | none => some (s, [])
    | some template => (s.newMatches settings view template bracket).map fun f => (f.state, f.created)

end State

end TurtleWow.Battlegrounds

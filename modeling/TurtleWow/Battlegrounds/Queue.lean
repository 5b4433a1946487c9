import Mathlib.Data.Finset.Basic
import Mathlib.Data.Finset.Card
import Mathlib.Data.Fintype.Basic
import Mathlib.Logic.Function.Basic
import Mathlib.Order.Nat
import TurtleWow.Lib.Bytes
import TurtleWow.Lib.Multimap

namespace TurtleWow.Battlegrounds

def BG_TEAMS_COUNT : Nat := 2

def BG_QUEUE_PREMADE_ALLIANCE : Nat := 0

def BG_QUEUE_NORMAL_ALLIANCE : Nat := 2

def BG_QUEUE_GROUP_TYPES_COUNT : Nat := 4

abbrev MAX_BATTLEGROUND_BRACKETS : Nat := 8

def INVITE_ACCEPT_WAIT_TIME : Nat := 80000

abbrev Bracket := Fin MAX_BATTLEGROUND_BRACKETS

instance : NeZero MAX_BATTLEGROUND_BRACKETS := ⟨by decide⟩

inductive Team where
  | ALLIANCE
  | HORDE
deriving DecidableEq

def getTeamIndexByTeamId : Team → Nat
  | .ALLIANCE => 0
  | .HORDE => 1

-- `groupInfo` is a pointer: a key of the map `infos` below.
structure PlayerQueueInfo where
  online : Bool
  lastOnlineTime : Nat
  groupInfo : Nat

-- The values of the map Players point to what is queued under the same guid, so
-- its keys are all there is to it.
structure GroupQueueInfo where
  players : Finset Nat
  groupTeam : Team
  bgTypeId : Nat
  joinTime : Nat
  removeInviteTime : Nat
  isInvitedToBGInstanceGUID : Nat
  desiredInstanceId : Nat
  bracketId : Bracket

-- `infos` holds the groups that have been allocated and not deleted, and
-- `nextInfo` is the next pointer.
structure BattleGroundQueue where
  queuedPlayers : OrderedMap Nat PlayerQueueInfo
  queuedGroups : Bracket → Nat → List Nat
  infos : OrderedMap Nat GroupQueueInfo
  nextInfo : Nat

structure Player where
  guid : Nat
  team : Team

structure Group where
  members : List Player
  distinct : (members.map Player.guid).Nodup
  membersCount : Nat

structure Request where
  bgTypeId : Nat
  bracketId : Bracket
  instanceId : Nat
  joinTime : Nat

namespace BattleGroundQueue

def empty : BattleGroundQueue := ⟨.empty, fun _ _ => [], .empty, 0⟩

variable (q : BattleGroundQueue)

def setGroups (bracket : Bracket) (index : Nat) (list : List Nat) : BattleGroundQueue :=
  { q with queuedGroups := Function.update q.queuedGroups bracket (Function.update (q.queuedGroups bracket) index list) }

def setInfo (ginfo : Nat) (info : GroupQueueInfo) : BattleGroundQueue := { q with infos := q.infos.insert ginfo info }

def groupIndex (team : Team) (isPremade : Bool) : Nat :=
  let index := if isPremade then 0 else BG_TEAMS_COUNT
  if team = .HORDE then index + 1 else index

section

variable (request : Request)

def newInfo (team : Team) : GroupQueueInfo :=
  ⟨∅, team, request.bgTypeId, request.joinTime, 0, 0, request.instanceId, request.bracketId⟩

def queuePlayer (ginfo : Nat) (q : BattleGroundQueue) (guid : Nat) : BattleGroundQueue :=
  { q with queuedPlayers := q.queuedPlayers.insert guid ⟨true, 0, ginfo⟩ }

-- The group is allocated first and gets its players one by one; it is listed
-- unless it has none.
def addPlayers (isPremade : Bool) (team : Team) (guids : List Nat) : BattleGroundQueue :=
  let ginfo := q.nextInfo
  let q := guids.foldl (queuePlayer ginfo) { q with nextInfo := ginfo + 1 }
  let info := { newInfo request team with players := guids.toFinset }
  if guids = [] then q
  else
    let index := groupIndex team isPremade
    (q.setInfo ginfo info).setGroups request.bracketId index (q.queuedGroups request.bracketId index ++ [ginfo])

def addSolo (isPremade : Bool) (q : BattleGroundQueue) (leader : Player) : BattleGroundQueue :=
  q.addPlayers request isPremade leader.team [leader.guid]

def addGroup (isPremade : Bool) (leader : Player) (grp : Option Group) (excludedMembers : List Nat)
    (groupLimit : Nat) : BattleGroundQueue :=
  match grp with
  | none => addSolo request isPremade q leader
  | some grp =>
    let members := grp.members.filter fun member => member.guid ∉ excludedMembers
    -- queue players solo if group size is above limit set in config: the
    -- group allocated for them stays empty
    if grp.membersCount > groupLimit then
      members.foldl (addSolo request false) { q with nextInfo := q.nextInfo + 1 }
    else q.addPlayers request isPremade leader.team (members.map Player.guid)

end

def searchBracket (group index : Nat) (bracket : Bracket) : Option (Bracket × Nat) :=
  [index, index + BG_QUEUE_NORMAL_ALLIANCE].foldl
    (fun found j => if group ∈ q.queuedGroups bracket j then some (bracket, j) else found) none

def searchGroup (group index : Nat) : Option (Bracket × Nat) :=
  (List.finRange MAX_BATTLEGROUND_BRACKETS).reverse.findSome? (q.searchBracket group index)

def eraseQueued (guid : Nat) : BattleGroundQueue := { q with queuedPlayers := q.queuedPlayers.erase guid }

def deleteGroup (bracket : Bracket) (index ginfo : Nat) : BattleGroundQueue :=
  { q.setGroups bracket index ((q.queuedGroups bracket index).erase ginfo) with infos := q.infos.erase ginfo }

-- The second part says of which instance and team the invited count is to be
-- decreased.
def removePlayer (guid : Nat) (decreaseInvitedCount : Bool) : BattleGroundQueue × Option (Nat × Team) :=
  match q.queuedPlayers.find guid with
  | none => (q, none)
  | some itr =>
    match q.infos.find itr.groupInfo with
    | none => (q, none)
    | some group =>
      let found := q.searchGroup itr.groupInfo (getTeamIndexByTeamId group.groupTeam)
      let left := { group with players := group.players.erase guid }
      let decreased :=
        if decreaseInvitedCount ∧ group.isInvitedToBGInstanceGUID ≠ 0 then
          some (group.isInvitedToBGInstanceGUID, group.groupTeam)
        else none
      let q := (q.setInfo itr.groupInfo left).eraseQueued guid
      match found with
      | none => (q, decreased)
      | some (bracket, index) =>
        (if left.players = ∅ then q.deleteGroup bracket index itr.groupInfo else q, decreased)

-- InviteGroupToBG: the second part is the players whose invitation is counted.

def inviteGroupToBG (ginfo instanceId : Nat) (side : Option Team) (time : Nat) (reached : Nat → Bool) :
    BattleGroundQueue × Finset Nat :=
  match q.infos.find ginfo with
  | none => (q, ∅)
  | some info =>
    let info := match side with
      | some side => { info with groupTeam := side }
      | none => info
    if info.isInvitedToBGInstanceGUID = 0 then
      let removeInviteTime := Word.add32 time INVITE_ACCEPT_WAIT_TIME
      let invited := { info with isInvitedToBGInstanceGUID := instanceId, removeInviteTime := removeInviteTime }
      (q.setInfo ginfo invited, info.players.filter fun guid => reached guid)
    else (q.setInfo ginfo info, ∅)

-- The end of CheckPremadeMatch, for one team: the first premade group moves when
-- its time has come or it has become too small.

def expired (timeBefore minPlayersPerTeam : Nat) (info : GroupQueueInfo) : Bool :=
  decide (info.isInvitedToBGInstanceGUID = 0 ∧ (info.joinTime < timeBefore ∨ info.players.card < minPlayersPerTeam))

def movePremade (bracket : Bracket) (timeBefore minPlayersPerTeam : Nat) (team : Team) : BattleGroundQueue :=
  match q.queuedGroups bracket (BG_QUEUE_PREMADE_ALLIANCE + getTeamIndexByTeamId team) with
  | [] => q
  | first :: rest =>
    match q.infos.find first with
    | none => q
    | some info =>
      if expired timeBefore minPlayersPerTeam info then
        let normal := BG_QUEUE_NORMAL_ALLIANCE + getTeamIndexByTeamId team
        (q.setGroups bracket normal (q.queuedGroups bracket normal ++ [first])).setGroups bracket
          (BG_QUEUE_PREMADE_ALLIANCE + getTeamIndexByTeamId team) rest
      else q

structure Shuffle where
  shuffle : List Nat → List Nat
  perm : ∀ list, (shuffle list).Perm list

instance : Inhabited Shuffle := ⟨id, fun _ => .refl _⟩

def shuffleGroups (bracket : Bracket) (index : Nat) (order : Shuffle) : BattleGroundQueue :=
  q.setGroups bracket index (order.shuffle (q.queuedGroups bracket index))

def playerLoggedOut (guid time : Nat) : BattleGroundQueue :=
  match q.queuedPlayers.find guid with
  | none => q
  | some itr => { q with queuedPlayers := q.queuedPlayers.insert guid { itr with online := false, lastOnlineTime := time } }

def playerLoggedIn (guid : Nat) : BattleGroundQueue :=
  match q.queuedPlayers.find guid with
  | none => q
  | some itr => { q with queuedPlayers := q.queuedPlayers.insert guid { itr with online := true } }

end BattleGroundQueue

end TurtleWow.Battlegrounds

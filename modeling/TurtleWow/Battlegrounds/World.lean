import TurtleWow.Battlegrounds.Update
import TurtleWow.Lib.Fibers

namespace TurtleWow.Battlegrounds

-- The players of one type of battleground, from the queue to the battlegrounds
-- and out of them.

def GroupQueueInfo.invitation (info : GroupQueueInfo) : Option (Nat × Team) :=
  if info.isInvitedToBGInstanceGUID = 0 then none else some (info.isInvitedToBGInstanceGUID, info.groupTeam)

namespace BattleGroundQueue

variable (q : BattleGroundQueue)

def infoOf (guid : Nat) : Option GroupQueueInfo :=
  (q.queuedPlayers.find guid).bind fun itr => q.infos.find itr.groupInfo

def invitation (guid : Nat) : Option (Nat × Team) := (q.infoOf guid).bind GroupQueueInfo.invitation

end BattleGroundQueue

namespace BattleGround

variable (bg : BattleGround)

def addPlayer (guid : Nat) (team : Team) : BattleGround := { bg with players := bg.players.insert guid team }

def erasePlayer (guid : Nat) (team : Team) : BattleGround :=
  { bg with players := bg.players.erase guid }.decreaseInvitedCount team

end BattleGround

-- Of the players who are sent to a battleground `inside` holds its instance and
-- their team, and `invitedTo` the instance that a player's own queue slot says he
-- is invited to. `counted` is who has been counted when his group was invited;
-- the source keeps no such set.
structure World where
  state : State
  inside : OrderedMap Nat (Nat × Team)
  invitedTo : OrderedMap Nat Nat
  counted : Finset Nat
  nextInstanceId : Nat

inductive Answer where
  | nothing
  | leaveQueue
  | enter (instanceId : Nat) (team : Team)

namespace World

def empty : World := ⟨⟨.empty, .empty, []⟩, .empty, .empty, ∅, 1⟩

variable (w : World)

-- RemovePlayer of the queue, and with it the player's place among the counted.
def removeFromQueue (guid : Nat) (decreaseInvitedCount : Bool) : World :=
  { w with state := w.state.removePlayer guid decreaseInvitedCount, counted := w.counted.erase guid }

def leaveQueue (guid : Nat) : World :=
  { w.removeFromQueue guid true with invitedTo := w.invitedTo.erase guid }

def join (request : Request) (isPremade : Bool) (leader : Player) (grp : Option Group) (excludedMembers : List Nat)
    (groupLimit : Nat) : World :=
  let members := match grp with
    | none => [leader.guid]
    | some grp => (grp.members.map Player.guid).filter fun guid => guid ∉ excludedMembers
  { w with
    state := { w.state with queue := w.state.queue.addGroup request isPremade leader grp excludedMembers groupLimit }
    invitedTo := members.foldl (fun slots guid => slots.erase guid) w.invitedTo }

def addToFreeSlots (freeSlots : List Nat) (instanceId : Nat) : List Nat :=
  if instanceId ∈ freeSlots then freeSlots else instanceId :: freeSlots

def removePlayerAtLeave (instanceId : Nat) (w : World) (guid : Nat) : World :=
  match w.state.bgs.find instanceId with
  | none => w
  | some bg =>
    match bg.players.find guid with
    | none => { w with inside := w.inside.erase guid }
    | some team =>
      let bgs := w.state.bgs.insert instanceId (bg.erasePlayer guid team)
      let freeSlots :=
        if bg.status < STATUS_WAIT_LEAVE then addToFreeSlots w.state.freeSlots instanceId else w.state.freeSlots
      { w with
        state := { w.state with bgs := bgs, freeSlots := freeSlots }, inside := w.inside.erase guid,
        invitedTo := w.invitedTo.erase guid }

def leave (guid : Nat) : World :=
  match w.inside.find guid with
  | none => w
  | some (instanceId, _) => removePlayerAtLeave instanceId w guid

-- The player accepts: he leaves the queue and the battleground that he is in, and
-- is sent to the new one.
def enter (guid instanceId : Nat) (team : Team) : World :=
  let left := (w.removeFromQueue guid false).leave guid
  { left with inside := left.inside.insert guid (instanceId, team) }

-- HandleBattleFieldPortOpcode: what becomes of a player's answer. `fighting` says
-- that he is in combat, `refused` that he is a deserter or above the level.
def answer (guid : Nat) (action fighting refused : Bool) : Answer :=
  match w.state.queue.infoOf guid with
  | none => .nothing
  | some ginfo =>
    if ginfo.isInvitedToBGInstanceGUID = 0 then if action then .nothing else .leaveQueue
    else
      match w.state.bgs.find ginfo.isInvitedToBGInstanceGUID with
      | none => if action then .nothing else .leaveQueue
      | some bg =>
        if action && fighting then .nothing
        else if action && !refused && bg.status ≠ STATUS_WAIT_LEAVE then
          if w.invitedTo.find guid = none then .nothing
          else .enter ginfo.isInvitedToBGInstanceGUID ginfo.groupTeam
        else .leaveQueue

def port (guid : Nat) (action fighting refused : Bool) : World :=
  match w.answer guid action fighting refused with
  | .nothing => w
  | .leaveQueue => w.leaveQueue guid
  | .enter instanceId team => w.enter guid instanceId team

-- BGQueueRemoveEvent
def timeOut (guid instanceId removeTime : Nat) : World :=
  match w.state.queue.infoOf guid with
  | none => w
  | some ginfo =>
    if ginfo.isInvitedToBGInstanceGUID = instanceId ∧ ginfo.removeInviteTime = removeTime then w.leaveQueue guid else w

-- GiveLevel, where the new level is in another bracket
def levelUp (guid : Nat) : World :=
  match w.state.queue.infoOf guid with
  | none => w
  | some _ => w.leaveQueue guid

def loggedOut (guid time : Nat) : World :=
  { w with
    state := { w.state with queue := w.state.queue.playerLoggedOut guid time }, invitedTo := w.invitedTo.erase guid }

def loggedIn (guid : Nat) : World :=
  let state := { w.state with queue := w.state.queue.playerLoggedIn guid }
  match w.state.queue.infoOf guid with
  | none => { w with state := state }
  | some ginfo =>
    if ginfo.isInvitedToBGInstanceGUID = 0 then { w with state := state, invitedTo := w.invitedTo.erase guid }
    else { w with state := state, invitedTo := w.invitedTo.insert guid ginfo.isInvitedToBGInstanceGUID }

-- HandleMoveWorldportAckOpcode: the player has arrived on the map of his
-- battleground, or on another one.
def arrive (guid : Nat) (isBattleGround : Bool) : World :=
  match w.inside.find guid with
  | none => w
  | some (instanceId, team) =>
    if isBattleGround then
      match w.state.bgs.find instanceId with
      | none => w
      | some bg =>
        if w.invitedTo.find guid = some instanceId then
          { w with state := { w.state with bgs := w.state.bgs.insert instanceId (bg.addPlayer guid team) } }
        else w
    else { w with inside := w.inside.erase guid }

def setStatus (instanceId status : Nat) : World :=
  match w.state.bgs.find instanceId with
  | none => w
  | some bg => { w with state := { w.state with bgs := w.state.bgs.insert instanceId { bg with status := status } } }

def delete (instanceId : Nat) : World :=
  { w with
    state :=
      { w.state with bgs := w.state.bgs.erase instanceId, freeSlots := w.state.freeSlots.filter fun id => id ≠ instanceId } }

-- BattleGround::Update: what is over or empty is deleted.
def updateBattleGround (instanceId : Nat) (timeIsUp : Bool) : World :=
  match w.state.bgs.find instanceId with
  | none => w
  | some bg =>
    if bg.status = STATUS_WAIT_LEAVE ∧ timeIsUp = true then
      (bg.players.keys.foldl (removePlayerAtLeave instanceId) w).delete instanceId
    else if bg.players.size = 0 ∧ bg.invited .HORDE = 0 ∧ bg.invited .ALLIANCE = 0 then w.delete instanceId
    else w

def countable (view : View) : Finset Nat :=
  w.counted ∪ w.state.queue.queuedPlayers.keys.toFinset.filter fun guid =>
    w.state.queue.invitation guid = none ∧ view.reached guid = true

def slotAfter (view : View) (before after : BattleGroundQueue) (slots : OrderedMap Nat Nat) (guid : Nat) : OrderedMap Nat Nat :=
  match after.infoOf guid with
  | none => slots.erase guid
  | some ginfo =>
    if before.invitation guid = none ∧ ginfo.isInvitedToBGInstanceGUID ≠ 0 ∧ view.reached guid = true then
      slots.insert guid ginfo.isInvitedToBGInstanceGUID
    else slots

-- New battlegrounds get new instances; an update creates three at most.
def numbered (view : View) : View :=
  { view with
    newBattleGround := fun attempt => (view.newBattleGround attempt).map fun created => (w.nextInstanceId + attempt, created.2) }

def update (settings : Settings) (view : View) (bracket : Bracket) : World :=
  match w.state.update settings (w.numbered view) bracket with
  | none => w
  | some (after, _) =>
    { w with
      state := after,
      invitedTo := w.state.queue.queuedPlayers.keys.foldl (slotAfter view w.state.queue after.queue) w.invitedTo,
      counted := (w.countable view).filter fun guid => after.queue.invitation guid ≠ none,
      nextInstanceId := w.nextInstanceId + 3 }

inductive Op where
  | join (request : Request) (isPremade : Bool) (leader : Player) (grp : Option Group) (excludedMembers : List Nat)
      (groupLimit : Nat)
  | update (settings : Settings) (view : View) (bracket : Bracket)
  | port (guid : Nat) (action fighting refused : Bool)
  | timeOut (guid instanceId removeTime : Nat)
  | levelUp (guid : Nat)
  | loggedOut (guid time : Nat)
  | loggedIn (guid : Nat)
  | arrive (guid : Nat) (isBattleGround : Bool)
  | leave (guid : Nat)
  | setStatus (instanceId status : Nat)
  | updateBattleGround (instanceId : Nat) (timeIsUp : Bool)

def step (w : World) : Op → World
  | .join request isPremade leader grp excludedMembers groupLimit =>
    w.join request isPremade leader grp excludedMembers groupLimit
  | .update settings view bracket => w.update settings view bracket
  | .port guid action fighting refused => w.port guid action fighting refused
  | .timeOut guid instanceId removeTime => w.timeOut guid instanceId removeTime
  | .levelUp guid => w.levelUp guid
  | .loggedOut guid time => w.loggedOut guid time
  | .loggedIn guid => w.loggedIn guid
  | .arrive guid isBattleGround => w.arrive guid isBattleGround
  | .leave guid => w.leave guid
  | .setStatus instanceId status => w.setStatus instanceId status
  | .updateBattleGround instanceId timeIsUp => w.updateBattleGround instanceId timeIsUp

end World

end TurtleWow.Battlegrounds

import Mathlib.Logic.Function.Basic
import TurtleWow.Lib.Bytes
import TurtleWow.Lib.Lists
import TurtleWow.Lib.Run

namespace TurtleWow.Groups

abbrev maxGroupSize : Nat := 5
abbrev maxRaidSize : Nat := 40
abbrev maxRaidSubgroups : Nat := maxRaidSize / maxGroupSize

inductive GroupType where
  | normal | raid
  deriving DecidableEq, Repr

structure MemberSlot where
  guid : Nat
  group : Nat
  assistant : Bool
  deriving DecidableEq, Repr

-- A reference keeps its subgroup when it is unlinked.
structure GroupReference where
  target : Option Nat
  subGroup : Nat
  deriving DecidableEq, Repr

structure Player where
  inWorld : Bool
  session : Bool
  group : GroupReference
  originalGroup : GroupReference
  deriving DecidableEq, Repr

-- The members of Group that its structure rests on. `id` stands for the
-- object's identity, which the references of players point to.
structure Group where
  id : Nat
  bgGroup : Bool
  memberSlots : List MemberSlot
  leaderGuid : Nat
  groupType : GroupType
  subGroupsCounts : Option (Nat → Nat)

namespace GroupReference

def unlink (ref : GroupReference) : GroupReference := { ref with target := none }

def link (group subgroup : Nat) : GroupReference := { target := some group, subGroup := subgroup }

def setSubGroup (ref : GroupReference) (subgroup : Nat) : GroupReference := { ref with subGroup := subgroup }

def unlinked : GroupReference := { target := none, subGroup := 0 }

end GroupReference

namespace Player

def setGroup (p : Player) (group subgroup : Nat) : Player := { p with group := .link group subgroup }

def setOriginalGroup (p : Player) (group : Option Nat) (subgroup : Nat) : Player :=
  match group with
  | none => { p with originalGroup := p.originalGroup.unlink }
  | some group => { p with originalGroup := .link group subgroup }

def setBattleGroundRaid (p : Player) (group subgroup : Nat) : Player :=
  { p.setOriginalGroup p.group.target p.group.subGroup with group := .link group subgroup }

def removeFromBattleGroundRaid (p : Player) : Player :=
  let p :=
    match p.originalGroup.target with
    | some group => { p with group := .link group p.originalGroup.subGroup }
    | none => { p with group := p.group.unlink }
  p.setOriginalGroup none 0

end Player

-- The slot that _getMemberWSlot finds, rewritten.
def updateSlot (guid : Nat) (f : MemberSlot → MemberSlot) : List MemberSlot → List MemberSlot :=
  Lists.updateFirst (fun slot => slot.guid = guid) f

def setSlotGroup (guid subgroup : Nat) : List MemberSlot → List MemberSlot :=
  updateSlot guid fun slot => { slot with group := subgroup }

def setSlotAssistant (guid : Nat) (state : Bool) : List MemberSlot → List MemberSlot :=
  updateSlot guid fun slot => { slot with assistant := state }

namespace Group

def new (id : Nat) (bgGroup : Bool) : Group :=
  { id := id, bgGroup := bgGroup, memberSlots := [], leaderGuid := 0, groupType := .normal,
    subGroupsCounts := none }

variable (g : Group)

def getMembersCount : Nat := g.memberSlots.length

def getMembersMinCount : Nat := if g.bgGroup then 1 else 2

def isFull : Bool :=
  if g.groupType = .normal then maxGroupSize ≤ g.getMembersCount else maxRaidSize ≤ g.getMembersCount

def isRaidGroup : Bool := g.groupType = .raid

def getMemberSlot (guid : Nat) : Option MemberSlot := g.memberSlots.find? fun slot => slot.guid = guid

def lead (guid : Nat) : Group := { g with leaderGuid := guid }

def isMember (guid : Nat) : Bool := (g.getMemberSlot guid).isSome

def getMemberGroup (guid : Nat) : Nat :=
  match g.getMemberSlot guid with
  | none => maxRaidSubgroups + 1
  | some slot => slot.group

def increase (counts : Nat → Nat) (subgroup : Nat) : Nat → Nat :=
  Function.update counts subgroup (Word.u8 (counts subgroup + 1))

def decrease (counts : Nat → Nat) (subgroup : Nat) : Nat → Nat :=
  Function.update counts subgroup (Word.u8 (counts subgroup + 255))

def initRaidSubGroupsCounter : Group :=
  { g with subGroupsCounts := some (g.memberSlots.foldl (fun counts slot => increase counts slot.group) fun _ => 0) }

def subGroupCounterIncrease (subgroup : Nat) : Group :=
  { g with subGroupsCounts := g.subGroupsCounts.map fun counts => increase counts subgroup }

def subGroupCounterDecrease (subgroup : Nat) : Group :=
  { g with subGroupsCounts := g.subGroupsCounts.map fun counts => decrease counts subgroup }

-- No room there; without counters there always is.
def subGroupFull (subgroup : Nat) : Bool :=
  match g.subGroupsCounts with
  | none => false
  | some counts => maxGroupSize ≤ counts subgroup

-- The first not-full subgroup; `none` when the raid has no free slot.
def freeSubGroup : Option Nat :=
  match g.subGroupsCounts with
  | none => some 0
  | some counts => (List.range maxRaidSubgroups).find? fun subgroup => counts subgroup < maxGroupSize

def appendSlot (guid subgroup : Nat) : Group :=
  { g.subGroupCounterIncrease subgroup with
    memberSlots := g.memberSlots ++ [{ guid := guid, group := subgroup, assistant := false }] }

def eraseSlot (guid : Nat) : Group :=
  match g.getMemberSlot guid with
  | none => g
  | some slot =>
    { g.subGroupCounterDecrease slot.group with
      memberSlots := g.memberSlots.eraseP fun slot => slot.guid = guid }

-- _setMembersGroup; `none` where it returns false.
def setMembersGroup (guid subgroup : Nat) : Option Group :=
  match g.getMemberSlot guid with
  | none => none
  | some _ =>
    some { g.subGroupCounterIncrease subgroup with memberSlots := setSlotGroup guid subgroup g.memberSlots }

-- _swapMembersGroup
def exchangeSlots (guid swapGuid : Nat) : Option Group :=
  match g.getMemberSlot guid, g.getMemberSlot swapGuid with
  | some slot, some swapSlot =>
    some { g with
      memberSlots := setSlotGroup guid swapSlot.group (setSlotGroup swapGuid slot.group g.memberSlots) }
  | _, _ => none

end Group

structure World where
  group : Group
  players : Nat → Option Player

namespace World

variable (w : World)

-- sObjectMgr.GetPlayer: not while the player is on a loading screen.
def getPlayer (guid : Nat) : Option Player := (w.players guid).filter fun p => p.inWorld

def updatePlayer (guid : Nat) (f : Player → Player) : World :=
  { w with players := Function.update w.players guid ((w.players guid).map f) }

def updateFound (guid : Nat) (f : Player → Player) : World :=
  match w.getPlayer guid with
  | none => w
  | some _ => w.updatePlayer guid f

def isCurrent (p : Player) : Bool := p.group.target = some w.group.id

def setSubGroup (guid subgroup : Nat) : World :=
  w.updateFound guid fun p =>
    if w.isCurrent p then { p with group := p.group.setSubGroup subgroup }
    else { p with originalGroup := p.originalGroup.setSubGroup subgroup }

def linkMember (subgroup : Nat) (p : Player) : Player :=
  if p.group.target.isSome ∧ w.group.bgGroup then p.setBattleGroundRaid w.group.id subgroup
  else if p.group.target.isSome then p.setOriginalGroup (some w.group.id) subgroup
  else p.setGroup w.group.id subgroup

def unlinkMember (p : Player) : Player :=
  if w.group.bgGroup then p.removeFromBattleGroundRaid
  else if p.originalGroup.target = some w.group.id then p.setOriginalGroup none 0
  else { p with group := p.group.unlink }

def addMember (guid : Nat) : World :=
  match w.group.freeSubGroup with
  | none => w
  | some subgroup =>
    if w.group.isFull then w
    else if guid = 0 then w
    else { w.updateFound guid (w.linkMember subgroup) with group := w.group.appendSlot guid subgroup }

def create (guid : Nat) : World :=
  let group := { w.group with leaderGuid := guid, groupType := if w.group.bgGroup then .raid else .normal }
  let group := if group.groupType = .raid then group.initRaidSubGroupsCounter else group
  ({ w with group := group }).addMember guid

-- _setLeader
def setLeader (guid : Nat) : World :=
  match w.group.getMemberSlot guid with
  | none => w
  | some slot => { w with group := w.group.lead slot.guid }

-- The loop of _chooseLeader: the first available member and the chosen one,
-- 0 where there is none.
def candidates (first : Nat) : List MemberSlot → Nat × Nat
  | [] => (first, 0)
  | slot :: rest =>
    if slot.guid = w.group.leaderGuid then candidates first rest
    else
      match w.getPlayer slot.guid with
      | none => candidates first rest
      | some p =>
        if !p.session ∨ !w.isCurrent p then candidates first rest
        else if w.group.isRaidGroup ∧ !slot.assistant then
          candidates (if first = 0 then slot.guid else first) rest
        else (first, slot.guid)

def chooseLeader (offline : Bool) : World :=
  if w.group.getMembersCount < w.group.getMembersMinCount then w
  else
    let (first, chosen) := w.candidates 0 w.group.memberSlots
    let chosen := if chosen = 0 then first else chosen
    if offline ∧ chosen = 0 then w
    else
      let chosen :=
        if chosen = 0 then
          match w.group.memberSlots.head? with
          | some slot => slot.guid
          | none => 0
        else chosen
      w.setLeader chosen

-- _removeMember; the rolls that the player takes part in are apart.
def dropMember (guid : Nat) : World :=
  let w := { w.updateFound guid w.unlinkMember with group := w.group.eraseSlot guid }
  if w.group.leaderGuid = guid then w.chooseLeader false else w

def disband : World :=
  let w := w.group.memberSlots.foldl (fun v slot => v.updateFound slot.guid w.unlinkMember) w
  { w with group := { w.group with memberSlots := [], leaderGuid := 0 } }

def removeMember (guid : Nat) : World :=
  if w.group.getMembersMinCount < w.group.getMembersCount then w.dropMember guid else w.disband

def convertToRaid : World :=
  { w with group := ({ w.group with groupType := .raid }).initRaidSubGroupsCounter }

-- ChangeMembersGroup of a Player: the counter that goes down is the one of
-- the reference where this is not the player's current group.
def changePlayersGroup (guid : Nat) (p : Player) (subgroup : Nat) : World :=
  let prevSubGroup := w.group.getMemberGroup guid
  if prevSubGroup = subgroup ∨ maxRaidSubgroups ≤ prevSubGroup then w
  else if w.group.subGroupFull subgroup then w
  else
    match w.group.setMembersGroup guid subgroup with
    | none => w
    | some group =>
      let prevSubGroup := if w.isCurrent p then prevSubGroup else p.originalGroup.subGroup
      { w.setSubGroup guid subgroup with group := group.subGroupCounterDecrease prevSubGroup }

def changeMembersGroup (guid subgroup : Nat) : World :=
  if !w.group.isRaidGroup ∨ maxRaidSubgroups ≤ subgroup then w
  else if w.group.subGroupFull subgroup then w
  else
    match w.getPlayer guid with
    | none =>
      let prevSubGroup := w.group.getMemberGroup guid
      if prevSubGroup = subgroup then w
      else
        match w.group.setMembersGroup guid subgroup with
        | none => w
        | some group => { w with group := group.subGroupCounterDecrease prevSubGroup }
    | some p => w.changePlayersGroup guid p subgroup

-- The version for players that are both online does the same.
def swapMembersGroup (guid swapGuid : Nat) : World :=
  if !w.group.isRaidGroup then w
  else
    let subgroup := w.group.getMemberGroup guid
    let swapGroup := w.group.getMemberGroup swapGuid
    if subgroup = swapGroup ∨ maxRaidSubgroups ≤ subgroup ∨ maxRaidSubgroups ≤ swapGroup then w
    else
      match w.group.exchangeSlots guid swapGuid with
      | none => w
      | some group => { (w.setSubGroup guid swapGroup).setSubGroup swapGuid subgroup with group := group }

def setAssistant (guid : Nat) (state : Bool) : World :=
  if !w.group.isRaidGroup then w
  else
    { w with group := { w.group with memberSlots := setSlotAssistant guid state w.group.memberSlots } }

-- UpdateOfflineLeader, once the leader has been away for long enough.
def updateOfflineLeader : World :=
  if w.group.bgGroup ∨ (w.getPlayer w.group.leaderGuid).isSome then w else w.chooseLeader true

-- A new Player object; _LoadGroup links it to the group it is a member of.
def login (guid : Nat) : World :=
  let p : Player := { inWorld := true, session := true, group := .unlinked, originalGroup := .unlinked }
  let p :=
    if w.group.isMember guid ∧ !w.group.bgGroup then p.setGroup w.group.id (w.group.getMemberGroup guid) else p
  { w with players := Function.update w.players guid (some p) }

end World

inductive Op where
  | addMember (guid : Nat)
  | removeMember (guid : Nat)
  | convertToRaid
  | changeMembersGroup (guid subgroup : Nat)
  | swapMembersGroup (guid swapGuid : Nat)
  | changeLeader (guid : Nat)
  | updateOfflineLeader
  | setAssistant (guid : Nat) (state : Bool)
  | login (guid : Nat)
  | logout (guid : Nat)
  | enterWorld (guid : Nat)
  | leaveWorld (guid : Nat)
  | joinBattleGround (guid bgGroup subgroup : Nat)
  | leaveBattleGround (guid : Nat)
  deriving DecidableEq, Repr

namespace World

def perform (w : World) : Op → World
  | .addMember guid => w.addMember guid
  | .removeMember guid => w.removeMember guid
  | .convertToRaid => w.convertToRaid
  | .changeMembersGroup guid subgroup => w.changeMembersGroup guid subgroup
  | .swapMembersGroup guid swapGuid => w.swapMembersGroup guid swapGuid
  | .changeLeader guid => w.setLeader guid
  | .updateOfflineLeader => w.updateOfflineLeader
  | .setAssistant guid state => w.setAssistant guid state
  | .login guid => w.login guid
  | .logout guid => { w with players := Function.update w.players guid none }
  | .enterWorld guid => w.updatePlayer guid fun p => { p with inWorld := true }
  | .leaveWorld guid => w.updatePlayer guid fun p => { p with inWorld := false }
  | .joinBattleGround guid bgGroup subgroup =>
    w.updatePlayer guid fun p => p.setBattleGroundRaid bgGroup subgroup
  | .leaveBattleGround guid => w.updatePlayer guid Player.removeFromBattleGroundRaid

-- A group that is not created yet, or disbanded, is nobody's group.
def step (w : World) (op : Op) : World := if w.group.memberSlots = [] then w else w.perform op

end World

end TurtleWow.Groups

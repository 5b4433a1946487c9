import Mathlib.Order.Nat
import TurtleWow.Lib.Bytes
import TurtleWow.Lib.Multimap
import TurtleWow.Lib.Run

namespace TurtleWow.MeetingStone

-- The queue of the meeting stones: lone players and parties that wait for
-- each other.

inductive Classes where
  | warrior | paladin | hunter | rogue | priest | shaman | mage | warlock | druid | other
  deriving DecidableEq, Repr

inductive ClassRoles where
  | tank | healer | dps
  deriving DecidableEq, Repr

-- A set of roles, which the source keeps in the bits of an integer.
structure RoleMask where
  tank : Bool
  healer : Bool
  dps : Bool
  deriving DecidableEq, Repr

namespace RoleMask

def has (mask : RoleMask) : ClassRoles → Bool
  | .tank => mask.tank
  | .healer => mask.healer
  | .dps => mask.dps

def clear (mask : RoleMask) : ClassRoles → RoleMask
  | .tank => { mask with tank := false }
  | .healer => { mask with healer := false }
  | .dps => { mask with dps := false }

end RoleMask

inductive RolesPriority where
  | none | low | normal | high
  deriving DecidableEq, Repr

def RolesPriority.value : RolesPriority → Nat
  | .none => 0
  | .low => 1
  | .normal => 2
  | .high => 3

def potentialRoles : List ClassRoles := [.tank, .healer, .dps]

def calculateRoles : Classes → RoleMask
  | .druid => ⟨true, true, true⟩
  | .hunter => ⟨false, false, true⟩
  | .mage => ⟨false, false, true⟩
  | .paladin => ⟨true, true, true⟩
  | .priest => ⟨false, true, true⟩
  | .rogue => ⟨false, false, true⟩
  | .shaman => ⟨false, true, true⟩
  | .warlock => ⟨false, false, true⟩
  | .warrior => ⟨true, false, true⟩
  | .other => ⟨false, false, false⟩

def getPriority (playerClass : Classes) : ClassRoles → RolesPriority
  | .tank =>
    match playerClass with
    | .druid => .normal
    | .paladin => .normal
    | .warrior => .high
    | _ => .none
  | .healer =>
    match playerClass with
    | .druid => .high
    | .paladin => .high
    | .priest => .high
    | .shaman => .high
    | _ => .none
  | .dps =>
    match playerClass with
    | .druid => .normal
    | .hunter => .high
    | .mage => .high
    | .paladin => .normal
    | .priest => .low
    | .rogue => .high
    | .shaman => .normal
    | .warlock => .high
    | .warrior => .normal
    | .other => .none

structure PlayerQueueInfo where
  roleMask : RoleMask
  team : Nat
  areaId : Nat
  timeInLFG : Nat
  hasQueuePriority : Bool
  isHardcore : Bool
  rolePriority : List (ClassRoles × RolesPriority)
  deriving DecidableEq, Repr

structure GroupQueueInfo where
  availableRoles : RoleMask
  dpsCount : Nat
  team : Nat
  areaId : Nat
  isHardcore : Bool
  groupTimer : Nat
  deriving DecidableEq, Repr

def PlayerQueueInfo.blank : PlayerQueueInfo :=
  { roleMask := ⟨false, false, false⟩, team := 0, areaId := 0, timeInLFG := 0, hasQueuePriority := false,
    isHardcore := false, rolePriority := [] }

-- The roles are added behind those of an earlier call.
def PlayerQueueInfo.calculateRoles (info : PlayerQueueInfo) (playerClass : Classes) : PlayerQueueInfo :=
  { info with
    roleMask := MeetingStone.calculateRoles playerClass,
    rolePriority := info.rolePriority ++ potentialRoles.map fun role => (role, getPriority playerClass role) }

def PlayerQueueInfo.getRolePriority (info : PlayerQueueInfo) (role : ClassRoles) : RolesPriority :=
  match info.rolePriority.find? fun entry => entry.1 = role with
  | none => .none
  | some entry => entry.2

structure Party where
  leaderGuid : Nat
  memberSlots : List Nat
  isRaid : Bool
  deriving DecidableEq, Repr

def maxGroupSize : Nat := 5
def maxRaidSize : Nat := 40

def Party.isFull (party : Party) : Bool :=
  if party.isRaid then maxRaidSize ≤ party.memberSlots.length else maxGroupSize ≤ party.memberSlots.length

-- A player that Update has put into a group, with his entry of the queue and
-- the group's. The source keeps no such list.
structure Join where
  player : Nat
  info : PlayerQueueInfo
  group : Nat
  entry : GroupQueueInfo
  deriving DecidableEq, Repr

structure LFGQueue where
  queuedPlayers : OrderedMap Nat PlayerQueueInfo
  offlinePlayers : OrderedMap Nat PlayerQueueInfo
  queuedGroups : OrderedMap Nat GroupQueueInfo
  groups : OrderedMap Nat Party
  nextGroupId : Nat
  joins : List Join

structure View where
  team : Nat → Nat
  isHardcore : Nat → Bool
  inWorld : Nat → Bool
  assistant : Nat → Bool

def getMaximumDPSSlots : Nat := 3

-- The roles that a group still needs while they are given out: what the switch
-- over a role does to them.
structure Needs where
  availableRoles : RoleMask
  dpsCount : Nat
  deriving DecidableEq, Repr

def Needs.fill (needs : Needs) : ClassRoles → Needs
  | .tank => { needs with availableRoles := needs.availableRoles.clear .tank }
  | .healer => { needs with availableRoles := needs.availableRoles.clear .healer }
  | .dps =>
    if needs.dpsCount < getMaximumDPSSlots then
      if getMaximumDPSSlots ≤ needs.dpsCount + 1 then
        { availableRoles := needs.availableRoles.clear .dps, dpsCount := needs.dpsCount + 1 }
      else { needs with dpsCount := needs.dpsCount + 1 }
    else needs

def PlayerQueueInfo.updateTimer (diff : Nat) (info : PlayerQueueInfo) : PlayerQueueInfo :=
  let timeInLFG := Word.add32 info.timeInLFG diff
  { info with
    timeInLFG := timeInLFG, hasQueuePriority := if 1800000 ≤ timeInLFG then true else info.hasQueuePriority }

def isAhead (role : ClassRoles) (info other : PlayerQueueInfo) : Bool :=
  let classPriority : Bool := info.getRolePriority role ≠ .none
  let otherClassPriority : Bool := other.getRolePriority role ≠ .none
  let otherLongerInQueue : Bool := info.timeInLFG < other.timeInLFG
  info.areaId = other.areaId && info.team = other.team && other.roleMask.has role &&
    ((otherClassPriority && !classPriority) || (other.hasQueuePriority && otherLongerInQueue) ||
      (!info.hasQueuePriority && otherLongerInQueue))

def GroupQueueInfo.fill (entry : GroupQueueInfo) (role : ClassRoles) : GroupQueueInfo :=
  let needs := ({ availableRoles := entry.availableRoles, dpsCount := entry.dpsCount } : Needs).fill role
  { entry with availableRoles := needs.availableRoles, dpsCount := needs.dpsCount }

def GroupQueueInfo.wait (diff : Nat) (entry : GroupQueueInfo) : GroupQueueInfo :=
  { entry with groupTimer := if entry.groupTimer ≤ diff then 300000 else entry.groupTimer - diff }

-- CalculateLFGRoles under way.
structure Roster where
  needs : Needs
  processed : List Nat
  deriving DecidableEq, Repr

section

variable (classOf : Nat → Classes)

def outranked (slots : List Nat) (roster : Roster) (guid : Nat) (role : ClassRoles) : Bool :=
  slots.any fun other => other ≠ guid && !roster.processed.contains other &&
    (getPriority (classOf guid) role).value < (getPriority (classOf other) role).value

def fillPremadeLFG (slots : List Nat) (roster : Roster) (guid : Nat) (role : ClassRoles) : Option Roster :=
  if outranked classOf slots roster guid role then none
  else some { needs := roster.needs.fill role, processed := roster.processed ++ [guid] }

-- The first of the roles that the member's class can fill, that the group
-- needs and that he is granted.
def grantRole (slots : List Nat) (roster : Roster) (guid : Nat) : List ClassRoles → Roster
  | [] => roster
  | role :: rest =>
    if (calculateRoles (classOf guid)).has role && roster.needs.availableRoles.has role then
      match fillPremadeLFG classOf slots roster guid role with
      | none => grantRole slots roster guid rest
      | some granted => granted
    else grantRole slots roster guid rest

def Roster.start : Roster := { needs := { availableRoles := ⟨true, true, true⟩, dpsCount := 0 }, processed := [] }

def calculateLFGRoles (slots : List Nat) : Roster :=
  slots.foldl (fun roster guid => grantRole classOf slots roster guid potentialRoles) Roster.start

namespace LFGQueue

variable (q : LFGQueue)

-- Player::GetGroup
def groupOf (guid : Nat) : Option (Nat × Party) :=
  q.groups.entries.find? fun entry => entry.2.memberSlots.contains guid

def isFull (id : Nat) : Bool :=
  match q.groups.find id with
  | none => false
  | some party => party.isFull

section

variable (view : View)

def queuedGroup (leader area : Nat) (slots : List Nat) : GroupQueueInfo :=
  { availableRoles := (calculateLFGRoles classOf slots).needs.availableRoles,
    dpsCount := (calculateLFGRoles classOf slots).needs.dpsCount, team := view.team leader, areaId := area,
    isHardcore := view.isHardcore leader, groupTimer := 300000 }

def queuedPlayer (leader area : Nat) : PlayerQueueInfo :=
  { ((q.queuedPlayers.find leader).getD PlayerQueueInfo.blank).calculateRoles (classOf leader) with
    team := view.team leader, areaId := area, hasQueuePriority := false, isHardcore := view.isHardcore leader }

def addToQueue (leader area : Nat) : LFGQueue :=
  match q.groupOf leader with
  | some (id, party) =>
    if party.leaderGuid = leader then
      { q with queuedGroups := q.queuedGroups.insert id (queuedGroup classOf view leader area party.memberSlots) }
    else q
  | none => { q with queuedPlayers := q.queuedPlayers.insert leader (q.queuedPlayer classOf view leader area) }

def removePlayerFromQueue (guid : Nat) : LFGQueue := { q with queuedPlayers := q.queuedPlayers.erase guid }

def removeGroupFromQueue (id : Nat) : LFGQueue := { q with queuedGroups := q.queuedGroups.erase id }

-- Group::AddMember for a player of the queue
def addMember (guid : Nat) (info : PlayerQueueInfo) (id : Nat) (entry : GroupQueueInfo) : LFGQueue :=
  match q.groups.find id with
  | none => q
  | some party =>
    if party.isFull then q
    else
      { q with
        groups := q.groups.insert id { party with memberSlots := party.memberSlots ++ [guid] },
        joins := { player := guid, info := info, group := id, entry := entry } :: q.joins }

def updatePlayer (diff : Nat) (q : LFGQueue) (guid : Nat) : LFGQueue :=
  match q.queuedPlayers.find guid with
  | none => q
  | some info =>
    if view.inWorld guid then { q with queuedPlayers := q.queuedPlayers.insert guid (info.updateTimer diff) }
    else
      { q with
        offlinePlayers := q.offlinePlayers.insert guid info, queuedPlayers := q.queuedPlayers.erase guid }

def updatePlayers (diff : Nat) : LFGQueue := q.queuedPlayers.keys.foldl (updatePlayer view diff) q

def joinGroup (guid : Nat) (info : PlayerQueueInfo) (id : Nat) (entry : GroupQueueInfo) (role : ClassRoles) : LFGQueue :=
  (({ q with queuedGroups := q.queuedGroups.insert id (entry.fill role) } : LFGQueue).addMember guid info id
    entry).removePlayerFromQueue guid

def findRoleToGroup (guid id : Nat) (role : ClassRoles) : Option LFGQueue :=
  match q.queuedGroups.find id, q.queuedPlayers.find guid with
  | some entry, some info =>
    if q.queuedPlayers.entries.any fun other => other.1 ≠ guid && isAhead role info other.2 then none
    else some (q.joinGroup guid info id entry role)
  | _, _ => none

-- The first role that the player matches and that the group requires.
def findRole (guid id : Nat) (info : PlayerQueueInfo) (entry : GroupQueueInfo) : List ClassRoles → Option LFGQueue
  | [] => none
  | role :: rest =>
    if info.roleMask.has role && entry.availableRoles.has role then
      match q.findRoleToGroup guid id role with
      | none => findRole guid id info entry rest
      | some joined => some joined
    else findRole guid id info entry rest

def findGroup (guid id : Nat) : Option LFGQueue :=
  match q.queuedGroups.find id, q.queuedPlayers.find guid with
  | some entry, some info =>
    if info.team = entry.team ∧ info.areaId = entry.areaId ∧ info.isHardcore = entry.isHardcore then
      q.findRole guid id info entry potentialRoles
    else none
  | _, _ => none

def fillGroup (id : Nat) : List Nat → LFGQueue → LFGQueue
  | [], q => q
  | guid :: rest, q =>
    match q.findGroup guid id with
    | none => fillGroup id rest q
    | some joined => if joined.isFull id then joined else fillGroup id rest joined

def waitGroup (id diff : Nat) : LFGQueue :=
  match q.queuedGroups.find id with
  | none => q
  | some entry => { q with queuedGroups := q.queuedGroups.insert id (entry.wait diff) }

-- One group is removed in an update when it is full; the others wait for the
-- next one.
def fillGroups (diff : Nat) : List Nat → LFGQueue → LFGQueue
  | [], q => q
  | id :: rest, q =>
    match q.groups.find id with
    | none => fillGroups diff rest (q.removeGroupFromQueue id)
    | some party =>
      if party.isFull then q.removeGroupFromQueue id
      else
        let filled := fillGroup id q.queuedPlayers.keys q
        if filled.isFull id then filled.removeGroupFromQueue id
        else fillGroups diff rest (filled.waitGroup id diff)

def findInArea (area team exclude : Nat) : List (Nat × PlayerQueueInfo) :=
  q.queuedPlayers.entries.filter fun entry => entry.1 ≠ exclude && entry.2.areaId = area && entry.2.team = team

-- The first two players of the queue for an area where there are enough.
def firstTwo : Option ((Nat × PlayerQueueInfo) × (Nat × PlayerQueueInfo)) :=
  if maxGroupSize ≤ q.queuedPlayers.size then
    match q.queuedPlayers.entries with
    | [] => none
    | leader :: _ =>
      let playersInArea := q.findInArea leader.2.areaId leader.2.team leader.1
      if maxGroupSize - 1 ≤ playersInArea.length then
        match playersInArea with
        | [] => none
        | member :: _ => some (leader, member)
      else none
  else none

def createGroup (leader member : Nat × PlayerQueueInfo) : LFGQueue :=
  let id := q.nextGroupId
  let entry := queuedGroup classOf view leader.1 leader.2.areaId [leader.1, member.1]
  { q with
    groups := q.groups.insert id { leaderGuid := leader.1, memberSlots := [leader.1, member.1], isRaid := false },
    nextGroupId := q.nextGroupId + 1,
    queuedGroups := q.queuedGroups.insert id entry,
    queuedPlayers := (q.queuedPlayers.erase leader.1).erase member.1,
    joins := { player := member.1, info := member.2, group := id, entry := entry } ::
      { player := leader.1, info := leader.2, group := id, entry := entry } :: q.joins }

def formGroup : LFGQueue :=
  match q.firstTwo with
  | none => q
  | some (leader, member) =>
    if view.inWorld leader.1 ∧ view.inWorld member.1 then q.createGroup classOf view leader member else q

def filled (diff : Nat) : LFGQueue :=
  fillGroups diff (q.updatePlayers view diff).queuedGroups.keys (q.updatePlayers view diff)

def update (diff : Nat) : LFGQueue := (q.filled view diff).formGroup classOf view

end

end LFGQueue

inductive Op where
  | addToQueue (leader area : Nat)
  | update (diff : Nat)
  -- HandleMeetingStoneInfoOpcode and HandleMeetingStoneLeaveOpcode
  | restoreOfflinePlayer (guid : Nat)
  | leaveQueue (guid : Nat)

structure Message where
  view : View
  op : Op

namespace LFGQueue

variable (q : LFGQueue)

def restoreOfflinePlayer (guid : Nat) : LFGQueue :=
  match q.groupOf guid, q.offlinePlayers.find guid with
  | none, some info =>
    { q with queuedPlayers := q.queuedPlayers.insert guid info, offlinePlayers := q.offlinePlayers.erase guid }
  | _, _ => q

def leaveQueue (guid : Nat) : LFGQueue :=
  match q.groupOf guid with
  | some (id, party) => if party.leaderGuid = guid then q.removeGroupFromQueue id else q
  | none => q.removePlayerFromQueue guid

def receive (q : LFGQueue) (m : Message) : LFGQueue :=
  match m.op with
  | .addToQueue leader area => q.addToQueue classOf m.view leader area
  | .update diff => q.update classOf m.view diff
  | .restoreOfflinePlayer guid => q.restoreOfflinePlayer guid
  | .leaveQueue guid => q.leaveQueue guid

end LFGQueue

inductive PartyOp where
  | queue (op : Op)
  | removeMember (guid : Nat)
  | changeLeader (id guid : Nat)

structure PartyMessage where
  view : View
  op : PartyOp

-- _chooseLeader: who is online, in a raid an assistant if there is one.
def chooseLeader (view : View) (isRaid : Bool) (slots : List Nat) : Nat :=
  let online := slots.filter view.inWorld
  match if isRaid then online.find? view.assistant else none with
  | some guid => guid
  | none => (online.head?.orElse fun _ => slots.head?).getD 0

namespace LFGQueue

variable (q : LFGQueue)

-- The group's m_LFGAreaId is its entry's area, and 0 when it is not queued.
def isInLFG (id : Nat) : Bool :=
  match q.queuedGroups.find id with
  | none => false
  | some entry => 0 < entry.areaId

def updateGroup (id : Nat) : LFGQueue :=
  match q.queuedGroups.find id, q.groups.find id with
  | some entry, some party =>
    if party.isFull then q
    else
      let needs := (calculateLFGRoles classOf party.memberSlots).needs
      { q with
        queuedGroups := q.queuedGroups.insert id
          { entry with availableRoles := needs.availableRoles, dpsCount := needs.dpsCount } }
  | _, _ => q

def disband (view : View) (id : Nat) (party : Party) : LFGQueue :=
  let disbanded : LFGQueue := { q with groups := q.groups.erase id }
  if q.isInLFG id && party.memberSlots.any view.inWorld then disbanded.removeGroupFromQueue id else disbanded

-- Group::RemoveMember; nobody calls it for a kick.
def removeMember (view : View) (guid : Nat) : LFGQueue :=
  match q.groupOf guid with
  | none => q
  | some (id, party) =>
    if 2 < party.memberSlots.length then
      let slots := party.memberSlots.erase guid
      if party.leaderGuid = guid then
        ({ q with
          groups := q.groups.insert id
            { party with leaderGuid := chooseLeader view party.isRaid slots, memberSlots := slots } } :
          LFGQueue).removeGroupFromQueue id
      else
        let left : LFGQueue := { q with groups := q.groups.insert id { party with memberSlots := slots } }
        if left.isInLFG id then left.updateGroup classOf id else left
    else q.disband view id party

def changeLeader (id guid : Nat) : LFGQueue :=
  match q.groups.find id with
  | none => q
  | some party =>
    if party.memberSlots.contains guid then { q with groups := q.groups.insert id { party with leaderGuid := guid } }
    else q

def receiveParty (q : LFGQueue) (m : PartyMessage) : LFGQueue :=
  match m.op with
  | .queue op => q.receive classOf ⟨m.view, op⟩
  | .removeMember guid => q.removeMember classOf m.view guid
  | .changeLeader id guid => q.changeLeader id guid

end LFGQueue

end

end TurtleWow.MeetingStone

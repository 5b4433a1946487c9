import Mathlib.Data.List.Sort
import Mathlib.Data.String.Basic
import TurtleWow.Lib.Multimap

namespace TurtleWow.Lft

-- The dungeon finder: who is queued, whose roles are being asked for, and
-- which offers wait for an answer.

inductive Role where
  | tank
  | healer
  | damage
deriving DecidableEq

structure RoleMask where
  tank : Bool
  healer : Bool
  damage : Bool
deriving DecidableEq

namespace RoleMask

def none : RoleMask := ⟨false, false, false⟩

def only : Role → RoleMask
  | .tank => ⟨true, false, false⟩
  | .healer => ⟨false, true, false⟩
  | .damage => ⟨false, false, true⟩

def both (mask other : RoleMask) : RoleMask :=
  ⟨mask.tank && other.tank, mask.healer && other.healer, mask.damage && other.damage⟩

end RoleMask

def parseRoleMask (roles : List Char) : RoleMask :=
  roles.foldl (fun mask role =>
    if role = 't' ∨ role = 'T' then { mask with tank := true }
    else if role = 'h' ∨ role = 'H' then { mask with healer := true }
    else if role = 'd' ∨ role = 'D' then { mask with damage := true }
    else mask) RoleMask.none

inductive PlayerClass where
  | warrior
  | paladin
  | hunter
  | rogue
  | priest
  | shaman
  | mage
  | warlock
  | druid

def PlayerClass.allowedRoleMask : PlayerClass → RoleMask
  | .druid | .paladin => ⟨true, true, true⟩
  | .hunter | .mage | .rogue | .warlock => ⟨false, false, true⟩
  | .priest | .shaman => ⟨false, true, true⟩
  | .warrior => ⟨true, false, true⟩

structure Seats where
  tanks : Nat
  healers : Nat
  damage : Nat

def Seats.free : Seats := ⟨0, 0, 0⟩

def Seats.take (seats : Seats) : Role → Seats
  | .tank => { seats with tanks := seats.tanks + 1 }
  | .healer => { seats with healers := seats.healers + 1 }
  | .damage => { seats with damage := seats.damage + 1 }

def pickRole (mask : RoleMask) (seats : Seats) : Option Role :=
  if mask.tank ∧ seats.tanks < 1 then some .tank
  else if mask.healer ∧ seats.healers < 1 then some .healer
  else if mask.damage ∧ seats.damage < 3 then some .damage
  else none

structure QueuedPlayer where
  queueLeaderGuid : Nat
  team : Nat
  isHardcore : Bool
  queueOrder : Nat
  instances : List String
  roleMask : RoleMask
  assignedRole : Option Role

def QueuedPlayer.blank : QueuedPlayer :=
  { queueLeaderGuid := 0, team := 0, isHardcore := false, queueOrder := 0, instances := [], roleMask := RoleMask.none,
    assignedRole := none }

def QueuedPlayer.assign (queued : QueuedPlayer) (role : Option Role) : QueuedPlayer :=
  { queued with assignedRole := role }

def QueuedPlayer.leader (queued : QueuedPlayer) (guid : Nat) : Nat :=
  if queued.queueLeaderGuid = 0 then guid else queued.queueLeaderGuid

structure PendingRolecheck where
  members : List Nat
  instances : List String
  responses : OrderedMap Nat RoleMask
  timer : Nat

abbrev GuidSet := OrderedMap Nat Unit

structure Offer where
  instanceName : String
  roles : OrderedMap Nat Role
  accepted : GuidSet
  timer : Nat

def PendingRolecheck.wait (rolecheck : PendingRolecheck) (diff : Nat) : PendingRolecheck :=
  { rolecheck with timer := rolecheck.timer - diff }

def PendingRolecheck.respond (rolecheck : PendingRolecheck) (guid : Nat) (roleMask : RoleMask) : PendingRolecheck :=
  { rolecheck with responses := rolecheck.responses.insert guid roleMask }

def Offer.wait (offer : Offer) (diff : Nat) : Offer := { offer with timer := offer.timer - diff }

def Offer.accept (offer : Offer) (guid : Nat) : Offer := { offer with accepted := offer.accepted.insert guid () }

-- `nextOfferId` counts the offers; the number an offer gets is cut to 32 bits.
structure LFTManager where
  queue : OrderedMap Nat QueuedPlayer
  rolechecks : OrderedMap Nat PendingRolecheck
  offers : OrderedMap Nat Offer
  playerOffers : OrderedMap Nat Nat
  nextOfferId : Nat
  nextQueueOrder : Nat
  fillBots : GuidSet
  botFillTimer : Nat

def LFTManager.new : LFTManager :=
  { queue := .empty, rolechecks := .empty, offers := .empty, playerOffers := .empty, nextOfferId := 1,
    nextQueueOrder := 1, fillBots := .empty, botFillTimer := 0 }

structure Party where
  isRaidGroup : Bool
  leader : Nat
  members : List Nat

-- What the world answers during one operation. `addsToGroup` and `teleports`
-- stand for the group and for the entrance of the dungeon; `seed` and `fill`
-- are the bots that the bot fill would choose.
structure View where
  inWorld : Nat → Bool
  playerClass : Nat → PlayerClass
  team : Nat → Nat
  isHardcore : Nat → Bool
  group : Nat → Option Party
  twoSideGroups : Bool
  hardcoreAllows : Nat → Nat → Bool
  validDestinations : Nat → List String → Bool
  addsToGroup : Nat → Nat → Bool
  teleports : List Nat → String → Bool
  botFill : Bool
  machineDriven : Nat → Bool
  scriptRoles : Nat → RoleMask
  seed : Option (Nat × String)
  fill : List (Nat × String × Role)

namespace View

variable (view : View)

def allowedRoleMask (guid : Nat) : RoleMask := (view.playerClass guid).allowedRoleMask

def canPlayersGroup (leader member : Nat) : Bool :=
  (view.twoSideGroups || view.team leader == view.team member) && view.hardcoreAllows leader member

def canQueuedPlayersGroup (seed candidate : Nat × QueuedPlayer) : Bool :=
  if view.inWorld seed.1 ∧ view.inWorld candidate.1 then view.canPlayersGroup seed.1 candidate.1
  else (view.twoSideGroups || seed.2.team == candidate.2.team) && seed.2.isHardcore == candidate.2.isHardcore

def getPartyMembers (leader : Nat) : List Nat :=
  match view.group leader with
  | none => [leader]
  | some party => party.members.filter fun guid => view.inWorld guid

end View

namespace LFTManager

variable (m : LFTManager) (view : View)

def enqueuePlayer (guid leaderGuid : Nat) (instances : List String) (roleMask : RoleMask) : LFTManager :=
  { m with
    queue := m.queue.insert guid
      { queueLeaderGuid := leaderGuid, team := view.team guid, isHardcore := view.isHardcore guid,
        queueOrder := m.nextQueueOrder, instances := instances, roleMask := roleMask,
        assignedRole := pickRole roleMask Seats.free },
    nextQueueOrder := m.nextQueueOrder + 1 }

def getQueueOrder : List Nat :=
  (m.queue.entries.insertionSort fun left right =>
    left.2.queueOrder < right.2.queueOrder ∨ (left.2.queueOrder = right.2.queueOrder ∧ left.1 ≤ right.1)).map
    fun entry => entry.1

-- Construction of an offer: a seed and blocks that fit it, each block being
-- what queued under one leader.

structure Selection where
  roles : OrderedMap Nat Role
  seats : Seats

def Selection.none : Selection := ⟨.empty, Seats.free⟩

def block (queueOrder : List Nat) (leader : Nat) : List Nat :=
  queueOrder.filter fun guid =>
    match m.queue.find guid with
    | none => false
    | some queued => queued.leader guid = leader

def waiting (instanceName : String) (seed : Nat × QueuedPlayer) (selection : Selection) (guid : Nat) :
    Option QueuedPlayer :=
  match m.queue.find guid with
  | none => none
  | some queued =>
    if selection.roles.find guid = none ∧ m.playerOffers.find guid = none ∧ instanceName ∈ queued.instances ∧
        view.canQueuedPlayersGroup seed (guid, queued) then some queued
    else none

def placeBlock (instanceName : String) (seed : Nat × QueuedPlayer) (selection : Selection) :
    Selection → List Nat → Option Selection
  | placed, [] => some placed
  | placed, guid :: rest =>
    match m.waiting view instanceName seed selection guid with
    | none => none
    | some queued =>
      match pickRole queued.roleMask placed.seats with
      | none => none
      | some role =>
        placeBlock instanceName seed selection ⟨placed.roles.insert guid role, placed.seats.take role⟩ rest

def Selection.merge (selection placed : Selection) : Selection :=
  ⟨placed.roles.entries.foldl (fun roles entry => roles.insert entry.1 entry.2) selection.roles, placed.seats⟩

def considerCandidate (instanceName : String) (queueOrder : List Nat) (seed : Nat × QueuedPlayer)
    (selection : Selection) (guid : Nat) : Selection :=
  if 5 ≤ selection.roles.size then selection
  else
    match m.waiting view instanceName seed selection guid with
    | none => selection
    | some queued =>
      match m.placeBlock view instanceName seed selection ⟨.empty, selection.seats⟩
          (m.block queueOrder (queued.leader guid)) with
      | none => selection
      | some placed =>
        if placed.roles.size = 0 ∨ 5 < selection.roles.size + placed.roles.size then selection
        else selection.merge placed

def Selection.complete (selection : Selection) : Bool :=
  selection.seats.tanks = 1 ∧ selection.seats.healers = 1 ∧ selection.seats.damage = 3 ∧ selection.roles.size = 5

def selectFor (instanceName : String) (queueOrder : List Nat) (seedGuid : Nat) : Option (OrderedMap Nat Role) :=
  match m.queue.find seedGuid with
  | none => none
  | some seed =>
    if m.playerOffers.find seedGuid ≠ none ∨ instanceName ∉ seed.instances then none
    else
      let selection := queueOrder.foldl (m.considerCandidate view instanceName queueOrder (seedGuid, seed))
        Selection.none
      if selection.complete then some selection.roles else none

def selectPlayers (instanceName : String) : Option (OrderedMap Nat Role) :=
  m.getQueueOrder.findSome? (m.selectFor view instanceName m.getQueueOrder)

def offerTimeout : Nat := 90000

def rolecheckTimeout : Nat := 90000

-- `m_queue[guid].assignedRole = role` and the way to the offer
def promise (id : Nat) (m : LFTManager) (entry : Nat × Role) : LFTManager :=
  { m with
    queue := m.queue.insert entry.1 (((m.queue.find entry.1).getD QueuedPlayer.blank).assign (some entry.2)),
    playerOffers := m.playerOffers.insert entry.1 id }

def newOfferId : Nat := m.nextOfferId % 2 ^ 32

def openOffer (instanceName : String) (roles : OrderedMap Nat Role) : LFTManager :=
  { m with
    nextOfferId := m.nextOfferId + 1,
    offers := m.offers.insert m.newOfferId
      { instanceName := instanceName, roles := roles, accepted := .empty, timer := offerTimeout } }

def makeOffer (instanceName : String) (roles : OrderedMap Nat Role) : LFTManager :=
  roles.entries.foldl (promise m.newOfferId) (m.openOffer instanceName roles)

def tryBuildOfferForInstance (instanceName : String) : LFTManager :=
  match m.selectPlayers view instanceName with
  | none => m
  | some roles => m.makeOffer instanceName roles

def waitedFor : List String :=
  (m.queue.entries.foldl (fun names entry =>
    if m.playerOffers.find entry.1 = none then
      entry.2.instances.foldl (fun names name => names.insert name ()) names
    else names) (OrderedMap.empty : OrderedMap String Unit)).keys

def tryMakeOffers : LFTManager := m.waitedFor.foldl (fun m name => m.tryBuildOfferForInstance view name) m

end LFTManager

end TurtleWow.Lft

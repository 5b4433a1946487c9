import Mathlib.Logic.Function.Basic
import Mathlib.Order.Nat
import TurtleWow.Lib.Multimap

namespace TurtleWow.Guilds

-- A guild: its ranks, its members, and who leads it.

def GUILD_RANKS_MIN_COUNT : Nat := 5

def GUILD_RANKS_MAX_COUNT : Nat := 10

def GR_GUILDMASTER : Nat := 0

def GR_OFFICER : Nat := 1

def GR_RIGHT_EMPTY : Nat := 0x40

def GR_RIGHT_GCHATLISTEN : Nat := 0x41

def GR_RIGHT_GCHATSPEAK : Nat := 0x42

def GR_RIGHT_REMOVE : Nat := 0x60

def GR_RIGHT_PROMOTE : Nat := 0xC0

def GR_RIGHT_DEMOTE : Nat := 0x140

def GR_RIGHT_ALL : Nat := 0xFF1FF

structure MemberSlot where
  guid : Nat
  name : String
  rankId : Nat
deriving DecidableEq

-- What a step sees outside the guild. The members are kept in an unordered map,
-- which is walked in some order. The rank in the actor's own object may be stale,
-- since it is written only while he is in the world.
structure View where
  walk : List (Nat × MemberSlot) → List (Nat × MemberSlot)
  walk_perm : ∀ list, (walk list).Perm list
  rank : Nat
  loaded : Nat → Bool
  inWorld : Nat → Bool
  knownPlayer : Nat → Bool
  name : Nat → String
  inOtherGuild : Nat → Bool
  sameTeam : Bool
  -- whom the event log has as invited, oldest first
  invited : List Nat

-- A rank is its rights. `inGuild` says whose object carries the number of a
-- guild, or will when it is next loaded.
structure Guild where
  leaderGuid : Nat
  ranks : List Nat
  members : OrderedMap Nat MemberSlot
  inGuild : Nat → Bool

namespace Guild

variable (g : Guild) (view : View)

def getLowestRank : Nat := g.ranks.length - 1

def isMember (guid : Nat) : Bool := (g.members.find guid).isSome

def getRankRights (rankId : Nat) : Nat := g.ranks[rankId]?.getD 0

def hasRankRight (rankId right : Nat) : Bool := decide (g.getRankRights rankId &&& right ≠ GR_RIGHT_EMPTY)

def getMemberSlot (name : String) : Option MemberSlot :=
  ((view.walk g.members.entries).find? fun entry => entry.2.name == name).map fun entry => entry.2

def changeRank (guid newRank : Nat) : Guild :=
  match g.members.find guid with
  | none => g
  | some slot => { g with members := g.members.insert guid { slot with rankId := newRank } }

def addMember (guid rank : Nat) : Option Guild :=
  if (if view.loaded guid then g.inGuild guid else g.isMember guid) then none
  else if !view.loaded guid && !view.knownPlayer guid then none
  else some { g with
    members := g.members.insert guid ⟨guid, view.name guid, rank⟩
    inGuild := Function.update g.inGuild guid true }

def setLeader (guid : Nat) : Guild :=
  match g.members.find guid with
  | none => g
  | some slot => { g with leaderGuid := slot.guid }.changeRank guid GR_GUILDMASTER

def setNewLeader (newLeader : Nat) (oldLeader : Option Nat) : Guild :=
  match oldLeader with
  | none => g.setLeader newLeader
  | some old => (g.setLeader newLeader).changeRank old GR_OFFICER

def better (leader : Nat) (best : Option (Nat × MemberSlot)) (entry : Nat × MemberSlot) : Option (Nat × MemberSlot) :=
  if entry.1 = leader then best
  else
    match best with
    | none => some entry
    | some slot => if slot.2.rankId > entry.2.rankId then some entry else best

def getSuitableNewLeader (preferOldestOfficer : Bool) : Option Nat :=
  let best := ((view.walk g.members.entries).foldl (better g.leaderGuid) none).map fun entry => entry.1
  if preferOldestOfficer then
    match view.invited.find? fun guid =>
      guid ≠ g.leaderGuid ∧ (g.members.find guid).map MemberSlot.rankId = some GR_OFFICER with
    | some guid => some guid
    | none => best
  else best

def oldLeaderSlot : Option Nat := if g.isMember g.leaderGuid then some g.leaderGuid else none

-- Removing: the second part says that the guild is to be disbanded.

def erase (guid : Nat) : Guild :=
  { g with
    members := g.members.erase guid
    inGuild := Function.update g.inGuild guid (view.loaded guid && !view.inWorld guid && g.inGuild guid) }

def delMember (guid : Nat) : Guild × Bool :=
  if g.leaderGuid = guid then
    match g.getSuitableNewLeader view false with
    | none => (g, true)
    | some best =>
      let g := (g.setNewLeader best g.oldLeaderSlot).erase view guid
      (g, g.members.entries.isEmpty)
  else
    let g := g.erase view guid
    (g, g.members.entries.isEmpty)

def remains (result : Guild × Bool) : Option Guild := if result.2 then none else some result.1

def defaultRanks : List Nat :=
  [GR_RIGHT_ALL, GR_RIGHT_ALL, GR_RIGHT_GCHATLISTEN ||| GR_RIGHT_GCHATSPEAK,
    GR_RIGHT_GCHATLISTEN ||| GR_RIGHT_GCHATSPEAK, GR_RIGHT_GCHATLISTEN ||| GR_RIGHT_GCHATSPEAK]

def sign (g : Guild) (guid : Nat) : Guild := if guid = 0 then g else (g.addMember view guid g.getLowestRank).getD g

def create (inGuild : Nat → Bool) (leader : Nat) (signatures : List Nat) : Option Guild :=
  (addMember ⟨leader, defaultRanks, .empty, inGuild⟩ view leader GR_GUILDMASTER).map fun g =>
    signatures.foldl (sign view) g

-- The rows of one guild, in the order of the rank numbers. The first rank is the
-- guildmaster's, and too few ranks are renewed.
def loadRanks : Option (List Nat) → List Nat
  | none => defaultRanks
  | some rows =>
    let ranks := match rows with
      | [] => []
      | rights :: rest => (rights ||| GR_RIGHT_ALL) :: rest
    if ranks.length < GUILD_RANKS_MIN_COUNT then defaultRanks else ranks

structure MemberRow where
  guid : Nat
  rank : Nat
  name : String
  -- level, class and name are not broken
  valid : Bool

def loadMember (g : Guild) (row : MemberRow) : Guild :=
  if row.valid then
    { g with
      members := g.members.insert row.guid
        ⟨row.guid, row.name, if row.rank ≥ g.ranks.length then g.getLowestRank else row.rank⟩
      inGuild := Function.update g.inGuild row.guid true }
  else g

-- Allow only 1 guildmaster, set other to officer
def demoteOther (leader : Nat) (g : Guild) (entry : Nat × MemberSlot) : Guild :=
  if entry.2.rankId = GR_GUILDMASTER ∧ leader ≠ entry.2.guid then g.changeRank entry.1 GR_OFFICER else g

def checkLeader : Option Guild :=
  match g.members.find g.leaderGuid with
  | none => remains (g.delMember view g.leaderGuid)
  | some slot => some (if slot.rankId ≠ GR_GUILDMASTER then g.setLeader g.leaderGuid else g)

def checkGuildStructure : Option Guild :=
  (g.checkLeader view).map fun g => (view.walk g.members.entries).foldl (demoteOther g.leaderGuid) g

def load (inGuild : Nat → Bool) (leader : Nat) (rankRows : Option (List Nat)) (memberRows : List MemberRow) :
    Option Guild :=
  let g := memberRows.foldl loadMember ⟨leader, loadRanks rankRows, .empty, inGuild⟩
  if g.members.entries.isEmpty then none else g.checkGuildStructure view

-- The handlers; none is a guild that has been disbanded.

def handleAccept (guid : Nat) : Guild :=
  if g.inGuild guid then g
  else if !view.sameTeam then g
  else (g.addMember view guid g.getLowestRank).getD g

def handleLeave (guid : Nat) : Option Guild :=
  if guid = g.leaderGuid ∧ g.members.size > 1 then some g
  else if guid = g.leaderGuid then none
  else remains (g.delMember view guid)

def handleRemove (name : String) : Option Guild :=
  if !g.hasRankRight view.rank GR_RIGHT_REMOVE then some g
  else
    match g.getMemberSlot view name with
    | none => some g
    | some slot =>
      if slot.rankId = GR_GUILDMASTER then some g
      else if view.rank ≥ slot.rankId then some g
      else remains (g.delMember view slot.guid)

section

variable (actor : Nat)

def handlePromote (name : String) : Guild :=
  if !g.hasRankRight view.rank GR_RIGHT_PROMOTE then g
  else
    match g.getMemberSlot view name with
    | none => g
    | some slot =>
      if slot.guid = actor then g
      else if view.rank + 1 ≥ slot.rankId then g
      else g.changeRank slot.guid (slot.rankId - 1)

def handleDemote (name : String) : Guild :=
  if !g.hasRankRight view.rank GR_RIGHT_DEMOTE then g
  else
    match g.getMemberSlot view name with
    | none => g
    | some slot =>
      if slot.guid = actor then g
      else if view.rank ≥ slot.rankId then g
      else if slot.rankId ≥ g.getLowestRank then g
      else g.changeRank slot.guid (slot.rankId + 1)

def handleLeader (name : String) : Guild :=
  if actor ≠ g.leaderGuid then g
  else if !g.isMember actor then g
  else
    match g.getMemberSlot view name with
    | none => g
    | some slot => if slot.guid = actor then g else g.setNewLeader slot.guid (some actor)

def handleAddRank : Guild :=
  if actor ≠ g.leaderGuid then g
  else if g.ranks.length ≥ GUILD_RANKS_MAX_COUNT then g
  else { g with ranks := g.ranks ++ [GR_RIGHT_GCHATLISTEN ||| GR_RIGHT_GCHATSPEAK] }

def delRank : Guild :=
  if g.ranks.length ≤ GUILD_RANKS_MIN_COUNT then g else { g with ranks := g.ranks.dropLast }

def handleDelRank : Guild := if actor ≠ g.leaderGuid then g else g.delRank

end

def deleteCharacter (guid : Nat) : Option Guild :=
  if g.isMember guid then remains (g.delMember view guid) else some g

def permKill (guid : Nat) : Guild :=
  if g.leaderGuid = guid then
    match g.getSuitableNewLeader view true with
    | none => g
    | some best => g.setNewLeader best g.oldLeaderSlot
  else g

def loadPlayer (guid : Nat) : Guild :=
  { g with inGuild := Function.update g.inGuild guid (g.isMember guid || view.inOtherGuild guid) }

end Guild

inductive Op where
  | accept (guid : Nat)
  | leave (guid : Nat)
  | remove (name : String)
  | promote (actor : Nat) (name : String)
  | demote (actor : Nat) (name : String)
  | leader (actor : Nat) (name : String)
  | addRank (actor : Nat)
  | delRank (actor : Nat)
  | deleteCharacter (guid : Nat)
  | permKill (guid : Nat)
  | loadPlayer (guid : Nat)

def Guild.step (g : Guild) (view : View) : Op → Option Guild
  | .accept guid => some (g.handleAccept view guid)
  | .leave guid => g.handleLeave view guid
  | .remove name => g.handleRemove view name
  | .promote actor name => some (g.handlePromote view actor name)
  | .demote actor name => some (g.handleDemote view actor name)
  | .leader actor name => some (g.handleLeader view actor name)
  | .addRank actor => some (g.handleAddRank actor)
  | .delRank actor => some (g.handleDelRank actor)
  | .deleteCharacter guid => g.deleteCharacter view guid
  | .permKill guid => some (g.permKill view guid)
  | .loadPlayer guid => some (g.loadPlayer view guid)

def step (g : Option Guild) (input : View × Op) : Option Guild := g.bind fun g => g.step input.1 input.2

inductive Start where
  | create (view : View) (inGuild : Nat → Bool) (leader : Nat) (signatures : List Nat)
  | load (view : View) (inGuild : Nat → Bool) (leader : Nat) (rankRows : Option (List Nat)) (memberRows : List Guild.MemberRow)

def Start.guild : Start → Option Guild
  | .create view inGuild leader signatures => Guild.create view inGuild leader signatures
  | .load view inGuild leader rankRows memberRows => Guild.load view inGuild leader rankRows memberRows

end TurtleWow.Guilds

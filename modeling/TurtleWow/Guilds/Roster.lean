import Mathlib.Data.List.Perm.Basic
import TurtleWow.Lib.Parse

namespace TurtleWow.Guilds

-- Guild::Roster: the packet with the members, and the grammar by which a client
-- reads it

namespace Roster

open Bytes Parse

def GR_RIGHT_EMPTY : UInt32 := 0x40

def GR_RIGHT_VIEWOFFNOTE : UInt32 := 0x4040

def MAX_INTERNAL_PLAYER_NAME : Nat := 15

def MAX_UNCOMPRESSED_PACKET_SIZE : Nat := 0x8000

def GUILD_RANKS_MAX_COUNT : Nat := 10

def GUILD_NOTE_MAX_LENGTH : Nat := 31

def GUILD_INFO_MAX_LENGTH : Nat := 500

def GUILD_MOTD_MAX_LENGTH : Nat := 128

def GUILD_MEMBER_BLOCK_SIZE : Nat :=
  8 + 1 + (1 + MAX_INTERNAL_PLAYER_NAME) + 4 + 1 + 1 + 4 + (1 + GUILD_NOTE_MAX_LENGTH) + (1 + GUILD_NOTE_MAX_LENGTH)

def GUILD_MEMBER_BLOCK_SIZE_WITHOUT_NOTE : Nat :=
  8 + 1 + (1 + MAX_INTERNAL_PLAYER_NAME) + 4 + 1 + 1 + 4 + (1 + 0) + (1 + 0)

def GUILD_MAX_MEMBERS : Nat :=
  (0x8000 - 10 - GUILD_RANKS_MAX_COUNT - GUILD_INFO_MAX_LENGTH - GUILD_MOTD_MAX_LENGTH) / GUILD_MEMBER_BLOCK_SIZE_WITHOUT_NOTE

structure Text (limit : Nat) where
  bytes : List UInt8
  zeroFree : 0 ∉ bytes
  length_le : bytes.length ≤ limit

abbrev Name := Text MAX_INTERNAL_PLAYER_NAME

abbrev Note := Text GUILD_NOTE_MAX_LENGTH

structure MemberSlot where
  name : Name
  rankId : UInt32
  level : UInt8
  cls : UInt8
  zoneId : UInt32
  logoutTime : UInt64
  publicNote : Note
  officerNote : Note

structure Player where
  name : Name
  level : UInt8
  cls : UInt8
  cachedZoneId : UInt32
  gmDisabledSocials : Bool

-- The members in the order of their map. The information text has at most 500
-- characters, of up to four bytes each.
structure Guild where
  motd : Text GUILD_MOTD_MAX_LENGTH
  info : Text (4 * GUILD_INFO_MAX_LENGTH)
  ranks : List UInt32
  ranks_le : ranks.length ≤ GUILD_RANKS_MAX_COUNT
  members : List (UInt32 × MemberSlot)
  distinct : (members.map fun entry => entry.1).Nodup

structure TempMemberInfo where
  guid : UInt64
  member : Option Player
  slot : MemberSlot

-- What the roster sees outside the guild: the members in the world, the rank of
-- the player it is for, the days since a logout as the bits of a float, and the
-- sort, which leaves members of one rank in any order.
structure View where
  findPlayer : UInt32 → Option Player
  session : Option Nat
  lastOnline : UInt64 → UInt32
  sort : List TempMemberInfo → List TempMemberInfo
  sort_perm : ∀ list, (sort list).Perm list
  sort_sorted : ∀ list, (sort list).Pairwise fun a b => a.slot.rankId ≤ b.slot.rankId

namespace TempMemberInfo

variable (info : TempMemberInfo)

def online : Bool := info.member.any fun player => !player.gmDisabledSocials

-- An online game master without socials is not online in the roster, but in the
-- world.
def hidden : Bool := info.member.any fun player => player.gmDisabledSocials

end TempMemberInfo

namespace Guild

variable (g : Guild) (view : View)

def getRankRights (rankId : Nat) : UInt32 := g.ranks[rankId]?.getD 0

def hasRankRight (rankId : Nat) (right : UInt32) : Bool := decide (g.getRankRights rankId &&& right ≠ GR_RIGHT_EMPTY)

def sendOfficerNote : Bool := view.session.any fun rankId => g.hasRankRight rankId GR_RIGHT_VIEWOFFNOTE

def infos : List TempMemberInfo :=
  g.members.map fun entry => ⟨entry.1.toUInt64, view.findPlayer entry.1, entry.2⟩

def headerSize : Nat := 4 + (g.motd.bytes.length + 1 + g.info.bytes.length + 1) + 4 + 4 * g.ranks.length

def counted (slot : MemberSlot) : Nat :=
  GUILD_MEMBER_BLOCK_SIZE_WITHOUT_NOTE + (slot.publicNote.bytes.length + 1 + slot.officerNote.bytes.length + 1)

def estimate : Nat := g.headerSize + (g.members.map fun entry => counted entry.2).sum

def totalSize : Nat := Word.u32 g.estimate

def inPacketCap : Bool := decide (g.totalSize < MAX_UNCOMPRESSED_PACKET_SIZE)

def onlineMemberCache : List TempMemberInfo := (g.infos view).filter fun info => info.online

def offlineMemberCache : List TempMemberInfo := (g.infos view).filter fun info => !info.online

def onlineMembers : Nat := min (g.onlineMemberCache view).length GUILD_MAX_MEMBERS

def offlineMembers : Nat := min (g.offlineMemberCache view).length (GUILD_MAX_MEMBERS - g.onlineMembers view)

def arranged (cache : List TempMemberInfo) : List TempMemberInfo := if g.inPacketCap then cache else view.sort cache

end Guild

def writeText {limit : Nat} (text : Text limit) : List UInt8 := text.bytes ++ [0]

def memberData (view : View) (sendOfficerNote : Bool) (member : TempMemberInfo) : List UInt8 :=
  let online : UInt8 := if member.online then 1 else 0
  toBytes 8 member.guid.toNat ++ toBytes 1 online.toNat ++
    (match member.member with
      | some player =>
        writeText player.name ++ toBytes 4 member.slot.rankId.toNat ++ toBytes 1 player.level.toNat ++
          toBytes 1 player.cls.toNat ++ toBytes 4 player.cachedZoneId.toNat
      | none =>
        writeText member.slot.name ++ toBytes 4 member.slot.rankId.toNat ++ toBytes 1 member.slot.level.toNat ++
          toBytes 1 member.slot.cls.toNat ++ toBytes 4 member.slot.zoneId.toNat ++
          toBytes 4 (view.lastOnline member.slot.logoutTime).toNat) ++
    writeText member.slot.publicNote ++ (if sendOfficerNote then writeText member.slot.officerNote else [0])

def writeMemberData (g : Guild) (view : View) (data : List UInt8) (member : TempMemberInfo) : List UInt8 × Bool :=
  if g.inPacketCap = false ∧ data.length + GUILD_MEMBER_BLOCK_SIZE ≥ MAX_UNCOMPRESSED_PACKET_SIZE then (data, false)
  else (data ++ memberData view (g.sendOfficerNote view) member, true)

def writeMembers (g : Guild) (view : View) (skip : TempMemberInfo → Bool) :
    List UInt8 × Nat → List TempMemberInfo → List UInt8 × Nat
  | state, [] => state
  | (data, finalCount), member :: rest =>
    if skip member then writeMembers g view skip (data, finalCount) rest
    else
      let result := writeMemberData g view data member
      if result.2 then writeMembers g view skip (result.1, finalCount + 1) rest else (data, finalCount)

def header (g : Guild) (count : Nat) : List UInt8 :=
  toBytes 4 count ++ writeText g.motd ++ writeText g.info ++ toBytes 4 g.ranks.length ++
    g.ranks.flatMap fun rights => toBytes 4 rights.toNat

-- put<uint32> at the position of the count, which is the first
def putCount (data : List UInt8) (count : Nat) : List UInt8 := toBytes 4 count ++ data.drop 4

def roster (g : Guild) (view : View) : List UInt8 :=
  let count := min (g.infos view).length GUILD_MAX_MEMBERS
  let online := (g.arranged view (g.onlineMemberCache view)).take (g.onlineMembers view)
  let offline := (g.arranged view (g.offlineMemberCache view)).take (g.offlineMembers view)
  let state := writeMembers g view (fun member => member.member.isNone) (header g count, 0) online
  -- skip deleted characters with no name
  let state := writeMembers g view (fun member => member.online || member.slot.name.bytes.isEmpty) state offline
  putCount state.1 state.2

-- Reading: the last-online float is there exactly where the status byte is 0.

structure Record where
  guid : UInt64
  status : UInt8
  name : List UInt8
  rankId : UInt32
  level : UInt8
  cls : UInt8
  zoneId : UInt32
  lastOnline : Option UInt32
  publicNote : List UInt8
  officerNote : List UInt8

structure Packet where
  count : UInt32
  motd : List UInt8
  info : List UInt8
  ranks : List UInt32
  records : List Record

def lastOnlineOf (status : UInt8) : Reader (Option UInt32) := if status = 0 then some <$> uint32 else pure none

def record : Reader Record := do
  let guid ← uint64
  let status ← uint8
  let name ← text
  let rankId ← uint32
  let level ← uint8
  let cls ← uint8
  let zoneId ← uint32
  let lastOnline ← lastOnlineOf status
  let publicNote ← text
  let officerNote ← text
  return ⟨guid, status, name, rankId, level, cls, zoneId, lastOnline, publicNote, officerNote⟩

def packet : Reader Packet := do
  let count ← uint32
  let motd ← text
  let info ← text
  let rankCount ← uint32
  let ranks ← many uint32 rankCount.toNat
  let records ← many record count.toNat
  return ⟨count, motd, info, ranks, records⟩

end Roster

end TurtleWow.Guilds

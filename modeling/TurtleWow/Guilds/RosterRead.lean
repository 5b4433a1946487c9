import TurtleWow.Guilds.Roster
import TurtleWow.Lib.Lists
import Mathlib.Algebra.BigOperators.Group.List.Basic
import Mathlib.Algebra.Order.BigOperators.Group.List

namespace TurtleWow.Guilds.Roster

open Bytes Parse List

-- Who is written into the roster, how a client reads it back, and how large it is

section

variable (g : Guild) (view : View)

def writtenIn (skip : TempMemberInfo → Bool) : List UInt8 → List TempMemberInfo → List TempMemberInfo
  | _, [] => []
  | data, member :: rest =>
    if skip member then writtenIn skip data rest
    else if (writeMemberData g view data member).2 then member :: writtenIn skip (writeMemberData g view data member).1 rest
    else []

def onlineWritten : List TempMemberInfo :=
  writtenIn g view (fun member => member.member.isNone) (header g (min (g.infos view).length GUILD_MAX_MEMBERS))
    ((g.arranged view (g.onlineMemberCache view)).take (g.onlineMembers view))

def offlineWritten : List TempMemberInfo :=
  writtenIn g view (fun member => member.online || member.slot.name.bytes.isEmpty)
    (header g (min (g.infos view).length GUILD_MAX_MEMBERS) ++
      (onlineWritten g view).flatMap (memberData view (g.sendOfficerNote view)))
    ((g.arranged view (g.offlineMemberCache view)).take (g.offlineMembers view))

def written : List TempMemberInfo := onlineWritten g view ++ offlineWritten g view

end

variable {g : Guild} {view : View} {skip : TempMemberInfo → Bool} {data : List UInt8} {list : List TempMemberInfo}
  {member : TempMemberInfo}

theorem writeMemberData_of_true (h : (writeMemberData g view data member).2 = true) :
    (writeMemberData g view data member).1 = data ++ memberData view (g.sendOfficerNote view) member ∧
      ¬(g.inPacketCap = false ∧ data.length + GUILD_MEMBER_BLOCK_SIZE ≥ MAX_UNCOMPRESSED_PACKET_SIZE) := by
  unfold writeMemberData at h ⊢
  split at h
  · simp at h
  · rename_i hroom
    rw [if_neg hroom]
    exact ⟨rfl, hroom⟩

theorem writeMembers_eq (skip : TempMemberInfo → Bool) (data : List UInt8) (finalCount : Nat) (list : List TempMemberInfo) :
    writeMembers g view skip (data, finalCount) list =
      (data ++ (writtenIn g view skip data list).flatMap (memberData view (g.sendOfficerNote view)),
        finalCount + (writtenIn g view skip data list).length) := by
  induction list generalizing data finalCount with
  | nil => simp [writeMembers, writtenIn]
  | cons member rest ih =>
    unfold writeMembers writtenIn
    split
    · exact ih data finalCount
    · dsimp only
      split
      · rename_i hwritten
        rw [ih, (writeMemberData_of_true hwritten).1]
        simp only [flatMap_cons, append_assoc, length_cons, Nat.add_assoc, Nat.add_comm 1]
      · simp

theorem writtenIn_sublist (skip : TempMemberInfo → Bool) (data : List UInt8) (list : List TempMemberInfo) :
    (writtenIn g view skip data list).Sublist list := by
  induction list generalizing data with
  | nil => exact .slnil
  | cons member rest ih =>
    unfold writtenIn
    split
    · exact (ih data).cons member
    · split
      · exact (ih _).cons_cons member
      · exact nil_sublist _

theorem length_header (count : Nat) : (header g count).length = g.headerSize := by
  have hranks : (g.ranks.flatMap fun rights => toBytes 4 rights.toNat).length = 4 * g.ranks.length := by
    induction g.ranks with
    | nil => rfl
    | cons rights rest ih =>
      rw [flatMap_cons, length_append, ih, length_toBytes, length_cons]
      omega
  simp only [header, writeText, length_append, length_toBytes, length_cons, length_nil, hranks, Guild.headerSize]
  omega

theorem roster_eq : roster g view =
    header g (written g view).length ++ (written g view).flatMap (memberData view (g.sendOfficerNote view)) := by
  unfold roster
  dsimp only
  rw [writeMembers_eq, writeMembers_eq]
  have hcount (count other : Nat) (rest : List UInt8) : putCount (header g count ++ rest) other = header g other ++ rest := by
    unfold putCount header
    simp only [append_assoc]
    rw [drop_left' (length_toBytes 4 count)]
  rw [append_assoc, hcount, Nat.zero_add]
  simp only [written, onlineWritten, offlineWritten, length_append, flatMap_append]

theorem arranged_perm (cache : List TempMemberInfo) : (g.arranged view cache).Perm cache := by
  unfold Guild.arranged
  split
  · exact .refl cache
  · exact view.sort_perm cache

variable (g view) in
theorem written_subperm : (written g view).Subperm (g.infos view) := by
  have hsublist : (written g view).Sublist
      (g.arranged view (g.onlineMemberCache view) ++ g.arranged view (g.offlineMemberCache view)) :=
    ((writtenIn_sublist _ _ _).trans (take_sublist _ _)).append ((writtenIn_sublist _ _ _).trans (take_sublist _ _))
  have hperm : (g.arranged view (g.onlineMemberCache view) ++ g.arranged view (g.offlineMemberCache view)).Perm (g.infos view) :=
    ((arranged_perm _).append (arranged_perm _)).trans (filter_append_perm TempMemberInfo.online (g.infos view))
  exact hsublist.subperm.trans hperm.subperm

theorem length_written : (written g view).length ≤ GUILD_MAX_MEMBERS := by
  have honline : (onlineWritten g view).length ≤ g.onlineMembers view :=
    (writtenIn_sublist _ _ _).length_le.trans (length_take_le _ _)
  have hoffline : (offlineWritten g view).length ≤ g.offlineMembers view :=
    (writtenIn_sublist _ _ _).length_le.trans (length_take_le _ _)
  have hmax : g.onlineMembers view ≤ GUILD_MAX_MEMBERS := Nat.min_le_right _ _
  have hrest : g.offlineMembers view ≤ GUILD_MAX_MEMBERS - g.onlineMembers view := Nat.min_le_right _ _
  rw [written, length_append]
  omega

section

variable (view) (sendOfficerNote : Bool)

def recordOf (member : TempMemberInfo) : Record where
  guid := member.guid
  status := if member.online then 1 else 0
  name := (member.member.elim member.slot.name fun player => player.name).bytes
  rankId := member.slot.rankId
  level := member.member.elim member.slot.level fun player => player.level
  cls := member.member.elim member.slot.cls fun player => player.cls
  zoneId := member.member.elim member.slot.zoneId fun player => player.cachedZoneId
  lastOnline := member.member.elim (some (view.lastOnline member.slot.logoutTime)) fun _ => none
  publicNote := member.slot.publicNote.bytes
  officerNote := if sendOfficerNote then member.slot.officerNote.bytes else []

theorem reads_writeText {limit : Nat} (t : Text limit) : Reads text (writeText t) t.bytes := reads_text t.zeroFree

theorem reads_memberData (h : member.hidden = false) :
    Reads record (memberData view sendOfficerNote member) (recordOf view sendOfficerNote member) := by
  obtain ⟨guid, inWorld, slot⟩ := member
  have hofficer (rest : List UInt8) :
      text.run ((if sendOfficerNote then writeText slot.officerNote else [0]) ++ rest) =
        some (if sendOfficerNote then slot.officerNote.bytes else [], rest) := by
    cases sendOfficerNote with
    | true => exact reads_writeText slot.officerNote rest
    | false => exact reads_text not_mem_nil rest
  have htext {limit : Nat} (t : Text limit) (rest : List UInt8) : text.run (writeText t ++ rest) = some (t.bytes, rest) :=
    reads_writeText t rest
  have h8 (n : UInt8) (rest : List UInt8) : uint8.run (toBytes 1 n.toNat ++ rest) = some (n, rest) := reads_uint8 n rest
  have h32 (n : UInt32) (rest : List UInt8) : uint32.run (toBytes 4 n.toNat ++ rest) = some (n, rest) := reads_uint32 n rest
  have h64 (n : UInt64) (rest : List UInt8) : uint64.run (toBytes 8 n.toNat ++ rest) = some (n, rest) := reads_uint64 n rest
  intro rest
  cases inWorld with
  | none =>
    have honline : (if TempMemberInfo.online ⟨guid, none, slot⟩ then 1 else 0 : UInt8) = 0 := rfl
    simp only [memberData, record, lastOnlineOf, recordOf, append_assoc, StateT.run_bind, h64, h8, h32, htext, hofficer, honline,
      Option.bind_eq_bind, Option.bind_some, if_true, StateT.run_map, StateT.run_pure, Option.map_eq_map, Option.map_some,
      Option.pure_def]
    rfl
  | some player =>
    have hsocial : player.gmDisabledSocials = false := by simpa [TempMemberInfo.hidden] using h
    have honline : (if TempMemberInfo.online ⟨guid, some player, slot⟩ then 1 else 0 : UInt8) = 1 := by
      simp [TempMemberInfo.online, hsocial]
    simp only [memberData, record, lastOnlineOf, recordOf, append_assoc, StateT.run_bind, h64, h8, h32, htext, hofficer, honline,
      Option.bind_eq_bind, Option.bind_some, if_neg (by decide : ¬(1 : UInt8) = 0), StateT.run_pure,
      Option.pure_def]
    rfl

end

def packetOf (g : Guild) (view : View) : Packet where
  count := UInt32.ofNat (written g view).length
  motd := g.motd.bytes
  info := g.info.bytes
  ranks := g.ranks
  records := (written g view).map (recordOf view (g.sendOfficerNote view))

theorem count_toNat : (UInt32.ofNat (written g view).length).toNat = (written g view).length := by
  have hlength : (written g view).length ≤ GUILD_MAX_MEMBERS := length_written
  have hmax : GUILD_MAX_MEMBERS < 2 ^ 32 := by decide
  exact UInt32.toNat_ofNat_of_lt' (Nat.lt_of_le_of_lt hlength hmax)

theorem reads_roster (h : ∀ member ∈ written g view, member.hidden = false) : Reads packet (roster g view) (packetOf g view) := by
  have hrecords : Reads (many record (written g view).length)
      ((written g view).flatMap (memberData view (g.sendOfficerNote view))) (packetOf g view).records :=
    reads_many _ _ _ fun member hmember => reads_memberData view _ (h member hmember)
  have hranks : Reads (many uint32 g.ranks.length) (g.ranks.flatMap fun rights => toBytes 4 rights.toNat) g.ranks := by
    have hread := reads_many (fun rights : UInt32 => toBytes 4 rights.toNat) id g.ranks fun rights _ => reads_uint32 rights
    rwa [map_id] at hread
  have hrankCount : (UInt32.ofNat g.ranks.length).toNat = g.ranks.length :=
    UInt32.toNat_ofNat_of_lt' (Nat.lt_of_le_of_lt g.ranks_le (by decide))
  have hnumber {n : Nat} (h : (UInt32.ofNat n).toNat = n) (rest : List UInt8) :
      uint32.run (toBytes 4 n ++ rest) = some (UInt32.ofNat n, rest) := by
    have hread := reads_uint32 (UInt32.ofNat n) rest
    rwa [h] at hread
  have htext {limit : Nat} (t : Text limit) (rest : List UInt8) : text.run (writeText t ++ rest) = some (t.bytes, rest) :=
    reads_writeText t rest
  intro rest
  rw [roster_eq, header]
  simp only [packet, append_assoc, StateT.run_bind, hnumber count_toNat, hnumber hrankCount, htext, Option.bind_eq_bind,
    Option.bind_some, count_toNat, hrankCount, hranks _, hrecords _, StateT.run_pure, Option.pure_def]
  rfl

-- The grammar has no record with the status of an offline member and without the
-- float.
theorem yields_record : Yields record fun r => r.status = 0 → r.lastOnline.isSome = true := by
  refine .after fun _ => .after fun status => .after fun _ => .after fun _ => .after fun _ => .after fun _ => .after fun _ => ?_
  have hfloat : Yields (lastOnlineOf status) fun lastOnline => status = 0 → lastOnline.isSome = true := by
    unfold lastOnlineOf
    split
    · intro bytes lastOnline rest hrun _
      rw [StateT.run_map] at hrun
      obtain ⟨result, -, hresult⟩ := Option.map_eq_some_iff.mp hrun
      rw [← (Prod.mk.inj hresult).1]
      rfl
    · rename_i hstatus
      exact yields_pure fun h => absurd h hstatus
  refine hfloat.bind fun lastOnline h => .after fun _ => .after fun _ => ?_
  apply yields_pure
  exact h

theorem yields_packet : Yields packet fun p => ∀ r ∈ p.records, r.status = 0 → r.lastOnline.isSome = true := by
  refine .after fun _ => .after fun _ => .after fun _ => .after fun _ => .after fun _ => ?_
  refine (yields_record.many _).bind fun _ h => ?_
  apply yields_pure
  exact h

theorem readsBack_iff : whole packet (roster g view) = some (packetOf g view) ↔
    ∀ member ∈ written g view, member.hidden = false := by
  refine ⟨fun hwhole member hmember => ?_, fun h => (reads_roster h).whole⟩
  have hfloat := yields_packet.whole hwhole _ (mem_map_of_mem hmember)
  cases hworld : member.member with
  | none => simp [TempMemberInfo.hidden, hworld]
  | some player =>
    cases hsocial : player.gmDisabledSocials with
    | false => simp [TempMemberInfo.hidden, hworld, hsocial]
    | true =>
      have hstatus : (recordOf view (g.sendOfficerNote view) member).status = 0 := by
        simp [recordOf, TempMemberInfo.online, hworld, hsocial]
      have hsome := hfloat hstatus
      simp [recordOf, hworld] at hsome

structure Counted (g : Guild) (view : View) : Prop where
  estimate_lt : g.estimate < 2 ^ 32
  inCap : g.inPacketCap = true → ∀ member ∈ written g view,
    (memberData view (g.sendOfficerNote view) member).length ≤ Guild.counted member.slot
  overCap : g.inPacketCap = false → ∀ member ∈ written g view,
    (memberData view (g.sendOfficerNote view) member).length ≤ GUILD_MEMBER_BLOCK_SIZE + 1

theorem length_flatMap_le {f : TempMemberInfo → List UInt8} {bound : TempMemberInfo → Nat}
    (h : ∀ member ∈ list, (f member).length ≤ bound member) : (list.flatMap f).length ≤ (list.map bound).sum := by
  rw [length_flatMap]
  exact sum_le_sum h

theorem headerSize_le : g.headerSize ≤ MAX_UNCOMPRESSED_PACKET_SIZE := by
  have hmotd := g.motd.length_le
  have hinfo := g.info.length_le
  have hranks := g.ranks_le
  simp only [Guild.headerSize, GUILD_MOTD_MAX_LENGTH, GUILD_INFO_MAX_LENGTH, GUILD_RANKS_MAX_COUNT,
    MAX_UNCOMPRESSED_PACKET_SIZE] at *
  omega

variable (skip) in
theorem length_writtenIn_le (hcap : g.inPacketCap = false) (hdata : data.length ≤ MAX_UNCOMPRESSED_PACKET_SIZE)
    (hlist : ∀ member ∈ writtenIn g view skip data list,
      (memberData view (g.sendOfficerNote view) member).length ≤ GUILD_MEMBER_BLOCK_SIZE + 1) :
    (data ++ (writtenIn g view skip data list).flatMap (memberData view (g.sendOfficerNote view))).length ≤
      MAX_UNCOMPRESSED_PACKET_SIZE := by
  induction list generalizing data with
  | nil => simpa [writtenIn] using hdata
  | cons member rest ih =>
    unfold writtenIn at hlist ⊢
    split
    · rename_i hskip
      rw [if_pos hskip] at hlist
      exact ih hdata hlist
    · rename_i hskip
      rw [if_neg hskip] at hlist
      split
      · rename_i hwritten
        rw [if_pos hwritten] at hlist
        obtain ⟨heq, hroom⟩ := writeMemberData_of_true hwritten
        obtain ⟨hmember, hrest⟩ := forall_mem_cons.mp hlist
        have hnext : (writeMemberData g view data member).1.length ≤ MAX_UNCOMPRESSED_PACKET_SIZE := by
          rw [not_and] at hroom
          have hfree := hroom hcap
          rw [heq, length_append]
          omega
        have hresult := ih hnext hrest
        rw [heq] at hresult
        rw [heq, flatMap_cons, ← append_assoc]
        exact hresult
      · simpa using hdata

theorem length_roster_le (h : Counted g view) : (roster g view).length ≤ MAX_UNCOMPRESSED_PACKET_SIZE := by
  cases hcap : g.inPacketCap with
  | true =>
    have hwritten := length_flatMap_le (h.inCap hcap)
    have hall : ((written g view).map fun member => Guild.counted member.slot).sum ≤
        (g.members.map fun entry => Guild.counted entry.2).sum := by
      obtain ⟨list, hperm, hsublist⟩ := written_subperm g view
      have hsum : ((g.infos view).map fun member => Guild.counted member.slot).sum =
          (g.members.map fun entry => Guild.counted entry.2).sum := by
        rw [Guild.infos, map_map]
        rfl
      rw [← hsum, ← (hperm.map _).sum_eq]
      exact (hsublist.map _).sum_le_sum fun _ _ => Nat.zero_le _
    have hestimate : g.estimate < MAX_UNCOMPRESSED_PACKET_SIZE := by
      have htotal := of_decide_eq_true hcap
      rwa [Guild.totalSize, Word.u32_of_lt h.estimate_lt] at htotal
    rw [roster_eq, length_append, length_header]
    rw [Guild.estimate] at hestimate
    omega
  | false =>
    have honline := length_writtenIn_le (fun member => member.member.isNone) hcap
      ((length_header (min (g.infos view).length GUILD_MAX_MEMBERS)).trans_le headerSize_le)
      fun member hmember => h.overCap hcap member (mem_append_left _ hmember)
    have hoffline := length_writtenIn_le (fun member => member.online || member.slot.name.bytes.isEmpty) hcap honline
      fun member hmember => h.overCap hcap member (mem_append_right _ hmember)
    rw [roster_eq, length_append, length_header]
    simp only [length_append, length_header] at hoffline
    simpa only [written, onlineWritten, offlineWritten, flatMap_append, length_append, ← Nat.add_assoc] using hoffline

-- All of the packet is read, with as many records as its count says, each for
-- another member, and it is not too large.
def WellFormed (g : Guild) (data : List UInt8) : Prop :=
  ∃ p, whole packet data = some p ∧ p.records.length = p.count.toNat ∧ (p.records.map fun r => r.guid).Nodup ∧
    (∀ r ∈ p.records, ∃ entry ∈ g.members, entry.1.toUInt64 = r.guid) ∧ data.length ≤ MAX_UNCOMPRESSED_PACKET_SIZE

theorem nodup_guids : ((written g view).map fun member => member.guid).Nodup := by
  have hinfos : ((g.infos view).map fun member => member.guid).Nodup := by
    have hguids : (g.infos view).map (fun member => member.guid) = (g.members.map fun entry => entry.1).map UInt32.toUInt64 := by
      simp only [Guild.infos, map_map, Function.comp_def]
    rw [hguids]
    exact g.distinct.map fun first second h => UInt32.toUInt64_inj.mp h
  obtain ⟨list, hperm, hsublist⟩ := written_subperm g view
  exact (hperm.map _).nodup_iff.mp (hinfos.sublist (hsublist.map _))

theorem wellFormed_of (hshown : ∀ member ∈ written g view, member.hidden = false) (hcounted : Counted g view) :
    WellFormed g (roster g view) := by
  refine ⟨packetOf g view, (reads_roster hshown).whole, ?_, ?_, fun r hr => ?_, length_roster_le hcounted⟩
  · simp only [packetOf, length_map, count_toNat]
  · simp only [packetOf, map_map]
    exact nodup_guids
  · obtain ⟨member, hmember, rfl⟩ := mem_map.mp hr
    obtain ⟨entry, hentry, rfl⟩ := mem_map.mp ((written_subperm g view).subset hmember)
    exact ⟨entry, hentry, rfl⟩

-- A packet is what the grammar says exactly where no hidden game master is
-- written; and it is well formed if the code also counts what it writes.
theorem roster_wellFormed (g : Guild) (view : View) :
    (whole packet (roster g view) = some (packetOf g view) ↔ ∀ member ∈ written g view, member.hidden = false) ∧
      ((∀ member ∈ written g view, member.hidden = false) → Counted g view → WellFormed g (roster g view)) :=
  ⟨readsBack_iff, wellFormed_of⟩

-- A game master without socials, alone in a guild: his record ends after two
-- empty notes, where four bytes are read first.

def noText (limit : Nat) : Text limit := ⟨[], not_mem_nil, Nat.zero_le _⟩

def nameA : Name := ⟨[65], by decide, by decide⟩

def slotA : MemberSlot := ⟨nameA, 0, 60, 1, 12, 0, noText _, noText _⟩

def guildOf (members : List (UInt32 × MemberSlot)) (h : (members.map fun entry => entry.1).Nodup) : Guild :=
  ⟨noText _, noText _, [], Nat.zero_le _, members, h⟩

def viewOf (findPlayer : UInt32 → Option Player) : View where
  findPlayer := findPlayer
  session := none
  lastOnline := fun _ => 0
  sort := fun list => list.mergeSort fun a b => decide (a.slot.rankId ≤ b.slot.rankId)
  sort_perm := fun list => mergeSort_perm list _
  sort_sorted := fun list => by
    have hsorted : (list.mergeSort fun a b => decide (a.slot.rankId ≤ b.slot.rankId)).Pairwise
        fun a b => decide (a.slot.rankId ≤ b.slot.rankId) = true := by
      apply pairwise_mergeSort
      · intro a b c hab hbc
        exact decide_eq_true (UInt32.le_trans (of_decide_eq_true hab) (of_decide_eq_true hbc))
      · intro a b
        simpa using UInt32.le_total a.slot.rankId b.slot.rankId
    exact hsorted.imp fun h => of_decide_eq_true h

def oneMember : Guild := guildOf [(1, slotA)] (by decide)

def gameMaster : Player := ⟨nameA, 60, 1, 12, true⟩

theorem roster_wellFormed_offline : WellFormed oneMember (roster oneMember (viewOf fun _ => none)) := by
  refine (roster_wellFormed oneMember (viewOf fun _ => none)).2 ?_ ⟨by decide +kernel, fun _ => ?_, fun hcap => ?_⟩
  · decide +kernel
  · decide +kernel
  · exact absurd hcap (by decide +kernel)

theorem not_wellFormed_roster : ¬∀ (g : Guild) (view : View), WellFormed g (roster g view) := by
  intro h
  obtain ⟨p, hread, -⟩ := h oneMember (viewOf fun _ => some gameMaster)
  have hnone : (whole packet (roster oneMember (viewOf fun _ => some gameMaster))).isNone = true := by decide +kernel
  rw [hread] at hnone
  simp at hnone

end TurtleWow.Guilds.Roster

import Mathlib.Data.Finset.Sort
import TurtleWow.Objects.UpdateData

namespace TurtleWow.Objects

open Bytes Shared ByteBuffer Parse List

-- Each block and each guid is in one packet.

section

variable {b : ByteBuffer} {runs : List (List UInt8)}

theorem write_runs (hflush : b.wpos = b.size) (h : Fits b.size runs) :
    write (appendRuns runs) b = .ok (b.extend runs.flatten) := by
  unfold write
  rw [appendRuns_ok hflush h]

theorem write_runs_error (hflush : b.wpos = b.size) (h : ¬ Fits b.size runs) :
    write (appendRuns runs) b = .error .assertion := by
  obtain ⟨c, hc⟩ := appendRuns_error hflush h
  unfold write
  rw [hc]

theorem fits_append {n : Nat} {first second : List (List UInt8)} :
    Fits n (first ++ second) ↔ Fits n first ∧ Fits (n + first.flatten.length) second := by
  induction first generalizing n with
  | nil => simp [Fits]
  | cons run rest ih => simp [Fits, ih, and_assoc, Nat.add_assoc]

theorem fits_of_lt {n : Nat} (h : n + runs.flatten.length < 10000000) : Fits n runs := by
  induction runs generalizing n with
  | nil => trivial
  | cons run rest ih =>
    rw [flatten_cons, length_append] at h
    exact ⟨.inr (by omega), ih (by omega)⟩

end

-- The packets of an update by the blocks they hold

structure Carried (packet : UpdatePacket) (share : List Block) : Prop where
  data : packet.data = ByteBuffer.empty.extend (share.flatMap Block.bytes)
  blockCount : packet.blockCount.toNat = share.length
  few : share.length ≤ 0x8001
  nonempty : share ≠ []

theorem length_bytes_pos (block : Block) : 0 < block.bytes.length := by
  simp [Block.bytes, Block.runs]

theorem length_le_bytes (share : List Block) : share.length ≤ (share.flatMap Block.bytes).length := by
  induction share with
  | nil => simp
  | cons block rest ih =>
    have := length_bytes_pos block
    rw [flatMap_cons, length_append, length_cons]
    omega

theorem flush_empty_extend (src : List UInt8) : (ByteBuffer.empty.extend src).wpos = (ByteBuffer.empty.extend src).size :=
  flush_extend rfl src

theorem carried_next {packet : UpdatePacket} {share : List Block}
    (hdata : packet.data = ByteBuffer.empty.extend (share.flatMap Block.bytes))
    (hcount : packet.blockCount.toNat = share.length) (hsmall : (share.flatMap Block.bytes).length ≤ 0x8000)
    {block : Block} {data : ByteBuffer} (hwrite : write (appendRuns block.runs) packet.data = .ok data) :
    Carried ⟨data, packet.blockCount + 1⟩ (share ++ [block]) := by
  have hfew := length_le_bytes share
  have hflush : packet.data.wpos = packet.data.size := hdata ▸ flush_empty_extend _
  have hfits : Fits packet.data.size block.runs := by
    by_contra hout
    rw [write_runs_error hflush hout] at hwrite
    cases hwrite
  rw [write_runs hflush hfits, hdata, extend_extend] at hwrite
  cases hwrite
  constructor
  · simp [Block.bytes]
  · simp only [UInt32.toNat_add, hcount, length_append, length_singleton]
    have : (1 : UInt32).toNat = 1 := rfl
    omega
  · simp only [length_append, length_singleton]
    omega
  · simp

variable {shares : List (List Block)}

theorem exists_last {before : List UpdatePacket} {it : UpdatePacket}
    (h : List.Forall₂ Carried (before ++ [it]) shares) :
    ∃ first share, shares = first ++ [share] ∧ List.Forall₂ Carried before first ∧ Carried it share := by
  induction before generalizing shares with
  | nil =>
    obtain ⟨share, rest, hit, hrest, rfl⟩ := forall₂_cons_left_iff.mp h
    cases hrest
    exact ⟨[], share, rfl, .nil, hit⟩
  | cons packet before ih =>
    obtain ⟨share, rest, hpacket, hrest, rfl⟩ := forall₂_cons_left_iff.mp h
    obtain ⟨first, last, rfl, hbefore, hit⟩ := ih hrest
    exact ⟨share :: first, last, rfl, .cons hpacket hbefore, hit⟩

theorem addBlock_step {u u' : UpdateData} {block : Block} (hshares : List.Forall₂ Carried u.m_datas shares)
    (hadd : u.addBlock block = .ok u') :
    ∃ shares', List.Forall₂ Carried u'.m_datas shares' ∧ shares'.flatten = shares.flatten ++ [block] ∧
      u'.m_outOfRangeGUIDs = u.m_outOfRangeGUIDs := by
  have hfresh : ∀ data, write (appendRuns block.runs) UpdatePacket.empty.data = .ok data → Carried ⟨data, 1⟩ [block] := by
    intro data hwrite
    have hnil : UpdatePacket.empty.blockCount.toNat = ([] : List Block).length := rfl
    exact carried_next rfl hnil (by simp) hwrite
  unfold UpdateData.addBlock UpdateData.addUpdateBlockAndGetBuffer at hadd
  rcases eq_nil_or_concat u.m_datas with hnil | ⟨before, it, hlast⟩
  · simp only [hnil, List.getLast?_nil] at hadd
    cases hwrite : write (appendRuns block.runs) UpdatePacket.empty.data with
    | error fault => simp [hwrite] at hadd
    | ok data =>
      simp only [hwrite] at hadd
      cases hadd
      rw [hnil] at hshares
      cases hshares
      exact ⟨[[block]], .cons (hfresh data hwrite) .nil, rfl, rfl⟩
  · simp only [hlast, concat_eq_append, List.getLast?_append, List.getLast?_singleton, Option.some_or] at hadd
    split_ifs at hadd with hlarge
    · cases hwrite : write (appendRuns block.runs) UpdatePacket.empty.data with
      | error fault => simp [hwrite] at hadd
      | ok data =>
        simp only [hwrite] at hadd
        cases hadd
        refine ⟨shares ++ [[block]], rel_append ?_ (.cons (hfresh data hwrite) .nil), by simp, rfl⟩
        rwa [hlast, concat_eq_append] at hshares
    · cases hwrite : write (appendRuns block.runs) it.data with
      | error fault => simp [hwrite] at hadd
      | ok data =>
        simp only [hwrite, dropLast_concat] at hadd
        cases hadd
        rw [hlast, concat_eq_append] at hshares
        obtain ⟨first, share, rfl, hbefore, hit⟩ := exists_last hshares
        have hsmall : (share.flatMap Block.bytes).length ≤ 0x8000 := by
          have hwpos : it.data.wpos = (share.flatMap Block.bytes).length := by
            simp [hit.data, ByteBuffer.extend, ByteBuffer.empty]
          omega
        refine ⟨first ++ [share ++ [block]], rel_append hbefore (.cons ?_ .nil), by simp, rfl⟩
        exact carried_next hit.data hit.blockCount hsmall hwrite

theorem all_carried {u u' : UpdateData} {adds : List Add} (hshares : List.Forall₂ Carried u.m_datas shares)
    (hadds : Add.all u adds = .ok u') :
    ∃ shares', List.Forall₂ Carried u'.m_datas shares' ∧ shares'.flatten = shares.flatten ++ Add.blocks adds ∧
      u'.m_outOfRangeGUIDs = u.m_outOfRangeGUIDs ∪ (Add.guids adds).toFinset := by
  induction adds generalizing u shares with
  | nil =>
    cases hadds
    exact ⟨shares, hshares, by simp [Add.blocks], by simp [Add.guids]⟩
  | cons add rest ih =>
    cases hadd : add.apply u with
    | error fault =>
      rw [Add.all, hadd] at hadds
      change Except.error fault = _ at hadds
      cases hadds
    | ok next =>
      rw [Add.all, hadd] at hadds
      have hrest : Add.all next rest = .ok u' := hadds
      cases add with
      | block block =>
        obtain ⟨after, hafter, hblock, hguids⟩ := addBlock_step hshares hadd
        obtain ⟨shares', hshares', hblocks, hall⟩ := ih hafter hrest
        refine ⟨shares', hshares', ?_, ?_⟩
        · simp [hblocks, hblock, Add.blocks]
        · simp [hall, hguids, Add.guids]
      | outOfRangeGUID guid =>
        cases hadd
        obtain ⟨shares', hshares', hblocks, hall⟩ := ih (u := u.addOutOfRangeGUID guid) hshares hrest
        refine ⟨shares', hshares', ?_, ?_⟩
        · simp [hblocks, Add.blocks]
        · ext x
          simp [hall, Add.guids, UpdateData.addOutOfRangeGUID]
      | outOfRangeGUIDs guids =>
        cases hadd
        obtain ⟨shares', hshares', hblocks, hall⟩ := ih (u := u.addOutOfRangeGUIDs guids) hshares hrest
        refine ⟨shares', hshares', ?_, ?_⟩
        · simp [hblocks, Add.blocks]
        · ext x
          simp [hall, Add.guids, UpdateData.addOutOfRangeGUIDs]

def packedGUID (guid : UInt64) : List UInt8 := UInt8.ofNat (mask (toBytes 8 guid.toNat)) :: nonzero (toBytes 8 guid.toNat)

def outOfRangeRuns (order : HashOrder) (guids : Finset UInt64) : List (List UInt8) :=
  if guids = ∅ then []
  else [ObjectUpdateType.outOfRangeObjects.code] :: toBytes 4 (UInt32.ofNat guids.card).toNat :: (order.walk guids).map packedGUID

def updateRuns (order : HashOrder) (guids : Finset UInt64) (blockCount : UInt32) (data : List UInt8) (hasTransport : Bool) :
    List (List UInt8) :=
  [toBytes 4 (if guids ≠ ∅ then blockCount + 1 else blockCount).toNat, [if hasTransport then 1 else 0]] ++
    outOfRangeRuns order guids ++ [data]

section

variable {order : HashOrder} {guids : Finset UInt64} {u : UpdateData} {hasTransport : Bool}

theorem append_run (run : List UInt8) : ByteBuffer.append run = appendRuns [run] := by
  unfold appendRuns
  exact bind_pure_unit.symm

theorem writeUint8_eq (value : UInt8) : writeUint8 value = appendRuns [[value]] := by
  unfold writeUint8 appendValue
  rw [append_run, show toBytes 1 value.toNat = [value] by simp [toBytes]]

theorem writeUint32_eq (value : UInt32) : writeUint32 value = appendRuns [toBytes 4 value.toNat] := by
  unfold writeUint32 appendValue
  exact append_run _

theorem forM_appendPackGUID (list : List UInt64) : list.forM appendPackGUID = appendRuns (list.map packedGUID) := by
  induction list with
  | nil => rfl
  | cons guid rest ih =>
    have hguid : appendPackGUID guid = ByteBuffer.append (packedGUID guid) := appendPackGUID_eq guid
    change (appendPackGUID guid >>= fun _ => rest.forM appendPackGUID) = _
    rw [ih, hguid]
    rfl

theorem writeOutOfRange_eq : UpdateData.writeOutOfRange order guids = appendRuns (outOfRangeRuns order guids) := by
  unfold UpdateData.writeOutOfRange outOfRangeRuns
  by_cases hnone : guids = ∅
  · rw [if_neg (not_not.mpr hnone), if_pos hnone]
    rfl
  · rw [if_pos hnone, if_neg hnone, writeUint8_eq, writeUint32_eq, forM_appendPackGUID, ← appendRuns_append,
      ← appendRuns_append]
    rfl

theorem appendBuffer_eq (data : List UInt8) : appendBuffer (ByteBuffer.empty.extend data) = appendRuns [data] := by
  have hwpos : (ByteBuffer.empty.extend data).wpos = data.length := by
    simp [ByteBuffer.extend, ByteBuffer.empty]
  have hstorage : (ByteBuffer.empty.extend data).storage = data := by
    simp [ByteBuffer.extend, ByteBuffer.empty]
  unfold appendBuffer
  rw [hwpos, hstorage, take_length]
  by_cases hnil : data.length = 0
  · rw [if_neg (not_not.mpr hnil), length_eq_zero_iff.mp hnil, ← append_run]
    rfl
  · rw [if_pos hnil, append_run]

theorem writeUpdate_eq (updPacket : Option UpdatePacket) (data : List UInt8)
    (hdata : (updPacket.map UpdatePacket.data).getD .empty = ByteBuffer.empty.extend data) :
    UpdateData.writeUpdate order u updPacket hasTransport = appendRuns (updateRuns order u.m_outOfRangeGUIDs
      ((updPacket.map UpdatePacket.blockCount).getD 0) data hasTransport) := by
  have hlast : (updPacket.forM fun packet => appendBuffer packet.data) = appendRuns [data] := by
    cases updPacket with
    | none =>
      have hnil : [] = data := congrArg ByteBuffer.storage hdata
      rw [← hnil, ← append_run]
      rfl
    | some packet =>
      have hpacket : packet.data = ByteBuffer.empty.extend data := hdata
      rw [← appendBuffer_eq, ← hpacket]
      rfl
  unfold UpdateData.writeUpdate updateRuns
  rw [appendRuns_append, appendRuns_append, ← writeOutOfRange_eq, ← hlast]
  simp only [writeUint32_eq, writeUint8_eq, appendRuns, bind_assoc, pure_bind]

end

def announced (order : HashOrder) (guids : Finset UInt64) : List Update :=
  if guids = ∅ then [] else [.outOfRange (order.walk guids)]

theorem ofCode?_code (updatetype : ObjectUpdateType) : ObjectUpdateType.ofCode? updatetype.code = some updatetype := by
  cases updatetype <;> decide

theorem length_walk (order : HashOrder) (guids : Finset UInt64) : (order.walk guids).length = guids.card := by
  have hset : (order.walk guids).toFinset = guids := by
    ext guid
    simp [order.mem]
  rw [← toFinset_card_of_nodup (order.nodup guids), hset]

theorem length_le_of_fits {n : Nat} {list : List UInt64} (h : Fits n (list.map packedGUID)) :
    list = [] ∨ n + list.length ≤ 10000000 := by
  induction list generalizing n with
  | nil => exact .inl rfl
  | cons guid rest ih =>
    obtain ⟨hguid, hrest⟩ := h
    have hlow : n < 10000000 := by
      rcases hguid with hnil | hlow
      · cases hnil
      · exact hlow
    have hlength : 0 < (packedGUID guid).length := by simp [packedGUID]
    right
    rw [length_cons]
    rcases ih hrest with rfl | hle
    · simp
      omega
    · omega

section

variable {body : ObjectUpdateType → Reader (List UInt8)} {order : HashOrder} {guids : Finset UInt64} {share : List Block}

def Readable (body : ObjectUpdateType → Reader (List UInt8)) (block : Block) : Prop :=
  Reads (body block.updatetype) block.fields.flatten block.fields.flatten

theorem reads_block {block : Block} (h : Readable body block) : Reads (readUpdate body) block.bytes block.update := by
  have htype := block.inRange
  unfold Readable at h
  unfold readUpdate Block.bytes Block.runs Block.update
  rw [flatten_cons]
  refine (reads_byte block.updatetype.code).bind ?_
  rw [ofCode?_code]
  cases hkind : block.updatetype with
  | outOfRangeObjects => exact absurd hkind htype
  | values | movement | createObject | createObject2 | nearObjects =>
    rw [hkind] at h
    exact h.map _

theorem reads_outOfRange {list : List UInt64} (hlength : list.length < 4294967296) :
    Reads (readUpdate body) ([ObjectUpdateType.outOfRangeObjects.code] ++ (toBytes 4 (UInt32.ofNat list.length).toNat ++
      (list.map packedGUID).flatten)) (.outOfRange list) := by
  have hguid : ∀ guid ∈ list, Reads (do return UInt64.ofNat (← packed 8)) (packedGUID guid) (id guid) := by
    intro guid _
    have hread := (reads_packed guid.toNat_lt).map UInt64.ofNat
    rwa [UInt64.ofNat_toNat] at hread
  have hlist := reads_many packedGUID id list hguid
  rw [map_id, flatMap_def] at hlist
  unfold readUpdate
  refine (reads_byte _).bind ?_
  rw [ofCode?_code]
  refine (reads_uint32 (UInt32.ofNat list.length)).bind ?_
  rw [UInt32.toNat_ofNat_of_lt' hlength]
  exact hlist.map _

theorem reads_runs {blockCount : UInt32} {hasTransport : Bool} (hshare : ∀ block ∈ share, Readable body block)
    (hcount : blockCount.toNat = share.length) (hfew : share.length ≤ 0x8001) (hcard : guids.card < 4294967296) :
    Reads (readUpdates body) (updateRuns order guids blockCount (share.flatMap Block.bytes) hasTransport).flatten
      (if hasTransport then 1 else 0, announced order guids ++ share.map Block.update) := by
  have hblocks := reads_many Block.bytes Block.update share fun block hblock => reads_block (hshare block hblock)
  unfold readUpdates updateRuns outOfRangeRuns announced
  by_cases hnone : guids = ∅
  · simp only [hnone, ne_eq, not_true_eq_false, if_false, if_true, append_nil, nil_append, cons_append,
      flatten_cons, flatten_nil]
    refine (reads_uint32 blockCount).bind ((reads_byte _).bind ?_)
    rw [hcount]
    exact hblocks.map _
  · have hnext : (blockCount + 1).toNat = share.length + 1 := by
      rw [UInt32.toNat_add, hcount]
      have : (1 : UInt32).toNat = 1 := rfl
      omega
    have hguids : Reads (readUpdate body) _ (.outOfRange (order.walk guids)) :=
      reads_outOfRange ((length_walk order guids).trans_lt hcard)
    have hall : Reads (many (readUpdate body) (share.length + 1)) _
        (Update.outOfRange (order.walk guids) :: share.map Block.update) :=
      hguids.bind (hblocks.map fun updates => Update.outOfRange (order.walk guids) :: updates)
    rw [length_walk] at hall
    simp only [hnone, ne_eq, not_false_eq_true, if_false, if_true, nil_append, cons_append, append_assoc,
      flatten_cons, flatten_nil, flatten_append, append_nil] at hall ⊢
    refine (reads_uint32 (blockCount + 1)).bind ((reads_byte _).bind ?_)
    rw [hnext]
    exact hall.map _

end

section

variable {c : Compressor} {order : HashOrder} {u : UpdateData} {packet : WorldPacket} {updPacket : Option UpdatePacket}
  {data : List UInt8} {hasTransport : Bool}

theorem buildPacket_error (hempty : packet.buffer = .empty)
    (hdata : (updPacket.map UpdatePacket.data).getD .empty = ByteBuffer.empty.extend data)
    (hout : ¬ Fits 0 (updateRuns order u.m_outOfRangeGUIDs ((updPacket.map UpdatePacket.blockCount).getD 0) data hasTransport)) :
    u.buildPacket c order packet updPacket hasTransport = .error .assertion := by
  have hwrite := write_runs_error (b := .empty) rfl hout
  rw [← writeUpdate_eq updPacket data hdata] at hwrite
  have hstorage : ¬ packet.buffer.storage ≠ [] := by simp [hempty, ByteBuffer.empty]
  unfold UpdateData.buildPacket
  rw [if_neg hstorage, hwrite]
  rfl

theorem buildPacket_ok (hc : c.Lossless) (body : ObjectUpdateType → Reader (List UInt8)) (hempty : packet.buffer = .empty)
    (hdata : (updPacket.map UpdatePacket.data).getD .empty = ByteBuffer.empty.extend data)
    (hfits : Fits 0 (updateRuns order u.m_outOfRangeGUIDs ((updPacket.map UpdatePacket.blockCount).getD 0) data hasTransport)) :
    ∃ sent compressed, u.buildPacket c order packet updPacket hasTransport = .ok (sent, compressed) ∧
      receive body c sent = whole (readUpdates body) (updateRuns order u.m_outOfRangeGUIDs
        ((updPacket.map UpdatePacket.blockCount).getD 0) data hasTransport).flatten := by
  have hwrite := write_runs (b := .empty) rfl hfits
  rw [← writeUpdate_eq updPacket data hdata] at hwrite
  have hstorage : ¬ packet.buffer.storage ≠ [] := by simp [hempty, ByteBuffer.empty]
  generalize (updateRuns order u.m_outOfRangeGUIDs ((updPacket.map UpdatePacket.blockCount).getD 0) data hasTransport).flatten =
    bytes at hwrite ⊢
  have hwpos : (ByteBuffer.empty.extend bytes).wpos = bytes.length := by simp [ByteBuffer.extend, ByteBuffer.empty]
  have hbytes : (ByteBuffer.empty.extend bytes).storage = bytes := by simp [ByteBuffer.extend, ByteBuffer.empty]
  unfold UpdateData.buildPacket
  rw [if_neg hstorage, hwrite]
  change ∃ sent compressed, (if (ByteBuffer.empty.extend bytes).wpos > 100 then _ else _) = _ ∧ _
  rw [hwpos, hbytes, take_length]
  by_cases hlarge : bytes.length > 100
  · refine ⟨_, true, by rw [if_pos hlarge, if_neg (hc.succeeds bytes)]; rfl, ?_⟩
    have hdrop : (toBytes 4 bytes.length ++ c.compress bytes (c.destsize bytes.length)).drop 4 =
        c.compress bytes (c.destsize bytes.length) := drop_left' (length_toBytes 4 _)
    simp only [receive, hdrop, hc.inverse bytes _ (hc.succeeds bytes), Option.bind_some]
  · have hsmall : write (appendBuffer (ByteBuffer.empty.extend bytes)) packet.buffer = .ok (ByteBuffer.empty.extend bytes) := by
      have hfits : Fits ByteBuffer.empty.size [bytes] := ⟨.inr (by simp [ByteBuffer.empty, ByteBuffer.size]), trivial⟩
      have hflush : ByteBuffer.empty.wpos = ByteBuffer.empty.size := rfl
      rw [appendBuffer_eq, hempty, write_runs hflush hfits, flatten_singleton]
    refine ⟨⟨.updateObject, ByteBuffer.empty.extend bytes⟩, true, by rw [if_neg hlarge, hsmall]; rfl, ?_⟩
    simp only [receive, hbytes]

end

def Delivers (body : ObjectUpdateType → Reader (List UInt8)) (c : Compressor) (hasTransport : Bool)
    (packets : List WorldPacket) (updates : List Update) : Prop :=
  ∃ received, packets.mapM (receive body c) = some received ∧
    (∀ taken ∈ received, taken.1 = if hasTransport then 1 else 0) ∧ received.flatMap Prod.snd = updates

theorem Delivers.nil {body : ObjectUpdateType → Reader (List UInt8)} {c : Compressor} {hasTransport : Bool} :
    Delivers body c hasTransport [] [] := ⟨[], rfl, by simp, rfl⟩

theorem Delivers.cons {body : ObjectUpdateType → Reader (List UInt8)} {c : Compressor} {hasTransport : Bool}
    {sent : WorldPacket} {packets : List WorldPacket} {first rest : List Update}
    (hsent : receive body c sent = some (if hasTransport then 1 else 0, first)) (h : Delivers body c hasTransport packets rest) :
    Delivers body c hasTransport (sent :: packets) (first ++ rest) := by
  obtain ⟨received, hreceived, htransport, hupdates⟩ := h
  refine ⟨(if hasTransport then 1 else 0, first) :: received, ?_, ?_, ?_⟩
  · simp [mapM_cons, hsent, hreceived]
  · exact forall_mem_cons.mpr ⟨rfl, htransport⟩
  · rw [flatMap_cons, hupdates]

section

variable {body : ObjectUpdateType → Reader (List UInt8)} {c : Compressor} {order : HashOrder} {hasTransport : Bool}

theorem card_le_of_fits {guids : Finset UInt64} {blockCount : UInt32} {data : List UInt8}
    (h : Fits 0 (updateRuns order guids blockCount data hasTransport)) : guids = ∅ ∨ 10 + guids.card ≤ 10000000 := by
  by_cases hnone : guids = ∅
  · exact .inl hnone
  · have hguids : Fits 10 ((order.walk guids).map packedGUID) := by
      unfold updateRuns outOfRangeRuns at h
      rw [if_neg hnone, fits_append, fits_append] at h
      simpa [Fits] using h.1.2.2.2
    rw [← length_walk order, ← Finset.card_eq_zero, ← length_walk order, length_eq_zero_iff]
    exact length_le_of_fits hguids

theorem card_lt_of_fits {guids : Finset UInt64} {blockCount : UInt32} {data : List UInt8}
    (h : Fits 0 (updateRuns order guids blockCount data hasTransport)) : guids.card < 4294967296 := by
  rcases card_le_of_fits h with rfl | hle
  · rw [Finset.card_empty]
    omega
  · omega

theorem carried_data {packet : UpdatePacket} {share : List Block} (h : Carried packet share) :
    ((some packet).map UpdatePacket.data).getD .empty = ByteBuffer.empty.extend (share.flatMap Block.bytes) := h.data

theorem sendLoop_cons {u v : UpdateData} {data sent : WorldPacket} {itr : UpdatePacket} {rest : List UpdatePacket}
    {compressed : Bool} {later : List WorldPacket}
    (hbuild : u.buildPacket c order data (some itr) hasTransport = .ok (sent, compressed))
    (hlater : UpdateData.sendLoop c order hasTransport { u with m_outOfRangeGUIDs := ∅ } sent.clear rest = .ok (later, v)) :
    u.sendLoop c order hasTransport data (itr :: rest) = .ok (sent :: later, v) := by
  simp only [UpdateData.sendLoop, hbuild, bind, Except.bind, hlater]
  rfl

theorem buildPacket_share (hc : c.Lossless) {packet : UpdatePacket} {share : List Block} (hpacket : Carried packet share)
    (hbody : ∀ block ∈ share, Readable body block) {u : UpdateData} {data : WorldPacket} (hempty : data.buffer = .empty)
    (hfits : Fits 0 (updateRuns order u.m_outOfRangeGUIDs packet.blockCount (share.flatMap Block.bytes) hasTransport)) :
    ∃ sent compressed, u.buildPacket c order data (some packet) hasTransport = .ok (sent, compressed) ∧
      receive body c sent = some (if hasTransport then 1 else 0, announced order u.m_outOfRangeGUIDs ++ share.map Block.update) := by
  obtain ⟨sent, compressed, hbuild, hreceive⟩ := buildPacket_ok hc body hempty (carried_data hpacket) hfits
  exact ⟨sent, compressed, hbuild,
    hreceive.trans (reads_runs hbody hpacket.blockCount hpacket.few (card_lt_of_fits hfits)).whole⟩

theorem buildPacket_none (hc : c.Lossless) {u : UpdateData} {data : WorldPacket} (hempty : data.buffer = .empty)
    (hfits : Fits 0 (updateRuns order u.m_outOfRangeGUIDs 0 [] hasTransport)) :
    ∃ sent compressed, u.buildPacket c order data none hasTransport = .ok (sent, compressed) ∧
      receive body c sent = some (if hasTransport then 1 else 0, announced order u.m_outOfRangeGUIDs ++ []) := by
  have hdata : ((none : Option UpdatePacket).map UpdatePacket.data).getD .empty = ByteBuffer.empty.extend [] := rfl
  have hcount : (0 : UInt32).toNat = ([] : List Block).length := rfl
  have hblocks : ∀ block ∈ ([] : List Block), Readable body block := by simp
  have hread : Reads (readUpdates body) (updateRuns order u.m_outOfRangeGUIDs 0 [] hasTransport).flatten
      (if hasTransport then 1 else 0, announced order u.m_outOfRangeGUIDs ++ []) :=
    @reads_runs body order u.m_outOfRangeGUIDs [] 0 hasTransport hblocks hcount (Nat.zero_le _) (card_lt_of_fits hfits)
  obtain ⟨sent, compressed, hbuild, hreceive⟩ :=
    @buildPacket_ok c order u data none [] hasTransport hc body hempty hdata hfits
  exact ⟨sent, compressed, hbuild, hreceive.trans hread.whole⟩

theorem sendLoop_blocks (hc : c.Lossless) {packets : List UpdatePacket} {shares : List (List Block)}
    (hshares : List.Forall₂ Carried packets shares) (hbody : ∀ block ∈ shares.flatten, Readable body block)
    {u : UpdateData} (hnone : u.m_outOfRangeGUIDs = ∅) {data : WorldPacket} (hempty : data.buffer = .empty) :
    ∃ sent v, u.sendLoop c order hasTransport data packets = .ok (sent, v) ∧
      Delivers body c hasTransport sent (shares.flatten.map Block.update) := by
  induction hshares generalizing u data with
  | nil => exact ⟨[], u, rfl, Delivers.nil⟩
  | @cons packet share packets shares hpacket _ ih =>
    have hfits : Fits 0 (updateRuns order u.m_outOfRangeGUIDs packet.blockCount (share.flatMap Block.bytes) hasTransport) := by
      simp [updateRuns, outOfRangeRuns, hnone, Fits]
    obtain ⟨sent, compressed, hbuild, hreceive⟩ :=
      buildPacket_share hc hpacket (fun block hblock => hbody block (by simp [hblock])) hempty hfits
    have hrest : ∀ block ∈ shares.flatten, Readable body block := by
      intro block hblock
      apply hbody
      rw [flatten_cons]
      exact mem_append_right share hblock
    obtain ⟨later, v, hlater, hdelivers⟩ := @ih hrest { u with m_outOfRangeGUIDs := ∅ } rfl sent.clear rfl
    refine ⟨sent :: later, v, sendLoop_cons hbuild hlater, ?_⟩
    rw [announced, if_pos hnone, nil_append] at hreceive
    rw [flatten_cons, map_append]
    exact Delivers.cons hreceive hdelivers

theorem fits_updateRuns {guids : Finset UInt64} {blockCount : UInt32} {data : List UInt8}
    (h : 10 + ((order.walk guids).flatMap packedGUID).length < 10000000) :
    Fits 0 (updateRuns order guids blockCount data hasTransport) := by
  have hfront : (outOfRangeRuns order guids).flatten.length ≤ 5 + ((order.walk guids).flatMap packedGUID).length := by
    unfold outOfRangeRuns
    split_ifs
    · simp
    · simp only [flatten_cons, length_append, length_singleton, length_toBytes, flatMap_def]
      omega
  unfold updateRuns
  rw [fits_append]
  constructor
  · apply fits_of_lt
    simp only [cons_append, nil_append, flatten_cons, length_append, length_cons, length_toBytes]
    omega
  · refine ⟨.inr ?_, trivial⟩
    simp only [cons_append, nil_append, flatten_cons, length_append, length_cons, length_toBytes]
    omega

-- Send ends in the assertion of `append`, for guids of that many bytes, or sends
-- everything.
theorem send_cases (hc : c.Lossless) {u : UpdateData} {shares : List (List Block)} (hshares : List.Forall₂ Carried u.m_datas shares)
    (hbody : ∀ block ∈ shares.flatten, Readable body block) :
    (u.send c order hasTransport = .error .assertion ∧
      10000000 ≤ 10 + ((order.walk u.m_outOfRangeGUIDs).flatMap packedGUID).length) ∨
    ∃ packets v, u.send c order hasTransport = .ok (packets, v) ∧
      Delivers body c hasTransport packets (announced order u.m_outOfRangeGUIDs ++ shares.flatten.map Block.update) ∧
      (shares = [] → u.m_outOfRangeGUIDs = ∅ → packets = []) := by
  have hlarge : ∀ blockCount data, ¬ Fits 0 (updateRuns order u.m_outOfRangeGUIDs blockCount data hasTransport) →
      10000000 ≤ 10 + ((order.walk u.m_outOfRangeGUIDs).flatMap packedGUID).length :=
    fun _ _ hout => not_lt.mp fun hlow => hout (fits_updateRuns hlow)
  have hempty : (⟨.none, .empty⟩ : WorldPacket).buffer = .empty := rfl
  unfold UpdateData.send
  cases hdatas : u.m_datas with
  | nil =>
    rw [hdatas] at hshares
    cases hshares
    by_cases hnone : u.m_outOfRangeGUIDs = ∅
    · right
      refine ⟨[], u, by simp [hnone, UpdateData.sendLoop]; rfl, ?_, fun _ _ => rfl⟩
      rw [announced, if_pos hnone]
      exact Delivers.nil
    · rw [if_pos ⟨rfl, hnone⟩]
      by_cases hfits : Fits 0 (updateRuns order u.m_outOfRangeGUIDs 0 [] hasTransport)
      · obtain ⟨sent, compressed, hbuild, hreceive⟩ := @buildPacket_none body c order hasTransport hc u _ hempty hfits
        right
        refine ⟨[sent], _, by rw [hbuild]; rfl, ?_, fun _ hguids => absurd hguids hnone⟩
        have hall := Delivers.cons hreceive Delivers.nil
        simpa using hall
      · have hdata : ((none : Option UpdatePacket).map UpdatePacket.data).getD .empty = ByteBuffer.empty.extend [] := rfl
        exact .inl ⟨by rw [buildPacket_error hempty hdata hfits]; rfl, hlarge 0 [] hfits⟩
  | cons packet packets =>
    rw [hdatas] at hshares
    obtain ⟨share, rest, hpacket, hrest, rfl⟩ := forall₂_cons_left_iff.mp hshares
    rw [if_neg (by simp)]
    by_cases hfits : Fits 0 (updateRuns order u.m_outOfRangeGUIDs packet.blockCount (share.flatMap Block.bytes) hasTransport)
    · right
      have hfirst : ∀ block ∈ share, Readable body block := fun block hblock => hbody block (by simp [hblock])
      have hlast : ∀ block ∈ rest.flatten, Readable body block := by
        intro block hblock
        apply hbody
        rw [flatten_cons]
        exact mem_append_right share hblock
      obtain ⟨sent, compressed, hbuild, hreceive⟩ := buildPacket_share hc hpacket hfirst hempty hfits
      obtain ⟨later, v, hlater, hdelivers⟩ :=
        @sendLoop_blocks body c order hasTransport hc packets rest hrest hlast { u with m_outOfRangeGUIDs := ∅ } rfl sent.clear rfl
      refine ⟨sent :: later, v, sendLoop_cons hbuild hlater, ?_, fun hnil => absurd hnil (by simp)⟩
      rw [flatten_cons, map_append, ← append_assoc]
      exact Delivers.cons hreceive hdelivers
    · left
      refine ⟨?_, hlarge _ _ hfits⟩
      rw [UpdateData.sendLoop, buildPacket_error hempty (carried_data hpacket) hfits]
      rfl

-- With the assertion of `append` beyond 9999990 bytes of guids
theorem send_delivers (hc : c.Lossless) (order : HashOrder) (hasTransport : Bool) {adds : List Add} {u : UpdateData}
    (hadds : Add.all .empty adds = .ok u) (hbody : ∀ block ∈ Add.blocks adds, Readable body block) :
    (10 + ((order.walk (Add.guids adds).toFinset).flatMap packedGUID).length < 10000000 →
      ∃ packets v, u.send c order hasTransport = .ok (packets, v)) ∧
    ∀ packets v, u.send c order hasTransport = .ok (packets, v) →
      (∃ guids : List UInt64, guids.Nodup ∧ (∀ guid, guid ∈ guids ↔ guid ∈ Add.guids adds) ∧
        Delivers body c hasTransport packets
          ((if guids = [] then [] else [.outOfRange guids]) ++ (Add.blocks adds).map Block.update)) ∧
      (Add.blocks adds = [] → Add.guids adds = [] → packets = []) := by
  obtain ⟨shares, hshares, hblocks, hguids⟩ := all_carried .nil hadds
  rw [List.flatten_nil, List.nil_append] at hblocks
  have hset : u.m_outOfRangeGUIDs = (Add.guids adds).toFinset := by
    simp [hguids, UpdateData.empty]
  rw [← hblocks] at hbody
  have hcases := @send_cases body c order hasTransport hc u shares hshares hbody
  rw [hset] at hcases
  rcases hcases with ⟨herror, hlarge⟩ | ⟨packets, v, hsend, hdelivers, hnone⟩
  · refine ⟨fun hlow => absurd hlarge (by omega), fun packets v hsend => ?_⟩
    rw [herror] at hsend
    cases hsend
  · refine ⟨fun _ => ⟨packets, v, hsend⟩, fun sent w hsent => ?_⟩
    rw [hsend] at hsent
    cases hsent
    have hannounced : announced order (Add.guids adds).toFinset =
        if order.walk (Add.guids adds).toFinset = [] then [] else [.outOfRange (order.walk (Add.guids adds).toFinset)] := by
      have hempty : (Add.guids adds).toFinset = ∅ ↔ order.walk (Add.guids adds).toFinset = [] := by
        rw [← List.length_eq_zero_iff, length_walk, Finset.card_eq_zero]
      unfold announced
      simp only [hempty]
    rw [hannounced, hblocks] at hdelivers
    refine ⟨⟨_, order.nodup _, fun guid => by rw [order.mem, List.mem_toFinset], hdelivers⟩, fun hno hguids => ?_⟩
    apply hnone
    · rw [hno] at hblocks
      generalize u.m_datas = packets at hshares
      cases hshares with
      | nil => rfl
      | @cons packet share _ _ hpacket _ =>
        obtain ⟨block, hblock⟩ := List.exists_mem_of_ne_nil share hpacket.nonempty
        have hmem : block ∈ [] := hblocks ▸ List.mem_flatten.mpr ⟨share, List.mem_cons_self, hblock⟩
        cases hmem
    · simp [hguids]

end

theorem length_packed_le (list : List UInt64) : (list.flatMap packedGUID).length ≤ 9 * list.length := by
  induction list with
  | nil => simp
  | cons guid rest ih =>
    have hguid := length_nonzero_le (toBytes 8 guid.toNat)
    rw [length_toBytes] at hguid
    rw [flatMap_cons, length_append, packedGUID, length_cons, length_cons]
    omega

theorem send_error {c : Compressor} {order : HashOrder} {hasTransport : Bool} {u : UpdateData} (hdatas : u.m_datas = [])
    (hmany : 10000000 ≤ u.m_outOfRangeGUIDs.card) : u.send c order hasTransport = .error .assertion := by
  have hsome : u.m_outOfRangeGUIDs ≠ ∅ := by
    intro hnone
    rw [hnone, Finset.card_empty] at hmany
    omega
  have hout : ¬ Fits 0 (updateRuns order u.m_outOfRangeGUIDs 0 [] hasTransport) := by
    intro hfits
    rcases card_le_of_fits hfits with hnone | hle
    · exact hsome hnone
    · omega
  have hdata : ((none : Option UpdatePacket).map UpdatePacket.data).getD .empty = ByteBuffer.empty.extend [] := rfl
  have hempty : (⟨.none, .empty⟩ : WorldPacket).buffer = .empty := rfl
  unfold UpdateData.send
  rw [hdatas, if_pos ⟨rfl, hsome⟩, buildPacket_error hempty hdata hout]
  rfl

theorem card_range {n : Nat} (h : n ≤ 2 ^ 64) : ((List.range n).map UInt64.ofNat).toFinset.card = n := by
  have hnodup : ((List.range n).map UInt64.ofNat).Nodup := by
    apply List.Nodup.map_on _ nodup_range
    intro i hi j hj heq
    rw [mem_range] at hi hj
    have hnat := congrArg UInt64.toNat heq
    have hsize : UInt64.size = 2 ^ 64 := rfl
    rwa [UInt64.toNat_ofNat_of_lt' (by omega), UInt64.toNat_ofNat_of_lt' (by omega)] at hnat
  rw [toFinset_card_of_nodup hnodup, length_map, length_range]

-- Guids by their value, blocks of two bytes, and a format that only marks its data

def ascending : HashOrder where
  walk set := @Finset.sort _ set (· ≤ ·) inferInstance ⟨fun _ _ _ => UInt64.le_trans⟩ ⟨fun _ _ => UInt64.le_antisymm⟩ ⟨UInt64.le_total⟩
  nodup _ := Finset.sort_nodup ..
  mem _ _ := Finset.mem_sort _

def stored : Compressor where
  bound size := size + 1
  compress src _ := 120 :: src
  decompress bytes := bytes.tail?

theorem stored_lossless : stored.Lossless where
  succeeds src := cons_ne_nil 120 src
  inverse _ _ _ := rfl

def twoBytes (_ : ObjectUpdateType) : Reader (List UInt8) := do
  let first ← uint8
  let second ← uint8
  return [first, second]

def vanished : List Add := [.outOfRangeGUID 7, .block ⟨.values, [[1], [2]], by decide⟩, .outOfRangeGUIDs [9, 7]]

theorem send_delivers_vanished : ∃ u packets v, Add.all .empty vanished = .ok u ∧ u.send stored ascending true = .ok (packets, v) ∧
    ∃ guids : List UInt64, guids.Nodup ∧ (∀ guid, guid ∈ guids ↔ guid ∈ Add.guids vanished) ∧
      Delivers twoBytes stored true packets
        ((if guids = [] then [] else [.outOfRange guids]) ++ (Add.blocks vanished).map Block.update) := by
  have hbody : ∀ block ∈ Add.blocks vanished, Readable twoBytes block := by
    intro block hblock
    simp only [vanished, Add.blocks, List.filterMap_cons, List.filterMap_nil, List.mem_singleton] at hblock
    subst hblock
    exact (reads_byte 1).bind ((reads_byte 2).map fun second => [1, second])
  have hsmall : 10 + ((ascending.walk (Add.guids vanished).toFinset).flatMap packedGUID).length < 10000000 := by
    have hpacked := length_packed_le (ascending.walk (Add.guids vanished).toFinset)
    have hcard : (Add.guids vanished).toFinset.card ≤ 3 := List.toFinset_card_le _
    rw [length_walk] at hpacked
    omega
  obtain ⟨u, hadds⟩ : ∃ u, Add.all .empty vanished = .ok u := ⟨_, rfl⟩
  have hsend := send_delivers stored_lossless ascending true hadds hbody
  obtain ⟨packets, v, hok⟩ := hsend.1 hsmall
  exact ⟨u, packets, v, hadds, hok, (hsend.2 packets v hok).1⟩

-- Ten million guids end the server.
theorem not_send_delivers : ¬ ∀ (c : Compressor) (order : HashOrder) (hasTransport : Bool) (adds : List Add) (u : UpdateData),
    c.Lossless → Add.all .empty adds = .ok u → ∃ packets v, u.send c order hasTransport = .ok (packets, v) := by
  intro hall
  have hadds : ∀ guids, Add.all .empty [.outOfRangeGUIDs guids] = .ok (UpdateData.empty.addOutOfRangeGUIDs guids) :=
    fun _ => rfl
  have hcard : (UpdateData.empty.addOutOfRangeGUIDs ((List.range 10000000).map UInt64.ofNat)).m_outOfRangeGUIDs.card = 10000000 := by
    simp only [UpdateData.addOutOfRangeGUIDs, UpdateData.empty, Finset.empty_union]
    exact card_range (by omega)
  obtain ⟨packets, v, hsend⟩ := hall stored ascending false _ _ stored_lossless (hadds _)
  rw [send_error rfl hcard.ge] at hsend
  cases hsend

end TurtleWow.Objects

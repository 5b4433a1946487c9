import TurtleWow.Shared.ByteBuffer

namespace TurtleWow.Shared

open Bytes List

-- What the operators write and what the readers make of it.

section

variable {α β : Type} {a : α} {b c : ByteBuffer} {fault : Fault} {call : Call α}

theorem bind_ok (h : call.run b = .ok a c) (next : α → Call β) : (call >>= next).run b = (next a).run c := by
  rw [EStateM.run_bind, h]

theorem bind_error (h : call.run b = .error fault c) (next : α → Call β) : (call >>= next).run b = .error fault c := by
  rw [EStateM.run_bind, h]

theorem run_get (b : ByteBuffer) : (get : Call ByteBuffer).run b = .ok b b := rfl

end

namespace ByteBuffer

variable {b c : ByteBuffer} {src : List UInt8} {byte : UInt8} {pos len width : Nat}

theorem sizeT_of_lt {n : Nat} (h : n < 2 ^ 64) : sizeT n = n := Nat.mod_eq_of_lt h

section

variable (b : ByteBuffer)

@[simp] theorem seek_storage (rpos : Nat) : (b.seek rpos).storage = b.storage := rfl

@[simp] theorem seek_rpos (rpos : Nat) : (b.seek rpos).rpos = rpos := rfl

@[simp] theorem seek_size (rpos : Nat) : (b.seek rpos).size = b.size := rfl

@[simp] theorem seek_seek (first second : Nat) : (b.seek first).seek second = b.seek second := rfl

@[simp] theorem seek_self : b.seek b.rpos = b := rfl

-- The writers append runs of bytes behind each other.

def extend (src : List UInt8) : ByteBuffer :=
  { b with storage := b.storage ++ src, wpos := b.wpos + src.length }

end

theorem copyIn_of_flush (h : b.wpos = b.size) (src : List UInt8) : b.copyIn src = b.extend src := by
  have hlength : b.wpos = b.storage.length := h
  have hdrop : (b.storage ++ List.replicate src.length 0).drop (b.storage.length + src.length) = [] := by
    apply drop_of_length_le
    simp
  simp [copyIn, extend, hlength, hdrop]

theorem append_of_flush (h : b.wpos = b.size) (src : List UInt8) : (append src).run b =
    if src = [] ∨ b.size < 10000000 then .ok () (b.extend src) else .error .assertion b := by
  unfold append
  by_cases hnil : src = []
  · have hsame : b.extend [] = b := by simp [extend]
    rw [if_neg (not_not.mpr hnil), if_pos (.inl hnil), hnil, hsame]
    rfl
  · rw [if_pos hnil, bind_ok (run_get b)]
    by_cases hlow : b.size < 10000000
    · rw [if_neg (by omega), if_pos (.inr hlow)]
      show EStateM.Result.ok () (b.copyIn src) = _
      rw [copyIn_of_flush h]
    · rw [if_pos (by omega), if_neg (by simp [hnil, hlow])]
      rfl

theorem flush_extend (h : b.wpos = b.size) (src : List UInt8) : (b.extend src).wpos = (b.extend src).size := by
  simp [extend, size, h]

theorem exists_byte (h : pos < b.size) : ∃ byte, b.storage[pos]? = some byte := ⟨_, List.getElem?_eq_getElem h⟩

theorem drop_of_some (h : b.storage[pos]? = some byte) : b.storage.drop pos = byte :: b.storage.drop (pos + 1) := by
  obtain ⟨hlt, hbyte⟩ := List.getElem?_eq_some_iff.mp h
  rw [drop_eq_getElem_cons hlt, hbyte]

theorem touch_of_some (h : b.storage[pos]? = some byte) : (touch pos).run b = .ok byte b := by
  unfold touch
  rw [bind_ok (run_get b)]
  simp only [h]
  rfl

theorem copyOut_of_le (h : pos + len ≤ b.size) : (copyOut pos len).run b = .ok ((b.storage.drop pos).take len) b := by
  induction len generalizing pos with
  | zero => rfl
  | succ len ih =>
    obtain ⟨byte, hbyte⟩ := exists_byte (b := b) (show pos < b.size by omega)
    unfold copyOut
    rw [bind_ok (touch_of_some hbyte), bind_ok (ih (by omega)), drop_of_some hbyte, take_succ_cons]
    rfl

theorem readAt_eq (h : pos + width < 2 ^ 64) : (readAt pos width).run b =
    if pos + width ≤ b.size then .ok (ofBytes ((b.storage.drop pos).take width)) b
    else .error (.exception false pos width b.size) b := by
  unfold readAt
  rw [bind_ok (run_get b), sizeT_of_lt h]
  by_cases hle : pos + width ≤ b.size
  · rw [if_neg (by omega), if_pos hle]
    exact bind_ok (copyOut_of_le hle) _
  · rw [if_pos (by omega), if_neg hle]
    rfl

theorem readNext_eq (h : b.rpos + width < 2 ^ 64) : (readNext width).run b =
    if b.rpos + width ≤ b.size then
      .ok (ofBytes ((b.storage.drop b.rpos).take width)) (b.seek (b.rpos + width))
    else .error (.exception false b.rpos width b.size) b := by
  unfold readNext
  rw [bind_ok (run_get b)]
  have hread := readAt_eq (b := b) h
  by_cases hle : b.rpos + width ≤ b.size
  · rw [if_pos hle] at hread ⊢
    rw [bind_ok hread]
    show EStateM.Result.ok _ (b.seek (sizeT (b.rpos + width))) = _
    rw [sizeT_of_lt h]
  · rw [if_neg hle] at hread ⊢
    exact bind_error hread _

theorem readBytes_eq (h : b.rpos + len < 2 ^ 64) : (readBytes len).run b =
    if b.rpos + len ≤ b.size then .ok ((b.storage.drop b.rpos).take len) (b.seek (b.rpos + len))
    else .error (.exception false b.rpos len b.size) b := by
  unfold readBytes
  rw [bind_ok (run_get b), sizeT_of_lt h]
  by_cases hle : b.rpos + len ≤ b.size
  · rw [if_neg (by omega), if_pos hle]
    show (copyOut b.rpos len >>= _).run b = _
    rw [bind_ok (copyOut_of_le hle)]
    show EStateM.Result.ok _ (b.seek (sizeT (b.rpos + len))) = _
    rw [sizeT_of_lt h]
  · rw [if_pos (by omega), if_neg hle]
    rfl

-- A text goes up to its closing zero.
def textOf (bytes : List UInt8) : List UInt8 := bytes.takeWhile fun byte => byte ≠ 0

theorem textOf_zero (rest : List UInt8) : textOf (0 :: rest) = [] := rfl

theorem textOf_cons {byte : UInt8} (h : byte ≠ 0) (rest : List UInt8) : textOf (byte :: rest) = byte :: textOf rest := by
  simp [textOf, h]

theorem zero_mem_cons {byte : UInt8} (h : byte ≠ 0) (rest : List UInt8) : 0 ∈ byte :: rest ↔ 0 ∈ rest := by
  simp [Ne.symm h]

theorem findEnd_step (hsize : b.size + 8 < 2 ^ 64) (hbyte : b.storage[b.rpos]? = some byte) (turns : Nat) :
    (findEnd (turns + 1)).run b =
      if byte = 0 then .ok () b
      else if b.rpos + 1 < b.size then (findEnd turns).run (b.seek (b.rpos + 1))
      else .error (.exception false b.size 1 b.size) (b.seek b.size) := by
  have hlt : b.rpos < b.size := (List.getElem?_eq_some_iff.mp hbyte).1
  have hmoved : (modify fun b => b.seek (sizeT (b.rpos + 1)) : Call Unit).run b = .ok () (b.seek (b.rpos + 1)) := by
    rw [← sizeT_of_lt (show b.rpos + 1 < 2 ^ 64 by omega)]
    rfl
  have hbound : sizeT ((b.seek (b.rpos + 1)).rpos + 1) = b.rpos + 1 + 1 :=
    sizeT_of_lt (show b.rpos + 1 + 1 < 2 ^ 64 by omega)
  rw [findEnd, bind_ok (run_get b), bind_ok (touch_of_some hbyte)]
  by_cases hzero : byte = 0
  · rw [if_neg (not_not.mpr hzero), if_pos hzero]
    rfl
  · rw [if_pos hzero, if_neg hzero, bind_ok hmoved, bind_ok (run_get _)]
    by_cases hlast : b.rpos + 1 < b.size
    · rw [if_neg (by rw [hbound, seek_size]; omega), if_pos hlast]
    · have hsame : b.rpos + 1 = b.size := by omega
      rw [if_pos (by rw [hbound, seek_size]; omega), if_neg hlast, hsame]
      rfl

theorem lt_of_zero_mem (h : 0 ∈ b.storage.drop pos) : pos < b.size := by
  by_contra hout
  rw [drop_of_length_le (not_lt.mp hout)] at h
  cases h

theorem findEnd_ok {turns : Nat} (hsize : b.size + 8 < 2 ^ 64) (hturns : b.size - b.rpos ≤ turns)
    (hmem : 0 ∈ b.storage.drop b.rpos) :
    (findEnd turns).run b = .ok () (b.seek (b.rpos + (textOf (b.storage.drop b.rpos)).length)) := by
  induction turns generalizing b with
  | zero =>
    have hlt := lt_of_zero_mem hmem
    omega
  | succ turns ih =>
    obtain ⟨byte, hbyte⟩ := exists_byte (lt_of_zero_mem hmem)
    rw [drop_of_some hbyte] at hmem ⊢
    rw [findEnd_step hsize hbyte]
    by_cases hzero : byte = 0
    · rw [if_pos hzero, hzero, textOf_zero]
      rfl
    · rw [zero_mem_cons hzero] at hmem
      have hfound := ih (b := b.seek (b.rpos + 1)) hsize (by simp; omega) hmem
      rw [if_neg hzero, if_pos (lt_of_zero_mem hmem), hfound, textOf_cons hzero, length_cons]
      simp only [seek_rpos, seek_storage, seek_seek]
      congr 2
      omega

theorem findEnd_error {turns : Nat} (hsize : b.size + 8 < 2 ^ 64) (hturns : b.size - b.rpos ≤ turns) (hlt : b.rpos < b.size)
    (hmem : 0 ∉ b.storage.drop b.rpos) :
    (findEnd turns).run b = .error (.exception false b.size 1 b.size) (b.seek b.size) := by
  induction turns generalizing b with
  | zero => omega
  | succ turns ih =>
    obtain ⟨byte, hbyte⟩ := exists_byte hlt
    rw [drop_of_some hbyte] at hmem
    rw [findEnd_step hsize hbyte]
    have hzero : byte ≠ 0 := fun hzero => hmem (by rw [hzero]; exact mem_cons_self)
    rw [if_neg hzero]
    by_cases hlast : b.rpos + 1 < b.size
    · rw [if_pos hlast, ih (b := b.seek (b.rpos + 1)) hsize (by simp; omega) hlast (mt (mem_cons_of_mem _) hmem)]
      rfl
    · rw [if_neg hlast]

theorem length_textOf_lt {bytes : List UInt8} (h : 0 ∈ bytes) : (textOf bytes).length < bytes.length := by
  induction bytes with
  | nil => cases h
  | cons byte rest ih =>
    by_cases hzero : byte = 0
    · simp [hzero, textOf_zero]
    · rw [textOf_cons hzero, length_cons, length_cons]
      have hrest := ih ((zero_mem_cons hzero rest).mp h)
      omega

theorem take_textOf (bytes : List UInt8) : bytes.take (textOf bytes).length = textOf bytes :=
  prefix_iff_eq_take.mp ( takeWhile_prefix _) |>.symm

theorem readString_ok (hsize : b.size + 8 < 2 ^ 64) (hmem : 0 ∈ b.storage.drop b.rpos) (value : List UInt8) :
    (readString value).run b = .ok (textOf (b.storage.drop b.rpos))
      (b.seek (b.rpos + (textOf (b.storage.drop b.rpos)).length + 1)) := by
  have hlt := lt_of_zero_mem hmem
  have hlength := length_textOf_lt hmem
  rw [length_drop] at hlength
  have hfits : b.rpos + (textOf (b.storage.drop b.rpos)).length + 1 ≤ b.size := by
    unfold size at hlt ⊢
    omega
  have hcopy : (copyOut b.rpos (textOf (b.storage.drop b.rpos)).length).run
      (b.seek (b.rpos + (textOf (b.storage.drop b.rpos)).length)) =
        .ok (textOf (b.storage.drop b.rpos)) (b.seek (b.rpos + (textOf (b.storage.drop b.rpos)).length)) := by
    rw [copyOut_of_le (by rw [seek_size]; omega), seek_storage, take_textOf]
  unfold readString
  rw [bind_ok (run_get b), if_pos hlt, bind_ok (findEnd_ok hsize (by omega) hmem), bind_ok (run_get _)]
  simp only [seek_rpos, Nat.add_sub_cancel_left]
  rw [bind_ok hcopy]
  show EStateM.Result.ok _ (b.seek (sizeT _)) = _
  rw [seek_rpos, sizeT_of_lt (by omega)]

theorem readString_error (hsize : b.size + 8 < 2 ^ 64) (hlt : b.rpos < b.size) (hmem : 0 ∉ b.storage.drop b.rpos)
    (value : List UInt8) :
    (readString value).run b = .error (.exception false b.size 1 b.size) (b.seek b.size) := by
  unfold readString
  rw [bind_ok (run_get b), if_pos hlt, bind_error (findEnd_error hsize (by omega) hlt hmem)]

theorem readString_end (hend : b.size ≤ b.rpos) (value : List UInt8) : (readString value).run b = .ok value b := by
  unfold readString
  rw [bind_ok (run_get b), if_neg (by omega)]
  rfl

theorem packLoop_eq (turns guid : Nat) (h : guid < 256 ^ turns) (done : List UInt8) :
    packLoop turns done.length guid (mask done) (nonzero done) =
      (mask (done ++ toBytes turns guid), nonzero (done ++ toBytes turns guid)) := by
  induction turns generalizing guid done with
  | zero => simp [packLoop, toBytes]
  | succ turns ih =>
    have hrest : guid / 256 < 256 ^ turns := by
      rw [Nat.div_lt_iff_lt_mul (by omega)]
      rwa [Nat.pow_succ] at h
    have hnext := ih _ hrest (done ++ [UInt8.ofNat (guid % 256)])
    rw [append_assoc, singleton_append, length_append, length_singleton, mask_append,
      nonzero_append] at hnext
    have hbyte : UInt8.ofNat (guid % 256) = 0 ↔ guid % 256 = 0 := by
      rw [← UInt8.toNat_inj, toNat_ofNat_mod]
      rfl
    unfold packLoop
    by_cases hzero : guid = 0
    · subst hzero
      simp [mask_append, nonzero_append]
    rw [if_neg hzero, toBytes]
    by_cases hlow : guid % 256 = 0
    · rw [hbyte.mpr hlow] at hnext ⊢
      simpa [hlow, nonzero_cons, mask, nonzero] using hnext
    · have hor : mask done ||| 2 ^ done.length = mask done + 2 ^ done.length := by
        have hadd := Nat.two_pow_add_eq_or_of_lt (mask_lt done) 1
        rw [Nat.mul_one] at hadd
        rw [Nat.or_comm, ← hadd, Nat.add_comm]
      have hne : UInt8.ofNat (guid % 256) ≠ 0 := mt hbyte.mp hlow
      rw [if_pos hlow, hor]
      simpa [mask, nonzero_cons, hne, nonzero] using hnext

theorem appendPackGUID_eq (guid : UInt64) : appendPackGUID guid =
    append (UInt8.ofNat (mask (toBytes 8 guid.toNat)) :: nonzero (toBytes 8 guid.toNat)) := by
  have hloop := packLoop_eq 8 guid.toNat guid.toNat_lt []
  rw [nil_append, length_nil] at hloop
  have hstart : packLoop 8 0 guid.toNat 0 [] = packLoop 8 0 guid.toNat (mask []) (nonzero []) := rfl
  unfold appendPackGUID
  rw [hstart, hloop]

variable {tail : List UInt8} {n : Nat}

theorem readNext_ok (hsize : b.size + 8 < 2 ^ 64) (hn : n < 256 ^ width)
    (h : b.storage.drop b.rpos = toBytes width n ++ tail) (hwidth : 0 < width) (hle : width ≤ 8) :
    (readNext width).run b = .ok n (b.seek (b.rpos + width)) := by
  have hlength := congrArg List.length h
  rw [length_drop, length_append, length_toBytes] at hlength
  have hfits : b.rpos + width ≤ b.size := by
    unfold size
    omega
  have htake : (toBytes width n ++ tail).take width = toBytes width n := by
    rw [take_append_of_le_length (by simp), take_of_length_le (by simp)]
  rw [readNext_eq (by omega), if_pos hfits, h, htake, ofBytes_toBytes hn]

theorem readUint8_ok (hsize : b.size + 8 < 2 ^ 64) (h : b.storage.drop b.rpos = byte :: tail) :
    readUint8.run b = .ok byte (b.seek (b.rpos + 1)) := by
  have hbytes : b.storage.drop b.rpos = toBytes 1 byte.toNat ++ tail := by
    simpa [toBytes] using h
  unfold readUint8
  rw [bind_ok (readNext_ok hsize byte.toNat_lt hbytes (by omega) (by omega)), UInt8.ofNat_toNat]
  rfl

theorem or_shiftLeft (first : List UInt8) (byte : UInt8) :
    ofBytes first ||| byte.toNat <<< (first.length * 8) = ofBytes (first ++ [byte]) := by
  have hpow : 256 ^ first.length = 2 ^ (first.length * 8) := by
    rw [Nat.mul_comm, Nat.pow_mul]
  have hlow : ofBytes first < 2 ^ (first.length * 8) := hpow ▸ ofBytes_lt first
  rw [Nat.or_comm, ← Nat.shiftLeft_add_eq_or_of_lt hlow, Nat.shiftLeft_eq, ofBytes_append, hpow]
  simp only [ofBytes]
  ring

theorem readMarked_ok {guidmark : UInt8} (hsize : b.size + 8 < 2 ^ 64) (first rest : List UInt8) (byte : UInt8)
    (hmark : guidmark.toNat = mask (first ++ byte :: rest))
    (h : b.storage.drop b.rpos = nonzero (byte :: rest) ++ tail) :
    (readMarked guidmark (ofBytes first) first.length).run b =
      .ok (ofBytes (first ++ [byte])) (b.seek (b.rpos + (nonzero [byte]).length)) := by
  have hbit : guidmark.toNat.testBit first.length = decide (byte ≠ 0) := by
    rw [hmark, testBit_mask]
  unfold readMarked
  rw [hbit]
  by_cases hzero : byte = 0
  · have hsame : ofBytes (first ++ [0]) = ofBytes first := by simp [ofBytes_append, ofBytes]
    rw [hzero, hsame]
    rfl
  · rw [nonzero_cons, if_neg hzero, cons_append] at h
    rw [if_pos (decide_eq_true hzero), bind_ok (readUint8_ok hsize h), or_shiftLeft, nonzero_cons, if_neg hzero]
    rfl

theorem readMarked_fold {guidmark : UInt8} (hsize : b.size + 8 < 2 ^ 64) (first rest : List UInt8)
    (hmark : guidmark.toNat = mask (first ++ rest)) (h : b.storage.drop b.rpos = nonzero rest ++ tail) :
    ((List.range' first.length rest.length).foldlM (readMarked guidmark) (ofBytes first)).run b =
      .ok (ofBytes (first ++ rest)) (b.seek (b.rpos + (nonzero rest).length)) := by
  induction rest generalizing first b with
  | nil => simp [nonzero]
  | cons byte rest ih =>
    have hstep := readMarked_ok hsize first rest byte hmark h
    have happend : first ++ byte :: rest = (first ++ [byte]) ++ rest := by simp
    have hsplit : nonzero (byte :: rest) = nonzero [byte] ++ nonzero rest := nonzero_append [byte] rest
    have hdrop : (b.seek (b.rpos + (nonzero [byte]).length)).storage.drop (b.rpos + (nonzero [byte]).length) =
        nonzero rest ++ tail := by
      rw [seek_storage, ← drop_drop, h, hsplit, append_assoc, drop_left]
    have hrest := ih (b := b.seek (b.rpos + (nonzero [byte]).length)) hsize (first ++ [byte])
      (by rw [hmark, happend]) hdrop
    rw [length_append, length_singleton] at hrest
    rw [length_cons, List.range'_succ, foldlM_cons, bind_ok hstep, hrest, happend, hsplit, length_append]
    simp only [seek_rpos, seek_seek, Nat.add_assoc]

theorem readPackGUID_ok (hsize : b.size + 8 < 2 ^ 64) (guid : UInt64)
    (h : b.storage.drop b.rpos = UInt8.ofNat (mask (toBytes 8 guid.toNat)) :: (nonzero (toBytes 8 guid.toNat) ++ tail)) :
    readPackGUID.run b = .ok guid (b.seek (b.rpos + (nonzero (toBytes 8 guid.toNat)).length + 1)) := by
  have hmark : (UInt8.ofNat (mask (toBytes 8 guid.toNat))).toNat = mask ([] ++ toBytes 8 guid.toNat) := by
    have hlt := mask_lt (toBytes 8 guid.toNat)
    rw [length_toBytes] at hlt
    rw [nil_append, UInt8.toNat_ofNat_of_lt' hlt]
  have hdrop : (b.seek (b.rpos + 1)).storage.drop (b.rpos + 1) = nonzero (toBytes 8 guid.toNat) ++ tail := by
    rw [seek_storage, ← drop_drop, h]
    rfl
  have hfold : ((List.range' 0 8).foldlM (readMarked (UInt8.ofNat (mask (toBytes 8 guid.toNat)))) 0).run
      (b.seek (b.rpos + 1)) = .ok guid.toNat (b.seek (b.rpos + 1 + (nonzero (toBytes 8 guid.toNat)).length)) := by
    have hrest := readMarked_fold (b := b.seek (b.rpos + 1)) hsize [] (toBytes 8 guid.toNat) hmark hdrop
    rw [length_toBytes, nil_append, ofBytes_toBytes guid.toNat_lt] at hrest
    exact hrest
  unfold readPackGUID
  rw [bind_ok (readUint8_ok hsize h), range_eq_range', bind_ok hfold, UInt64.ofNat_toNat, Nat.add_right_comm]
  rfl

end ByteBuffer

end TurtleWow.Shared

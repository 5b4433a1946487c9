import TurtleWow.Shared.Codec

namespace TurtleWow.Shared

open Bytes ByteBuffer List

-- What is written in order is read back in order, and what the readers make of
-- any bytes.

-- What a value appends, one run of bytes at a time

def appendRuns : List (List UInt8) → Call Unit
  | [] => return ()
  | run :: rest => do
      append run
      appendRuns rest

namespace Value

def runs : Value → List (List UInt8)
  | uint8 value => [toBytes 1 value.toNat]
  | uint16 value => [toBytes 2 value.toNat]
  | uint32 value => [toBytes 4 value.toNat]
  | uint64 value => [toBytes 8 value.toNat]
  | int8 value => [toBytes 1 value.toUInt8.toNat]
  | int16 value => [toBytes 2 value.toUInt16.toNat]
  | int32 value => [toBytes 4 value.toUInt32.toNat]
  | int64 value => [toBytes 8 value.toUInt64.toNat]
  | string text => [text, [0]]
  | packGUID guid => [UInt8.ofNat (mask (toBytes 8 guid.toNat)) :: nonzero (toBytes 8 guid.toNat)]

-- No text has a zero, nor more bytes than a std::string.
def WellFormed : Value → Prop
  | string text => 0 ∉ text ∧ text.length < 2 ^ 63
  | _ => True

theorem write_eq (value : Value) : value.write = appendRuns value.runs := by
  have hsingle : ∀ run, append run = appendRuns [run] := by
    intro run
    unfold appendRuns
    exact bind_pure_unit.symm
  cases value with
  | string text =>
    show (append text >>= fun _ => append [0]) = append text >>= fun _ => appendRuns [[0]]
    rw [hsingle [0]]
  | packGUID guid => exact (appendPackGUID_eq guid).trans (hsingle _)
  | uint8 value => exact hsingle (toBytes 1 value.toNat)
  | uint16 value => exact hsingle (toBytes 2 value.toNat)
  | uint32 value => exact hsingle (toBytes 4 value.toNat)
  | uint64 value => exact hsingle (toBytes 8 value.toNat)
  | int8 value => exact hsingle (toBytes 1 value.toUInt8.toNat)
  | int16 value => exact hsingle (toBytes 2 value.toUInt16.toNat)
  | int32 value => exact hsingle (toBytes 4 value.toUInt32.toNat)
  | int64 value => exact hsingle (toBytes 8 value.toUInt64.toNat)

end Value

theorem appendRuns_append (first second : List (List UInt8)) :
    appendRuns (first ++ second) = appendRuns first >>= fun _ => appendRuns second := by
  induction first with
  | nil => exact (pure_bind _ _).symm
  | cons run rest ih => simp only [cons_append, appendRuns, ih, bind_assoc]

theorem writeAll_eq (values : List Value) : writeAll values = appendRuns (values.flatMap Value.runs) := by
  induction values with
  | nil => rfl
  | cons value rest ih => rw [flatMap_cons, appendRuns_append, writeAll, ih, value.write_eq]

-- No run starts where the assertion of `append` fails.
def Fits : Nat → List (List UInt8) → Prop
  | _, [] => True
  | n, run :: rest => (run = [] ∨ n < 10000000) ∧ Fits (n + run.length) rest

section

variable {b : ByteBuffer} {runs : List (List UInt8)}

theorem size_extend (b : ByteBuffer) (src : List UInt8) : (b.extend src).size = b.size + src.length :=
  length_append

theorem extend_extend (b : ByteBuffer) (first second : List UInt8) :
    (b.extend first).extend second = b.extend (first ++ second) := by
  simp [extend, Nat.add_assoc]

theorem appendRuns_ok (hflush : b.wpos = b.size) (h : Fits b.size runs) :
    (appendRuns runs).run b = .ok () (b.extend runs.flatten) := by
  induction runs generalizing b with
  | nil =>
    have hsame : b.extend [] = b := by simp [extend]
    rw [flatten_nil, hsame]
    rfl
  | cons run rest ih =>
    obtain ⟨hrun, hrest⟩ := h
    have happend := append_of_flush hflush run
    rw [if_pos hrun] at happend
    rw [← size_extend] at hrest
    rw [appendRuns, bind_ok happend, ih (flush_extend hflush run) hrest, extend_extend, flatten_cons]

theorem appendRuns_error (hflush : b.wpos = b.size) (h : ¬Fits b.size runs) :
    ∃ c, (appendRuns runs).run b = .error .assertion c := by
  induction runs generalizing b with
  | nil => exact absurd trivial h
  | cons run rest ih =>
    have happend := append_of_flush hflush run
    by_cases hrun : run = [] ∨ b.size < 10000000
    · rw [if_pos hrun] at happend
      have hrest : ¬Fits (b.extend run).size rest := by
        rw [size_extend]
        exact fun hrest => h ⟨hrun, hrest⟩
      obtain ⟨c, hc⟩ := ih (flush_extend hflush run) hrest
      exact ⟨c, by rw [appendRuns, bind_ok happend, hc]⟩
    · rw [if_neg hrun] at happend
      exact ⟨b, by rw [appendRuns, bind_error happend]⟩

theorem Fits.size_lt {n : Nat} (h : Fits n runs) (hlength : ∀ run ∈ runs, run.length < 2 ^ 63)
    (hn : n < 10000000 + 2 ^ 63) : n + runs.flatten.length < 10000000 + 2 ^ 63 := by
  induction runs generalizing n with
  | nil => simpa using hn
  | cons run rest ih =>
    obtain ⟨hrun, hrest⟩ := forall_mem_cons.mp hlength
    have hnext : n + run.length < 10000000 + 2 ^ 63 := by
      rcases h.1 with hnil | hlow
      · simpa [hnil] using hn
      · omega
    have hsize := ih h.2 hrest hnext
    rw [flatten_cons, length_append]
    omega

end

namespace ByteBuffer

variable {α : Type} {b : ByteBuffer} {tail : List UInt8} {width n : Nat}

theorem number_ok {make : Nat → α} {value : α} (wrap : α → Value) (hmake : make n = value) (hsize : b.size + 8 < 2 ^ 64)
    (hn : n < 256 ^ width) (h : b.storage.drop b.rpos = [toBytes width n].flatten ++ tail) (hwidth : 0 < width)
    (hle : width ≤ 8) :
    ((do return make (← readNext width)) >>= fun value => pure (wrap value) : Call Value).run b =
      .ok (wrap value) (b.seek (b.rpos + [toBytes width n].flatten.length)) := by
  have hlength : [toBytes width n].flatten.length = width := by simp
  rw [flatten_singleton] at h
  have hread : (do return make (← readNext width) : Call α).run b = .ok (make n) (b.seek (b.rpos + width)) :=
    bind_ok (readNext_ok hsize hn h hwidth hle) _
  rw [bind_ok hread, hmake, hlength]
  rfl

theorem textOf_append (text : List UInt8) (h : 0 ∉ text) (rest : List UInt8) : textOf (text ++ 0 :: rest) = text := by
  induction text with
  | nil => rfl
  | cons byte text ih =>
    have hbyte : byte ≠ 0 := fun hzero => h (by rw [hzero]; exact mem_cons_self)
    rw [cons_append, textOf_cons hbyte, ih (mt (mem_cons_of_mem byte) h)]

end ByteBuffer

section

variable {b : ByteBuffer} {tail : List UInt8}

theorem Value.read_ok {value : Value} (hvalue : value.WellFormed) (hsize : b.size + 8 < 2 ^ 64)
    (h : b.storage.drop b.rpos = value.runs.flatten ++ tail) (text : List UInt8) :
    (value.type.read text).run b = .ok value (b.seek (b.rpos + value.runs.flatten.length)) := by
  cases value with
  | uint8 value => exact number_ok uint8 UInt8.ofNat_toNat hsize value.toNat_lt h (by omega) (by omega)
  | uint16 value => exact number_ok uint16 UInt16.ofNat_toNat hsize value.toNat_lt h (by omega) (by omega)
  | uint32 value => exact number_ok uint32 UInt32.ofNat_toNat hsize value.toNat_lt h (by omega) (by omega)
  | uint64 value => exact number_ok uint64 UInt64.ofNat_toNat hsize value.toNat_lt h (by omega) (by omega)
  | int8 value =>
    exact number_ok int8 (by rw [UInt8.ofNat_toNat, Int8.toInt8_toUInt8]) hsize value.toUInt8.toNat_lt h (by omega)
      (by omega)
  | int16 value =>
    exact number_ok int16 (by rw [UInt16.ofNat_toNat, Int16.toInt16_toUInt16]) hsize value.toUInt16.toNat_lt h (by omega)
      (by omega)
  | int32 value =>
    exact number_ok int32 (by rw [UInt32.ofNat_toNat, Int32.toInt32_toUInt32]) hsize value.toUInt32.toNat_lt h (by omega)
      (by omega)
  | int64 value =>
    exact number_ok int64 (by rw [UInt64.ofNat_toNat, Int64.toInt64_toUInt64]) hsize value.toUInt64.toNat_lt h (by omega)
      (by omega)
  | string value =>
    have hbytes : b.storage.drop b.rpos = value ++ 0 :: tail := by
      rw [h]
      simp [runs]
    have hread := readString_ok hsize (by simp [hbytes]) text
    rw [hbytes, textOf_append value hvalue.1] at hread
    have hlength : (string value).runs.flatten.length = value.length + 1 := by simp [runs]
    rw [hlength]
    exact bind_ok hread _
  | packGUID guid =>
    have hread := readPackGUID_ok hsize guid (by rw [h, runs, flatten_singleton, cons_append])
    rw [runs, flatten_singleton, length_cons]
    exact bind_ok hread _

theorem readAll_ok {values : List Value} (hvalues : ∀ value ∈ values, value.WellFormed) (hsize : b.size + 8 < 2 ^ 64)
    (h : b.storage.drop b.rpos = (values.flatMap Value.runs).flatten ++ tail) :
    (readAll (values.map Value.type)).run b =
      .ok values (b.seek (b.rpos + (values.flatMap Value.runs).flatten.length)) := by
  induction values generalizing b with
  | nil => rfl
  | cons value rest ih =>
    obtain ⟨hvalue, hrest⟩ := forall_mem_cons.mp hvalues
    rw [flatMap_cons, flatten_append, append_assoc] at h
    have hread := value.read_ok hvalue hsize h []
    have hdrop : (b.seek (b.rpos + value.runs.flatten.length)).storage.drop (b.rpos + value.runs.flatten.length) =
        (rest.flatMap Value.runs).flatten ++ tail := by
      rw [seek_storage, ← drop_drop, h, drop_left]
    have hothers := ih (b := b.seek (b.rpos + value.runs.flatten.length)) hrest hsize hdrop
    rw [map_cons, readAll, bind_ok hread, bind_ok hothers, flatMap_cons, flatten_append,
      length_append, ← Nat.add_assoc]
    rfl

end

-- What the readers make of any bytes: they take some that are there, or throw
-- at a place where there are not enough.

section

variable {α β : Type} {b c : ByteBuffer} {result : EStateM.Result Fault ByteBuffer α}

def Takes (b : ByteBuffer) (result : EStateM.Result Fault ByteBuffer α) : Prop :=
  ∃ value c, result = .ok value c ∧ c.storage = b.storage ∧ b.rpos < c.rpos ∧ c.rpos ≤ b.size

def Throws (b : ByteBuffer) (result : EStateM.Result Fault ByteBuffer α) : Prop :=
  ∃ pos esize c, result = .error (.exception false pos esize b.size) c ∧ c.storage = b.storage ∧ b.size < pos + esize

def TakesOrThrows (b : ByteBuffer) (result : EStateM.Result Fault ByteBuffer α) : Prop := Takes b result ∨ Throws b result

theorem TakesOrThrows.map {call : Call α} (h : TakesOrThrows b (call.run b)) (f : α → β) :
    TakesOrThrows b ((call >>= fun value => pure (f value)).run b) := by
  rcases h with ⟨value, c, hrun, htakes⟩ | ⟨pos, esize, c, hrun, hthrows⟩
  · exact .inl ⟨f value, c, bind_ok hrun _, htakes⟩
  · exact .inr ⟨pos, esize, c, bind_error hrun _, hthrows⟩

theorem takesOrThrows_readNext {width : Nat} (hwidth : 0 < width) (hpos : b.rpos + width < 2 ^ 64) :
    TakesOrThrows b ((readNext width).run b) := by
  rw [readNext_eq hpos]
  split_ifs with hle
  · exact .inl ⟨_, _, rfl, rfl, Nat.lt_add_of_pos_right hwidth, hle⟩
  · exact .inr ⟨_, _, _, rfl, rfl, not_le.mp hle⟩

section

variable (hsize : b.size + 8 < 2 ^ 64)

include hsize

theorem takesOrThrows_readString (hlt : b.rpos < b.size) (text : List UInt8) :
    TakesOrThrows b ((readString text).run b) := by
  by_cases hmem : 0 ∈ b.storage.drop b.rpos
  · have hlength := length_textOf_lt hmem
    rw [length_drop] at hlength
    rw [readString_ok hsize hmem]
    refine .inl ⟨_, _, rfl, rfl, ?_, ?_⟩
    · show b.rpos < b.rpos + _ + 1
      omega
    · show b.rpos + _ + 1 ≤ b.storage.length
      omega
  · rw [readString_error hsize hlt hmem]
    exact .inr ⟨_, _, _, rfl, rfl, Nat.lt_succ_self _⟩

-- A loop of readers, which may all be left out

theorem takesOrThrows_marked (hle : b.rpos ≤ b.size) (guidmark : UInt8) (turns : List Nat) (guid : Nat) :
    (∃ guid' c, (turns.foldlM (readMarked guidmark) guid).run b = .ok guid' c ∧ c.storage = b.storage ∧
      b.rpos ≤ c.rpos ∧ c.rpos ≤ b.size) ∨ Throws b ((turns.foldlM (readMarked guidmark) guid).run b) := by
  induction turns generalizing b guid with
  | nil => exact .inl ⟨guid, b, rfl, rfl, le_refl _, hle⟩
  | cons i rest ih =>
    rw [foldlM_cons]
    by_cases hbit : guidmark.toNat.testBit i = true
    · have hread : TakesOrThrows b ((readMarked guidmark guid i).run b) := by
        unfold readMarked
        rw [if_pos hbit]
        have hnext : TakesOrThrows b (readUint8.run b) := (takesOrThrows_readNext (by omega) (by omega)).map _
        exact hnext.map _
      rcases hread with ⟨guid', c, hrun, hstorage, hmoved, hinside⟩ | ⟨pos, esize, c, hrun, hthrows⟩
      · have hsame : c.size = b.size := congrArg List.length hstorage
        rw [bind_ok hrun]
        rcases ih (b := c) (by omega) (by omega) guid' with
          ⟨guid'', d, hrest, hstorage', hmoved', hinside'⟩ | ⟨pos, esize, d, hrest, hstorage', hthrows⟩
        · exact .inl ⟨guid'', d, hrest, hstorage'.trans hstorage, by omega, by omega⟩
        · rw [hsame] at hrest hthrows
          exact .inr ⟨pos, esize, d, hrest, hstorage'.trans hstorage, hthrows⟩
      · rw [bind_error hrun]
        exact .inr ⟨pos, esize, c, rfl, hthrows⟩
    · have hskip : (readMarked guidmark guid i).run b = .ok guid b := by
        unfold readMarked
        rw [if_neg hbit]
        rfl
      rw [bind_ok hskip]
      exact ih hsize hle guid

theorem takesOrThrows_readPackGUID (hpos : b.rpos + 8 < 2 ^ 64) : TakesOrThrows b (readPackGUID.run b) := by
  have hmark : TakesOrThrows b (readUint8.run b) := (takesOrThrows_readNext (by omega) (by omega)).map _
  unfold readPackGUID
  rcases hmark with ⟨guidmark, c, hrun, hstorage, hmoved, hinside⟩ | ⟨pos, esize, c, hrun, hthrows⟩
  · have hsame : c.size = b.size := congrArg List.length hstorage
    rw [bind_ok hrun]
    rcases takesOrThrows_marked (b := c) (by omega) (by omega) guidmark (List.range 8) 0 with
      ⟨guid, d, hrest, hstorage', hmoved', hinside'⟩ | ⟨pos, esize, d, hrest, hstorage', hthrows⟩
    · exact .inl ⟨UInt64.ofNat guid, d, bind_ok hrest _, hstorage'.trans hstorage, by omega, by omega⟩
    · rw [hsame] at hrest hthrows
      exact .inr ⟨pos, esize, d, bind_error hrest _, hstorage'.trans hstorage, hthrows⟩
  · exact .inr ⟨pos, esize, c, bind_error hrun _, hthrows⟩

theorem takesOrThrows_read (hpos : b.rpos + 8 < 2 ^ 64) (type : ValueType)
    (text : List UInt8) (hend : type = .string → b.rpos < b.size) : TakesOrThrows b ((type.read text).run b) := by
  have hnumber : ∀ {γ : Type} (width : Nat) (make : Nat → γ) (wrap : γ → Value), 0 < width → width ≤ 8 →
      TakesOrThrows b (((do return make (← readNext width)) >>= fun value => pure (wrap value) : Call Value).run b) := by
    intro γ width make wrap hwidth hle
    have hnext : TakesOrThrows b ((do return make (← readNext width) : Call γ).run b) :=
      (takesOrThrows_readNext hwidth (by omega)).map make
    exact hnext.map wrap
  cases type with
  | uint8 => exact hnumber 1 _ _ (by omega) (by omega)
  | uint16 => exact hnumber 2 _ _ (by omega) (by omega)
  | uint32 => exact hnumber 4 _ _ (by omega) (by omega)
  | uint64 => exact hnumber 8 _ _ (by omega) (by omega)
  | int8 => exact hnumber 1 _ _ (by omega) (by omega)
  | int16 => exact hnumber 2 _ _ (by omega) (by omega)
  | int32 => exact hnumber 4 _ _ (by omega) (by omega)
  | int64 => exact hnumber 8 _ _ (by omega) (by omega)
  | string => exact (takesOrThrows_readString hsize (hend rfl) text).map _
  | packGUID => exact (takesOrThrows_readPackGUID hsize hpos).map _

end

end

def RoundTrips (values : List Value) : Prop :=
  ∃ b c, (writeAll values).run empty = .ok () b ∧ (readAll (values.map Value.type)).run b = .ok values c ∧
    c.rpos = c.size

theorem roundTrips_of_fits {values : List Value} (hvalues : ∀ value ∈ values, value.WellFormed)
    (h : Fits 0 (values.flatMap Value.runs)) : RoundTrips values := by
  have hruns : ∀ value : Value, value.WellFormed → ∀ run ∈ value.runs, run.length < 2 ^ 63 := by
    intro value hvalue run hrun
    cases value with
    | string text =>
      rcases mem_cons.mp hrun with rfl | hrun
      · exact hvalue.2
      · simp [mem_singleton.mp hrun]
    | packGUID guid =>
      have hlength := length_nonzero_le (toBytes 8 guid.toNat)
      rw [length_toBytes] at hlength
      rw [mem_singleton.mp hrun, length_cons]
      omega
    | _ => simp [mem_singleton.mp hrun]
  have hlength : ∀ run ∈ values.flatMap Value.runs, run.length < 2 ^ 63 := by
    intro run hrun
    obtain ⟨value, hvalue, hmem⟩ := mem_flatMap.mp hrun
    exact hruns value (hvalues value hvalue) run hmem
  have hsize := h.size_lt hlength (by omega)
  have hwritten := appendRuns_ok (b := empty) rfl h
  rw [← writeAll_eq] at hwritten
  have hall : (empty.extend (values.flatMap Value.runs).flatten).size = (values.flatMap Value.runs).flatten.length := by
    rw [size_extend]
    exact Nat.zero_add _
  have hread := readAll_ok (b := empty.extend (values.flatMap Value.runs).flatten) hvalues
    (by omega) (append_nil _).symm
  refine ⟨_, _, hwritten, hread, ?_⟩
  rw [seek_size, hall]
  exact Nat.zero_add _

-- The packets' codec. What does not pass the assertion stops there; a position
-- whose sum wraps around is left out.
theorem codec :
    (∀ values : List Value, (∀ value ∈ values, value.WellFormed) →
      (Fits 0 (values.flatMap Value.runs) → RoundTrips values) ∧
      (¬Fits 0 (values.flatMap Value.runs) → ∃ c, (writeAll values).run empty = .error .assertion c)) ∧
    (∀ (type : ValueType) (text : List UInt8) (b : ByteBuffer), b.size < 2 ^ 63 → b.rpos + 8 < 2 ^ 64 →
      TakesOrThrows b ((type.read text).run b) ∨
        type = .string ∧ b.size ≤ b.rpos ∧ (type.read text).run b = .ok (.string text) b) ∧
    (∀ (pos width : Nat) (b : ByteBuffer), pos + width < 2 ^ 64 →
      (pos + width ≤ b.size ∧ ∃ value, (readAt pos width).run b = .ok value b) ∨ Throws b ((readAt pos width).run b)) ∧
    ∀ (len : Nat) (b : ByteBuffer), b.rpos + len < 2 ^ 64 →
      (b.rpos + len ≤ b.size ∧ ∃ bytes, (readBytes len).run b = .ok bytes (b.seek (b.rpos + len))) ∨
        Throws b ((readBytes len).run b) := by
  refine ⟨fun values hvalues => ⟨roundTrips_of_fits hvalues, fun hout => ?_⟩, fun type text b hsize hpos => ?_,
    fun pos width b hpos => ?_, fun len b hpos => ?_⟩
  · rw [writeAll_eq]
    exact appendRuns_error rfl hout
  · by_cases hend : type = .string ∧ b.size ≤ b.rpos
    · obtain ⟨rfl, hend⟩ := hend
      exact .inr ⟨rfl, hend, bind_ok (readString_end hend text) _⟩
    · refine .inl (takesOrThrows_read (by omega) hpos type text fun hstring => ?_)
      exact not_le.mp fun hle => hend ⟨hstring, hle⟩
  · rw [readAt_eq hpos]
    split_ifs with hle
    · exact .inl ⟨hle, _, rfl⟩
    · exact .inr ⟨_, _, _, rfl, rfl, not_le.mp hle⟩
  · rw [readBytes_eq hpos]
    split_ifs with hle
    · exact .inl ⟨hle, _, rfl⟩
    · exact .inr ⟨_, _, _, rfl, rfl, not_le.mp hle⟩

-- A name, a guid with two bytes and a number behind each other
def fewValues : List Value := [.string [84, 111, 109], .packGUID 0x100000002, .uint16 513]

theorem codec_fewValues : RoundTrips fewValues ∧ Throws ⟨0, 0, [7, 7, 7]⟩ ((readAt 0 4).run ⟨0, 0, [7, 7, 7]⟩) := by
  have hvalues : ∀ value ∈ fewValues, value.WellFormed := by
    simp [fewValues, Value.WellFormed]
  have hfits : Fits 0 (fewValues.flatMap Value.runs) := by
    simp [fewValues, Value.runs, Fits, nonzero, toBytes]
  refine ⟨(codec.1 fewValues hvalues).1 hfits, ?_⟩
  refine (codec.2.2.1 0 4 ⟨0, 0, [7, 7, 7]⟩ (by omega)).resolve_left fun hread => ?_
  exact absurd hread.1 (by decide)

-- A string of ten million bytes is never closed, and a string is read from
-- nothing.
theorem not_codec : (¬∀ values : List Value, (∀ value ∈ values, value.WellFormed) → RoundTrips values) ∧
    ¬∀ (type : ValueType) (text : List UInt8) (b : ByteBuffer), b.size < 2 ^ 63 → b.rpos + 8 < 2 ^ 64 →
      TakesOrThrows b ((type.read text).run b) := by
  constructor
  · intro hall
    have hvalue : (Value.string (List.replicate 10000000 65)).WellFormed := by
      refine ⟨fun hzero => absurd (List.eq_of_mem_replicate hzero) (by decide), ?_⟩
      rw [List.length_replicate]
      omega
    obtain ⟨b, -, hwritten, -⟩ := hall [.string (List.replicate 10000000 65)] (List.forall_mem_singleton.mpr hvalue)
    have hout : ¬Fits 0 [List.replicate 10000000 65, [0]] := by
      rintro ⟨-, hclosing | hlow, -⟩
      · cases hclosing
      · rw [List.length_replicate] at hlow
        omega
    obtain ⟨c, hc⟩ := appendRuns_error (b := empty) rfl hout
    rw [writeAll_eq] at hwritten
    have hruns : [Value.string (List.replicate 10000000 65)].flatMap Value.runs = [List.replicate 10000000 65, [0]] := by
      rw [List.flatMap_singleton]
      rfl
    rw [hruns, hc] at hwritten
    cases hwritten
  · intro hall
    have hread : (ValueType.string.read []).run empty = .ok (.string []) empty := bind_ok (readString_end (le_refl 0) []) _
    have hempty := hall .string [] empty (by decide) (by decide)
    rw [hread] at hempty
    rcases hempty with ⟨_, _, heq, _, hmoved, _⟩ | ⟨_, _, _, heq, _⟩
    · cases heq
      exact absurd hmoved (Nat.lt_irrefl 0)
    · cases heq

end TurtleWow.Shared

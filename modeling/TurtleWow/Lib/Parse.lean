import TurtleWow.Lib.Bytes

namespace TurtleWow.Parse

open Bytes List

-- Reading values from bytes, one after another. `Reads` says that a reader takes
-- just these bytes, whatever follows them.

abbrev Reader (α : Type) := StateT (List UInt8) Option α

def number (width : Nat) : Reader Nat := fun bytes =>
  if width ≤ bytes.length then some (ofBytes (bytes.take width), bytes.drop width) else none

def uint8 : Reader UInt8 := return UInt8.ofNat (← number 1)

def uint16 : Reader UInt16 := return UInt16.ofNat (← number 2)

def uint32 : Reader UInt32 := return UInt32.ofNat (← number 4)

def uint64 : Reader UInt64 := return UInt64.ofNat (← number 8)

-- Up to the first zero
def text : Reader (List UInt8)
  | [] => none
  | byte :: rest => if byte = 0 then some ([], rest) else (text rest).map fun result => (byte :: result.1, result.2)

def many {α : Type} (reader : Reader α) : Nat → Reader (List α)
  | 0 => return []
  | n + 1 => return (← reader) :: (← many reader n)

-- The packed form of a number, by its mask
def unmask : Nat → Nat → Reader (List UInt8)
  | 0, _ => return []
  | width + 1, mask => do
      let byte ← if mask % 2 = 1 then uint8 else pure 0
      return byte :: (← unmask width (mask / 2))

def packed (width : Nat) : Reader Nat := do
  let mask ← uint8
  return ofBytes (← unmask width mask.toNat)

-- All of the bytes
def whole {α : Type} (reader : Reader α) (bytes : List UInt8) : Option α :=
  match reader.run bytes with
  | some (a, []) => some a
  | _ => none

def Reads {α : Type} (reader : Reader α) (bytes : List UInt8) (a : α) : Prop :=
  ∀ rest, reader.run (bytes ++ rest) = some (a, rest)

-- What a reader gives comes from the bytes it takes alone.
def Local {α : Type} (reader : Reader α) : Prop :=
  ∀ bytes a rest, reader.run bytes = some (a, rest) → ∃ used, bytes = used ++ rest ∧ Reads reader used a

-- What holds of everything a reader takes
def Yields {α : Type} (reader : Reader α) (post : α → Prop) : Prop :=
  ∀ bytes a rest, reader.run bytes = some (a, rest) → post a

section

variable {α β γ : Type} {reader : Reader α} {next : α → Reader β} {first second : List UInt8} {a : α} {b : β}

theorem reads_pure (a : α) : Reads (pure a : Reader α) [] a := fun _ => rfl

theorem Reads.bind (h : Reads reader first a) (h' : Reads (next a) second b) :
    Reads (reader >>= next) (first ++ second) b := by
  intro rest
  rw [StateT.run_bind, append_assoc, h (second ++ rest)]
  exact h' rest

theorem Reads.map (h : Reads reader first a) (f : α → β) : Reads (return f (← reader)) first (f a) := by
  intro rest
  rw [StateT.run_bind, h rest]
  rfl

theorem Reads.whole (h : Reads reader first a) : whole reader first = some a := by
  have hrun := h []
  rw [append_nil] at hrun
  rw [Parse.whole, hrun]

theorem reads_number {width n : Nat} (h : n < 256 ^ width) : Reads (number width) (toBytes width n) n := by
  intro rest
  have hlength : width ≤ (toBytes width n ++ rest).length := by simp
  change (if _ then _ else _) = _
  rw [if_pos hlength, take_left' (length_toBytes width n), drop_left' (length_toBytes width n), ofBytes_toBytes h]

theorem reads_uint8 (n : UInt8) : Reads uint8 (toBytes 1 n.toNat) n := by
  have hread := (reads_number (show n.toNat < 256 ^ 1 from n.toNat_lt)).map UInt8.ofNat
  rwa [UInt8.ofNat_toNat] at hread

theorem reads_uint16 (n : UInt16) : Reads uint16 (toBytes 2 n.toNat) n := by
  have hread := (reads_number (show n.toNat < 256 ^ 2 from n.toNat_lt)).map UInt16.ofNat
  rwa [UInt16.ofNat_toNat] at hread

theorem reads_uint32 (n : UInt32) : Reads uint32 (toBytes 4 n.toNat) n := by
  have hread := (reads_number (show n.toNat < 256 ^ 4 from n.toNat_lt)).map UInt32.ofNat
  rwa [UInt32.ofNat_toNat] at hread

theorem reads_uint64 (n : UInt64) : Reads uint64 (toBytes 8 n.toNat) n := by
  have hread := (reads_number (show n.toNat < 256 ^ 8 from n.toNat_lt)).map UInt64.ofNat
  rwa [UInt64.ofNat_toNat] at hread

theorem reads_byte (byte : UInt8) : Reads uint8 [byte] byte := by
  have hread := reads_uint8 byte
  rwa [show toBytes 1 byte.toNat = [byte] by simp [toBytes]] at hread

theorem reads_unmask (bytes : List UInt8) : Reads (unmask bytes.length (mask bytes)) (nonzero bytes) bytes := by
  induction bytes with
  | nil => exact reads_pure []
  | cons byte rest ih =>
    have htail := ih.map fun bytes => byte :: bytes
    rw [length_cons, unmask, nonzero_cons, mask]
    by_cases hzero : byte = 0
    · have hhalf : (0 + 2 * mask rest) / 2 = mask rest := by omega
      rw [if_pos hzero, if_pos hzero, if_neg (by omega), hhalf, pure_bind, ← hzero]
      exact htail
    · have hhalf : (1 + 2 * mask rest) / 2 = mask rest := by omega
      rw [if_neg hzero, if_neg hzero, if_pos (by omega), hhalf]
      exact (reads_byte byte).bind htail

theorem reads_packed {n : Nat} (h : n < 256 ^ 8) :
    Reads (packed 8) (UInt8.ofNat (mask (toBytes 8 n)) :: nonzero (toBytes 8 n)) n := by
  have hmask := mask_lt (toBytes 8 n)
  rw [length_toBytes] at hmask
  have hread := reads_unmask (toBytes 8 n)
  rw [length_toBytes] at hread
  have hnumber := hread.map ofBytes
  rw [ofBytes_toBytes h] at hnumber
  refine (reads_byte (UInt8.ofNat (mask (toBytes 8 n)))).bind ?_
  rw [UInt8.toNat_ofNat_of_lt' hmask]
  exact hnumber

theorem reads_text {t : List UInt8} (h : 0 ∉ t) : Reads text (t ++ [0]) t := by
  intro rest
  induction t with
  | nil => rfl
  | cons byte t ih =>
    obtain ⟨hbyte, ht⟩ := not_or.mp (mem_cons.not.mp h)
    have hrest : text (t ++ [0] ++ rest) = some (t, rest) := ih ht
    change (if byte = 0 then _ else _) = _
    rw [if_neg (Ne.symm hbyte)]
    simp only [append_eq, hrest, Option.map_some]

theorem reads_many (write : γ → List UInt8) (value : γ → α) (xs : List γ) (h : ∀ x ∈ xs, Reads reader (write x) (value x)) :
    Reads (many reader xs.length) (xs.flatMap write) (xs.map value) := by
  induction xs with
  | nil => exact reads_pure []
  | cons x xs ih =>
    obtain ⟨hx, hxs⟩ := forall_mem_cons.mp h
    exact hx.bind ((ih hxs).map fun values => value x :: values)

theorem yields_pure {post : α → Prop} (h : post a) : Yields (pure a : Reader α) post := by
  rintro bytes _ rest heq
  cases heq
  exact h

theorem Yields.bind {before : α → Prop} {post : β → Prop} (h : Yields reader before)
    (h' : ∀ a, before a → Yields (next a) post) : Yields (reader >>= next) post := by
  intro bytes b rest hrun
  rw [StateT.run_bind] at hrun
  obtain ⟨result, hreader, hnext⟩ := Option.bind_eq_some_iff.mp hrun
  exact h' result.1 (h bytes result.1 result.2 hreader) result.2 b rest hnext

theorem Yields.after {post : β → Prop} (h : ∀ a, Yields (next a) post) : Yields (reader >>= next) post := by
  have htrue : Yields reader fun _ => True := fun _ _ _ _ => trivial
  exact htrue.bind fun a _ => h a

theorem Yields.many {post : α → Prop} (h : Yields reader post) (n : Nat) : Yields (many reader n) fun xs => ∀ x ∈ xs, post x := by
  induction n with
  | zero => exact yields_pure fun _ hx => absurd hx not_mem_nil
  | succ n ih =>
    exact h.bind fun x hx => ih.bind fun xs hxs => yields_pure (forall_mem_cons.mpr ⟨hx, hxs⟩)

variable {bytes : List UInt8}

theorem Yields.whole {post : α → Prop} (h : Yields reader post) (hwhole : Parse.whole reader bytes = some a) :
    post a := by
  unfold Parse.whole at hwhole
  split at hwhole
  · rename_i found hrun
    obtain rfl := Option.some.inj hwhole
    exact h bytes found [] hrun
  · simp at hwhole

theorem Reads.run (h : Reads reader first a) : reader.run first = some (a, []) := by
  have hrun := h []
  rwa [append_nil] at hrun

theorem Reads.inj {a' : α} (h : Reads reader first a) (h' : Reads reader second a') {rest rest' : List UInt8}
    (heq : first ++ rest = second ++ rest') : a = a' ∧ rest = rest' := by
  have hrun := h rest
  rw [heq, h' rest'] at hrun
  cases hrun
  exact ⟨rfl, rfl⟩

theorem local_pure (a : α) : Local (pure a : Reader α) := by
  rintro bytes _ rest heq
  cases heq
  exact ⟨[], rfl, reads_pure a⟩

theorem Local.bind (h : Local reader) (h' : ∀ a, Local (next a)) : Local (reader >>= next) := by
  intro bytes b rest hrun
  rw [StateT.run_bind] at hrun
  obtain ⟨⟨a, mid⟩, hreader, hnext⟩ := Option.bind_eq_some_iff.mp hrun
  obtain ⟨used, rfl, hused⟩ := h bytes a mid hreader
  obtain ⟨after, rfl, hafter⟩ := h' a mid b rest hnext
  exact ⟨used ++ after, (append_assoc ..).symm, hused.bind hafter⟩

theorem Local.map (h : Local reader) (f : α → β) : Local (return f (← reader)) := h.bind fun a => local_pure (f a)

theorem local_number (width : Nat) : Local (number width) := by
  intro bytes n rest hrun
  change (if _ then _ else _) = _ at hrun
  split_ifs at hrun with hlength
  cases hrun
  refine ⟨bytes.take width, (take_append_drop width bytes).symm, fun rest => ?_⟩
  have htake : (bytes.take width).length = width := length_take_of_le hlength
  change (if _ then _ else _) = _
  rw [if_pos (by simp [htake]), take_left' htake, drop_left' htake]

theorem local_uint8 : Local uint8 := (local_number 1).map _

theorem local_uint32 : Local uint32 := (local_number 4).map _

theorem unmask_succ (width mask : Nat) : unmask (width + 1) mask =
    (if mask % 2 = 1 then uint8 else pure 0) >>= fun byte => return byte :: (← unmask width (mask / 2)) := by
  rw [unmask]
  split_ifs <;> rfl

theorem local_unmask (width mask : Nat) : Local (unmask width mask) := by
  induction width generalizing mask with
  | zero => exact local_pure []
  | succ width ih =>
    rw [unmask_succ]
    refine Local.bind ?_ fun byte => (ih (mask / 2)).map _
    split_ifs
    · exact local_uint8
    · exact local_pure 0

theorem local_packed (width : Nat) : Local (packed width) := local_uint8.bind fun mask => (local_unmask width mask.toNat).map _

theorem local_text : Local text := by
  intro bytes t rest hrun
  induction bytes generalizing t with
  | nil => cases hrun
  | cons byte bytes ih =>
    change (if byte = 0 then _ else _) = _ at hrun
    split_ifs at hrun with hzero
    · cases hrun
      exact ⟨[0], by rw [hzero]; rfl, reads_text not_mem_nil⟩
    · obtain ⟨⟨t', rest'⟩, htext, heq⟩ := Option.map_eq_some_iff.mp hrun
      cases heq
      obtain ⟨used, hused, hreads⟩ := ih t' htext
      refine ⟨byte :: used, by rw [hused]; rfl, fun after => ?_⟩
      have hafter : text (used ++ after) = some (t', after) := hreads after
      change (if byte = 0 then _ else _) = _
      rw [if_neg hzero]
      simp only [append_eq, hafter, Option.map_some]

theorem eq_of_reads_text {t : List UInt8} (h : Reads text bytes t) : 0 ∉ t ∧ bytes = t ++ [0] := by
  have hrun : text bytes = some (t, []) := h.run
  clear h
  induction bytes generalizing t with
  | nil => cases hrun
  | cons byte bytes ih =>
    change (if byte = 0 then _ else _) = _ at hrun
    split_ifs at hrun with hzero
    · cases hrun
      exact ⟨not_mem_nil, by rw [hzero]; rfl⟩
    · obtain ⟨⟨t', rest'⟩, htext, heq⟩ := Option.map_eq_some_iff.mp hrun
      cases heq
      obtain ⟨hnot, rfl⟩ := ih htext
      exact ⟨by simp [hnot, Ne.symm hzero], rfl⟩

theorem eq_of_reads_number {width n : Nat} (h : Reads (number width) bytes n) :
    n < 256 ^ width ∧ bytes = toBytes width n := by
  have hrun := h.run
  change (if _ then _ else _) = _ at hrun
  split_ifs at hrun with hlength
  obtain ⟨hn, hrest⟩ := Prod.mk.inj (Option.some.inj hrun)
  have hwidth : bytes.length = width := le_antisymm (drop_eq_nil_iff.mp hrest) hlength
  rw [take_of_length_le hwidth.le] at hn
  subst hn hwidth
  exact ⟨ofBytes_lt bytes, (toBytes_ofBytes bytes).symm⟩

theorem eq_of_reads_uint8 {byte : UInt8} (h : Reads uint8 bytes byte) : bytes = [byte] := by
  have hrun := h.run
  rw [uint8, StateT.run_bind] at hrun
  obtain ⟨⟨n, rest⟩, hnumber, heq⟩ := Option.bind_eq_some_iff.mp hrun
  cases heq
  obtain ⟨used, hused, hreads⟩ := local_number 1 bytes n [] hnumber
  obtain ⟨hn, hbytes⟩ := eq_of_reads_number hreads
  rw [hused, hbytes]
  simp only [toBytes, append_nil, List.cons.injEq, and_true]
  rw [Nat.mod_eq_of_lt (by simpa using hn)]

theorem eq_of_reads_uint32 {n : UInt32} (h : Reads uint32 bytes n) : bytes = toBytes 4 n.toNat := by
  have hrun := h.run
  rw [uint32, StateT.run_bind] at hrun
  obtain ⟨⟨number, rest⟩, hnumber, heq⟩ := Option.bind_eq_some_iff.mp hrun
  cases heq
  obtain ⟨used, rfl, hreads⟩ := local_number 4 bytes number [] hnumber
  obtain ⟨hn, rfl⟩ := eq_of_reads_number hreads
  rw [UInt32.toNat_ofNat_of_lt' hn, append_nil]

theorem unmask_used {width mask : Nat} {used : List UInt8} (h : Reads (unmask width mask) used bytes) :
    bytes.length = width ∧ nonzero used = nonzero bytes ∧ (0 ∉ used → Bytes.mask bytes = mask % 2 ^ width) := by
  have hrun := h.run
  clear h
  induction width generalizing mask used bytes with
  | zero =>
    cases hrun
    simp [Bytes.mask, Nat.mod_one]
  | succ width ih =>
    rw [unmask_succ, StateT.run_bind] at hrun
    obtain ⟨⟨byte, mid⟩, hbyte, hnext⟩ := Option.bind_eq_some_iff.mp hrun
    obtain ⟨⟨rest, after⟩, hrest, heq⟩ := Option.bind_eq_some_iff.mp hnext
    cases heq
    obtain ⟨hlength, hnonzero, hmask⟩ := ih hrest
    by_cases hodd : mask % 2 = 1
    · rw [if_pos hodd] at hbyte
      obtain ⟨taken, rfl, htaken⟩ := local_uint8 used byte mid hbyte
      obtain rfl := eq_of_reads_uint8 htaken
      refine ⟨by simp [hlength], ?_, fun hzero => ?_⟩
      · rw [singleton_append, nonzero_cons, nonzero_cons, hnonzero]
      · obtain ⟨hfirst, hlater⟩ := not_or.mp (mem_cons.not.mp hzero)
        rw [Bytes.mask, if_neg (Ne.symm hfirst), hmask hlater, Nat.pow_succ', Nat.mod_mul]
        omega
    · rw [if_neg hodd] at hbyte
      cases hbyte
      refine ⟨by simp [hlength], ?_, fun hzero => ?_⟩
      · rw [nonzero_cons, if_pos rfl, hnonzero]
      · rw [Bytes.mask, if_pos rfl, hmask hzero, Nat.pow_succ', Nat.mod_mul]
        omega

end

end TurtleWow.Parse

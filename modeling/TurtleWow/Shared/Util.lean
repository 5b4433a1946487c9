import Mathlib.Data.List.Basic
import TurtleWow.Lib.Bytes

namespace TurtleWow.Util

abbrev Text := List Char

-- Tokens end at a separator. A last token that is empty is dropped, and the
-- third constructor argument of the source only reserves memory.
def tokenizer (sep : Char) : Text → Text → List Text
  | [], token => if token = [] then [] else [token.reverse]
  | c :: rest, token =>
    if c = sep then token.reverse :: tokenizer sep rest []
    else tokenizer sep rest (c :: token)

def tokens (src : Text) (sep : Char) : List Text := tokenizer sep src []

def strstr : Text → Text → Bool
  | [], needle => needle.isEmpty
  | c :: rest, needle => needle.isPrefixOf (c :: rest) || strstr rest needle

def isSpace (c : Char) : Bool :=
  c = ' ' || c = '\t' || c = '\n' || c = '\x0b' || c = '\x0c' || c = '\r'

def digit (c : Char) : Option Nat :=
  if '0' ≤ c ∧ c ≤ '9' then some (c.toNat - '0'.toNat) else none

-- The digits at the front of a text, most significant first.
def digits : Text → List Nat
  | [] => []
  | c :: rest =>
    match digit c with
    | some d => d :: digits rest
    | none => []

def ofDigits (ds : List Nat) : Nat := ds.foldl (fun acc d => acc * 10 + d) 0

-- Sign and digits of a number after leading white space.
def scanNumber (text : Text) : Bool × List Nat :=
  match text.dropWhile isSpace with
  | '-' :: rest => (true, digits rest)
  | '+' :: rest => (false, digits rest)
  | rest => (false, digits rest)

-- strtol: saturates at the bounds of a 64-bit long.
def strtol (text : Text) : Int :=
  match scanNumber text with
  | (true, ds) => max (-(ofDigits ds : Int)) (-9223372036854775808)
  | (false, ds) => min (ofDigits ds : Int) 9223372036854775807

def atoi (text : Text) : Int := Word.i32 (strtol text)

-- strtoul: `none` where the source sees `end == text`, that is, no digits.
-- A magnitude beyond 64 bits gives the maximum, a minus sign negates modulo 2^64.
def strtoul (text : Text) : Option Nat :=
  match scanNumber text with
  | (_, []) => none
  | (negative, ds) =>
    if 18446744073709551616 ≤ ofDigits ds then some 18446744073709551615
    else if negative then some ((18446744073709551616 - ofDigits ds) % 18446744073709551616)
    else some (ofDigits ds)

def atoiU8 (text : Text) : Nat := Word.toU8 (atoi text)

def atoiU32 (text : Text) : Nat := Word.toU32 (atoi text)

theorem atoiU8_lt (text : Text) : atoiU8 text < 256 := Word.toU8_lt _

def showNat (n : Nat) : Text := (toString n).toList

def showInt (z : Int) : Text := (toString z).toList

-- A number that is written out is read back.

theorem isDigit_of_mem_showNat {n : Nat} {c : Char} (h : c ∈ showNat n) : c.isDigit := by
  rw [showNat, Nat.toString_eq_repr, Nat.toList_repr] at h
  exact Nat.isDigit_of_mem_toDigits (by decide) (by decide) h

theorem digit_of_isDigit {c : Char} (h : c.isDigit) : digit c = some (c.toNat - '0'.toNat) := by
  have hbounds : 48 ≤ c.val ∧ c.val ≤ 57 := by simpa [Char.isDigit] using h
  exact if_pos hbounds

theorem not_isSpace_of_isDigit {c : Char} (h : c.isDigit) : isSpace c = false := by
  by_contra hspace
  simp only [isSpace, Bool.not_eq_false, Bool.or_eq_true, decide_eq_true_eq] at hspace
  rcases hspace with ((((rfl | rfl) | rfl) | rfl) | rfl) | rfl <;> revert h <;> decide

theorem ofDigits_digits {text : Text} (h : ∀ c ∈ text, c.isDigit) : ofDigits (digits text) = Nat.ofDigitChars 10 text 0 := by
  have hmap : digits text = text.map fun c => c.toNat - '0'.toNat := by
    induction text with
    | nil => rfl
    | cons c rest ih =>
      obtain ⟨hc, hrest⟩ := List.forall_mem_cons.mp h
      simp [digits, digit_of_isDigit hc, ih hrest]
  rw [hmap, ofDigits, List.foldl_map, Nat.ofDigitChars_eq_foldl]
  simp [Nat.mul_comm]

theorem scanNumber_of_isDigit {text : Text} (h : ∀ c ∈ text, c.isDigit) : scanNumber text = (false, digits text) := by
  cases text with
  | nil => rfl
  | cons c rest =>
    have hc := (List.forall_mem_cons.mp h).1
    have hsigns : c ≠ '-' ∧ c ≠ '+' := by
      constructor <;> rintro rfl <;> revert hc <;> decide
    rw [scanNumber, List.dropWhile_cons_of_neg (by simp [not_isSpace_of_isDigit hc])]
    split
    · rename_i heq
      exact absurd (List.cons.inj heq).1 hsigns.1
    · rename_i heq
      exact absurd (List.cons.inj heq).1 hsigns.2
    · rfl

theorem strtoul_showNat {n : Nat} (h : n < 18446744073709551616) : strtoul (showNat n) = some n := by
  have hall : ∀ c ∈ showNat n, c.isDigit := fun c hc => isDigit_of_mem_showNat hc
  have htext : showNat n = Nat.toDigits 10 n := by
    rw [showNat, Nat.toString_eq_repr, Nat.toList_repr]
  have hvalue : ofDigits (digits (showNat n)) = n := by
    rw [ofDigits_digits hall, htext, Nat.ofDigitChars_ten_toDigits]
  have hsome : digits (showNat n) ≠ [] := by
    intro hnone
    obtain ⟨c, rest, hcons⟩ := List.exists_cons_of_ne_nil (htext ▸ Nat.toDigits_ne_nil : showNat n ≠ [])
    rw [hcons, digits, digit_of_isDigit (hall c (by simp [hcons]))] at hnone
    cases hnone
  rw [strtoul, scanNumber_of_isDigit hall]
  split
  · rename_i heq
    exact absurd (Prod.mk.inj heq).2 hsome
  · rename_i heq
    cases heq
    rw [hvalue, if_neg (by omega)]
    simp

example : tokens "DepositItem:0:1:".toList ':' =
    ["DepositItem".toList, "0".toList, "1".toList] := by decide

example : (atoiU8 "-1".toList, atoiU8 " 300x".toList, strtoul "x".toList) = (255, 44, none) := by decide

end TurtleWow.Util

import Mathlib.Data.List.DropRight
import TurtleWow.Lib.Bytes
import TurtleWow.Realmd.AuthSocket

namespace TurtleWow.Realmd

open Bytes

-- The bytes of a BigNumber have the length of the number. It is that of the bytes
-- it was made of when the last of them is not zero.

def Full (bytes : List UInt8) : Prop := bytes.getLast? ≠ some 0

instance (bytes : List UInt8) : Decidable (Full bytes) := inferInstanceAs (Decidable (_ ≠ _))

-- A digest that only tells odd lengths from even ones
def parityDigest (bytes : List UInt8) : List UInt8 := List.replicate 20 (if bytes.length % 2 = 0 then 1 else 2)

theorem length_parityDigest (bytes : List UInt8) : (parityDigest bytes).length = 20 := List.length_replicate

theorem full_parityDigest (bytes : List UInt8) : Full (parityDigest bytes) := by
  unfold parityDigest
  split_ifs <;> decide

namespace AuthSocket

variable {bytes first second : List UInt8}

theorem asByteArray_starts (bytes : List UInt8) : asByteArray bytes <+: bytes := List.rdropWhile_prefix _ _

theorem asByteArray_eq_iff : asByteArray bytes = bytes ↔ Full bytes := by
  have hdrop : asByteArray bytes = bytes.rdropWhile fun byte => byte = 0 := rfl
  rw [hdrop, List.rdropWhile_eq_self_iff]
  unfold Full
  rcases List.eq_nil_or_concat bytes with rfl | ⟨front, last, rfl⟩
  · simp
  · simp

theorem length_asByteArray_le (bytes : List UInt8) : (asByteArray bytes).length ≤ bytes.length :=
  (asByteArray_starts bytes).length_le

theorem full_of_length (h : bytes.length ≤ (asByteArray bytes).length) : Full bytes :=
  asByteArray_eq_iff.mp ((asByteArray_starts bytes).eq_of_length_le h)

theorem ofBytes_eq (bytes : List UInt8) : ofBytes bytes = Bytes.ofBytes bytes := by
  induction bytes with
  | nil => rfl
  | cons byte rest ih =>
    unfold ofBytes at ih ⊢
    rw [List.foldr_cons, ih, Bytes.ofBytes]

theorem ofBytes_inj (hlength : first.length = second.length) : ofBytes first = ofBytes second ↔ first = second := by
  constructor
  · rw [ofBytes_eq, ofBytes_eq]
    intro heq
    induction first generalizing second with
    | nil => exact (List.length_eq_zero_iff.mp hlength.symm).symm
    | cons byte rest ih =>
      cases second with
      | nil => cases hlength
      | cons other tail =>
        rw [Bytes.ofBytes, Bytes.ofBytes] at heq
        have hbyte := byte.toNat_lt
        have hother := other.toNat_lt
        have hhead : byte.toNat = other.toNat := by omega
        rw [UInt8.toNat_inj.mp hhead, ih (Nat.succ.inj hlength) (by omega)]
  · rintro rfl
    rfl

end AuthSocket

end TurtleWow.Realmd

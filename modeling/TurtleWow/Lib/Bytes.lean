import Mathlib.Algebra.Order.Ring.Int
import Mathlib.Data.Int.Init
import Mathlib.Data.Nat.Bitwise
import Mathlib.Tactic.Ring
import Mathlib.Tactic.SplitIfs

namespace TurtleWow.Bytes

open List

-- Numbers as bytes, lowest first, and the packed form: the bytes that are not
-- zero, and a mask that says where they stand.

def toBytes : Nat → Nat → List UInt8
  | 0, _ => []
  | width + 1, n => UInt8.ofNat (n % 256) :: toBytes width (n / 256)

def ofBytes : List UInt8 → Nat
  | [] => 0
  | byte :: rest => byte.toNat + 256 * ofBytes rest

def nonzero (bytes : List UInt8) : List UInt8 := bytes.filter fun byte => byte ≠ 0

def mask : List UInt8 → Nat
  | [] => 0
  | byte :: rest => (if byte = 0 then 0 else 1) + 2 * mask rest

-- The packed form
def pack (width n : Nat) : List UInt8 := UInt8.ofNat (mask (toBytes width n)) :: nonzero (toBytes width n)

section

variable {n width i : Nat} {byte : UInt8} {bytes : List UInt8}

@[simp] theorem length_toBytes (width n : Nat) : (toBytes width n).length = width := by
  induction width generalizing n with
  | zero => rfl
  | succ width ih => simp [toBytes, ih]

theorem toNat_ofNat_mod (n : Nat) : (UInt8.ofNat (n % 256)).toNat = n % 256 := by
  simp

theorem ofBytes_toBytes (h : n < 256 ^ width) : ofBytes (toBytes width n) = n := by
  induction width generalizing n with
  | zero =>
    rw [Nat.pow_zero] at h
    simp [toBytes, ofBytes]
    omega
  | succ width ih =>
    have hrest : n / 256 < 256 ^ width := by
      rw [Nat.div_lt_iff_lt_mul (by omega)]
      rwa [Nat.pow_succ] at h
    rw [toBytes, ofBytes, ih hrest, toNat_ofNat_mod]
    omega

theorem ofBytes_lt (bytes : List UInt8) : ofBytes bytes < 256 ^ bytes.length := by
  induction bytes with
  | nil => simp [ofBytes]
  | cons byte rest ih =>
    have hbyte := byte.toNat_lt
    rw [ofBytes, length_cons, Nat.pow_succ]
    omega

section

variable (first second : List UInt8)

theorem ofBytes_append : ofBytes (first ++ second) = ofBytes first + 256 ^ first.length * ofBytes second := by
  induction first with
  | nil => simp [ofBytes]
  | cons byte rest ih =>
    rw [cons_append, ofBytes, ih, ofBytes, length_cons, Nat.pow_succ]
    ring

theorem toBytes_ofBytes (bytes : List UInt8) : toBytes bytes.length (ofBytes bytes) = bytes := by
  induction bytes with
  | nil => rfl
  | cons byte rest ih =>
    have hbyte := byte.toNat_lt
    have hlow : (byte.toNat + 256 * ofBytes rest) % 256 = byte.toNat := by omega
    have hhigh : (byte.toNat + 256 * ofBytes rest) / 256 = ofBytes rest := by omega
    rw [length_cons, ofBytes, toBytes, hlow, hhigh, ih, UInt8.ofNat_toNat]

theorem toBytes_add (width width' n : Nat) : toBytes (width + width') n = toBytes width n ++ toBytes width' (n / 256 ^ width) := by
  induction width generalizing n with
  | zero => simp [toBytes]
  | succ width ih =>
    rw [Nat.add_right_comm, toBytes, ih, toBytes, cons_append, Nat.div_div_eq_div_mul, Nat.pow_succ, Nat.mul_comm 256]

theorem toBytes_mod (width n : Nat) : toBytes width (n % 256 ^ width) = toBytes width n := by
  induction width generalizing n with
  | zero => rfl
  | succ width ih =>
    have hlow : n % 256 ^ (width + 1) % 256 = n % 256 := Nat.mod_mod_of_dvd n (Dvd.intro_left _ (Nat.pow_succ ..).symm)
    have hhigh : n % 256 ^ (width + 1) / 256 = n / 256 % 256 ^ width := by
      rw [Nat.pow_succ', Nat.mod_mul_right_div_self]
    rw [toBytes, hlow, hhigh, ih, toBytes]

@[simp] theorem toBytes_zero (width : Nat) : toBytes width 0 = List.replicate width 0 := by
  induction width with
  | zero => rfl
  | succ width ih => simp [toBytes, ih, replicate_succ]

theorem nonzero_cons (byte : UInt8) (bytes : List UInt8) :
    nonzero (byte :: bytes) = if byte = 0 then nonzero bytes else byte :: nonzero bytes := by
  unfold nonzero
  rw [filter_cons]
  by_cases hzero : byte = 0 <;> simp [hzero]

theorem nonzero_append : nonzero (first ++ second) = nonzero first ++ nonzero second :=
  filter_append ..

@[simp] theorem nonzero_replicate (width : Nat) : nonzero (List.replicate width 0) = [] := by
  simp [nonzero]

theorem zero_notMem_nonzero (bytes : List UInt8) : 0 ∉ nonzero bytes := by simp [nonzero]

theorem nonzero_eq_self (h : 0 ∉ bytes) : nonzero bytes = bytes :=
  filter_eq_self.mpr fun byte hbyte => by
    rw [decide_eq_true_iff]
    rintro rfl
    exact h hbyte

theorem ofBytes_eq_zero (h : nonzero bytes = []) : ofBytes bytes = 0 := by
  induction bytes with
  | nil => rfl
  | cons byte rest ih =>
    rw [nonzero_cons] at h
    split_ifs at h with hzero
    rw [ofBytes, hzero, ih h]
    rfl

theorem nonzero_of_mask (h : mask bytes = 0) : nonzero bytes = [] := by
  induction bytes with
  | nil => rfl
  | cons byte rest ih =>
    rw [mask] at h
    rw [nonzero_cons]
    split_ifs at h ⊢ with hzero
    · exact ih (by omega)
    · omega

theorem length_nonzero_le (bytes : List UInt8) : (nonzero bytes).length ≤ bytes.length := length_filter_le ..

@[simp] theorem mask_replicate (width : Nat) : mask (List.replicate width 0) = 0 := by
  induction width with
  | zero => rfl
  | succ width ih => simp [replicate_succ, mask, ih]

theorem mask_append : mask (first ++ second) = mask first + 2 ^ first.length * mask second := by
  induction first with
  | nil => simp [mask]
  | cons byte rest ih =>
    rw [cons_append, mask, ih, mask, length_cons, Nat.pow_succ]
    ring

end

theorem mask_lt (bytes : List UInt8) : mask bytes < 2 ^ bytes.length := by
  induction bytes with
  | nil => simp [mask]
  | cons byte rest ih =>
    rw [mask, length_cons, Nat.pow_succ]
    split_ifs <;> omega

theorem testBit_mask (first : List UInt8) (byte : UInt8) (rest : List UInt8) :
    (mask (first ++ byte :: rest)).testBit first.length = decide (byte ≠ 0) := by
  induction first with
  | nil =>
    rw [nil_append, mask, length_nil, Nat.testBit_zero]
    by_cases hzero : byte = 0 <;> simp [hzero]
  | cons other first ih =>
    rw [cons_append, mask, length_cons, Nat.testBit_succ]
    have hhalf : ((if other = 0 then 0 else 1) + 2 * mask (first ++ byte :: rest)) / 2 =
        mask (first ++ byte :: rest) := by
      split_ifs <;> omega
    rw [hhalf, ih]

end

end TurtleWow.Bytes

namespace TurtleWow.Word

-- Fixed-width arithmetic over Nat and Int. A value of an unsigned type of
-- width w is a Nat below 2^w; a value of int32 is an Int in [-2^31, 2^31).

def u8 (n : Nat) : Nat := n % 256

def u16 (n : Nat) : Nat := n % 65536

def u32 (n : Nat) : Nat := n % 4294967296

-- Unification must not unfold these two: it would count to 2^32.
@[irreducible] def add32 (a b : Nat) : Nat := (a + b) % 4294967296

@[irreducible] def sub32 (a b : Nat) : Nat := (a + 4294967296 - b) % 4294967296

-- Conversion of any integer to int32, two's complement.
def i32 (z : Int) : Int :=
  if z % 4294967296 < 2147483648 then z % 4294967296 else z % 4294967296 - 4294967296

-- Conversions of a signed value to an unsigned type.
def toU8 (z : Int) : Nat := (z % 256).toNat

def toU32 (z : Int) : Nat := (z % 4294967296).toNat

theorem u8_lt (n : Nat) : u8 n < 256 := Nat.mod_lt _ (by omega)

theorem u8_of_lt {n : Nat} (h : n < 256) : u8 n = n := Nat.mod_eq_of_lt h

@[simp] theorem u8_u8 (n : Nat) : u8 (u8 n) = u8 n := Nat.mod_mod _ _

theorem u32_of_lt {n : Nat} (h : n < 4294967296) : u32 n = n := Nat.mod_eq_of_lt h

theorem toU8_lt (z : Int) : toU8 z < 256 := by
  unfold toU8
  omega

theorem toU32_lt (z : Int) : toU32 z < 4294967296 := by
  unfold toU32
  omega

theorem add32_lt (a b : Nat) : add32 a b < 4294967296 := by
  unfold add32
  exact Nat.mod_lt _ (by omega)

theorem add32_of_lt {a b : Nat} (h : a + b < 4294967296) : add32 a b = a + b := by
  unfold add32
  exact Nat.mod_eq_of_lt h

theorem add32_of_ge {a b : Nat} (ha : a < 4294967296) (hb : b < 4294967296)
    (h : 4294967296 ≤ a + b) : add32 a b = a + b - 4294967296 := by
  unfold add32
  omega

theorem sub32_of_le {a b : Nat} (ha : a < 4294967296) (h : b ≤ a) : sub32 a b = a - b := by
  unfold sub32
  omega

theorem sub32_of_lt {a b : Nat} (hb : b < 4294967296) (h : a < b) :
    sub32 a b = a + 4294967296 - b := by
  unfold sub32
  omega

theorem i32_of_lt {n : Nat} (h : n < 2147483648) : i32 n = n := by
  unfold i32
  split_ifs <;> omega

end TurtleWow.Word

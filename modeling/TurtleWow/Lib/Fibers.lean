import Mathlib.Data.Finset.Card
import Mathlib.Data.Finset.Range
import TurtleWow.Lib.Multimap

namespace TurtleWow.OrderedMap

-- The keys of a map that have a given value, and how many they are.

variable {κ α : Type*} [LinearOrder κ] [DecidableEq α] {m : OrderedMap κ α} {key : κ} {a b : α}

def fiber (m : OrderedMap κ α) (a : α) : Finset κ := m.keys.toFinset.filter fun key => m.find key = some a

@[simp] theorem mem_fiber : key ∈ m.fiber a ↔ m.find key = some a := by
  rw [fiber, Finset.mem_filter, List.mem_toFinset, mem_keys]
  exact ⟨fun h => h.2, fun h => ⟨by rw [h]; exact Option.some_ne_none a, h⟩⟩

theorem card_fiber_insert (h : m.find key ≠ some b) :
    ((m.insert key a).fiber b).card = (m.fiber b).card + if a = b then 1 else 0 := by
  by_cases hvalue : a = b
  · have hfiber : (m.insert key a).fiber b = Insert.insert key (m.fiber b) := by
      ext other
      rw [mem_fiber, find_insert, Finset.mem_insert, mem_fiber]
      by_cases hsame : other = key
      · simp [hsame, hvalue]
      · simp [hsame]
    have hnew : key ∉ m.fiber b := fun hmem => h (mem_fiber.mp hmem)
    rw [hfiber, Finset.card_insert_of_notMem hnew, if_pos hvalue]
  · have hfiber : (m.insert key a).fiber b = m.fiber b := by
      ext other
      rw [mem_fiber, find_insert, mem_fiber]
      by_cases hsame : other = key
      · simp [hsame, hvalue, h]
      · simp [hsame]
    rw [hfiber, if_neg hvalue, Nat.add_zero]

theorem card_fiber_erase (h : m.find key = some a) :
    (m.fiber b).card = ((m.erase key).fiber b).card + if a = b then 1 else 0 := by
  have hback : m.fiber b = ((m.erase key).insert key a).fiber b := by
    ext other
    rw [mem_fiber, mem_fiber, find_insert, find_erase]
    by_cases hsame : other = key
    · simp [hsame, h]
    · simp [hsame]
  rw [hback]
  exact card_fiber_insert (by simp [find_erase])

end TurtleWow.OrderedMap

namespace TurtleWow.Fibers

-- The indices below a bound whose values have a property: an update at one index
-- moves their number by what the old and the new value say.
theorem card_update {α : Type*} (f : Nat → α) (p : α → Prop) [DecidablePred p] {n i : Nat} (hi : i < n) (a : α) :
    ((Finset.range n).filter fun j => p (Function.update f i a j)).card + (if p (f i) then 1 else 0) =
      ((Finset.range n).filter fun j => p (f j)).card + if p a then 1 else 0 := by
  have hmem : i ∈ Finset.range n := Finset.mem_range.mpr hi
  have hrest : ((Finset.range n).erase i).filter (fun j => p (Function.update f i a j)) =
      ((Finset.range n).erase i).filter fun j => p (f j) := by
    refine Finset.filter_congr fun j hj => ?_
    rw [Function.update_of_ne (Finset.ne_of_mem_erase hj)]
  have hsplit : ∀ q : Nat → Prop, [DecidablePred q] → ((Finset.range n).filter q).card =
      (((Finset.range n).erase i).filter q).card + if q i then 1 else 0 := by
    intro q _
    rw [← Finset.insert_erase hmem, Finset.filter_insert, Finset.erase_insert (Finset.notMem_erase i _)]
    split
    · rw [Finset.card_insert_of_notMem]
      simp
    · rfl
  rw [hsplit fun j => p (Function.update f i a j), hsplit fun j => p (f j), hrest, Function.update_self]
  omega

end TurtleWow.Fibers

namespace TurtleWow.Flags

-- A word of flags, and masks of one bit or of several

variable {w : Nat}

def has (flags mask : BitVec w) : Bool := flags &&& mask != 0

def bit (flags : BitVec w) (i : Nat) : Bool := flags.getLsbD i

theorem eq_of_bit {flags other : BitVec w} (h : ∀ i, bit flags i = bit other i) : flags = other :=
  BitVec.eq_of_getLsbD_eq fun i _ => h i

theorem has_twoPow (flags : BitVec w) {i : Nat} (hi : i < w) : has flags (BitVec.twoPow w i) = bit flags i := by
  unfold has bit
  rw [BitVec.and_twoPow]
  cases hbit : flags.getLsbD i with
  | false => simp
  | true =>
    have hne : BitVec.twoPow w i ≠ 0#w := by
      intro hzero
      have hone : (BitVec.twoPow w i).getLsbD i = true := by simp [hi]
      rw [hzero] at hone
      simp at hone
    simpa using hne

theorem has_or (flags first second : BitVec w) : has flags (first ||| second) = (has flags first || has flags second) := by
  have hor : flags &&& (first ||| second) = flags &&& first ||| flags &&& second := by
    ext i hi
    simp [Bool.and_or_distrib_left]
  unfold has
  rw [hor, Bool.eq_iff_iff]
  simp only [bne_iff_ne, Bool.or_eq_true, ne_eq]
  rw [show (flags &&& first ||| flags &&& second = 0 ↔ _) from BitVec.or_eq_zero_iff, not_and_or]
  rfl

theorem bit_set (flags : BitVec w) {i : Nat} (hi : i < w) (j : Nat) :
    bit (flags ||| BitVec.twoPow w i) j = (decide (j = i) || bit flags j) := by
  unfold bit
  rw [BitVec.getLsbD_or, BitVec.getLsbD_twoPow, Bool.or_comm]
  by_cases heq : j = i
  · simp [heq, hi]
  · simp [heq, Ne.symm heq]

theorem bit_clear (flags : BitVec w) {i : Nat} (hi : i < w) (j : Nat) :
    bit (flags &&& ~~~BitVec.twoPow w i) j = (decide (j ≠ i) && bit flags j) := by
  unfold bit
  rw [BitVec.getLsbD_and, BitVec.getLsbD_not, BitVec.getLsbD_twoPow]
  by_cases heq : j = i
  · simp [heq, hi]
  · by_cases hj : j < w
    · simp [heq, Ne.symm heq, hj]
    · simp [BitVec.getLsbD_of_ge flags j (by omega)]

end TurtleWow.Flags

import TurtleWow.Objects.Storage
import TurtleWow.Lib.Run

namespace TurtleWow.Objects

open List

-- The slots of the items a player sold and may buy back.

inductive ItemCall
  | removeFromWorld (guid : UInt64)
  | setRemoved (guid : UInt64)
  deriving DecidableEq

-- `items` are the player's items by slot, an item named by its guid. The
-- update fields have one place for each buyback slot.
structure BuyBack where
  items : Nat → Option UInt64
  currentBuybackSlot : Nat
  vendorBuyback : Nat → UInt64
  price : Nat → UInt32
  timestamp : Nat → UInt32
  logintime : Int

namespace BuyBack

def IsBuybackSlot (slot : Nat) : Prop := buybackSlotStart ≤ slot ∧ slot < buybackSlotEnd

instance (slot : Nat) : Decidable (IsBuybackSlot slot) := inferInstanceAs (Decidable (_ ∧ _))

-- The slots after the first
def scanned : List Nat := List.range' (buybackSlotStart + 1) (buybackSlotEnd - buybackSlotStart - 1)

-- The calls made on the item of the slot come with the state after.
def removeItemFromBuyBackSlot (b : BuyBack) (slot : Nat) (del : Bool) : BuyBack × List ItemCall :=
  if IsBuybackSlot slot then
    let calls := match b.items slot with
      | some item => .removeFromWorld item :: if del then [.setRemoved item] else []
      | none => []
    let items := Function.update b.items slot none
    let eslot := slot - buybackSlotStart
    ({ b with
      items := items,
      vendorBuyback := Function.update b.vendorBuyback eslot 0,
      price := Function.update b.price eslot 0,
      timestamp := Function.update b.timestamp eslot 0,
      currentBuybackSlot := if (items b.currentBuybackSlot).isSome then slot else b.currentBuybackSlot }, calls)
  else (b, [])

-- The loop of `addItemToBuyBackSlot`, for the slot and the oldest slot it
-- ends with
def searchSlot (b : BuyBack) : List Nat → UInt32 → Nat → Nat → Nat × Nat
  | [], _, oldestSlot, slot => (slot, oldestSlot)
  | i :: rest, oldestTime, oldestSlot, slot =>
    if (b.items i).isNone then (i, oldestSlot)
    else if b.timestamp (i - buybackSlotStart) < oldestTime then
      b.searchSlot rest (b.timestamp (i - buybackSlotStart)) i slot
    else b.searchSlot rest oldestTime oldestSlot slot

-- The oldest slot is taken after the loop whether or not it found a free one.
def slotToUse (b : BuyBack) : Nat :=
  let slot := b.currentBuybackSlot
  if (b.items slot).isSome then (b.searchSlot scanned (b.timestamp 0) buybackSlotStart slot).2 else slot

def addItemToBuyBackSlot (b : BuyBack) (item : UInt64) (money : UInt32) (now : Int) : BuyBack × List ItemCall :=
  let slot := b.slotToUse
  let (b, calls) := b.removeItemFromBuyBackSlot slot true
  let etime := UInt32.ofInt (now - b.logintime + 30 * 3600)
  let eslot := slot - buybackSlotStart
  ({ b with
    items := Function.update b.items slot (some item),
    vendorBuyback := Function.update b.vendorBuyback eslot item,
    price := Function.update b.price eslot money,
    timestamp := Function.update b.timestamp eslot etime,
    currentBuybackSlot :=
      if b.currentBuybackSlot < buybackSlotEnd - 1 then b.currentBuybackSlot + 1 else b.currentBuybackSlot }, calls)

-- As the player is made. What the other slots hold is arbitrary.
def initial (others : Nat → Option UInt64) (logintime : Int) : BuyBack where
  items slot := if IsBuybackSlot slot then none else others slot
  currentBuybackSlot := buybackSlotStart
  vendorBuyback _ := 0
  price _ := 0
  timestamp _ := 0
  logintime := logintime

inductive Input
  | add (item : UInt64) (money : UInt32) (now : Int)
  | remove (slot : Nat) (del : Bool)

def call (b : BuyBack) : Input → BuyBack × List ItemCall
  | .add item money now => b.addItemToBuyBackSlot item money now
  | .remove slot del => b.removeItemFromBuyBackSlot slot del

def step (b : BuyBack) (input : Input) : BuyBack := (b.call input).1

def Full (b : BuyBack) : Prop := ∀ slot, IsBuybackSlot slot → b.items slot ≠ none

def Oldest (b : BuyBack) (slot : Nat) : Prop :=
  ∀ other, IsBuybackSlot other → b.timestamp (slot - buybackSlotStart) ≤ b.timestamp (other - buybackSlotStart)

-- A sale destroys an item only when there is no room, and then an oldest one.
def Keeps (b : BuyBack) : Input → Prop
  | .add item money now => ∀ lost, .setRemoved lost ∈ (b.addItemToBuyBackSlot item money now).2 →
      b.Full ∧ ∃ slot, IsBuybackSlot slot ∧ b.items slot = some lost ∧ b.Oldest slot
  | .remove _ _ => True

-- The search finds what it should: it is not made, its first slot is free, or
-- there is nothing to find.
def Ready (b : BuyBack) : Input → Prop
  | .add _ _ _ => b.items b.currentBuybackSlot = none ∨ b.items buybackSlotStart = none ∨ b.Full
  | .remove _ _ => True

structure Coherent (b : BuyBack) : Prop where
  current : IsBuybackSlot b.currentBuybackSlot
  free_timestamp : ∀ slot, IsBuybackSlot slot → b.items slot = none → b.timestamp (slot - buybackSlotStart) = 0

theorem isBuybackSlot_start : IsBuybackSlot buybackSlotStart := by decide

theorem mem_scanned {slot : Nat} : slot ∈ scanned ↔ IsBuybackSlot slot ∧ slot ≠ buybackSlotStart := by
  simp only [scanned, mem_range'_1, IsBuybackSlot, buybackSlotStart, buybackSlotEnd]
  omega

theorem eslot_inj {slot other : Nat} (h : IsBuybackSlot slot) (h' : IsBuybackSlot other)
    (heq : slot - buybackSlotStart = other - buybackSlotStart) : slot = other := by
  simp only [IsBuybackSlot, buybackSlotStart] at h h' heq
  omega

section Search

variable {b : BuyBack} {slots : List Nat} {oldestTime : UInt32} {oldestSlot slot : Nat}

theorem searchSlot_occupied (h : b.items oldestSlot ≠ none) :
    b.items (b.searchSlot slots oldestTime oldestSlot slot).2 ≠ none := by
  induction slots generalizing oldestTime oldestSlot with
  | nil => exact h
  | cons i rest ih =>
    rw [searchSlot]
    split
    · exact h
    · rename_i hi
      simp only [Option.isNone_iff_eq_none] at hi
      split
      · exact ih hi
      · exact ih h

theorem searchSlot_mem : (b.searchSlot slots oldestTime oldestSlot slot).2 ∈ oldestSlot :: slots := by
  induction slots generalizing oldestTime oldestSlot with
  | nil => exact mem_singleton.mpr rfl
  | cons i rest ih =>
    rw [searchSlot]
    split
    · exact mem_cons_self
    · split
      · exact mem_cons_of_mem _ ih
      · have hrest : (b.searchSlot rest oldestTime oldestSlot slot).2 ∈ oldestSlot :: rest := ih
        rcases mem_cons.mp hrest with h | h
        · rw [h]
          exact mem_cons_self
        · exact mem_cons_of_mem _ (mem_cons_of_mem _ h)

theorem searchSlot_zero : (b.searchSlot slots 0 oldestSlot slot).2 = oldestSlot := by
  induction slots with
  | nil => rfl
  | cons i rest ih =>
    rw [searchSlot]
    split
    · rfl
    · rw [if_neg (by simp [UInt32.lt_iff_toNat_lt])]
      exact ih

theorem searchSlot_oldest (htime : oldestTime = b.timestamp (oldestSlot - buybackSlotStart))
    (h : ∀ i ∈ slots, b.items i ≠ none) :
    ∀ i ∈ oldestSlot :: slots,
      b.timestamp ((b.searchSlot slots oldestTime oldestSlot slot).2 - buybackSlotStart) ≤
        b.timestamp (i - buybackSlotStart) := by
  induction slots generalizing oldestTime oldestSlot with
  | nil =>
    intro i hi
    rw [mem_singleton.mp hi]
    exact UInt32.le_refl _
  | cons i rest ih =>
    obtain ⟨hi, hrest⟩ := forall_mem_cons.mp h
    rw [searchSlot, if_neg (by simpa using hi)]
    simp only [forall_mem_cons]
    subst htime
    split
    · rename_i hlt
      have hall := forall_mem_cons.mp (@ih (b.timestamp (i - buybackSlotStart)) i rfl hrest)
      exact ⟨UInt32.le_trans hall.1 (UInt32.le_of_lt hlt), hall⟩
    · rename_i hle
      have hall := forall_mem_cons.mp (@ih (b.timestamp (oldestSlot - buybackSlotStart)) oldestSlot rfl hrest)
      exact ⟨hall.1, UInt32.le_trans hall.1 (UInt32.not_lt.mp hle), hall.2⟩

end Search

variable {b : BuyBack}

theorem isBuybackSlot_slotToUse (hb : b.Coherent) : IsBuybackSlot b.slotToUse := by
  rw [slotToUse]
  split
  · have hmem : (b.searchSlot scanned (b.timestamp 0) buybackSlotStart b.currentBuybackSlot).2 ∈
        buybackSlotStart :: scanned := searchSlot_mem
    rcases mem_cons.mp hmem with h | h
    · rw [h]
      exact isBuybackSlot_start
    · exact (mem_scanned.mp h).1
  · exact hb.current

theorem removeItemFromBuyBackSlot_of {slot : Nat} {del : Bool} (h : ¬IsBuybackSlot slot) :
    b.removeItemFromBuyBackSlot slot del = (b, []) := by
  rw [removeItemFromBuyBackSlot, if_neg h]

theorem setRemoved_mem_remove {slot : Nat} (del : Bool) (lost : UInt64) (h : IsBuybackSlot slot) :
    .setRemoved lost ∈ (b.removeItemFromBuyBackSlot slot del).2 ↔ del ∧ b.items slot = some lost := by
  rw [removeItemFromBuyBackSlot, if_pos h]
  cases hitem : b.items slot with
  | none => simp
  | some item => cases del <;> simp [eq_comm]

theorem coherent_remove {slot : Nat} {del : Bool} (hb : b.Coherent) :
    (b.removeItemFromBuyBackSlot slot del).1.Coherent := by
  by_cases h : IsBuybackSlot slot
  · rw [removeItemFromBuyBackSlot, if_pos h]
    constructor
    · change IsBuybackSlot (if _ then slot else b.currentBuybackSlot)
      split
      · exact h
      · exact hb.current
    · intro other hother hfree
      by_cases heq : other = slot
      · simp [heq]
      · have hne : other - buybackSlotStart ≠ slot - buybackSlotStart := fun h' => heq (eslot_inj hother h h')
        simp only [Function.update_of_ne heq] at hfree
        simp only [Function.update_of_ne hne]
        exact hb.free_timestamp other hother hfree
  · rw [removeItemFromBuyBackSlot_of h]
    exact hb

theorem coherent_add {item : UInt64} {money : UInt32} {now : Int} (hb : b.Coherent) :
    (b.addItemToBuyBackSlot item money now).1.Coherent := by
  have hslot := isBuybackSlot_slotToUse hb
  have hremoved : (b.removeItemFromBuyBackSlot b.slotToUse true).1.Coherent := coherent_remove hb
  constructor
  · have hcurrent := hremoved.current
    simp only [addItemToBuyBackSlot, IsBuybackSlot, buybackSlotStart, buybackSlotEnd] at hcurrent ⊢
    split <;> omega
  · intro other hother hfree
    have heq : other ≠ b.slotToUse := by
      rintro rfl
      simp [addItemToBuyBackSlot] at hfree
    have hne : other - buybackSlotStart ≠ b.slotToUse - buybackSlotStart := fun h' => heq (eslot_inj hother hslot h')
    simp only [addItemToBuyBackSlot, Function.update_of_ne heq] at hfree
    simp only [addItemToBuyBackSlot, Function.update_of_ne hne]
    exact hremoved.free_timestamp other hother hfree

theorem coherent_step {input : Input} (hb : b.Coherent) : (b.step input).Coherent := by
  cases input with
  | add item money now => exact coherent_add hb
  | remove slot del => exact coherent_remove hb

theorem coherent_initial (others : Nat → Option UInt64) (logintime : Int) : (initial others logintime).Coherent :=
  ⟨isBuybackSlot_start, fun _ _ _ => rfl⟩

theorem setRemoved_mem_add {item : UInt64} {money : UInt32} {now : Int} {lost : UInt64} (hb : b.Coherent) :
    .setRemoved lost ∈ (b.addItemToBuyBackSlot item money now).2 ↔ b.items b.slotToUse = some lost := by
  have hremove : .setRemoved lost ∈ (b.removeItemFromBuyBackSlot b.slotToUse true).2 ↔ _ :=
    setRemoved_mem_remove true lost (isBuybackSlot_slotToUse hb)
  simpa [addItemToBuyBackSlot] using hremove

theorem slotToUse_of_current (h : b.items b.currentBuybackSlot = none) : b.slotToUse = b.currentBuybackSlot := by
  rw [slotToUse, h]
  rfl

theorem slotToUse_of_start (hb : b.Coherent) (h : b.items buybackSlotStart = none) : b.items b.slotToUse = none := by
  rw [slotToUse]
  split
  · have htime := hb.free_timestamp buybackSlotStart isBuybackSlot_start h
    simp only [Nat.sub_self] at htime
    rw [htime]
    simpa only [searchSlot_zero] using h
  · rename_i hcurrent
    simpa using hcurrent

theorem oldest_slotToUse (h : b.Full) (hb : b.Coherent) : b.Oldest b.slotToUse := by
  intro other hother
  have hcurrent := Option.isSome_iff_ne_none.mpr (h _ hb.current)
  have hmem : other ∈ buybackSlotStart :: scanned := by
    rw [mem_cons, mem_scanned]
    by_cases heq : other = buybackSlotStart
    · exact .inl heq
    · exact .inr ⟨hother, heq⟩
  rw [slotToUse, if_pos hcurrent]
  exact searchSlot_oldest rfl (fun i hi => h i (mem_scanned.mp hi).1) other hmem

theorem slotToUse_occupied (hcurrent : b.items b.currentBuybackSlot ≠ none) (hstart : b.items buybackSlotStart ≠ none) :
    b.items b.slotToUse ≠ none := by
  rw [slotToUse, if_pos (Option.isSome_iff_ne_none.mpr hcurrent)]
  exact searchSlot_occupied hstart

theorem keeps_iff_ready (hb : b.Coherent) (input : Input) : b.Keeps input ↔ b.Ready input := by
  cases input with
  | remove slot del => exact Iff.rfl
  | add item money now =>
    rw [Keeps, Ready]
    constructor
    · intro h
      by_contra hnot
      push Not at hnot
      obtain ⟨hcurrent, hstart, hroom⟩ := hnot
      obtain ⟨lost, hlost⟩ := Option.ne_none_iff_exists'.mp (slotToUse_occupied hcurrent hstart)
      exact hroom (h lost ((setRemoved_mem_add hb).mpr hlost)).1
    · intro h lost hmem
      have hlost := (setRemoved_mem_add hb).mp hmem
      rcases h with h | h | h
      · rw [slotToUse_of_current h, h] at hlost
        cases hlost
      · rw [slotToUse_of_start hb h] at hlost
        cases hlost
      · exact ⟨h, b.slotToUse, isBuybackSlot_slotToUse hb, hlost, oldest_slotToUse h hb⟩

-- Over whole runs: no sale destroys what it could keep exactly when every
-- sale finds the search ready.
theorem buyBack_keeps (others : Nat → Option UInt64) (logintime : Int) (inputs : List Input) :
    Run.Guarded step Keeps (initial others logintime) inputs ↔
      Run.Guarded step Ready (initial others logintime) inputs := by
  exact Run.guarded_congr step Coherent (fun _ _ => coherent_step) (fun _ input hb => keeps_iff_ready hb input)
    (coherent_initial others logintime)

-- Twelve sales fill the slots. The items of the seventh and the ninth are
-- bought back, two more are sold, and the second of these takes the first slot.
def holesLeft : List Input :=
  (List.range 12).map (fun i => .add (.ofNat (i + 1)) 10 i) ++
    [.remove 75 false, .remove 77 false, .add 21 10 20, .add 22 10 21]

theorem not_keeps :
    ¬∀ (others : Nat → Option UInt64) (logintime : Int) (inputs : List Input),
      Run.Guarded step Keeps (initial others logintime) inputs := by
  intro h
  have hguarded := h (fun _ => none) 0 holesLeft
  have hlast : (Run.run step (initial (fun _ => none) 0) (holesLeft.take 15)).Keeps (.add 22 10 21) :=
    ((Run.guarded_append step Keeps _ (holesLeft.take 15) [.add 22 10 21]).mp hguarded).2.1
  have hfull := (hlast 1 (by decide +kernel)).1
  exact hfull 77 (by decide) (by decide +kernel)

end BuyBack

end TurtleWow.Objects

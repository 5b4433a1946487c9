import TurtleWow.Objects.Item
import TurtleWow.Lib.Ledger

namespace TurtleWow.Objects

abbrev Pos := Nat × Nat

abbrev nullBag : Nat := 0
abbrev nullSlot : Nat := 255
abbrev inventorySlotBag0 : Nat := 255
abbrev equipmentSlotEnd : Nat := 19
abbrev inventorySlotBagStart : Nat := 19
abbrev inventorySlotBagEnd : Nat := 23
abbrev inventorySlotItemStart : Nat := 23
abbrev inventorySlotItemEnd : Nat := 39
abbrev bankSlotItemStart : Nat := 39
abbrev bankSlotItemEnd : Nat := 63
abbrev bankSlotBagStart : Nat := 63
abbrev bankSlotBagEnd : Nat := 69
abbrev buybackSlotStart : Nat := 69
abbrev buybackSlotEnd : Nat := 81
abbrev keyringSlotStart : Nat := 81
abbrev keyringSlotEnd : Nat := 113
abbrev playerSlotEnd : Nat := 113
abbrev maxBagSize : Nat := 36

-- What a player carries, by (bag, slot): `m_items[slot]` at (255, slot) and
-- slot j of the bag that lies at (255, b) at (b, j). Only items at (255, b)
-- can be bags with something inside.
structure Inventory where
  owner : Nat
  items : AList fun _ : Pos => Item
  deriving DecidableEq

def isBagPos (pos : Pos) : Bool :=
  pos.1 = inventorySlotBag0 &&
    ((inventorySlotBagStart ≤ pos.2 && pos.2 < inventorySlotBagEnd) ||
      (bankSlotBagStart ≤ pos.2 && pos.2 < bankSlotBagEnd))

def slotRange (first last : Nat) : List Nat := (List.range (last - first)).map (first + ·)

theorem mem_slotRange {first last j : Nat} (h : j ∈ slotRange first last) : first ≤ j ∧ j < last := by
  simp only [slotRange, List.mem_map, List.mem_range] at h
  obtain ⟨k, hk, rfl⟩ := h
  omega

namespace Inventory

section

variable (store : ItemStore) (inv : Inventory)

def getItemByPos (bag slot : Nat) : Option Item :=
  if bag = inventorySlotBag0 ∧
      (slot < bankSlotBagEnd ∨ (keyringSlotStart ≤ slot ∧ slot < keyringSlotEnd)) then
    inv.items.lookup (inventorySlotBag0, slot)
  else if (inventorySlotBagStart ≤ bag ∧ bag < inventorySlotBagEnd) ∨
      (bankSlotBagStart ≤ bag ∧ bag < bankSlotBagEnd) then
    match inv.items.lookup (inventorySlotBag0, bag) with
    | some pBag => if slot < pBag.getBagSize store then inv.items.lookup (bag, slot) else none
    | none => none
  else none

-- Bag::IsEmpty of the bag at a position.
def isEmptyBag (pos : Pos) : Bool :=
  pos.1 ≠ inventorySlotBag0 ||
    (List.range maxBagSize).all fun j => (inv.items.lookup (pos.2, j)).isNone

def contentsOf (pos : Pos) : List Pos :=
  if pos.1 = inventorySlotBag0 then (List.range maxBagSize).map fun j => (pos.2, j) else []

-- ApplyForAllItems visits these positions.
def visited (inBank : Bool) : List Pos :=
  let own := fun (slots : List Nat) => slots.map fun slot => (inventorySlotBag0, slot)
  let bags := fun (slots : List Nat) =>
    slots.flatMap fun bag => (List.range maxBagSize).map fun j => (bag, j)
  own (slotRange 0 inventorySlotItemEnd) ++ own (slotRange keyringSlotStart keyringSlotEnd) ++
    bags (slotRange inventorySlotBagStart inventorySlotBagEnd) ++
    (if inBank then own (slotRange bankSlotItemStart bankSlotBagEnd) ++
      bags (slotRange bankSlotBagStart bankSlotBagEnd) else [])

def getItemCount (entry : Nat) (inBankAlso : Bool) (skipItem : Option Nat) : Nat :=
  (visited inBankAlso).foldl (fun count pos =>
    match inv.getItemByPos store pos.1 pos.2 with
    | some item =>
      if some item.guid ≠ skipItem ∧ item.entry = entry then Word.add32 count item.count else count
    | none => count) 0

-- An item already taken out of a stack, or put back with new fields.
def setItem (pos : Pos) (item : Item) : Inventory := { inv with items := inv.items.insert pos item }

def removeItem (pos : Pos) : Inventory := { inv with items := inv.items.erase pos }

-- A bag goes with everything inside. The source only walks the contents of a
-- bag whose own slot is an equipment slot, where nothing can be inside.
def destroyItem (bag slot : Nat) : Inventory :=
  match inv.getItemByPos store bag slot with
  | some _ => { inv with items := Ledger.eraseAll (inv.items.erase (bag, slot)) (contentsOf (bag, slot)) }
  | none => inv

end

def weigh (entry : Nat) (_ : Pos) (item : Item) : Nat := if item.entry = entry then item.count else 0

def units (inv : Inventory) (entry : Nat) : Nat := Ledger.total (weigh entry) inv.items

theorem lookup_of_getItemByPos {store : ItemStore} {inv : Inventory} {bag slot : Nat} {item : Item}
    (h : inv.getItemByPos store bag slot = some item) : inv.items.lookup (bag, slot) = some item := by
  unfold getItemByPos at h
  split_ifs at h with hown hbag
  · rw [hown.1]
    exact h
  · split at h
    · split_ifs at h
      exact h
    · exact absurd h (by simp)

@[simp] theorem setItem_items (inv : Inventory) (pos : Pos) (item : Item) :
    (inv.setItem pos item).items = inv.items.insert pos item := rfl

theorem units_setItem_of_some {inv : Inventory} {pos : Pos} {old : Item}
    (h : inv.items.lookup pos = some old) (item : Item) (entry : Nat) :
    (inv.setItem pos item).units entry + weigh entry pos old = weigh entry pos item + inv.units entry :=
  Ledger.total_insert_of_some (weigh entry) h item

end Inventory

end TurtleWow.Objects

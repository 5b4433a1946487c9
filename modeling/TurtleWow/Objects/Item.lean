import TurtleWow.Shared.Util

namespace TurtleWow.Objects

open Util

inductive ItemClass where
  | consumable | container | weapon | gem | armor | reagent | projectile | tradeGoods
  | generic | recipe | money | quiver | quest | key | permanent | junk
  deriving DecidableEq, Repr

inductive BagFamily where
  | none | arrows | bullets | soulShards | unknown1 | unknown2 | herbs | enchantingSupp
  | engineeringSupp | keys
  deriving DecidableEq, Repr

inductive Bonding where
  | noBind | whenPickedUp | whenEquipped | whenUse | questItem | questItem1 | account
  deriving DecidableEq, Repr

-- Subclass codes are read together with the class.
abbrev subclassContainer : Nat := 0
abbrev subclassSoulContainer : Nat := 1
abbrev subclassHerbContainer : Nat := 2
abbrev subclassEnchantingContainer : Nat := 3
abbrev subclassEngineeringContainer : Nat := 4
abbrev subclassQuiver : Nat := 2
abbrev subclassAmmoPouch : Nat := 3
abbrev invtypeBag : Nat := 18
abbrev itemFlagConjured : Nat := 0x2
abbrev itemFlagUnk6 : Nat := 0x40
abbrev itemFlagCharter : Nat := 0x2000
abbrev itemExtraCreateBroken : Nat := 0x8

-- The item loader refuses a stack size outside 1..255 and a container
-- with more than MAX_BAG_SIZE slots.
structure ItemPrototype where
  itemClass : ItemClass
  subClass : Nat
  inventoryType : Nat
  flags : Nat
  bagFamily : BagFamily
  bonding : Bonding
  stackable : Nat
  maxCount : Int
  containerSlots : Nat
  duration : Nat
  maxDurability : Nat
  extraFlags : Nat
  spellCharges : List Int
  stackable_pos : 0 < stackable
  stackable_le : stackable ≤ 255
  containerSlots_le : containerSlots ≤ 36

def ItemPrototype.getMaxStackSize (proto : ItemPrototype) : Nat := proto.stackable

def ItemPrototype.isConjuredConsumable (proto : ItemPrototype) : Bool :=
  proto.itemClass = .consumable && (proto.flags &&& itemFlagConjured) != 0

def ItemPrototype.isPlainContainer (proto : ItemPrototype) : Bool :=
  proto.itemClass = .container && proto.subClass = subclassContainer

-- The template table and the enchantments of a random property. Only known
-- entries have items, so code that holds an item never reads an unknown `proto`.
structure ItemStore where
  known : Nat → Bool
  proto : Nat → ItemPrototype
  randomProperties : Int → Option (List Nat)

def ItemStore.getItemPrototype (store : ItemStore) (entry : Nat) : Option ItemPrototype :=
  if store.known entry then some (store.proto entry) else none

def itemCanGoIntoBag (proto bagProto : ItemPrototype) : Bool :=
  match bagProto.itemClass with
  | .container =>
    if bagProto.subClass = subclassContainer then true
    else if bagProto.subClass = subclassSoulContainer then proto.bagFamily = .soulShards
    else if bagProto.subClass = subclassHerbContainer then proto.bagFamily = .herbs
    else if bagProto.subClass = subclassEnchantingContainer then proto.bagFamily = .enchantingSupp
    else if bagProto.subClass = subclassEngineeringContainer then proto.bagFamily = .engineeringSupp
    else false
  | .quiver =>
    if bagProto.subClass = subclassQuiver then proto.bagFamily = .arrows
    else if bagProto.subClass = subclassAmmoPouch then proto.bagFamily = .bullets
    else false
  | _ => false

inductive ItemLootState where
  | none | temporary | unchanged | changed | new | removed
  deriving DecidableEq, Repr

structure Enchantment where
  id : Nat
  duration : Nat
  charges : Nat
  deriving DecidableEq, Repr

-- The fields that are copied when an item is cloned, stored away or rebuilt.
structure Details where
  creator : Nat
  giftCreator : Nat
  duration : Int
  spellCharges : List Int
  flags : Nat
  enchantments : List Enchantment
  randomPropertyId : Int
  transmogrifyId : Nat
  durability : Nat
  textId : Nat
  generatedLoot : Bool
  deriving DecidableEq, Repr

structure Item where
  guid : Nat
  entry : Nat
  count : Nat
  owner : Nat
  inTrade : Bool
  lootEmpty : Bool
  lootState : ItemLootState
  -- CanBeTradedEvenIfSoulBound at the current game time
  tradeAllowed : Bool
  details : Details
  deriving DecidableEq, Repr

abbrev itemDynflagBinded : Nat := 0x1
abbrev itemDynflagUnk6 : Nat := 0x40
abbrev itemDynflagUnk13 : Nat := 0x2000
abbrev itemDynflagBoa : Nat := 0x40000

namespace Item

def proto (store : ItemStore) (item : Item) : ItemPrototype := store.proto item.entry

def isBag (store : ItemStore) (item : Item) : Bool := (item.proto store).inventoryType = invtypeBag

-- A plain item in a bag slot has no room.
def getBagSize (store : ItemStore) (item : Item) : Nat :=
  if item.isBag store then (item.proto store).containerSlots else 0

def getMaxStackCount (store : ItemStore) (item : Item) : Nat := (item.proto store).getMaxStackSize

section

variable (item : Item)

def isSoulBound : Bool :=
  (item.details.flags &&& itemDynflagBinded) != 0 || (item.details.flags &&& itemDynflagBoa) != 0

def hasGeneratedLoot : Bool :=
  !item.lootEmpty && item.lootState != .none && item.lootState != .removed

def hasTemporaryLoot : Bool := !item.lootEmpty && item.lootState = .temporary

def isBindedNotWith (player : Nat) : Bool :=
  if item.owner = player then false
  else if item.hasGeneratedLoot then true
  else if !item.isSoulBound || item.tradeAllowed then false
  else true

def setCount (count : Nat) : Item := { item with count := count }

def setFlag (flag : Nat) : Item :=
  { item with details := { item.details with flags := item.details.flags ||| flag } }

@[simp] theorem setCount_count (count : Nat) : (item.setCount count).count = count := rfl

@[simp] theorem setCount_entry (count : Nat) : (item.setCount count).entry = item.entry := rfl

@[simp] theorem setCount_guid (count : Nat) : (item.setCount count).guid = item.guid := rfl

@[simp] theorem setFlag_count (flag : Nat) : (item.setFlag flag).count = item.count := rfl

@[simp] theorem setFlag_entry (flag : Nat) : (item.setFlag flag).entry = item.entry := rfl

@[simp] theorem setFlag_guid (flag : Nat) : (item.setFlag flag).guid = item.guid := rfl

end

theorem getBagSize_le (store : ItemStore) (item : Item) : item.getBagSize store ≤ 36 := by
  unfold getBagSize
  split_ifs
  · exact (item.proto store).containerSlots_le
  · omega

end Item

inductive InventoryResult where
  | ok | itemDoesntGoToSlot | itemDoesntGoIntoBag | itemCantStack | itemsCantBeSwapped
  | itemNotFound | alreadyLooted | dontOwnThatItem | cantCarryMoreOfThis | inventoryFull
  | canOnlyDoWithEmptyBags | nonEmptyBagOverOtherBag | tradeBag
  deriving DecidableEq, Repr

def Item.canBeMergedPartlyWith (item : Item) (entry : Nat) (proto : ItemPrototype) : InventoryResult :=
  if item.entry ≠ entry then .itemCantStack
  else if proto.getMaxStackSize ≤ item.count then .itemCantStack
  else if item.hasGeneratedLoot then .alreadyLooted
  else .ok

theorem Item.canBeMergedPartlyWith_ok {item : Item} {entry : Nat} {proto : ItemPrototype}
    (h : item.canBeMergedPartlyWith entry proto = .ok) :
    item.entry = entry ∧ item.count < proto.stackable := by
  unfold Item.canBeMergedPartlyWith ItemPrototype.getMaxStackSize at h
  split_ifs at h with hentry hcount
  exact ⟨not_not.mp hentry, Nat.lt_of_not_le hcount⟩

def clothProto : ItemPrototype :=
  { itemClass := .tradeGoods, subClass := 0, inventoryType := 0, flags := 0, bagFamily := .none,
    bonding := .noBind, stackable := 20, maxCount := 0, containerSlots := 0, duration := 0,
    maxDurability := 0, extraFlags := 0, spellCharges := [0, 0, 0, 0, 0], stackable_pos := by decide,
    stackable_le := by decide, containerSlots_le := by decide }

def bagProto : ItemPrototype :=
  { clothProto with
    itemClass := .container, inventoryType := invtypeBag, stackable := 1, containerSlots := 4,
    stackable_pos := by decide, stackable_le := by decide, containerSlots_le := by decide }

def ringProto : ItemPrototype :=
  { clothProto with
    itemClass := .armor, stackable := 1, stackable_pos := by decide, stackable_le := by decide }

abbrev clothEntry : Nat := 1
abbrev bagEntry : Nat := 2
abbrev ringEntry : Nat := 3

def sampleStore : ItemStore :=
  { known := fun entry => entry = clothEntry || entry = bagEntry || entry = ringEntry,
    proto := fun entry =>
      if entry = clothEntry then clothProto else if entry = bagEntry then bagProto else ringProto,
    randomProperties := fun _ => none }

def sampleItem (guid entry count owner : Nat) : Item :=
  { guid := guid, entry := entry, count := count, owner := owner, inTrade := false, lootEmpty := true,
    lootState := .none, tradeAllowed := false,
    details :=
      { creator := 0, giftCreator := 0, duration := 0, spellCharges := [0, 0, 0, 0, 0], flags := 0,
        enchantments := List.replicate 7 ⟨0, 0, 0⟩, randomPropertyId := 0, transmogrifyId := 0,
        durability := 0, textId := 0, generatedLoot := false } }

abbrev gold : Nat := 10000
abbrev maxMoneyAmount : Nat := 0x7FFFFFFE

-- Player::ModifyMoney: a debit stops at zero, a credit at the cap.
def modifyMoney (money : Nat) (d : Int) : Nat :=
  if d < 0 then
    if Word.toU32 (-d) < money then Word.sub32 money (Word.toU32 (-d)) else 0
  else if (money : Int) < maxMoneyAmount - d then Word.add32 money d.toNat
  else maxMoneyAmount

theorem modifyMoney_le (money : Nat) (d : Int) (hmoney : money ≤ maxMoneyAmount) :
    modifyMoney money d ≤ maxMoneyAmount := by
  have hmoney : money ≤ 2147483646 := hmoney
  show modifyMoney money d ≤ 2147483646
  unfold modifyMoney maxMoneyAmount Word.toU32 Word.sub32 Word.add32
  split_ifs <;> omega

end TurtleWow.Objects

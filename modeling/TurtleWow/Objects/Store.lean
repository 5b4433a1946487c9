import TurtleWow.Objects.CanStore

namespace TurtleWow.Objects

-- The result of storing: the inventory, the next low guid of the item guid
-- generator and where the last piece lies, when it lies anywhere.
structure Stored where
  inv : Inventory
  nextGuid : Nat
  last : Option Pos
  deriving DecidableEq

-- The details that Item::Create gives a new item.
def ItemPrototype.createDetails (proto : ItemPrototype) : Details :=
  let unk6 := if (proto.flags &&& itemFlagUnk6) ≠ 0 then itemDynflagUnk6 else 0
  let charter := if (proto.flags &&& itemFlagCharter) ≠ 0 then itemDynflagUnk13 else 0
  let boa := if proto.bonding = .account then itemDynflagBoa else 0
  { creator := 0, giftCreator := 0, duration := proto.duration, spellCharges := proto.spellCharges,
    flags := unk6 ||| charter ||| boa, enchantments := List.replicate 7 ⟨0, 0, 0⟩,
    randomPropertyId := 0, transmogrifyId := 0,
    durability := if (proto.extraFlags &&& itemExtraCreateBroken) ≠ 0 then 0 else proto.maxDurability,
    textId := 0, generatedLoot := false }

section

variable (store : ItemStore)

-- SetItemRandomProperties: a known positive id also sets the property enchantments.
def Details.setItemRandomProperties (details : Details) (randomPropId : Int) : Details :=
  if 0 < randomPropId then
    match store.randomProperties randomPropId with
    | some ids =>
      { details with
        randomPropertyId := randomPropId,
        enchantments := details.enchantments.take 3 ++ (ids.take 3).map (fun id => ⟨id, 0, 0⟩) ++
          details.enchantments.drop 6 }
    | none => details
  else details

def createItem (entry count owner nextGuid : Nat) : Option Item :=
  if count < 1 then none
  else
    match store.getItemPrototype entry with
    | none => none
    | some proto =>
      some { guid := nextGuid, entry := entry, count := min count proto.getMaxStackSize, owner := owner,
             inTrade := false, lootEmpty := true, lootState := .none, tradeAllowed := false,
             details := proto.createDetails }

def Item.cloneItem (item : Item) (count owner nextGuid : Nat) : Option Item :=
  match createItem store item.entry count owner nextGuid with
  | none => none
  | some newItem =>
    let details :=
      { newItem.details with
        creator := item.details.creator, giftCreator := item.details.giftCreator,
        flags := item.details.flags, duration := item.details.duration }
    some { newItem with
      details :=
        { details.setItemRandomProperties store item.details.randomPropertyId with
          generatedLoot := item.details.generatedLoot } }

def Item.bindAt (item : Item) (pos : Pos) : Item :=
  let bonding := (item.proto store).bonding
  let item :=
    if bonding = .whenPickedUp ∨ bonding = .questItem ∨ (bonding = .whenEquipped ∧ isBagPos pos) then
      item.setFlag itemDynflagBinded
    else item
  if bonding = .account then item.setFlag itemDynflagBoa else item

end

namespace Inventory

variable (store : ItemStore)

-- _StoreItem: a free position takes the item or a clone of it, a stack there grows.
def storeItemAt (inv : Inventory) (nextGuid : Nat) (pos : Pos) (item : Item) (count : Nat) (clone : Bool) :
    Stored :=
  match inv.getItemByPos store pos.1 pos.2 with
  | none =>
    let piece := if clone then item.cloneItem store count inv.owner nextGuid else some (item.setCount count)
    match piece with
    | none => ⟨inv, nextGuid, none⟩
    | some piece =>
      let nextGuid := if clone then nextGuid + 1 else nextGuid
      let piece := { piece.bindAt store pos with owner := inv.owner }
      if pos.1 = inventorySlotBag0 then ⟨inv.setItem pos piece, nextGuid, some pos⟩
      else
        match inv.getItemByPos store inventorySlotBag0 pos.1 with
        | some _ => ⟨inv.setItem pos piece, nextGuid, some pos⟩
        | none => ⟨inv, nextGuid, none⟩
  | some item2 =>
    let grown := (item2.bindAt store pos).setCount (Word.add32 item2.count count)
    ⟨inv.setItem pos grown, nextGuid, some pos⟩

-- StoreItem: clones for all positions but the last, which takes the item itself.
def storeItem (inv : Inventory) (nextGuid : Nat) (item : Item) : List ItemPosCount → Stored
  | [] => ⟨inv, nextGuid, none⟩
  | [last] => inv.storeItemAt store nextGuid last.pos item last.count false
  | first :: rest =>
    let stored := inv.storeItemAt store nextGuid first.pos item first.count true
    storeItem stored.inv stored.nextGuid item rest

-- StoreNewItem: `none` where the source returns a null item.
def storeNewItem (inv : Inventory) (nextGuid : Nat) (dest : List ItemPosCount) (entry : Nat)
    (randomPropertyId : Int) : Option Stored :=
  let count := dest.foldl (fun count p => Word.add32 count p.count) 0
  match createItem store entry count inv.owner nextGuid with
  | none => none
  | some item =>
    let item := { item with details := item.details.setItemRandomProperties store randomPropertyId }
    some (inv.storeItem store (nextGuid + 1) item dest)

end Inventory

end TurtleWow.Objects

import TurtleWow.Lib.Loop
import TurtleWow.Objects.Storage

namespace TurtleWow.Objects

structure ItemPosCount where
  pos : Pos
  count : Nat
  deriving DecidableEq, Repr

-- The two locals that every search of _CanStoreItem updates.
structure Search where
  dest : List ItemPosCount
  count : Nat
  deriving DecidableEq, Repr

structure StoreResult where
  msg : InventoryResult
  dest : List ItemPosCount
  noSpaceCount : Nat
  deriving DecidableEq, Repr

-- The item that is moved, with what only its owner's inventory tells:
-- whether it is a bag with something inside.
structure MovedItem where
  item : Item
  nonEmptyBag : Bool

-- A new position takes the space there, at most what is left to place.
def Search.isContained (s : Search) (pos : Pos) : Bool := s.dest.any fun p => p.pos = pos

def Search.push (s : Search) (pos : Pos) (needSpace : Nat) : Search :=
  { dest := s.dest ++ [⟨pos, Word.u8 (min needSpace s.count)⟩],
    count := s.count - min needSpace s.count }

namespace Inventory

section

variable (store : ItemStore) (inv : Inventory)

def holdsNonEmptyBag (src : Option MovedItem) : Bool :=
  match src with
  | some moved => moved.nonEmptyBag
  | none => false

def isSrcItem (item : Item) (src : Option MovedItem) : Bool :=
  match src with
  | some moved => item.guid = moved.item.guid
  | none => false

def getOtherItemByPos (bag slot : Nat) (src : Option MovedItem) : Option Item :=
  match inv.getItemByPos store bag slot with
  | some item => if isSrcItem item src then none else some item
  | none => none

def canTakeMoreSimilarItems (entry count : Nat) (src : Option MovedItem) : InventoryResult × Nat :=
  match store.getItemPrototype entry with
  | none => (.cantCarryMoreOfThis, count)
  | some proto =>
    if 0 < proto.maxCount then
      let curcount := inv.getItemCount store entry true (src.map fun moved => moved.item.guid)
      if Word.toU32 proto.maxCount < Word.add32 curcount count then
        (.cantCarryMoreOfThis, Word.sub32 (Word.add32 count curcount) (Word.toU32 proto.maxCount))
      else (.ok, 0)
    else (.ok, 0)

-- The check that an item fits a slot which is free or will be.
def fitsSlot (bag slot : Nat) (proto : ItemPrototype) (src : Option MovedItem) : InventoryResult :=
  if bag = inventorySlotBag0 then
    if keyringSlotStart ≤ slot ∧ slot < keyringSlotEnd ∧ ¬proto.bagFamily = .keys then .itemDoesntGoIntoBag
    else if (buybackSlotStart ≤ slot ∧ slot < buybackSlotEnd) ∨ playerSlotEnd ≤ slot then
      .itemDoesntGoIntoBag
    else .ok
  else
    match inv.getItemByPos store inventorySlotBag0 bag with
    | none => .itemDoesntGoIntoBag
    | some pBag =>
      if isSrcItem pBag src then .itemDoesntGoIntoBag
      else if (pBag.proto store).containerSlots ≤ slot then .itemDoesntGoIntoBag
      else if !itemCanGoIntoBag proto (pBag.proto store) then .itemDoesntGoIntoBag
      else .ok

def spaceInSpecificSlot (bag slot entry : Nat) (proto : ItemPrototype) (swap : Bool)
    (src : Option MovedItem) : InventoryResult × Nat :=
  match inv.getOtherItemByPos store bag slot src, swap with
  | some item2, false => (item2.canBeMergedPartlyWith entry proto, proto.stackable - item2.count)
  | _, _ => (inv.fitsSlot store bag slot proto src, proto.stackable)

def canStoreItemInSpecificSlot (bag slot entry : Nat) (proto : ItemPrototype) (swap : Bool)
    (src : Option MovedItem) (s : Search) : InventoryResult × Search :=
  if holdsNonEmptyBag src then (.canOnlyDoWithEmptyBags, s)
  else
    let space := inv.spaceInSpecificSlot store bag slot entry proto swap src
    if space.1 ≠ .ok then (space.1, s)
    else if s.isContained (bag, slot) then (.ok, s)
    else (.ok, s.push (bag, slot) space.2)

-- What a merge or a free slot can take; `none` skips the slot.
def spaceFor (entry : Nat) (proto : ItemPrototype) (pItem2 : Option Item) : Option Nat :=
  match pItem2 with
  | some item2 =>
    if item2.canBeMergedPartlyWith entry proto = .ok then some (proto.getMaxStackSize - item2.count)
    else none
  | none => some proto.getMaxStackSize

-- The loop body that _CanStoreItem_InBag and _CanStoreItem_InInventorySlots
-- share, over the slots that are not skipped: merge takes stacks with room,
-- otherwise free slots. It stops as soon as nothing is left to place.
def placeInSlots (bag entry : Nat) (proto : ItemPrototype) (merge : Bool) (src : Option MovedItem) :
    List Nat → Search → Search
  | [], s => s
  | j :: rest, s =>
    let pItem2 := inv.getOtherItemByPos store bag j src
    if pItem2.isSome ≠ merge then placeInSlots bag entry proto merge src rest s
    else
      match spaceFor entry proto pItem2 with
      | none => placeInSlots bag entry proto merge src rest s
      | some space =>
        if s.isContained (bag, j) then placeInSlots bag entry proto merge src rest s
        else if (s.push (bag, j) space).count = 0 then s.push (bag, j) space
        else placeInSlots bag entry proto merge src rest (s.push (bag, j) space)

def canStoreItemInBag (bag entry : Nat) (proto : ItemPrototype) (merge nonSpecialized : Bool)
    (src : Option MovedItem) (skipBag skipSlot : Nat) (s : Search) : InventoryResult × Search :=
  if bag = skipBag then (.itemDoesntGoIntoBag, s)
  else
    match inv.getItemByPos store inventorySlotBag0 bag with
    | none => (.itemDoesntGoIntoBag, s)
    | some pBag =>
      if isSrcItem pBag src then (.itemDoesntGoIntoBag, s)
      else if holdsNonEmptyBag src then (.canOnlyDoWithEmptyBags, s)
      else if nonSpecialized ≠ (pBag.proto store).isPlainContainer then (.itemDoesntGoIntoBag, s)
      else if !itemCanGoIntoBag proto (pBag.proto store) then (.itemDoesntGoIntoBag, s)
      else
        (.ok, inv.placeInSlots store bag entry proto merge src
          ((List.range (pBag.getBagSize store)).filter (· ≠ skipSlot)) s)

def canStoreItemInInventorySlots (slotBegin slotEnd entry : Nat) (proto : ItemPrototype)
    (merge : Bool) (src : Option MovedItem) (skipBag skipSlot : Nat) (s : Search) :
    InventoryResult × Search :=
  if holdsNonEmptyBag src then (.canOnlyDoWithEmptyBags, s)
  else
    (.ok, inv.placeInSlots store inventorySlotBag0 entry proto merge src
      ((slotRange slotBegin slotEnd).filter fun j => ¬(skipBag = inventorySlotBag0 ∧ j = skipSlot)) s)

end

-- The three exits that follow every search: nothing left to place, an error
-- that ends the function, an error that only skips this bag.
def placedAll (noSimilarCount : Nat) (s : Search) : StoreResult :=
  if noSimilarCount = 0 then ⟨.ok, s.dest, 0⟩
  else ⟨.cantCarryMoreOfThis, s.dest, Word.add32 s.count noSimilarCount⟩

def afterSearch (noSimilarCount : Nat) (res : InventoryResult × Search) : Except StoreResult Search :=
  if res.1 ≠ .ok then .error ⟨res.1, res.2.dest, Word.add32 res.2.count noSimilarCount⟩
  else if res.2.count = 0 then .error (placedAll noSimilarCount res.2)
  else .ok res.2

def afterBagSearch (noSimilarCount : Nat) (res : InventoryResult × Search) : Except StoreResult Search :=
  if res.1 ≠ .ok then .ok res.2
  else if res.2.count = 0 then .error (placedAll noSimilarCount res.2)
  else .ok res.2

section

variable (store : ItemStore) (inv : Inventory)

-- Bags are tried as specialised ones first, then as plain ones.
def canStoreItemInEitherBag (bag entry : Nat) (proto : ItemPrototype) (merge : Bool)
    (src : Option MovedItem) (skipSlot : Nat) (s : Search) : InventoryResult × Search :=
  let res := inv.canStoreItemInBag store bag entry proto merge false src nullBag skipSlot s
  if res.1 ≠ .ok then inv.canStoreItemInBag store bag entry proto merge true src nullBag skipSlot res.2
  else res

-- The searches of _CanStoreItem for one request; `bag` and `slot` are the
-- requested position, which later searches skip.
structure Request where
  bag : Nat
  slot : Nat
  entry : Nat
  proto : ItemPrototype
  swap : Bool
  src : Option MovedItem
  noSimilarCount : Nat

variable (req : Request)

def searchSlots (slotBegin slotEnd : Nat) (merge : Bool) (s : Search) : Except StoreResult Search :=
  afterSearch req.noSimilarCount
    (inv.canStoreItemInInventorySlots store slotBegin slotEnd req.entry req.proto merge req.src
      req.bag req.slot s)

def searchBags (merge nonSpecialized : Bool) (s : Search) : Except StoreResult Search :=
  (slotRange inventorySlotBagStart inventorySlotBagEnd).foldlM (fun s i =>
    afterBagSearch req.noSimilarCount
      (inv.canStoreItemInBag store i req.entry req.proto merge nonSpecialized req.src
        req.bag req.slot s)) s

def searchRequestedBag (merge : Bool) (s : Search) : Except StoreResult Search :=
  afterSearch req.noSimilarCount
    (inv.canStoreItemInEitherBag store req.bag req.entry req.proto merge req.src req.slot s)

section

variable (s : Search)

def searchKeyring : Except StoreResult Search :=
  if req.proto.bagFamily = .keys then
    inv.searchSlots store req keyringSlotStart keyringSlotEnd false s
  else .ok s

-- in specific slot
def searchSpecificSlot : Except StoreResult Search :=
  if req.bag ≠ nullBag ∧ req.slot ≠ nullSlot then
    if req.bag = inventorySlotBag0 ∧ playerSlotEnd ≤ req.slot then
      .error ⟨.itemDoesntGoToSlot, s.dest, 0⟩
    else
      afterSearch req.noSimilarCount
        (inv.canStoreItemInSpecificSlot store req.bag req.slot req.entry req.proto req.swap req.src s)
  else .ok s

-- in specific bag: search stack in bag for merge to
def searchSpecificBagStacks : Except StoreResult Search :=
  if 1 < req.proto.stackable then
    if req.bag = inventorySlotBag0 then do
      let s ← inv.searchSlots store req keyringSlotStart keyringSlotEnd true s
      inv.searchSlots store req inventorySlotItemStart inventorySlotItemEnd true s
    else inv.searchRequestedBag store req true s
  else .ok s

-- in specific bag: search free slot in bag for place to
def searchSpecificBagFree : Except StoreResult Search :=
  if req.bag = inventorySlotBag0 then do
    let s ← inv.searchKeyring store req s
    inv.searchSlots store req inventorySlotItemStart inventorySlotItemEnd false s
  else inv.searchRequestedBag store req false s

def searchSpecificBag : Except StoreResult Search :=
  if req.bag ≠ nullBag then do
    let s ← inv.searchSpecificBagStacks store req s
    inv.searchSpecificBagFree store req s
  else .ok s

-- search stack for merge to
def searchStacks : Except StoreResult Search :=
  if 1 < req.proto.stackable then do
    let s ← inv.searchSlots store req keyringSlotStart keyringSlotEnd true s
    let s ← inv.searchSlots store req inventorySlotItemStart inventorySlotItemEnd true s
    let s ← ite (req.proto.bagFamily ≠ .none) (inv.searchBags store req true false s) (.ok s)
    inv.searchBags store req true true s
  else .ok s

-- search free slot, special bag case
def searchSpecialBags : Except StoreResult Search :=
  if req.proto.bagFamily ≠ .none then do
    let s ← inv.searchKeyring store req s
    inv.searchBags store req false false s
  else .ok s

-- Normally it would be impossible to autostore not empty bags
def searchFree : Except StoreResult StoreResult :=
  if holdsNonEmptyBag req.src then .error ⟨.nonEmptyBagOverOtherBag, s.dest, 0⟩
  else do
    let s ← inv.searchSlots store req inventorySlotItemStart inventorySlotItemEnd false s
    let s ← inv.searchBags store req false true s
    return ⟨.inventoryFull, s.dest, Word.add32 s.count req.noSimilarCount⟩

def canStoreItemSearches : Except StoreResult StoreResult := do
  let s ← inv.searchSpecificSlot store req s
  let s ← inv.searchSpecificBag store req s
  let s ← inv.searchStacks store req s
  let s ← inv.searchSpecialBags store req s
  inv.searchFree store req s

end

-- Item used, or bound to somebody else.
def cantBeStored (src : Option MovedItem) : Option InventoryResult :=
  match src with
  | none => none
  | some moved =>
    if moved.item.hasTemporaryLoot then some .alreadyLooted
    else if moved.item.isBindedNotWith inv.owner then some .dontOwnThatItem
    else none

-- _CanStoreItem with `dest` as the caller left it.
def canStoreItemInto (bag slot : Nat) (dest : List ItemPosCount) (entry count : Nat)
    (src : Option MovedItem) (swap : Bool) : StoreResult :=
  match store.getItemPrototype entry with
  | none => ⟨if swap then .itemsCantBeSwapped else .itemNotFound, dest, count⟩
  | some proto =>
    match inv.cantBeStored src with
    | some res => ⟨res, dest, count⟩
    | none =>
      let similar := inv.canTakeMoreSimilarItems store entry count src
      if similar.1 ≠ .ok ∧ count = similar.2 then ⟨similar.1, dest, similar.2⟩
      else
        let left := if similar.1 ≠ .ok then Word.sub32 count similar.2 else count
        Early.result
          (inv.canStoreItemSearches store ⟨bag, slot, entry, proto, swap, src, similar.2⟩ ⟨dest, left⟩)

def canStoreNewItem (bag slot entry count : Nat) : StoreResult :=
  inv.canStoreItemInto store bag slot [] entry count none false

def canStoreItem (bag slot : Nat) (dest : List ItemPosCount) (moved : MovedItem) (swap : Bool) :
    StoreResult :=
  inv.canStoreItemInto store bag slot dest moved.item.entry moved.item.count (some moved) swap

end

end Inventory

end TurtleWow.Objects

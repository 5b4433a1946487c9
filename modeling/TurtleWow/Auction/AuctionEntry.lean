import Mathlib.Algebra.Order.Floor.Semifield
import Mathlib.Data.Rat.Floor
import TurtleWow.Lib.Bytes
import TurtleWow.Lib.Multimap

namespace TurtleWow.Auction

-- An auction and its arithmetic. The floats of the source are rationals; a
-- conversion to uint32 drops the fraction.

structure Settings (n : Nat) where
  rateAuctionTime : ℚ
  rateAuctionDeposit : ℚ
  rateAuctionCut : ℚ
  auctionDepositMin : Nat
  accountConcurrentAuctionLimit : Nat
  -- Which of the real auction houses stands behind a house id
  auctionHouses : Nat → Fin n

structure AuctionHouseEntry where
  houseId : Nat
  depositPercent : Nat
  cutPercent : Nat
deriving DecidableEq

structure AuctionEntry where
  id : Nat
  itemGuidLow : Nat
  itemTemplate : Nat
  owner : Nat
  ownerAccount : Nat
  startbid : Nat
  bid : Nat
  buyout : Nat
  lockedIpAddress : String
  depositTime : Nat
  expireTime : Nat
  bidder : Nat
  deposit : Nat
  auctionHouseEntry : AuctionHouseEntry
deriving DecidableEq

structure ItemPrototype where
  itemId : Nat
  itemClass : Nat
  subClass : Nat
  inventoryType : Nat
  quality : Nat
  requiredLevel : Nat
  sellPrice : Nat
  maxStackSize : Nat

structure Item where
  count : Nat
  proto : ItemPrototype

def minAuctionTime : Nat := 7200

-- An out-of-range conversion, which C++ leaves open, wraps here.
def toUint32 (value : ℚ) : Nat := Word.u32 ⌊value⌋₊

def getAuctionDeposit {n : Nat} (s : Settings n) (entry : AuctionHouseEntry) (time : Nat) (item : Item) : Nat :=
  let price : ℚ := Word.u32 (item.proto.sellPrice * item.count * (time / minAuctionTime))
  let deposit := max (price * entry.depositPercent / 100) s.auctionDepositMin
  let diffSize := Word.i32 (item.proto.maxStackSize - item.count : Int)
  toUint32 (deposit * (1 + diffSize * (5 / 100)) * s.rateAuctionDeposit)

namespace AuctionEntry

variable (auction : AuctionEntry)

def getAuctionCut (rate : ℚ) : Nat :=
  toUint32 (Word.u32 (auction.auctionHouseEntry.cutPercent * auction.bid) * rate / 100)

def getAuctionOutBid : Nat :=
  let outbid := auction.bid / 100 * 5
  if outbid = 0 then 1 else outbid

def profit (rate : ℚ) : Nat := Word.sub32 (Word.add32 auction.bid auction.deposit) (auction.getAuctionCut rate)

def isAvailableFor (address : String) : Bool :=
  if auction.lockedIpAddress ≠ "" then auction.lockedIpAddress = address else true

theorem getAuctionCut_one :
    auction.getAuctionCut 1 = Word.u32 (auction.auctionHouseEntry.cutPercent * auction.bid) / 100 := by
  have hfloor : ⌊((Word.u32 (auction.auctionHouseEntry.cutPercent * auction.bid) : ℕ) : ℚ) * 1 / 100⌋₊ =
      Word.u32 (auction.auctionHouseEntry.cutPercent * auction.bid) / 100 := by
    rw [mul_one]
    exact_mod_cast Nat.floor_div_eq_div (K := ℚ) _ 100
  have hlt : Word.u32 (auction.auctionHouseEntry.cutPercent * auction.bid) < 4294967296 := Nat.mod_lt _ (by omega)
  rw [getAuctionCut, toUint32, hfloor, Word.u32_of_lt]
  omega

theorem getAuctionCut_exact_iff :
    auction.getAuctionCut 1 = auction.auctionHouseEntry.cutPercent * auction.bid / 100 ↔
      auction.auctionHouseEntry.cutPercent * auction.bid < 4294967296 := by
  rw [getAuctionCut_one, Word.u32]
  omega

theorem getAuctionOutBid_le : auction.getAuctionOutBid ≤ auction.bid / 20 + 1 := by
  simp only [getAuctionOutBid]
  split_ifs <;> omega

theorem profit_eq {rate : ℚ} (hfits : auction.bid + auction.deposit < 4294967296)
    (hcut : auction.getAuctionCut rate ≤ auction.bid + auction.deposit) :
    auction.profit rate = auction.bid + auction.deposit - auction.getAuctionCut rate := by
  rw [profit, Word.add32_of_lt hfits, Word.sub32_of_le hfits hcut]

end AuctionEntry

-- One auction house: its auctions, and two multimaps that point to them by
-- buyout price and by account.
structure AuctionHouseObject where
  auctionsMap : OrderedMap Nat AuctionEntry
  orderedAuctionMap : Multimap Nat Nat
  accountAuctionMap : Multimap Nat Nat

structure AuctionHouseClientQuery where
  searchedname : String
  levelmin : Nat
  levelmax : Nat
  usable : Nat
  listfrom : Nat
  auctionSlotID : Nat
  auctionMainCategory : Nat
  auctionSubCategory : Nat
  quality : Nat

-- What the listing asks of the player: whether he can use an item, whether he
-- knows what a recipe teaches, and whether an item's name in his language fits.
structure Viewer where
  address : String
  canUseItem : Item → Bool
  knowsRecipe : Item → Bool
  nameFits : Item → String → Bool

structure AuctionInfo where
  id : Nat
  itemEntry : Nat
  itemCount : Nat
  owner : Nat
  startbid : Nat
  outBid : Nat
  buyout : Nat
  expireTime : Nat
  bidder : Nat
  bid : Nat

structure AuctionList where
  data : List AuctionInfo
  count : Nat
  totalcount : Nat

def AuctionList.ids (list : AuctionList) : List Nat := list.data.map AuctionInfo.id

def noFilter : Nat := 0xffffffff
def invtypeChest : Nat := 5
def invtypeRobe : Nat := 20
def itemClassRecipe : Nat := 9

def AuctionEntry.buildAuctionInfo (aItems : Nat → Option Item) (auction : AuctionEntry) : Option AuctionInfo :=
  (aItems auction.itemGuidLow).map fun item =>
    { id := auction.id, itemEntry := item.proto.itemId, itemCount := item.count, owner := auction.owner,
      startbid := auction.startbid, outBid := if auction.bid ≠ 0 then auction.getAuctionOutBid else 0,
      buyout := auction.buyout, expireTime := auction.expireTime, bidder := auction.bidder, bid := auction.bid }

namespace AuctionHouseClientQuery

variable (query : AuctionHouseClientQuery)

def isEmpty : Bool :=
  query.auctionMainCategory = noFilter ∧ query.auctionSubCategory = noFilter ∧ query.auctionSlotID = noFilter ∧
    query.quality = noFilter ∧ query.levelmin = 0 ∧ query.levelmax = 0 ∧ query.usable = 0 ∧ query.searchedname = ""

def allEmpty (listfrom : Nat) : AuctionHouseClientQuery :=
  { searchedname := "", levelmin := 0, levelmax := 0, usable := 0, listfrom := listfrom, auctionSlotID := noFilter,
    auctionMainCategory := noFilter, auctionSubCategory := noFilter, quality := noFilter }

-- The filters of the loop, in its order; the lock on an address stands between them.
def passes (viewer : Viewer) (auction : AuctionEntry) (item : Item) : Bool :=
  if query.auctionMainCategory ≠ noFilter ∧ item.proto.itemClass ≠ query.auctionMainCategory then false
  else if query.auctionSubCategory ≠ noFilter ∧ item.proto.subClass ≠ query.auctionSubCategory then false
  else if query.auctionSlotID ≠ noFilter ∧ item.proto.inventoryType ≠ query.auctionSlotID ∧
      (query.auctionSlotID ≠ invtypeChest ∨
        query.auctionSlotID = invtypeChest ∧ item.proto.inventoryType ≠ invtypeRobe) then false
  else if query.quality ≠ noFilter ∧ item.proto.quality < query.quality then false
  else if query.levelmin ≠ 0 ∧ (item.proto.requiredLevel < query.levelmin ∨
      query.levelmax ≠ 0 ∧ query.levelmax < item.proto.requiredLevel) then false
  else if query.usable ≠ 0 ∧ viewer.canUseItem item = false then false
  else if query.usable ≠ 0 ∧ item.proto.itemClass = itemClassRecipe ∧ viewer.knowsRecipe item = true then false
  else if auction.isAvailableFor viewer.address = false then false
  else if query.searchedname ≠ "" ∧ viewer.nameFits item query.searchedname = false then false
  else true

end AuctionHouseClientQuery

namespace AuctionHouseObject

variable (house : AuctionHouseObject) (aItems : Nat → Option Item) (viewer : Viewer)

def empty : AuctionHouseObject := ⟨.empty, .empty, .empty⟩

def getAuction (id : Nat) : Option AuctionEntry := house.auctionsMap.find id

-- What the multimap by buyout points to, in its order
def orderedAuctions : List AuctionEntry :=
  house.orderedAuctionMap.entries.filterMap fun entry => house.getAuction entry.2

def getAccountAuctionCount (accountId : Nat) : Nat :=
  (house.accountAuctionMap.entries.filter fun entry => entry.1 = accountId).length

def addAuction (auction : AuctionEntry) : AuctionHouseObject where
  auctionsMap := house.auctionsMap.insert auction.id auction
  orderedAuctionMap := house.orderedAuctionMap.insert auction.buyout auction.id
  accountAuctionMap := house.accountAuctionMap.insert auction.ownerAccount auction.id

def removeAuction (auction : AuctionEntry) : AuctionHouseObject where
  auctionsMap := house.auctionsMap.erase auction.id
  orderedAuctionMap := house.orderedAuctionMap.eraseFirst fun entry => entry.1 = auction.buyout ∧ entry.2 = auction.id
  accountAuctionMap :=
    house.accountAuctionMap.eraseFirst fun entry => entry.1 = auction.ownerAccount ∧ entry.2 = auction.id

-- The shortcut of BuildListAuctionItems: it stops behind the fiftieth record.
def listShortcut : List AuctionEntry → AuctionList → AuctionList
  | [], list => list
  | auction :: rest, list =>
    if auction.isAvailableFor viewer.address = false then listShortcut rest list
    else
      let list := { list with data := list.data ++ (auction.buildAuctionInfo aItems).toList
                              count := list.count + 1 }
      if 50 ≤ list.count then list else listShortcut rest list

def listPassed (listfrom : Nat) (list : AuctionList) (auction : AuctionEntry) : AuctionList :=
  if list.count < 50 ∧ listfrom ≤ list.totalcount then
    { data := list.data ++ (auction.buildAuctionInfo aItems).toList
      count := list.count + 1
      totalcount := list.totalcount + 1 }
  else { list with totalcount := list.totalcount + 1 }

section

variable (query : AuctionHouseClientQuery)

def listFiltered (list : AuctionList) (auction : AuctionEntry) : AuctionList :=
  match aItems auction.itemGuidLow with
  | none => list
  | some item =>
    if query.passes viewer auction item then listPassed aItems query.listfrom list auction else list

def buildListShortcut : AuctionList :=
  let totalcount := house.orderedAuctions.length
  if query.listfrom < totalcount then
    listShortcut aItems viewer (house.orderedAuctions.drop query.listfrom) ⟨[], 0, totalcount⟩
  else ⟨[], 0, totalcount⟩

def buildListFiltered : AuctionList :=
  house.orderedAuctions.foldl (listFiltered aItems viewer query) ⟨[], 0, 0⟩

def buildListAuctionItems : AuctionList :=
  if query.isEmpty then house.buildListShortcut aItems viewer query
  else house.buildListFiltered aItems viewer query

end

end AuctionHouseObject

end TurtleWow.Auction

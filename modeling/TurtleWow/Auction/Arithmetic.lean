import TurtleWow.Auction.Prices

namespace TurtleWow.Auction

open Objects Run

namespace AuctionEntry

-- What is promised of the arithmetic on an auction's bid
structure Exact (auction : AuctionEntry) (rate : ℚ) : Prop where
  cut : auction.getAuctionCut rate = auction.auctionHouseEntry.cutPercent * auction.bid / 100
  cut_le : auction.getAuctionCut rate ≤ auction.bid
  outBid : auction.bid + auction.getAuctionOutBid < 4294967296
  profit : (auction.profit rate : Int) = auction.bid + auction.deposit - auction.getAuctionCut rate

theorem exact_iff {auction : AuctionEntry} (hbid : auction.bid ≤ maxMoneyAmount)
    (hdeposit : auction.deposit ≤ maxMoneyAmount) :
    auction.Exact 1 ↔ auction.auctionHouseEntry.cutPercent * auction.bid < 4294967296 ∧
      auction.auctionHouseEntry.cutPercent * auction.bid < 100 * (auction.bid + 1) := by
  have hbid : auction.bid ≤ 2147483646 := hbid
  have hdeposit : auction.deposit ≤ 2147483646 := hdeposit
  constructor
  · intro h
    have hexact := auction.getAuctionCut_exact_iff.mp h.cut
    have hle := h.cut_le
    rw [h.cut] at hle
    exact ⟨hexact, by omega⟩
  · rintro ⟨hexact, hle⟩
    have hcut := auction.getAuctionCut_exact_iff.mpr hexact
    have hcut_le : auction.getAuctionCut 1 ≤ auction.bid := by rw [hcut]; omega
    have houtBid := auction.getAuctionOutBid_le
    have hprofit := auction.profit_eq (show auction.bid + auction.deposit < 4294967296 by omega)
      (hcut_le.trans (Nat.le_add_right _ _))
    exact ⟨hcut, hcut_le, by omega, by omega⟩

theorem le_of_bidRefused {auction : AuctionEntry} {money price : Nat}
    (h : auction.bidRefused money price = none) : price ≤ money := by
  unfold bidRefused at h
  split at h
  · cases h
  · split at h
    · cases h
    · split at h
      · cases h
      · split at h
        · cases h
        · omega

theorem placed_bid_le {auction : AuctionEntry} {money price player : Nat} (hmoney : money ≤ maxMoneyAmount)
    (h : auction.bidRefused money price = none) : (auction.placed player price).bid ≤ maxMoneyAmount := by
  have hprice := le_of_bidRefused h
  unfold placed isBid
  dsimp only
  split
  · omega
  · next hbuyout =>
      simp only [decide_eq_true_eq] at hbuyout
      omega

end AuctionEntry

namespace World

variable {n : Nat} {s : Settings n} {w : World n} {env : Env}

theorem Priced.step (h : w.Priced) (action : Step) : (w.step s action).Priced := by
  cases action with
  | sellItem env player itemGuid bid buyout etime =>
    refine answered_of_holds ((holds_handleAuctionSellItem itemGuid bid buyout etime).mono (fun _ _ => trivial) ?_) h
    rintro after ⟨entry, item, time, -, -, -, ⟨-, -, hbuyout, -⟩, hdeposit, rfl⟩
    exact h.listAuction hbuyout hdeposit
  | placeBid env player auctionId price =>
    refine answered_of_holds ((holds_handleAuctionPlaceBid auctionId price).mono (fun _ _ => trivial) ?_) h
    rintro after ⟨entry, auction, -, hfind, -, -, rfl⟩
    exact h.placeBid hfind
  | removeItem env player auctionId =>
    refine answered_of_holds ((holds_handleAuctionRemoveItem auctionId).mono (fun _ _ => trivial) ?_) h
    rintro after ⟨entry, auction, item, -, -, -, -, -, rfl⟩
    exact h.cancelAuction
  | update env => exact h.update

structure Opening (w : World n) : Prop where
  houses : ∀ i, w.houses i = .empty
  aItems : ∀ guid, w.aItems guid = none
  mails : w.mails = []
  money : ∀ player, w.getMoney player ≤ maxMoneyAmount

theorem Opening.getAuction (h : w.Opening) (i : Fin n) (id : Nat) : w.getAuction i id = none := by
  rw [World.getAuction, h.houses i]
  rfl

theorem Opening.priced (h : w.Opening) : w.Priced where
  keyed := fun i id found hfind => by rw [h.getAuction] at hfind; cases hfind
  money := h.money
  buyout := fun i id found hfind => by rw [h.getAuction] at hfind; cases hfind
  deposit := fun i id found hfind => by rw [h.getAuction] at hfind; cases hfind

theorem priced_run (h : w.Priced) (steps : List Step) : (run (step s) w steps).Priced :=
  run_invariant (step s) (fun _ _ => True) Priced (fun _ action h _ => h.step action) h
    (guarded_of_forall _ _ (fun _ _ => trivial) _ _)

def plainRates : Settings 1 := ⟨1, 1, 1, 0, 0, fun _ => 0⟩

def goblinHouse : AuctionHouseEntry := ⟨7, 15, 5⟩

def trading : Env where
  playerAccount := fun player => player
  online := fun _ => true
  hardcore := fun _ => false
  suspicious := false
  tradesAllowed := true
  auctionHouseEntry := some goblinHouse
  sellable := true
  remoteAddress := "10.0.0.1"
  time := 0
  gameTime := 0

def seller : Nat := 3

def rich : Nat := 4

def market : World 1 where
  money := (OrderedMap.empty.insert seller 1000).insert rich 2147483646
  carried := fun guid => if guid = 7 then some (seller, ⟨20, ⟨2589, 7, 0, 0, 1, 0, 13, 20⟩⟩) else none
  aItems := fun _ => none
  houses := fun _ => .empty
  auctionsIds := .empty
  nextAuctionId := 1
  mails := []

theorem market_opening : market.Opening where
  houses := fun _ => rfl
  aItems := fun _ => rfl
  mails := rfl
  money := fun player => by
    unfold getMoney market
    rw [OrderedMap.find_insert, OrderedMap.find_insert]
    split
    · decide
    · split
      · decide
      · exact Nat.zero_le _

def offered (startbid buyout : Nat) : AuctionEntry where
  id := 1
  itemGuidLow := 7
  itemTemplate := 2589
  owner := seller
  ownerAccount := seller
  startbid := startbid
  bid := 0
  buyout := buyout
  lockedIpAddress := "10.0.0.1"
  depositTime := 0
  expireTime := 7200
  bidder := 0
  deposit := 39
  auctionHouseEntry := goblinHouse

def onSale (startbid buyout : Nat) : World 1 := run (step plainRates) market [.sellItem trading seller 7 startbid buyout 120]

theorem onSale_getAuction : (onSale 100 500).getAuction 0 1 = some (offered 100 500) := by decide +kernel

theorem exists_of_isOk {x : Except (Option AuctionError) (World n)} (h : x.isOk = true) : ∃ after, x = .ok after := by
  cases x with
  | error error => cases h
  | ok after => exact ⟨after, rfl⟩

end World

end TurtleWow.Auction

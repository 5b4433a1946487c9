import TurtleWow.Auction.World
import TurtleWow.Lib.Loop
import TurtleWow.Lib.Run

namespace TurtleWow.Auction

open Objects Function OrderedMap

-- What a step does to the auctions and the money, and the arithmetic on a bid.

namespace AuctionEntry

def unlocked (auction : AuctionEntry) : AuctionEntry := { auction with lockedIpAddress := "" }

end AuctionEntry

namespace World

variable {n : Nat} {s : Settings n} {w w' w'' : World n} {env : Env} {i j : Fin n} {id player : Nat}
  {auction found : AuctionEntry}

theorem getAuction_setAuction : (w.setAuction i auction).getAuction j id =
    if j = i ∧ id = auction.id then some auction else w.getAuction j id := by
  unfold getAuction setAuction setHouse
  dsimp only
  by_cases hsame : j = i
  · subst hsame
    rw [update_self, AuctionHouseObject.getAuction, find_insert]
    simp only [true_and]
    rfl
  · rw [update_of_ne hsame, if_neg fun h => hsame h.1]

theorem getAuction_addAuction : (w.addAuction i auction).getAuction j id =
    if j = i ∧ id = auction.id then some auction else w.getAuction j id := by
  unfold getAuction addAuction setHouse
  dsimp only
  by_cases hsame : j = i
  · subst hsame
    rw [update_self, AuctionHouseObject.getAuction, AuctionHouseObject.addAuction, find_insert]
    simp only [true_and]
    rfl
  · rw [update_of_ne hsame, if_neg fun h => hsame h.1]

theorem getAuction_removeAuction : (w.removeAuction i auction).getAuction j id =
    if j = i ∧ id = auction.id then none else w.getAuction j id := by
  unfold getAuction removeAuction setHouse
  dsimp only
  by_cases hsame : j = i
  · subst hsame
    rw [update_self, AuctionHouseObject.getAuction, AuctionHouseObject.removeAuction, find_erase]
    simp only [true_and]
    rfl
  · rw [update_of_ne hsame, if_neg fun h => hsame h.1]

theorem sendAuctionMail_keeps (receiver : Nat) (answer : MailAuctionAnswers) (money : Nat) :
    (w.sendAuctionMail env auction receiver answer money).houses = w.houses ∧
      (w.sendAuctionMail env auction receiver answer money).money = w.money := by
  unfold sendAuctionMail
  split <;> exact ⟨rfl, rfl⟩

theorem sendAuctionItem_keeps (receiver : Nat) (answer : MailAuctionAnswers) :
    (w.sendAuctionItem env auction receiver answer).houses = w.houses ∧
      (w.sendAuctionItem env auction receiver answer).money = w.money := by
  unfold sendAuctionItem
  split
  · exact ⟨rfl, rfl⟩
  · split
    · dsimp only [send]
      split <;> exact ⟨rfl, rfl⟩
    · exact ⟨rfl, rfl⟩

theorem getAuction_of_houses (h : w'.houses = w.houses) (j : Fin n) (id : Nat) :
    w'.getAuction j id = w.getAuction j id := by
  rw [getAuction, h]
  rfl

theorem getMoney_of_money (h : w'.money = w.money) (player : Nat) : w'.getMoney player = w.getMoney player := by
  rw [getMoney, h]
  rfl

theorem houses_payBid (bid : Nat) : (w.payBid env player auction bid).houses = w.houses := by
  unfold payBid
  split
  · rfl
  · dsimp only
    split
    · exact (sendAuctionMail_keeps _ _ _).1
    · rfl

theorem getAuction_sellAuction : (w.sellAuction s env i auction).getAuction j id =
    if j = i ∧ id = auction.id then none else w.getAuction j id := by
  unfold sellAuction
  rw [getAuction_removeAuction, getAuction_of_houses]
  exact (sendAuctionItem_keeps _ _).1.trans (sendAuctionMail_keeps _ _ _).1

theorem getAuction_cancelAuction : (w.cancelAuction s env player i auction).getAuction j id =
    if j = i ∧ id = auction.id then none else w.getAuction j id := by
  unfold cancelAuction
  rw [getAuction_removeAuction, getAuction_of_houses]
  split
  · exact (sendAuctionMail_keeps _ _ _).1
  · rfl

def Remains (w w' : World n) : Prop :=
  ∀ j id found, w'.getAuction j id = some found →
    ∃ old, w.getAuction j id = some old ∧ (found = old ∨ found = old.unlocked)

theorem Remains.refl (w : World n) : Remains w w := fun _ _ found h => ⟨found, h, .inl rfl⟩

theorem Remains.trans (h : Remains w w') (h' : Remains w' w'') : Remains w w'' := by
  intro j id found hfound
  obtain ⟨middle, hmiddle, hsame⟩ := h' j id found hfound
  obtain ⟨old, hold, hsame'⟩ := h j id middle hmiddle
  refine ⟨old, hold, ?_⟩
  rcases hsame with rfl | rfl
  · exact hsame'
  · rcases hsame' with rfl | rfl <;> exact .inr rfl

theorem remains_of_removed (h : ∀ j id found, w'.getAuction j id = some found → w.getAuction j id = some found) :
    Remains w w' := fun j id found hfound => ⟨found, h j id found hfound, .inl rfl⟩

theorem getAuction_of_removed {value : Option AuctionEntry} {p : Prop} [Decidable p]
    (h : (if p then none else value) = some found) : value = some found := by
  split at h
  · cases h
  · exact h

theorem remains_expireAuction {first : World n} (hfirst : first.getAuction i auction.id = some auction)
    (h : Remains first w) : Remains first (w.expireAuction s env i auction) := by
  have hset : ∀ changed, changed = auction ∨ changed = auction.unlocked → Remains first (w.setAuction i changed) := by
    intro changed hchanged j id found hfound
    rw [getAuction_setAuction] at hfound
    split at hfound
    · next hkey =>
        obtain ⟨rfl, rfl⟩ := hkey
        cases hfound
        refine ⟨auction, ?_, hchanged⟩
        rcases hchanged with rfl | rfl <;> exact hfirst
    · exact h j id found hfound
  have hchanged : ∀ changed, changed = auction ∨ changed = auction.unlocked →
      Remains first
        (if changed.expireTime < env.gameTime then
          if changed.bidder = 0 then
            (((w.setAuction i changed).sendAuctionExpiredMail env changed).removeAItem changed.itemGuidLow).removeAuction
              i changed
          else (w.setAuction i changed).sellAuction s env i changed
        else w.setAuction i changed) := by
    intro changed hchanged
    split
    · refine (hset changed hchanged).trans (remains_of_removed fun j id found hfound => ?_)
      split at hfound
      · rw [getAuction_removeAuction] at hfound
        rw [← getAuction_of_houses (@sendAuctionItem_keeps _ _ env _ changed.owner .expired).1 j id]
        exact getAuction_of_removed hfound
      · rw [getAuction_sellAuction] at hfound
        exact getAuction_of_removed hfound
    · exact hset changed hchanged
  unfold expireAuction
  split
  · exact hchanged _ (.inr rfl)
  · exact hchanged _ (.inl rfl)

def Keyed (w : World n) : Prop := ∀ j id found, w.getAuction j id = some found → found.id = id

theorem Keyed.remains (hkeyed : w.Keyed) (h : Remains w w') : w'.Keyed := by
  intro j id found hfound
  obtain ⟨old, hold, rfl | rfl⟩ := h j id found hfound
  · exact hkeyed j id _ hold
  · exact hkeyed j id old hold

theorem getAuction_of_mem (hmem : auction ∈ ((w.houses i).auctionsMap.entries.map Prod.snd)) (hkeyed : w.Keyed) :
    w.getAuction i auction.id = some auction := by
  obtain ⟨entry, hentry, rfl⟩ := List.mem_map.mp hmem
  have hfind : w.getAuction i entry.1 = some entry.2 := find_of_mem hentry
  rw [hkeyed i entry.1 entry.2 hfind, hfind]

theorem remains_updateHouse (hkeyed : w.Keyed) (i : Fin n) : Remains w (updateHouse s env w i) :=
  List.foldlRecOn (motive := Remains w) _ _ (Remains.refl w)
    fun _ h _ hmem => remains_expireAuction (getAuction_of_mem hmem hkeyed) h

theorem remains_update (hkeyed : w.Keyed) : Remains w (w.update s env) :=
  List.foldlRecOn (motive := Remains w) _ _ (Remains.refl w)
    fun _ h i _ => h.trans (remains_updateHouse (hkeyed.remains h) i)

theorem money_sellAuction : (w.sellAuction s env i auction).money = w.money :=
  (sendAuctionItem_keeps _ _).2.trans (sendAuctionMail_keeps _ _ _).2

theorem money_expireAuction : (w.expireAuction s env i auction).money = w.money := by
  unfold expireAuction
  dsimp only
  split
  · split
    · split
      · exact (sendAuctionItem_keeps _ _).2
      · exact money_sellAuction
    · rfl
  · split
    · split
      · exact (sendAuctionItem_keeps _ _).2
      · exact money_sellAuction
    · rfl

theorem money_update : (w.update s env).money = w.money :=
  List.foldlRecOn (motive := fun after : World n => after.money = w.money) _ _ rfl fun _ h _ _ =>
    List.foldlRecOn (motive := fun after : World n => after.money = w.money) _ _ h
      fun _ h _ _ => money_expireAuction.trans h

open Early

theorem holds_handleAuctionSellItem (itemGuid bid buyout etime : Nat) :
    Holds (fun _ => True) (fun after => ∃ entry item time, env.auctionHouseEntry = some entry ∧
        w.carried itemGuid = some (player, item) ∧ w.aItems itemGuid = none ∧
        (bid ≠ 0 ∧ bid ≤ 2000000000 ∧ buyout ≤ 2000000000 ∧ (buyout = 0 ∨ bid ≤ buyout)) ∧
        getAuctionDeposit s entry time item ≤ w.getMoney player ∧
        after = w.listAuction s env player (s.auctionHouses entry.houseId) entry itemGuid item bid buyout time)
      (w.handleAuctionSellItem s env player itemGuid bid buyout etime) := by
  refine Holds.ite (fun _ => trivial) fun hstart => Holds.ite (fun _ => trivial) fun hlimit => ?_
  refine Holds.ite (fun _ => trivial) fun hbuyout => Holds.ite (fun _ => trivial) fun _ => ?_
  cases hentry : env.auctionHouseEntry with
  | none => trivial
  | some entry =>
    refine Holds.ite (fun _ => trivial) fun _ => Holds.ite (fun _ => trivial) fun _ => ?_
    refine Holds.ite (fun _ => trivial) fun hfree => ?_
    cases hcarried : w.carried itemGuid with
    | none => trivial
    | some held =>
      obtain ⟨holder, item⟩ := held
      refine Holds.ite (fun _ => trivial) fun hholder => Holds.ite (fun _ => trivial) fun _ => ?_
      refine Holds.ite (fun _ => trivial) fun hmoney => ?_
      obtain rfl : holder = player := not_not.mp hholder
      exact ⟨entry, item, _, rfl, rfl, Option.not_isSome_iff_eq_none.mp hfree, by omega, by omega, rfl⟩

theorem holds_handleAuctionPlaceBid (auctionId price : Nat) :
    Holds (fun _ => True) (fun after => ∃ entry auction, env.auctionHouseEntry = some entry ∧
        w.getAuction (s.auctionHouses entry.houseId) auctionId = some auction ∧ auction.owner ≠ player ∧
        auction.bidRefused (w.getMoney player) price = none ∧
        after = w.placeBid s env player (s.auctionHouses entry.houseId) auction price)
      (w.handleAuctionPlaceBid s env player auctionId price) := by
  refine Holds.ite (fun _ => trivial) fun _ => Holds.ite (fun _ => trivial) fun _ => ?_
  cases hentry : env.auctionHouseEntry with
  | none => trivial
  | some entry =>
    refine Holds.ite (fun _ => trivial) fun _ => ?_
    dsimp only
    cases hfind : w.getAuction (s.auctionHouses entry.houseId) auctionId with
    | none => trivial
    | some auction =>
      refine Holds.ite (fun _ => trivial) fun howner => Holds.ite (fun _ => trivial) fun _ => ?_
      cases hrefused : auction.bidRefused (w.getMoney player) price with
      | some error => trivial
      | none => exact ⟨entry, auction, rfl, hfind, howner, hrefused, rfl⟩

theorem holds_handleAuctionRemoveItem (auctionId : Nat) :
    Holds (fun _ => True) (fun after => ∃ entry auction item, env.auctionHouseEntry = some entry ∧
        w.getAuction (s.auctionHouses entry.houseId) auctionId = some auction ∧ auction.owner = player ∧
        w.aItems auction.itemGuidLow = some item ∧
        (0 < auction.bidder → auction.getAuctionCut s.rateAuctionCut ≤ w.getMoney player) ∧
        after = w.cancelAuction s env player (s.auctionHouses entry.houseId) auction)
      (w.handleAuctionRemoveItem s env player auctionId) := by
  unfold handleAuctionRemoveItem
  cases hentry : env.auctionHouseEntry with
  | none => trivial
  | some entry =>
    dsimp only
    cases hfind : w.getAuction (s.auctionHouses entry.houseId) auctionId with
    | none => trivial
    | some auction =>
      refine Holds.ite (fun _ => trivial) fun howner => ?_
      cases hitem : w.aItems auction.itemGuidLow with
      | none => trivial
      | some item =>
        refine Holds.ite (fun _ => trivial) fun hmoney => ?_
        exact ⟨entry, auction, item, rfl, hfind, not_not.mp howner, hitem, fun _ => by omega, rfl⟩

theorem answered_of_holds {post : World n → Prop} {x : Except (Option AuctionError) (World n)}
    (h : Holds (fun _ => True) post x) (hsame : post w) : post (w.answered x) := by
  cases x with
  | error error => exact hsame
  | ok after => exact h

theorem getMoney_modifyMoney (d : Int) (other : Nat) : (w.modifyMoney player d).getMoney other =
    if other = player then Objects.modifyMoney (w.getMoney player) d else w.getMoney other := by
  unfold getMoney modifyMoney
  rw [find_insert]
  split <;> rfl

structure Priced (w : World n) : Prop where
  keyed : w.Keyed
  money : ∀ player, w.getMoney player ≤ maxMoneyAmount
  buyout : ∀ i id auction, w.getAuction i id = some auction → auction.buyout ≤ 2000000000
  deposit : ∀ i id auction, w.getAuction i id = some auction → auction.deposit ≤ maxMoneyAmount

theorem money_le_modifyMoney (h : ∀ player, w.getMoney player ≤ maxMoneyAmount) (d : Int) (other : Nat) :
    (w.modifyMoney player d).getMoney other ≤ maxMoneyAmount := by
  rw [getMoney_modifyMoney]
  split
  · exact modifyMoney_le _ _ (h player)
  · exact h other

theorem Priced.of_descends (h : w.Priced) (hmoney : ∀ player, w'.getMoney player ≤ maxMoneyAmount)
    (hfrom : ∀ j id found, w'.getAuction j id = some found → ∃ old, w.getAuction j id = some old ∧
      found.id = old.id ∧ found.buyout = old.buyout ∧ found.deposit = old.deposit) : w'.Priced := by
  refine ⟨fun j id found hfound => ?_, hmoney, fun j id found hfound => ?_, fun j id found hfound => ?_⟩
  all_goals obtain ⟨old, hold, hid, hbuyout, hdeposit⟩ := hfrom j id found hfound
  · rw [hid, h.keyed j id old hold]
  · rw [hbuyout]
    exact h.buyout j id old hold
  · rw [hdeposit]
    exact h.deposit j id old hold

theorem Priced.listAuction (h : w.Priced) {entry : AuctionHouseEntry} {item : Item} {itemGuid bid buyout etime : Nat}
    (hbuyout : buyout ≤ 2000000000) (hdeposit : getAuctionDeposit s entry etime item ≤ w.getMoney player) :
    (w.listAuction s env player i entry itemGuid item bid buyout etime).Priced := by
  have hnew : ∀ j id found, (w.listAuction s env player i entry itemGuid item bid buyout etime).getAuction j id =
      some found → found.id = id ∧ found.buyout = buyout ∧ found.deposit = getAuctionDeposit s entry etime item ∨
        w.getAuction j id = some found := by
    intro j id found hfound
    replace hfound := getAuction_addAuction.symm.trans hfound
    split at hfound
    · next hkey =>
        cases hfound
        exact .inl ⟨hkey.2.symm, rfl, rfl⟩
    · exact .inr hfound
  refine ⟨fun j id found hfound => ?_, money_le_modifyMoney h.money _, fun j id found hfound => ?_,
    fun j id found hfound => ?_⟩
  · rcases hnew j id found hfound with ⟨hid, -, -⟩ | hold
    · exact hid
    · exact h.keyed j id found hold
  · rcases hnew j id found hfound with ⟨-, hsame, -⟩ | hold
    · rw [hsame]
      exact hbuyout
    · exact h.buyout j id found hold
  · rcases hnew j id found hfound with ⟨-, -, hsame⟩ | hold
    · rw [hsame]
      exact hdeposit.trans (h.money player)
    · exact h.deposit j id found hold

theorem money_le_payBid (h : ∀ player, w.getMoney player ≤ maxMoneyAmount) (bid other : Nat) :
    (w.payBid env player auction bid).getMoney other ≤ maxMoneyAmount := by
  unfold payBid
  split
  · exact money_le_modifyMoney h _ other
  · dsimp only
    split
    · exact (getMoney_of_money (sendAuctionMail_keeps _ _ _).2 other).trans_le (money_le_modifyMoney h _ other)
    · exact money_le_modifyMoney h _ other

theorem Priced.placeBid (h : w.Priced) {price : Nat} (hfind : w.getAuction i id = some auction) :
    (w.placeBid s env player i auction price).Priced := by
  have hset : ((w.payBid env player auction (auction.placed player price).bid).setAuction i
      (auction.placed player price)).Priced := by
    refine h.of_descends (money_le_payBid h.money _) fun j other found hfound => ?_
    rw [getAuction_setAuction] at hfound
    split at hfound
    · next hkey =>
        obtain ⟨rfl, rfl⟩ := hkey
        cases hfound
        refine ⟨auction, ?_, rfl, rfl, rfl⟩
        rw [← hfind, ← h.keyed j id auction hfind]
        rfl
    · rw [getAuction_of_houses (houses_payBid _)] at hfound
      exact ⟨found, hfound, rfl, rfl, rfl⟩
  unfold World.placeBid
  split
  · exact hset
  · refine hset.of_descends (fun other => ?_) fun j other found hfound => ?_
    · exact (getMoney_of_money money_sellAuction other).trans_le (hset.money other)
    · rw [getAuction_sellAuction] at hfound
      exact ⟨found, getAuction_of_removed hfound, rfl, rfl, rfl⟩

theorem Priced.cancelAuction (h : w.Priced) : (w.cancelAuction s env player i auction).Priced := by
  refine h.of_descends (fun other => ?_) fun j other found hfound => ?_
  · have hpaid : ∀ other, (if 0 < auction.bidder then
        (w.sendAuctionCancelledToBidderMail env auction).modifyMoney player
          (-(Word.i32 (auction.getAuctionCut s.rateAuctionCut)))
        else w).getMoney other ≤ maxMoneyAmount := by
      intro other
      split
      · refine money_le_modifyMoney (fun other => ?_) _ other
        exact (getMoney_of_money (sendAuctionMail_keeps _ _ _).2 other).trans_le (h.money other)
      · exact h.money other
    exact hpaid other
  · rw [getAuction_cancelAuction] at hfound
    exact ⟨found, getAuction_of_removed hfound, rfl, rfl, rfl⟩

theorem Priced.update (h : w.Priced) : (w.update s env).Priced := by
  refine h.of_descends (fun other => ?_) fun j other found hfound => ?_
  · rw [getMoney_of_money money_update]
    exact h.money other
  · obtain ⟨old, hold, rfl | rfl⟩ := remains_update h.keyed j other found hfound
    · exact ⟨_, hold, rfl, rfl, rfl⟩
    · exact ⟨old, hold, rfl, rfl, rfl⟩

end World

end TurtleWow.Auction

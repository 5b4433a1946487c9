import TurtleWow.Auction.Arithmetic
import TurtleWow.Auction.Listing

namespace TurtleWow.Auction

open List OrderedMap Function Run

namespace AuctionHouseObject

variable {house : AuctionHouseObject} {auction old : AuctionEntry}

theorem Listed.setAuction (h : house.Listed) (hold : house.getAuction auction.id = some old)
    (hprice : auction.buyout = old.buyout) :
    ({ house with auctionsMap := house.auctionsMap.insert auction.id auction } : AuctionHouseObject).Listed := by
  refine ⟨fun id found hfound => ?_, h.nodup, fun id => ?_, fun entry hentry found hfound => ?_⟩
  · rcases of_find_insert hfound with ⟨rfl, rfl⟩ | ⟨-, hfound⟩
    · rfl
    · exact h.keyed id found hfound
  · rw [h.points id, getAuction, getAuction, find_insert]
    split
    · next hsame =>
        rw [hsame]
        exact iff_of_true (by rw [← getAuction, hold]; exact Option.some_ne_none old) (Option.some_ne_none auction)
    · rfl
  · rcases of_find_insert hfound with ⟨hsame, rfl⟩ | ⟨-, hfound⟩
    · rw [hprice]
      exact h.prices entry hentry old (hsame ▸ hold)
    · exact h.prices entry hentry found hfound

theorem Listed.removeAuction (h : house.Listed) (hlive : house.getAuction auction.id = some auction) :
    (house.removeAuction auction).Listed := by
  obtain ⟨entry, hentry, hid⟩ := mem_map.mp ((h.points auction.id).mpr (by rw [hlive]; exact Option.some_ne_none auction))
  have hprice := h.prices entry hentry auction (hid ▸ hlive)
  obtain ⟨erased, before, after, -, herased, hentries, hrest⟩ :=
    exists_of_eraseP (p := fun entry => entry.1 = auction.buyout ∧ entry.2 = auction.id) hentry (by simp [hprice, hid])
  -- The index loses one pair, which is the auction's own.
  have hperm : house.orderedAuctionMap.entries.Perm (erased :: (house.removeAuction auction).orderedAuctionMap.entries) := by
    rw [hentries]
    exact perm_middle.trans (.of_eq (congrArg _ hrest.symm))
  have hids := hperm.map Prod.snd
  rw [map_cons, (of_decide_eq_true herased).2] at hids
  obtain ⟨hgone, hnodup⟩ := nodup_cons.mp (hids.nodup_iff.mp h.nodup)
  have hfind (id : Nat) : (house.removeAuction auction).getAuction id =
      if id = auction.id then none else house.getAuction id := find_erase
  have hkept {id : Nat} {found : AuctionEntry} (hfound : (house.removeAuction auction).getAuction id = some found) :
      house.getAuction id = some found := by
    rw [hfind] at hfound
    split at hfound
    · cases hfound
    · exact hfound
  refine ⟨fun id found hfound => h.keyed id found (hkept hfound), hnodup, fun id => ?_, fun entry hentry found hfound =>
    h.prices entry (hperm.mem_iff.mpr (mem_cons_of_mem _ hentry)) found (hkept hfound)⟩
  rw [hfind]
  split
  · next hsame => exact iff_of_false (hsame ▸ hgone) fun hnone => hnone rfl
  · next hother =>
      rw [← h.points id, hids.mem_iff, mem_cons]
      exact (or_iff_right hother).symm

end AuctionHouseObject

namespace World

variable {n : Nat} {s : Settings n} {w w' : World n} {env : Env} {i j : Fin n} {player : Nat} {auction old : AuctionEntry}

theorem sendAuctionMail_eq (receiver : Nat) (answer : MailAuctionAnswers) (money : Nat) :
    w.sendAuctionMail env auction receiver answer money =
      { w with mails := (w.sendAuctionMail env auction receiver answer money).mails } := by
  unfold sendAuctionMail
  split <;> rfl

theorem sendAuctionItem_eq (receiver : Nat) (answer : MailAuctionAnswers) :
    (w.sendAuctionItem env auction receiver answer).removeAItem auction.itemGuidLow =
      { w.removeAItem auction.itemGuidLow with mails := (w.sendAuctionItem env auction receiver answer).mails } := by
  unfold sendAuctionItem removeAItem
  split
  · rfl
  · dsimp only
    split_ifs <;> simp only [send, update_idem]

theorem payBid_eq (bid : Nat) : w.payBid env player auction bid =
    { w with money := (w.payBid env player auction bid).money, mails := (w.payBid env player auction bid).mails } := by
  unfold payBid
  split
  · rfl
  · dsimp only
    split
    · have hmoney := (@sendAuctionMail_keeps n (w.modifyMoney player (-Word.i32 bid)) env auction auction.bidder .outbidded
        auction.bid).2
      rw [sendAuctionOutbiddedMail, hmoney]
      exact sendAuctionMail_eq _ _ _
    · rfl

theorem le_skipUsed (used : List Nat) (next : Nat) : next ≤ skipUsed used next := by
  induction used generalizing next with
  | nil => exact Nat.le_refl _
  | cons id rest ih =>
    unfold skipUsed
    split
    · exact (Nat.le_succ _).trans (ih _)
    · exact Nat.le_refl _

theorem skipUsed_notMem {used : List Nat} {next : Nat} (hsorted : used.Pairwise (· < ·))
    (hfrom : ∀ id ∈ used, next ≤ id) : skipUsed used next ∉ used := by
  induction used generalizing next with
  | nil => exact not_mem_nil
  | cons id rest ih =>
    obtain ⟨habove, hrest⟩ := pairwise_cons.mp hsorted
    have hid := hfrom id mem_cons_self
    unfold skipUsed
    split
    · next hsame =>
        have hlater : ∀ other ∈ rest, next + 1 ≤ other := fun other hmem => hsame ▸ habove other hmem
        have hle := le_skipUsed rest (next + 1)
        exact not_mem_cons_of_ne_of_not_mem (by omega) (ih hrest hlater)
    · next hother =>
        intro hmem
        rcases mem_cons.mp hmem with hsame | hmem
        · exact hother hsame.symm
        · have := habove next hmem
          omega

-- The used ids from the counter on are walked in their order, so the first gap is free.
theorem generateAuctionId_free (w : World n) : w.auctionsIds.find w.generateAuctionId = none := by
  have hsorted : w.auctionsIds.keys.Pairwise (· < ·) := pairwise_map.mpr w.auctionsIds.sorted
  have hfree := skipUsed_notMem (hsorted.filter fun id => w.nextAuctionId ≤ id)
    fun id hmem => of_decide_eq_true (mem_filter.mp hmem).2
  by_contra hused
  exact hfree (mem_filter.mpr ⟨mem_keys.mpr hused, decide_eq_true (le_skipUsed _ _)⟩)

-- Every auction stands in its house's index; its id is no other's, and its item
-- lies with the auction house, for this auction alone.
structure Placed (w : World n) : Prop where
  listed : ∀ i, (w.houses i).Listed
  known : ∀ i id, w.getAuction i id ≠ none → w.auctionsIds.find id ≠ none
  item : ∀ i id auction, w.getAuction i id = some auction →
    w.aItems auction.itemGuidLow ≠ none ∧ w.carried auction.itemGuidLow = none
  alone : ∀ i j id other first second, w.getAuction i id = some first → w.getAuction j other = some second →
    id = other ∨ first.itemGuidLow = second.itemGuidLow → i = j ∧ id = other

section

variable (h : w.Placed)

include h

theorem Placed.of_descends (hlisted : ∀ i, (w'.houses i).Listed)
    (hfrom : ∀ j id found, w'.getAuction j id = some found → ∃ old, w.getAuction j id = some old ∧
      found.itemGuidLow = old.itemGuidLow ∧ w'.auctionsIds.find id = w.auctionsIds.find id ∧
      w'.aItems old.itemGuidLow = w.aItems old.itemGuidLow)
    (hcarried : w'.carried = w.carried) : w'.Placed := by
  refine ⟨hlisted, fun i id hlive => ?_, fun i id found hfound => ?_, fun i j id other first second hfirst hsecond => ?_⟩
  · obtain ⟨found, hfound⟩ := Option.ne_none_iff_exists'.mp hlive
    obtain ⟨old, hold, -, hids, -⟩ := hfrom i id found hfound
    rw [hids]
    exact h.known i id (by rw [hold]; exact Option.some_ne_none old)
  · obtain ⟨old, hold, hitem, -, haItems⟩ := hfrom i id found hfound
    rw [hitem, haItems, hcarried]
    exact h.item i id old hold
  · obtain ⟨one, hone, hitem, -, -⟩ := hfrom i id first hfirst
    obtain ⟨two, htwo, hitem', -, -⟩ := hfrom j other second hsecond
    rw [hitem, hitem']
    exact h.alone i j id other one two hone htwo

theorem Placed.setHouse (i : Fin n) {house : AuctionHouseObject} (hhouse : house.Listed) (j : Fin n) :
    (Function.update w.houses i house j).Listed := by
  by_cases hsame : j = i
  · rw [hsame, update_self]
    exact hhouse
  · rw [update_of_ne hsame]
    exact h.listed j

theorem Placed.setAuction (hold : w.getAuction i auction.id = some old)
    (hprice : auction.buyout = old.buyout) (hitem : auction.itemGuidLow = old.itemGuidLow) :
    (w.setAuction i auction).Placed := by
  refine h.of_descends (h.setHouse i ((h.listed i).setAuction hold hprice)) (fun j id found hfound => ?_) rfl
  rw [getAuction_setAuction] at hfound
  split at hfound
  · next hkey =>
      obtain ⟨rfl, rfl⟩ := hkey
      cases hfound
      exact ⟨old, hold, hitem, rfl, rfl⟩
  · exact ⟨found, hfound, rfl, rfl, rfl⟩

theorem Placed.changed (money : OrderedMap Nat Nat) (mails : List Mail) :
    ({ w with money := money, mails := mails } : World n).Placed := ⟨h.listed, h.known, h.item, h.alone⟩

section

variable (hlive : w.getAuction i auction.id = some auction)

include hlive

theorem Placed.removeAuction : ((w.removeAItem auction.itemGuidLow).removeAuction i auction).Placed := by
  refine h.of_descends (h.setHouse i ((h.listed i).removeAuction hlive)) (fun j id found hfound => ?_) rfl
  rw [getAuction_removeAuction] at hfound
  split at hfound
  · cases hfound
  · next hother =>
      have halone := h.alone j i id auction.id found auction hfound hlive
      refine ⟨found, hfound, rfl, ?_, update_of_ne (fun hsame => hother (halone (.inr hsame))) _ _⟩
      have hids : (if (w.getAuction i auction.id).isSome then w.auctionsIds.erase auction.id else w.auctionsIds).find id =
          w.auctionsIds.find id := by
        rw [hlive, Option.isSome_some, if_pos rfl, find_erase, if_neg fun hsame => hother (halone (.inl hsame))]
      exact hids

theorem Placed.sendAuctionItem (receiver : Nat) (answer : MailAuctionAnswers) :
    (((w.sendAuctionItem env auction receiver answer).removeAItem auction.itemGuidLow).removeAuction i auction).Placed := by
  rw [sendAuctionItem_eq]
  exact (h.changed w.money (w.sendAuctionItem env auction receiver answer).mails).removeAuction hlive

theorem Placed.sellAuction : (w.sellAuction s env i auction).Placed := by
  unfold World.sellAuction sendAuctionSuccessfulMail
  rw [sendAuctionMail_eq]
  exact (h.changed w.money (w.sendAuctionSuccessfulMail s env auction).mails).sendAuctionItem hlive auction.bidder .won

theorem Placed.placeBid (price : Nat) : (w.placeBid s env player i auction price).Placed := by
  have hpaid := h.changed (w.payBid env player auction (auction.placed player price).bid).money
    (w.payBid env player auction (auction.placed player price).bid).mails
  rw [← payBid_eq] at hpaid
  have hset : (World.setAuction _ i (auction.placed player price)).Placed :=
    hpaid.setAuction ((getAuction_of_houses (houses_payBid _) i _).trans hlive) rfl rfl
  unfold World.placeBid
  dsimp only
  split
  · exact hset
  · exact hset.sellAuction (getAuction_setAuction.trans (if_pos ⟨rfl, rfl⟩))

theorem Placed.cancelAuction : (w.cancelAuction s env player i auction).Placed := by
  unfold World.cancelAuction
  dsimp only
  split
  · rw [sendAuctionCancelledToBidderMail, sendAuctionMail_eq]
    exact (h.changed _ _).removeAuction hlive
  · exact (h.changed w.money _).removeAuction hlive

omit h hlive in
theorem Placed.ended (hplaced : (w.setAuction i auction).Placed) :
    let first := w.setAuction i auction
    let after :=
      if auction.expireTime < env.gameTime then
        if auction.bidder = 0 then
          ((first.sendAuctionExpiredMail env auction).removeAItem auction.itemGuidLow).removeAuction i auction
        else first.sellAuction s env i auction
      else first
    after.Placed ∧ ∀ id, id ≠ auction.id → after.getAuction i id = w.getAuction i id := by
  have hnow : (w.setAuction i auction).getAuction i auction.id = some auction :=
    getAuction_setAuction.trans (if_pos ⟨rfl, rfl⟩)
  have hstays : ∀ id, id ≠ auction.id → (w.setAuction i auction).getAuction i id = w.getAuction i id :=
    fun id hother => getAuction_setAuction.trans (if_neg fun hkey => hother hkey.2)
  dsimp only
  split
  · split
    · refine ⟨hplaced.sendAuctionItem hnow _ _, fun id hother => ?_⟩
      rw [getAuction_removeAuction, if_neg fun hkey => hother hkey.2, ← hstays id hother]
      exact getAuction_of_houses (sendAuctionItem_keeps _ _).1 i id
    · refine ⟨hplaced.sellAuction hnow, fun id hother => ?_⟩
      rw [getAuction_sellAuction, if_neg fun hkey => hother hkey.2, hstays id hother]
  · exact ⟨hplaced, hstays⟩

theorem Placed.expireAuction : (w.expireAuction s env i auction).Placed ∧ ∀ id, id ≠ auction.id →
    (w.expireAuction s env i auction).getAuction i id = w.getAuction i id := by
  unfold World.expireAuction
  dsimp only
  split
  · exact Placed.ended (h.setAuction hlive rfl rfl)
  · exact Placed.ended (h.setAuction hlive rfl rfl)

end

theorem Placed.listAuction {entry : AuctionHouseEntry} {item : Item} {itemGuid bid buyout etime : Nat}
    (hfree : w.aItems itemGuid = none) :
    (w.listAuction s env player i entry itemGuid item bid buyout etime).Placed := by
  have hnewId := w.generateAuctionId_free
  have hfresh (j : Fin n) : w.getAuction j w.generateAuctionId = none := by
    by_contra hlive
    exact h.known j _ hlive hnewId
  have hfound {j : Fin n} {id : Nat} {found : AuctionEntry}
      (hfound : (w.listAuction s env player i entry itemGuid item bid buyout etime).getAuction j id = some found) :
      j = i ∧ id = w.generateAuctionId ∧ found.itemGuidLow = itemGuid ∨
        w.getAuction j id = some found ∧ found.itemGuidLow ≠ itemGuid := by
    replace hfound := getAuction_addAuction.symm.trans hfound
    split at hfound
    · next hkey =>
        cases hfound
        exact .inl ⟨hkey.1, hkey.2, rfl⟩
    · exact .inr ⟨hfound, fun hsame => (h.item j id found hfound).1 (hsame ▸ hfree)⟩
  refine ⟨h.setHouse i (AuctionHouseObject.Listed.addAuction (h.listed i) (hfresh i)), fun j id hlive => ?_,
    fun j id found hlive => ?_, fun j k id other first second hfirst hsecond => ?_⟩
  · refine (find_insert (m := w.auctionsIds) ()).trans_ne ?_
    split
    · exact Option.some_ne_none ()
    · next hother =>
        obtain ⟨found, hlive⟩ := Option.ne_none_iff_exists'.mp hlive
        rcases hfound hlive with ⟨-, hsame, -⟩ | ⟨hold, -⟩
        · exact absurd hsame hother
        · exact h.known j id (by rw [hold]; exact Option.some_ne_none found)
  · rcases hfound hlive with ⟨-, -, hitem⟩ | ⟨hold, hitem⟩
    · rw [hitem]
      exact ⟨(update_self itemGuid _ w.aItems).trans_ne (Option.some_ne_none item), update_self itemGuid _ w.carried⟩
    · obtain ⟨hheld, hcarried⟩ := h.item j id found hold
      exact ⟨(update_of_ne hitem _ w.aItems).trans_ne hheld, (update_of_ne hitem _ w.carried).trans hcarried⟩
  · have hapart {k : Fin n} {id : Nat} {old : AuctionEntry} (hold : w.getAuction k id = some old) :
        id ≠ w.generateAuctionId := by
      rintro rfl
      rw [hfresh] at hold
      cases hold
    rcases hfound hfirst with ⟨rfl, rfl, hitem⟩ | ⟨hold, hitem⟩ <;>
      rcases hfound hsecond with ⟨rfl, rfl, hitem'⟩ | ⟨hold', hitem'⟩
    · exact fun _ => ⟨rfl, rfl⟩
    · rintro (hid | hsame)
      · exact absurd hid.symm (hapart hold')
      · exact absurd (hsame.symm.trans hitem) hitem'
    · rintro (hid | hsame)
      · exact absurd hid (hapart hold)
      · exact absurd (hsame.trans hitem') hitem
    · exact h.alone j k id other first second hold hold'

theorem Placed.updateHouse (i : Fin n) : (updateHouse s env w i).Placed := by
  have hkeyed : ∀ entry ∈ (w.houses i).auctionsMap.entries, entry.2.id = entry.1 := fun entry hmem =>
    (h.listed i).keyed entry.1 entry.2 (find_of_mem hmem)
  have hlive : ∀ auction ∈ (w.houses i).auctionsMap.entries.map Prod.snd, w.getAuction i auction.id = some auction :=
    fun auction hmem => getAuction_of_mem hmem fun j => (h.listed j).keyed
  have hnodup : ((w.houses i).auctionsMap.entries.map Prod.snd).Pairwise fun first second => second.id ≠ first.id := by
    refine pairwise_map.mpr ((w.houses i).auctionsMap.sorted.imp_of_mem fun hfirst hsecond hless => ?_)
    rw [hkeyed _ hfirst, hkeyed _ hsecond]
    exact hless.ne'
  -- The loop runs over the auctions it has found; those still to come stay as they were.
  unfold World.updateHouse
  clear hkeyed
  generalize (w.houses i).auctionsMap.entries.map Prod.snd = list at hlive hnodup
  induction list generalizing w with
  | nil => exact h
  | cons auction rest ih =>
    obtain ⟨hfirst, hrest⟩ := forall_mem_cons.mp hlive
    obtain ⟨hothers, hnodup⟩ := pairwise_cons.mp hnodup
    obtain ⟨hplaced, hstays⟩ := h.expireAuction hfirst
    exact ih hplaced (fun other hmem => (hstays other.id (hothers other hmem)).trans (hrest other hmem)) hnodup

theorem Placed.step (action : Step) : (w.step s action).Placed := by
  cases action with
  | sellItem env player itemGuid bid buyout etime =>
    refine answered_of_holds ((holds_handleAuctionSellItem itemGuid bid buyout etime).mono (fun _ _ => trivial) ?_) h
    rintro after ⟨entry, item, time, -, -, hfree, -, -, rfl⟩
    exact h.listAuction hfree
  | placeBid env player auctionId price =>
    refine answered_of_holds ((holds_handleAuctionPlaceBid auctionId price).mono (fun _ _ => trivial) ?_) h
    rintro after ⟨entry, auction, -, hfind, -, -, rfl⟩
    exact h.placeBid (by rwa [(h.listed _).keyed _ _ hfind]) price
  | removeItem env player auctionId =>
    refine answered_of_holds ((holds_handleAuctionRemoveItem auctionId).mono (fun _ _ => trivial) ?_) h
    rintro after ⟨entry, auction, item, -, hfind, -, -, -, rfl⟩
    exact h.cancelAuction (by rwa [(h.listed _).keyed _ _ hfind])
  | update env => exact foldlRecOn (motive := Placed) _ _ h fun _ h i _ => h.updateHouse i

end

theorem placed_run (hopening : w.Opening) (steps : List Step) : (run (step s) w steps).Placed := by
  have hempty : w.Placed := by
    refine ⟨fun i => hopening.houses i ▸ AuctionHouseObject.listed_empty, fun i id hlive => ?_, fun i id found hfound => ?_,
      fun i j id other first second hfirst => ?_⟩
    · exact absurd (hopening.getAuction i id) hlive
    · rw [hopening.getAuction] at hfound
      cases hfound
    · rw [hopening.getAuction] at hfirst
      cases hfirst
  exact run_invariant (step s) (fun _ _ => True) Placed (fun _ action h _ => h.step action) hempty
    (guarded_of_forall _ _ (fun _ _ => trivial) _ _)

theorem placed_run_sold : (onSale 100 500).Placed := placed_run market_opening [.sellItem trading seller 7 100 500 120]

end World

end TurtleWow.Auction

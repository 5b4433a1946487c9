import TurtleWow.Auction.AuctionEntry
import TurtleWow.Lib.Lists

namespace TurtleWow.Auction

open List OrderedMap

-- The two ways of BuildListAuctionItems through a house: the shortcut of the
-- query without filters, and the loop that filters.

namespace AuctionHouseObject

variable {house : AuctionHouseObject} {aItems : Nat → Option Item} {viewer : Viewer}

-- The multimap by buyout points to every auction once, under its price.
structure Listed (house : AuctionHouseObject) : Prop where
  keyed : ∀ id auction, house.getAuction id = some auction → auction.id = id
  nodup : (house.orderedAuctionMap.entries.map Prod.snd).Nodup
  points : ∀ id, id ∈ house.orderedAuctionMap.entries.map Prod.snd ↔ house.getAuction id ≠ none
  prices : ∀ entry ∈ house.orderedAuctionMap.entries, ∀ auction,
    house.getAuction entry.2 = some auction → auction.buyout = entry.1

theorem listed_empty : Listed empty where
  keyed := fun _ _ h => nomatch h
  nodup := nodup_nil
  points := fun _ => iff_of_false not_mem_nil fun h => h rfl
  prices := fun _ h => nomatch h

theorem Listed.addAuction (h : house.Listed) {auction : AuctionEntry} (hnew : house.getAuction auction.id = none) :
    (house.addAuction auction).Listed := by
  have hperm := Multimap.insert_perm house.orderedAuctionMap auction.buyout auction.id
  have hids := hperm.map Prod.snd
  rw [map_cons] at hids
  refine ⟨fun id found hfound => ?_, ?_, fun id => ?_, fun entry hentry found hfound => ?_⟩
  · rcases of_find_insert hfound with ⟨rfl, rfl⟩ | ⟨-, hfound⟩
    · rfl
    · exact h.keyed id found hfound
  · exact hids.nodup_iff.mpr (nodup_cons.mpr ⟨fun hmem => (h.points _).mp hmem hnew, h.nodup⟩)
  · rw [getAuction, AuctionHouseObject.addAuction, hids.mem_iff, mem_cons, find_insert]
    by_cases hsame : id = auction.id
    · simp [hsame]
    · rw [if_neg hsame]
      exact (or_iff_right hsame).trans (h.points id)
  · rcases mem_cons.mp (hperm.mem_iff.mp hentry) with rfl | hmem
    · rcases of_find_insert hfound with ⟨-, rfl⟩ | ⟨hne, -⟩
      · rfl
      · exact absurd rfl hne
    · rcases of_find_insert hfound with ⟨hsame, -⟩ | ⟨-, hfound⟩
      · exact absurd hnew (hsame ▸ (h.points entry.2).mp (mem_map_of_mem hmem))
      · exact h.prices entry hmem found hfound

theorem Listed.map_id_orderedAuctions (h : house.Listed) :
    house.orderedAuctions.map AuctionEntry.id = house.orderedAuctionMap.entries.map Prod.snd := by
  have hlive : ∀ entry ∈ house.orderedAuctionMap.entries, ∃ auction, house.getAuction entry.2 = some auction := by
    intro entry hentry
    exact Option.ne_none_iff_exists'.mp ((h.points _).mp (mem_map_of_mem hentry))
  unfold orderedAuctions
  generalize house.orderedAuctionMap.entries = list at hlive ⊢
  induction list with
  | nil => rfl
  | cons entry rest ih =>
    obtain ⟨⟨auction, hfind⟩, hrest⟩ := forall_mem_cons.mp hlive
    rw [filterMap_cons_some (f := fun entry : Nat × Nat => house.getAuction entry.2) hfind, map_cons, map_cons, ih hrest, h.keyed _ _ hfind]

theorem Listed.mem_orderedAuctions (h : house.Listed) {auction : AuctionEntry} :
    auction ∈ house.orderedAuctions ↔ house.getAuction auction.id = some auction := by
  rw [orderedAuctions, mem_filterMap]
  constructor
  · rintro ⟨entry, -, hfind⟩
    rw [h.keyed _ _ hfind, hfind]
  · intro hfind
    obtain ⟨entry, hentry, hid⟩ := mem_map.mp ((h.points auction.id).mpr (by rw [hfind]; nofun))
    exact ⟨entry, hentry, hid ▸ hfind⟩

def Passes (aItems : Nat → Option Item) (viewer : Viewer) (auction : AuctionEntry) : Bool :=
  (aItems auction.itemGuidLow).isSome && auction.isAvailableFor viewer.address

def records (aItems : Nat → Option Item) (list : List AuctionEntry) : List AuctionInfo :=
  list.flatMap fun auction => (auction.buildAuctionInfo aItems).toList

variable {query : AuctionHouseClientQuery}

def Finds (aItems : Nat → Option Item) (viewer : Viewer) (query : AuctionHouseClientQuery)
    (auction : AuctionEntry) : Bool :=
  match aItems auction.itemGuidLow with
  | none => false
  | some item => query.passes viewer auction item

theorem finds_of_isEmpty (hempty : query.isEmpty = true) : Finds aItems viewer query = Passes aItems viewer := by
  funext auction
  unfold Finds Passes
  cases aItems auction.itemGuidLow with
  | none => rfl
  | some item =>
    simp only [AuctionHouseClientQuery.isEmpty, decide_eq_true_eq] at hempty
    obtain ⟨hmain, hsub, hslot, hquality, hmin, -, husable, hname⟩ := hempty
    simp only [AuctionHouseClientQuery.passes, hmain, hsub, hslot, hquality, hmin, husable, hname, ne_eq,
      not_true_eq_false, false_and, if_false, Option.isSome_some, Bool.true_and]
    cases auction.isAvailableFor viewer.address <;> rfl

theorem listFiltered_eq (list : AuctionList) (auction : AuctionEntry) :
    listFiltered aItems viewer query list auction =
      if Finds aItems viewer query auction then listPassed aItems query.listfrom list auction else list := by
  unfold listFiltered Finds
  cases aItems auction.itemGuidLow <;> rfl

-- The loop from the middle: it lists what passes, from the offset on, fifty at most.
theorem foldl_listFound (auctions : List AuctionEntry) (list : AuctionList) :
    auctions.foldl (listFiltered aItems viewer query) list =
      let found := auctions.filter (Finds aItems viewer query)
      let page := (found.drop (query.listfrom - list.totalcount)).take (50 - list.count)
      ⟨list.data ++ records aItems page, list.count + page.length, list.totalcount + found.length⟩ := by
  induction auctions generalizing list with
  | nil => simp [records]
  | cons auction rest ih =>
    rw [foldl_cons, ih, listFiltered_eq]
    by_cases hpass : Finds aItems viewer query auction = true
    · rw [if_pos hpass, filter_cons_of_pos hpass]
      unfold listPassed
      by_cases hroom : list.count < 50 ∧ query.listfrom ≤ list.totalcount
      · rw [if_pos hroom]
        have hdrop : query.listfrom - list.totalcount = 0 := by omega
        have hdrop' : query.listfrom - (list.totalcount + 1) = 0 := by omega
        obtain ⟨room, hcount⟩ : ∃ room, 50 - list.count = room + 1 := ⟨50 - list.count - 1, by omega⟩
        have hcount' : 50 - (list.count + 1) = room := by omega
        simp only [hdrop, hdrop', hcount, hcount', drop_zero, take_succ_cons, records, flatMap_cons,
          length_cons, append_assoc]
        congr 1 <;> omega
      · rw [if_neg hroom]
        rcases not_and_or.mp hroom with hfull | hbefore
        · have hcount : 50 - list.count = 0 := by omega
          simp only [hcount, take_zero, length_cons]
          congr 1
          omega
        · obtain ⟨offset, hoffset⟩ : ∃ offset, query.listfrom - list.totalcount = offset + 1 :=
            ⟨query.listfrom - list.totalcount - 1, by omega⟩
          have hoffset' : query.listfrom - (list.totalcount + 1) = offset := by omega
          simp only [hoffset, hoffset', drop_succ_cons, length_cons]
          congr 1
          omega
    · rw [if_neg hpass, filter_cons_of_neg hpass]

theorem foldl_listFiltered (hempty : query.isEmpty = true)
    (auctions : List AuctionEntry) (list : AuctionList) :
    auctions.foldl (listFiltered aItems viewer query) list =
      let page := ((auctions.filter (Passes aItems viewer)).drop (query.listfrom - list.totalcount)).take (50 - list.count)
      { data := list.data ++ records aItems page
        count := list.count + page.length
        totalcount := list.totalcount + (auctions.filter (Passes aItems viewer)).length } := by
  rw [foldl_listFound, finds_of_isEmpty hempty]

theorem listShortcut_eq (auctions : List AuctionEntry) (list : AuctionList) (hroom : list.count < 50) :
    listShortcut aItems viewer auctions list =
      let page := (auctions.filter (·.isAvailableFor viewer.address)).take (50 - list.count)
      { data := list.data ++ records aItems page
        count := list.count + page.length
        totalcount := list.totalcount } := by
  induction auctions generalizing list with
  | nil => simp [listShortcut, records]
  | cons auction rest ih =>
    unfold listShortcut
    by_cases havailable : auction.isAvailableFor viewer.address = false
    · rw [if_pos havailable, ih list hroom, filter_cons_of_neg (by simp [havailable])]
    · rw [if_neg havailable, filter_cons_of_pos (by simpa using havailable)]
      obtain ⟨room, hcount⟩ : ∃ room, 50 - list.count = room + 1 := ⟨50 - list.count - 1, by omega⟩
      have hcount' : 50 - (list.count + 1) = room := by omega
      dsimp only
      split
      · next hfull =>
          obtain rfl : room = 0 := by omega
          simp [hcount, records]
      · next hmore =>
          rw [ih _ (by dsimp only; omega)]
          simp only [hcount, hcount', take_succ_cons, records, flatMap_cons, length_cons,
            append_assoc]
          congr 1
          omega

theorem ids_records {list : List AuctionEntry} (h : ∀ auction ∈ list, (aItems auction.itemGuidLow).isSome) :
    (records aItems list).map AuctionInfo.id = list.map AuctionEntry.id := by
  induction list with
  | nil => rfl
  | cons auction rest ih =>
    obtain ⟨hitem, hrest⟩ := forall_mem_cons.mp h
    obtain ⟨item, hitem⟩ := Option.isSome_iff_exists.mp hitem
    have hrecord : (auction.buildAuctionInfo aItems).toList.map AuctionInfo.id = [auction.id] := by
      rw [AuctionEntry.buildAuctionInfo, hitem]
      rfl
    have hcons : records aItems (auction :: rest) =
      (auction.buildAuctionInfo aItems).toList ++ records aItems rest := rfl
    rw [hcons, map_append, ih hrest, hrecord]
    rfl

theorem length_records {list : List AuctionEntry} (h : ∀ auction ∈ list, (aItems auction.itemGuidLow).isSome) :
    (records aItems list).length = list.length := by
  rw [← length_map (f := AuctionInfo.id), ids_records h, length_map]

def pageOf (aItems : Nat → Option Item) (auctions : List AuctionEntry) (listfrom : Nat) : AuctionList :=
  let page := (auctions.drop listfrom).take 50
  ⟨records aItems page, page.length, auctions.length⟩

theorem buildListFiltered_eq (h : ∀ auction ∈ house.orderedAuctions, Passes aItems viewer auction = true)
    (listfrom : Nat) :
    house.buildListFiltered aItems viewer (.allEmpty listfrom) = pageOf aItems house.orderedAuctions listfrom := by
  rw [buildListFiltered, foldl_listFiltered rfl, filter_eq_self.mpr h]
  simp [pageOf, AuctionHouseClientQuery.allEmpty]

theorem buildListShortcut_eq (h : ∀ auction ∈ house.orderedAuctions, Passes aItems viewer auction = true)
    (listfrom : Nat) :
    house.buildListShortcut aItems viewer (.allEmpty listfrom) = pageOf aItems house.orderedAuctions listfrom := by
  have havailable : ∀ auction ∈ house.orderedAuctions.drop listfrom, auction.isAvailableFor viewer.address = true := by
    intro auction hmem
    have hpass := h auction (mem_of_mem_drop hmem)
    simp only [Passes, Bool.and_eq_true] at hpass
    exact hpass.2
  have hfrom : (AuctionHouseClientQuery.allEmpty listfrom).listfrom = listfrom := rfl
  unfold buildListShortcut
  rw [hfrom]
  by_cases hinside : listfrom < house.orderedAuctions.length
  · rw [if_pos hinside, listShortcut_eq _ _ (Nat.zero_lt_succ 49), filter_eq_self.mpr havailable]
    simp [pageOf]
  · rw [if_neg hinside, pageOf, drop_eq_nil_of_le (Nat.not_lt.mp hinside)]
    rfl

-- Two answers to one query show the same, and each the records it counts.
def Alike (first second : AuctionList) : Prop :=
  first.ids = second.ids ∧ first.count = second.count ∧ first.totalcount = second.totalcount ∧
    first.data.length = first.count ∧ second.data.length = second.count

def pages (build : AuctionHouseClientQuery → AuctionList) (count : Nat) : List Nat :=
  (List.range count).flatMap fun page => (build (.allEmpty (50 * page))).ids

-- The pages show every auction the player may see once.
def Complete (house : AuctionHouseObject) (viewer : Viewer) (build : AuctionHouseClientQuery → AuctionList) : Prop :=
  ∀ count, house.orderedAuctions.length ≤ 50 * count → ∀ auction, house.getAuction auction.id = some auction →
    auction.isAvailableFor viewer.address = true → (pages build count).count auction.id = 1

theorem alike_pageOf {auctions : List AuctionEntry} (h : ∀ auction ∈ auctions, Passes aItems viewer auction = true)
    (listfrom : Nat) : Alike (pageOf aItems auctions listfrom) (pageOf aItems auctions listfrom) := by
  have hitems : ∀ auction ∈ (auctions.drop listfrom).take 50, (aItems auction.itemGuidLow).isSome = true := by
    intro auction hmem
    have hpass := h auction (mem_of_mem_drop (mem_of_mem_take hmem))
    simp only [Passes, Bool.and_eq_true] at hpass
    exact hpass.1
  exact ⟨rfl, rfl, rfl, length_records hitems, length_records hitems⟩

theorem Listed.complete_pageOf (hlisted : house.Listed)
    (h : ∀ auction ∈ house.orderedAuctions, Passes aItems viewer auction = true)
    {build : AuctionHouseClientQuery → AuctionList}
    (hbuild : ∀ listfrom, build (.allEmpty listfrom) = pageOf aItems house.orderedAuctions listfrom) :
    Complete house viewer build := by
  intro count hcount auction hlive _
  have hpage : ∀ page ∈ List.range count, (build (.allEmpty (50 * page))).ids =
      ((house.orderedAuctions.map AuctionEntry.id).drop (50 * page)).take 50 := by
    intro page _
    rw [hbuild, AuctionList.ids, pageOf, ids_records, map_take, map_drop]
    intro auction hmem
    have hpass := h auction (mem_of_mem_drop (mem_of_mem_take hmem))
    simp only [Passes, Bool.and_eq_true] at hpass
    exact hpass.1
  have hids : (house.orderedAuctions.map AuctionEntry.id).Nodup := hlisted.map_id_orderedAuctions ▸ hlisted.nodup
  rw [pages, flatMap_congr hpage, Lists.flatMap_pages, take_of_length_le (by simpa using hcount)]
  exact count_eq_one_of_mem hids (mem_map_of_mem (hlisted.mem_orderedAuctions.mpr hlive))

-- The shortcut answers like the loop exactly when no auction is locked on another
-- address or without its item.
theorem listing_paths_agree_iff (hlisted : house.Listed) :
    ((∀ listfrom, Alike (house.buildListAuctionItems aItems viewer (.allEmpty listfrom))
        (house.buildListFiltered aItems viewer (.allEmpty listfrom))) ∧
      Complete house viewer (house.buildListAuctionItems aItems viewer) ∧
      Complete house viewer (house.buildListFiltered aItems viewer)) ↔
    ∀ auction, house.getAuction auction.id = some auction → Passes aItems viewer auction = true := by
  have hshortcut : ∀ listfrom, house.buildListAuctionItems aItems viewer (.allEmpty listfrom) =
      house.buildListShortcut aItems viewer (.allEmpty listfrom) := fun _ => if_pos rfl
  constructor
  · rintro ⟨halike, -, -⟩ auction hlive
    obtain ⟨-, -, htotal, -, -⟩ := halike 0
    have hall : (house.orderedAuctions.filter (Passes aItems viewer)).length = house.orderedAuctions.length := by
      rw [hshortcut, buildListFiltered, foldl_listFiltered rfl] at htotal
      have hfirst : (house.buildListShortcut aItems viewer (.allEmpty 0)).totalcount = house.orderedAuctions.length := by
        unfold buildListShortcut
        dsimp only
        split
        · rw [listShortcut_eq _ _ (Nat.zero_lt_succ 49)]
        · rfl
      rw [← hfirst, htotal]
      simp
    exact List.length_filter_eq_length_iff.mp hall auction (hlisted.mem_orderedAuctions.mpr hlive)
  · intro h
    have hpass : ∀ auction ∈ house.orderedAuctions, Passes aItems viewer auction = true :=
      fun auction hmem => h auction (hlisted.mem_orderedAuctions.mp hmem)
    refine ⟨fun listfrom => ?_, hlisted.complete_pageOf hpass fun listfrom => ?_,
      hlisted.complete_pageOf hpass fun listfrom => buildListFiltered_eq hpass listfrom⟩
    · rw [hshortcut, buildListShortcut_eq hpass, buildListFiltered_eq hpass]
      exact alike_pageOf hpass listfrom
    · rw [hshortcut, buildListShortcut_eq hpass]

def clothAuction (lockedIpAddress : String) : AuctionEntry :=
  { id := 1, itemGuidLow := 7, itemTemplate := 2589, owner := 3, ownerAccount := 2, startbid := 100, bid := 0,
    buyout := 500, lockedIpAddress := lockedIpAddress, depositTime := 0, expireTime := 7200, bidder := 0,
    deposit := 5, auctionHouseEntry := ⟨1, 5, 5⟩ }

def oneAuction (lockedIpAddress : String) : AuctionHouseObject := empty.addAuction (clothAuction lockedIpAddress)

def linenCloth (guid : Nat) : Option Item := if guid = 7 then some ⟨20, ⟨2589, 7, 0, 0, 1, 0, 13, 20⟩⟩ else none

def buyer : Viewer := ⟨"10.0.0.2", fun _ => true, fun _ => false, fun _ _ => true⟩

theorem listing_paths_agree_open_auction :
    Alike ((oneAuction "").buildListAuctionItems linenCloth buyer (.allEmpty 0))
        ((oneAuction "").buildListFiltered linenCloth buyer (.allEmpty 0)) ∧
      Complete (oneAuction "") buyer ((oneAuction "").buildListAuctionItems linenCloth buyer) := by
  have hlisted : (oneAuction "").Listed := listed_empty.addAuction rfl
  have h := @listing_paths_agree_iff (oneAuction "") linenCloth buyer hlisted
  replace h := h.mpr ?_
  · exact ⟨h.1 0, h.2.1⟩
  · intro auction hlive
    rcases OrderedMap.of_find_insert hlive with ⟨-, rfl⟩ | ⟨-, hfind⟩
    · rfl
    · cases hfind

-- An auction that another address still holds is counted by the shortcut, not by the loop.
theorem locked_auction_is_counted :
    ¬ Alike ((oneAuction "10.0.0.1").buildListAuctionItems linenCloth buyer (.allEmpty 0))
      ((oneAuction "10.0.0.1").buildListFiltered linenCloth buyer (.allEmpty 0)) := by
  intro h
  have htotal : (1 : Nat) = 0 := h.2.2.1
  cases htotal

-- A search with filters: its pages are those of the auctions it finds, in the
-- order of the prices, each on one page.
theorem search_pages (hlisted : house.Listed) (hfilters : query.isEmpty = false) (count : Nat)
    (hcount : house.orderedAuctions.length ≤ 50 * count) :
    let found := house.orderedAuctions.filter (Finds aItems viewer query)
    let page i := house.buildListAuctionItems aItems viewer { query with listfrom := 50 * i }
    (∀ i, (page i).data.length = (page i).count ∧ (page i).count ≤ 50 ∧ (page i).totalcount = found.length) ∧
      (List.range count).flatMap (fun i => (page i).ids) = found.map AuctionEntry.id ∧
      ∀ auction, house.getAuction auction.id = some auction → Finds aItems viewer query auction = true →
        (found.map AuctionEntry.id).count auction.id = 1 := by
  intro found page
  have hpage : ∀ i, page i = pageOf aItems found (50 * i) := by
    intro i
    have hfinds : Finds aItems viewer { query with listfrom := 50 * i } = Finds aItems viewer query := rfl
    show house.buildListAuctionItems aItems viewer { query with listfrom := 50 * i } = _
    rw [buildListAuctionItems, if_neg (by rw [← Bool.not_eq_true] at hfilters; exact hfilters), buildListFiltered,
      foldl_listFound, hfinds]
    simp [pageOf, found]
  have hitems : ∀ i, ∀ auction ∈ (found.drop (50 * i)).take 50, (aItems auction.itemGuidLow).isSome = true := by
    intro i auction hmem
    have hfinds := (mem_filter.mp (mem_of_mem_drop (mem_of_mem_take hmem))).2
    unfold Finds at hfinds
    split at hfinds
    · cases hfinds
    · next hitem => rw [hitem]; rfl
  refine ⟨fun i => ?_, ?_, fun auction hlive hfinds => ?_⟩
  · rw [hpage]
    exact ⟨length_records (hitems i), length_take_le _ _, rfl⟩
  · have hids : ∀ i ∈ List.range count, (page i).ids = ((found.map AuctionEntry.id).drop (50 * i)).take 50 := by
      intro i _
      rw [hpage, AuctionList.ids, pageOf, ids_records (hitems i), map_take, map_drop]
    have hall : (found.map AuctionEntry.id).length ≤ 50 * count := by
      rw [length_map]
      exact (length_filter_le _ _).trans hcount
    rw [flatMap_congr hids, Lists.flatMap_pages, take_of_length_le hall]
  · have hids : (house.orderedAuctions.map AuctionEntry.id).Nodup := hlisted.map_id_orderedAuctions ▸ hlisted.nodup
    exact count_eq_one_of_mem (hids.sublist (filter_sublist.map _))
      (mem_map_of_mem (mem_filter.mpr ⟨hlisted.mem_orderedAuctions.mpr hlive, hfinds⟩))

def commonCloth : AuctionHouseClientQuery := { AuctionHouseClientQuery.allEmpty 0 with quality := 1 }

theorem search_pages_commonCloth :
    ((oneAuction "").buildListAuctionItems linenCloth buyer commonCloth).totalcount = 1 :=
  ((@search_pages (oneAuction "") linenCloth buyer commonCloth (listed_empty.addAuction rfl) rfl 1 (by decide)).1 0).2.2

end AuctionHouseObject

end TurtleWow.Auction

import TurtleWow.Objects.Store

namespace TurtleWow.Objects

open TurtleWow.Early List

namespace Inventory

-- A slot that a search may offer whatever lies there.
def Container (store : ItemStore) (inv : Inventory) (bag slot : Nat) : Prop :=
  (bag = inventorySlotBag0 ∧ slot < playerSlotEnd ∧ ¬(buybackSlotStart ≤ slot ∧ slot < buybackSlotEnd)) ∨
    (bag ≠ inventorySlotBag0 ∧ ∃ pBag, inv.getItemByPos store inventorySlotBag0 bag = some pBag ∧
      slot < (pBag.proto store).containerSlots)

-- What _CanStoreItem promises about each position it offers, and about the
-- search as a whole: nothing is counted twice and nothing is forgotten.
structure Room (store : ItemStore) (inv : Inventory) (entry : Nat) (proto : ItemPrototype)
    (src : Option MovedItem) (p : ItemPosCount) : Prop where
  container : Container store inv p.pos.1 p.pos.2
  fits : ∀ item, inv.getOtherItemByPos store p.pos.1 p.pos.2 src = some item →
    item.entry = entry ∧ item.count + p.count ≤ proto.stackable
  small : p.count ≤ proto.stackable

structure Placed (store : ItemStore) (inv : Inventory) (entry : Nat) (proto : ItemPrototype)
    (src : Option MovedItem) (count : Nat) (s : Search) : Prop where
  sum : s.count + (s.dest.map fun p => p.count).sum = count
  nodup : (s.dest.map fun p => p.pos).Nodup
  room : ∀ p ∈ s.dest, Room store inv entry proto src p

section

variable {store : ItemStore} {inv : Inventory} {entry count noSimilar : Nat} {proto : ItemPrototype}
  {src : Option MovedItem}

variable {s : Search} {bag slot : Nat}

theorem Placed.push {pos : Pos} {space : Nat}
    (hs : Placed store inv entry proto src count s) (hnew : s.isContained pos = false)
    (hspace : space ≤ proto.stackable)
    (hroom : ∀ n, n ≤ space → Room store inv entry proto src ⟨pos, n⟩) :
    Placed store inv entry proto src count (s.push pos space) := by
  have hsmall : min space s.count < 256 := by
    have := proto.stackable_le
    omega
  have hu8 : Word.u8 (min space s.count) = min space s.count := Word.u8_of_lt hsmall
  simp only [Search.isContained, any_eq_false, decide_eq_true_eq] at hnew
  refine ⟨?_, ?_, ?_⟩
  · have hsum := hs.sum
    simp only [Search.push, hu8, map_append, map_cons, map_nil, sum_append,
      sum_cons, sum_nil]
    omega
  · simp only [Search.push, map_append, map_cons, map_nil]
    rw [nodup_append]
    refine ⟨hs.nodup, nodup_singleton _, ?_⟩
    intro a ha b hb
    obtain ⟨p, hp, rfl⟩ := mem_map.mp ha
    rw [mem_singleton] at hb
    rw [hb]
    exact hnew p hp
  · intro p hp
    rcases mem_append.mp hp with hp | hp
    · exact hs.room p hp
    · rw [mem_singleton.mp hp, hu8]
      exact hroom _ (Nat.min_le_left _ _)

theorem room_of_spaceFor {space : Nat} (hcontainer : Container store inv bag slot)
    (hspace : spaceFor entry proto (inv.getOtherItemByPos store bag slot src) = some space) :
    space ≤ proto.stackable ∧ ∀ n, n ≤ space → Room store inv entry proto src ⟨(bag, slot), n⟩ := by
  cases hitem : inv.getOtherItemByPos store bag slot src with
  | none =>
    simp only [spaceFor, hitem, Option.some.injEq, ItemPrototype.getMaxStackSize] at hspace
    refine ⟨Nat.le_of_eq hspace.symm, fun n hn => ⟨hcontainer, ?_, by simp only; omega⟩⟩
    intro item h
    rw [hitem] at h
    cases h
  | some item2 =>
    simp only [spaceFor, hitem, Option.ite_none_right_eq_some, Option.some.injEq,
      ItemPrototype.getMaxStackSize] at hspace
    obtain ⟨hok, rfl⟩ := hspace
    obtain ⟨hentry, hcount⟩ := Item.canBeMergedPartlyWith_ok hok
    refine ⟨Nat.sub_le _ _, fun n hn => ⟨hcontainer, ?_, by simp only; omega⟩⟩
    intro item h
    rw [hitem, Option.some.injEq] at h
    rw [← h]
    exact ⟨hentry, by simp only; omega⟩

theorem placed_placeInSlots {merge : Bool} {slots : List Nat}
    (hslots : ∀ j ∈ slots, Container store inv bag j)
    (hs : Placed store inv entry proto src count s) :
    Placed store inv entry proto src count (inv.placeInSlots store bag entry proto merge src slots s) := by
  induction slots generalizing s with
  | nil => exact hs
  | cons j rest ih =>
    have hrest := fun k hk => hslots k (mem_cons_of_mem _ hk)
    unfold placeInSlots
    simp only
    split
    · exact ih hrest hs
    · split
      · exact ih hrest hs
      · rename_i space hspace
        obtain ⟨hle, hroom⟩ := room_of_spaceFor (hslots j mem_cons_self) hspace
        split_ifs with hin hzero
        · exact ih hrest hs
        · exact hs.push (by simpa using hin) hle hroom
        · exact ih hrest (hs.push (by simpa using hin) hle hroom)

theorem placed_inInventorySlots {first last skipBag skipSlot : Nat} {merge : Bool}
    (hrange : last ≤ 69 ∨ (81 ≤ first ∧ last ≤ 113))
    (hs : Placed store inv entry proto src count s) :
    Placed store inv entry proto src count
      (inv.canStoreItemInInventorySlots store first last entry proto merge src skipBag skipSlot s).2 := by
  unfold canStoreItemInInventorySlots
  split_ifs
  · exact hs
  · refine placed_placeInSlots ?_ hs
    intro j hj
    obtain ⟨hlo, hhi⟩ := mem_slotRange (mem_of_mem_filter hj)
    exact .inl ⟨rfl, show j < 113 by omega, show ¬(69 ≤ j ∧ j < 81) by omega⟩

theorem placed_inBag {skipBag skipSlot : Nat} {merge nonSpecialized : Bool}
    (hbag : bag ≠ 255) (hs : Placed store inv entry proto src count s) :
    Placed store inv entry proto src count
      (inv.canStoreItemInBag store bag entry proto merge nonSpecialized src skipBag skipSlot s).2 := by
  unfold canStoreItemInBag
  split
  · exact hs
  split
  · exact hs
  rename_i pBag hpBag
  split_ifs
  · exact hs
  · exact hs
  · exact hs
  · exact hs
  · refine placed_placeInSlots ?_ hs
    intro j hj
    have hsize := mem_range.mp (mem_of_mem_filter hj)
    refine .inr ⟨hbag, pBag, hpBag, ?_⟩
    unfold Item.getBagSize at hsize
    split_ifs at hsize
    · exact hsize
    · omega

theorem container_of_fitsSlot (h : inv.fitsSlot store bag slot proto src = .ok) :
    Container store inv bag slot := by
  unfold fitsSlot at h
  split at h
  · rename_i hbag
    split_ifs at h with hkey hrange
    have hrange : ¬((69 ≤ slot ∧ slot < 81) ∨ 113 ≤ slot) := hrange
    exact .inl ⟨hbag, show slot < 113 by omega, show ¬(69 ≤ slot ∧ slot < 81) by omega⟩
  · rename_i hbag
    split at h
    · cases h
    · rename_i pBag hpBag
      split_ifs at h with hsrc hslots hgo
      exact .inr ⟨hbag, pBag, hpBag, by omega⟩

theorem getBagSize_le_containerSlots (pBag : Item) :
    pBag.getBagSize store ≤ (pBag.proto store).containerSlots := by
  unfold Item.getBagSize
  split_ifs <;> omega

theorem getItemByPos_own (h : slot < 69 ∨ (81 ≤ slot ∧ slot < 113)) :
    inv.getItemByPos store inventorySlotBag0 slot = inv.items.lookup (inventorySlotBag0, slot) :=
  if_pos ⟨rfl, h⟩

theorem container_of_getItemByPos {item : Item}
    (h : inv.getItemByPos store bag slot = some item) : Container store inv bag slot := by
  unfold getItemByPos at h
  split_ifs at h with hown hbag
  · have hslot : slot < 69 ∨ (81 ≤ slot ∧ slot < 113) := hown.2
    exact .inl ⟨hown.1, show slot < 113 by omega, show ¬(69 ≤ slot ∧ slot < 81) by omega⟩
  · have hrange : (19 ≤ bag ∧ bag < 23) ∨ (63 ≤ bag ∧ bag < 69) := hbag
    split at h
    · rename_i pBag hpBag
      split_ifs at h with hslot
      refine .inr ⟨show bag ≠ 255 by omega, pBag, ?_, ?_⟩
      · rw [getItemByPos_own (by omega), hpBag]
      · exact Nat.lt_of_lt_of_le hslot (getBagSize_le_containerSlots pBag)
    · cases h

theorem getOtherItemByPos_some {item : Item}
    (h : inv.getOtherItemByPos store bag slot src = some item) :
    inv.getItemByPos store bag slot = some item ∧ isSrcItem item src = false := by
  unfold getOtherItemByPos at h
  split at h
  · rename_i found hfound
    split_ifs at h with hsrc
    cases h
    exact ⟨hfound, by simpa using hsrc⟩
  · cases h

theorem room_of_spaceInSpecificSlot
    (h : (inv.spaceInSpecificSlot store bag slot entry proto false src).1 = .ok) :
    (inv.spaceInSpecificSlot store bag slot entry proto false src).2 ≤ proto.stackable ∧
      ∀ n, n ≤ (inv.spaceInSpecificSlot store bag slot entry proto false src).2 →
        Room store inv entry proto src ⟨(bag, slot), n⟩ := by
  cases hitem : inv.getOtherItemByPos store bag slot src with
  | none =>
    simp only [spaceInSpecificSlot, hitem] at h ⊢
    refine ⟨Nat.le_refl _, fun n hn => ⟨container_of_fitsSlot h, ?_, hn⟩⟩
    intro item hsome
    rw [hitem] at hsome
    cases hsome
  | some item2 =>
    have hcontainer := container_of_getItemByPos (getOtherItemByPos_some hitem).1
    simp only [spaceInSpecificSlot, hitem] at h ⊢
    apply room_of_spaceFor hcontainer
    simp only [spaceFor, hitem, h, if_true, ItemPrototype.getMaxStackSize]

theorem placed_inSpecificSlot
    (hs : Placed store inv entry proto src count s) :
    Placed store inv entry proto src count
      (inv.canStoreItemInSpecificSlot store bag slot entry proto false src s).2 := by
  unfold canStoreItemInSpecificSlot
  simp only
  split_ifs with hbag hspace hin
  · exact hs
  · exact hs
  · exact hs
  · rw [not_not] at hspace
    obtain ⟨hle, hroom⟩ := room_of_spaceInSpecificSlot hspace
    exact hs.push (by simpa using hin) hle hroom

theorem placed_inEitherBag {skipSlot : Nat} {merge : Bool} (hbag : bag ≠ 255)
    (hs : Placed store inv entry proto src count s) :
    Placed store inv entry proto src count
      (inv.canStoreItemInEitherBag store bag entry proto merge src skipSlot s).2 := by
  unfold canStoreItemInEitherBag
  simp only
  split_ifs
  · exact placed_inBag hbag (placed_inBag hbag hs)
  · exact placed_inBag hbag hs

def Success (store : ItemStore) (inv : Inventory) (entry : Nat) (proto : ItemPrototype)
    (src : Option MovedItem) (count noSimilar : Nat) (res : StoreResult) : Prop :=
  res.msg = .ok → noSimilar = 0 ∧ Placed store inv entry proto src count ⟨res.dest, 0⟩

theorem success_placedAll (hs : Placed store inv entry proto src count s)
    (hzero : s.count = 0) :
    Success store inv entry proto src count noSimilar (placedAll noSimilar s) := by
  intro hmsg
  unfold placedAll at hmsg ⊢
  split_ifs at hmsg ⊢ with hsimilar
  obtain ⟨dest, left⟩ := s
  simp only at hzero
  subst hzero
  exact ⟨hsimilar, hs⟩

theorem holds_afterSearch {res : InventoryResult × Search}
    (hs : Placed store inv entry proto src count res.2) :
    Holds (Success store inv entry proto src count noSimilar)
      (Placed store inv entry proto src count) (afterSearch noSimilar res) := by
  unfold afterSearch
  split_ifs with hmsg hzero
  · exact fun h => absurd h hmsg
  · exact success_placedAll hs hzero
  · exact hs

theorem holds_afterBagSearch {res : InventoryResult × Search}
    (hs : Placed store inv entry proto src count res.2) :
    Holds (Success store inv entry proto src count noSimilar)
      (Placed store inv entry proto src count) (afterBagSearch noSimilar res) := by
  unfold afterBagSearch
  split_ifs with hmsg hzero
  · exact hs
  · exact success_placedAll hs hzero
  · exact hs

end

-- Every search keeps `Placed`, and every exit is a `Success`.
section

variable {store : ItemStore} {inv : Inventory} {req : Request} {count : Nat}

def Keeps (store : ItemStore) (inv : Inventory) (req : Request) (count : Nat) :
    Except StoreResult Search → Prop :=
  Holds (Success store inv req.entry req.proto req.src count req.noSimilarCount)
    (Placed store inv req.entry req.proto req.src count)

variable {s : Search}

theorem keeps_searchSlots {first last : Nat} {merge : Bool}
    (hrange : last ≤ 69 ∨ (81 ≤ first ∧ last ≤ 113))
    (hs : Placed store inv req.entry req.proto req.src count s) :
    Keeps store inv req count (inv.searchSlots store req first last merge s) :=
  holds_afterSearch (placed_inInventorySlots hrange hs)

theorem keeps_searchBags {merge nonSpecialized : Bool}
    (hs : Placed store inv req.entry req.proto req.src count s) :
    Keeps store inv req count (inv.searchBags store req merge nonSpecialized s) := by
  refine Holds.foldlM (fun s hs i hi => ?_) hs
  have hi : 19 ≤ i ∧ i < 23 := mem_slotRange hi
  exact holds_afterBagSearch (placed_inBag (by omega) hs)

theorem keeps_searchRequestedBag {merge : Bool} (hbag : req.bag ≠ 255)
    (hs : Placed store inv req.entry req.proto req.src count s) :
    Keeps store inv req count (inv.searchRequestedBag store req merge s) :=
  holds_afterSearch (placed_inEitherBag hbag hs)

theorem keeps_searchKeyring (hs : Placed store inv req.entry req.proto req.src count s) :
    Keeps store inv req count (inv.searchKeyring store req s) :=
  Holds.ite (fun _ => keeps_searchSlots (by decide) hs) fun _ => hs

theorem keeps_searchSpecificSlot (hswap : req.swap = false)
    (hs : Placed store inv req.entry req.proto req.src count s) :
    Keeps store inv req count (inv.searchSpecificSlot store req s) := by
  unfold searchSpecificSlot
  rw [hswap]
  refine Holds.ite (fun _ => Holds.ite (fun _ => ?_) fun _ => ?_) fun _ => hs
  · intro h
    cases h
  · exact holds_afterSearch (placed_inSpecificSlot hs)

section

variable (hs : Placed store inv req.entry req.proto req.src count s)

include hs

theorem keeps_searchSpecificBag :
    Keeps store inv req count (inv.searchSpecificBag store req s) := by
  refine Holds.ite (fun _ => ?_) fun _ => hs
  have hstacks : Keeps store inv req count (inv.searchSpecificBagStacks store req s) := by
    refine Holds.ite (fun _ => ?_) fun _ => hs
    refine Holds.ite (fun _ => ?_) fun hbag => keeps_searchRequestedBag hbag hs
    exact Holds.bind (keeps_searchSlots (by decide) hs) fun s hs => keeps_searchSlots (by decide) hs
  refine Holds.bind hstacks fun s hs => ?_
  refine Holds.ite (fun _ => ?_) fun hbag => keeps_searchRequestedBag hbag hs
  exact Holds.bind (keeps_searchKeyring hs) fun s hs => keeps_searchSlots (by decide) hs

theorem keeps_searchStacks :
    Keeps store inv req count (inv.searchStacks store req s) := by
  refine Holds.ite (fun _ => ?_) fun _ => hs
  refine Holds.bind (keeps_searchSlots (by decide) hs) fun s hs => ?_
  refine Holds.bind (keeps_searchSlots (by decide) hs) fun s hs => ?_
  refine Holds.bind (Holds.ite (fun _ => keeps_searchBags hs) fun _ => hs) fun s hs => ?_
  exact keeps_searchBags hs

theorem keeps_searchSpecialBags :
    Keeps store inv req count (inv.searchSpecialBags store req s) :=
  Holds.ite (fun _ => Holds.bind (keeps_searchKeyring hs) fun _ hs => keeps_searchBags hs) fun _ => hs

theorem holds_searchFree :
    Holds (Success store inv req.entry req.proto req.src count req.noSimilarCount)
      (Success store inv req.entry req.proto req.src count req.noSimilarCount)
      (inv.searchFree store req s) := by
  refine Holds.ite (fun _ h => by cases h) fun _ => ?_
  refine Holds.bind (keeps_searchSlots (by decide) hs) fun s hs => ?_
  refine Holds.bind (keeps_searchBags hs) fun s hs => ?_
  intro h
  cases h

end

theorem holds_canStoreItemSearches (hswap : req.swap = false)
    (hs : Placed store inv req.entry req.proto req.src count s) :
    Holds (Success store inv req.entry req.proto req.src count req.noSimilarCount)
      (Success store inv req.entry req.proto req.src count req.noSimilarCount)
      (inv.canStoreItemSearches store req s) := by
  refine Holds.bind (keeps_searchSpecificSlot hswap hs) fun s hs => ?_
  refine Holds.bind (keeps_searchSpecificBag hs) fun s hs => ?_
  refine Holds.bind (keeps_searchStacks hs) fun s hs => ?_
  exact Holds.bind (keeps_searchSpecialBags hs) fun s hs => holds_searchFree hs

end

section

variable {store : ItemStore} {inv : Inventory} {entry count : Nat} {proto : ItemPrototype}
  {src : Option MovedItem}

theorem similar_ok_of_zero {left : Nat} (hproto : store.getItemPrototype entry = some proto)
    (h : (inv.canTakeMoreSimilarItems store entry left src).2 = 0) :
    (inv.canTakeMoreSimilarItems store entry left src).1 = .ok := by
  simp only [canTakeMoreSimilarItems, hproto] at h ⊢
  split_ifs at h ⊢ with hmax hcarry
  · have hlt := Word.add32_lt (inv.getItemCount store entry true (src.map fun moved => moved.item.guid)) left
    have hle := Word.toU32_lt proto.maxCount
    simp only [Word.add32, Word.sub32] at h hcarry hlt
    omega
  · rfl
  · rfl

-- What an OK from _CanStoreItem means, from an empty `dest` and without swap.
theorem placed_of_canStoreItemInto {bag slot : Nat}
    (h : (inv.canStoreItemInto store bag slot [] entry count src false).msg = .ok) :
    ∃ proto, store.getItemPrototype entry = some proto ∧
      Placed store inv entry proto src count
        ⟨(inv.canStoreItemInto store bag slot [] entry count src false).dest, 0⟩ := by
  unfold canStoreItemInto at h ⊢
  split at h
  · cases h
  rename_i proto hproto
  refine ⟨proto, hproto, ?_⟩
  split at h
  · rename_i res hused
    exfalso
    simp only at h
    rw [h] at hused
    unfold cantBeStored at hused
    split at hused
    · cases hused
    · split_ifs at hused <;> cases hused
  rename_i hused
  simp only at h ⊢
  split_ifs at h ⊢ with hsimilar hleft
  · exact absurd h hsimilar.1
  all_goals
    have hempty : ∀ left, Placed store inv entry proto src left ⟨[], left⟩ := fun left =>
      ⟨rfl, nodup_nil, fun p hp => absurd hp not_mem_nil⟩
    obtain ⟨hzero, hplaced⟩ := (holds_canStoreItemSearches rfl (hempty _)).result h
    have hok := similar_ok_of_zero hproto hzero
  · exact absurd hok hleft
  · exact hplaced

theorem getOtherItemByPos_none {bag slot : Nat} :
    inv.getOtherItemByPos store bag slot none = inv.getItemByPos store bag slot := by
  unfold getOtherItemByPos isSrcItem
  split
  · rename_i item h
    rw [h]
    rfl
  · rename_i h
    rw [h]

theorem named_of_getItemByPos {bag slot : Nat} {item : Item}
    (h : inv.getItemByPos store bag slot = some item) :
    (bag ≠ nullBag ∧ slot ≠ nullSlot) ∧ ¬(bag = inventorySlotBag0 ∧ playerSlotEnd ≤ slot) := by
  show (bag ≠ 0 ∧ slot ≠ 255) ∧ ¬(bag = 255 ∧ 113 ≤ slot)
  unfold getItemByPos at h
  split_ifs at h with hown hbag
  · have hown : bag = 255 ∧ (slot < 69 ∨ (81 ≤ slot ∧ slot < 113)) := hown
    omega
  · have hbag : (19 ≤ bag ∧ bag < 23) ∨ (63 ≤ bag ∧ bag < 69) := hbag
    split at h
    · rename_i pBag hpBag
      have hsize := pBag.getBagSize_le store
      split_ifs at h with hslot
      omega
    · cases h

def Merges (req : Request) (item : Item) : Prop :=
  item.entry = req.entry ∧ item.count < req.proto.stackable

theorem merges_searchSpecificSlot {req : Request} {item : Item} (hsrc : req.src = none)
    (hswap : req.swap = false) (hitem : inv.getItemByPos store req.bag req.slot = some item) (s : Search) :
    Holds (fun res => res.msg = .ok → Merges req item) (fun _ => Merges req item)
      (inv.searchSpecificSlot store req s) := by
  obtain ⟨hnamed, hin⟩ := named_of_getItemByPos hitem
  have hmerge : (inv.canStoreItemInSpecificSlot store req.bag req.slot req.entry req.proto req.swap
      req.src s).1 = .ok → Merges req item := by
    unfold canStoreItemInSpecificSlot spaceInSpecificSlot
    rw [hsrc, hswap, getOtherItemByPos_none, hitem]
    simp only [holdsNonEmptyBag, Bool.false_eq_true, if_false]
    split_ifs with hspace hin <;> intro hok
    · exact absurd hok hspace
    all_goals exact Item.canBeMergedPartlyWith_ok (not_not.mp hspace)
  unfold searchSpecificSlot
  rw [if_pos hnamed, if_neg hin]
  unfold afterSearch
  split_ifs with hmsg
  · exact fun h => absurd h hmsg
  all_goals
    have hmerges := hmerge (not_not.mp hmsg)
  · exact fun _ => hmerges
  · exact hmerges

theorem merges_searches {req : Request} {item : Item} (hsrc : req.src = none) (hswap : req.swap = false)
    (hitem : inv.getItemByPos store req.bag req.slot = some item) (s : Search) :
    Holds (fun res => res.msg = .ok → Merges req item) (fun res => res.msg = .ok → Merges req item)
      (inv.canStoreItemSearches store req s) :=
  Holds.bind (merges_searchSpecificSlot hsrc hswap hitem s) fun _ hs =>
    Holds.of_forall (fun _ _ => hs) (fun _ _ => hs) _

theorem merges_of_canStoreNewItem {bag slot : Nat} {item : Item}
    (hitem : inv.getItemByPos store bag slot = some item)
    (h : (inv.canStoreNewItem store bag slot entry count).msg = .ok) :
    item.entry = entry ∧ item.count < (store.proto entry).stackable := by
  unfold canStoreNewItem canStoreItemInto ItemStore.getItemPrototype at h
  by_cases hknown : store.known entry
  · rw [if_pos hknown] at h
    simp only [cantBeStored] at h
    split_ifs at h with hsimilar hleft
    · exact absurd h hsimilar.1
    all_goals
      exact (merges_searches rfl rfl hitem _).result h
  · rw [if_neg hknown] at h
    cases h

end

end Inventory

end TurtleWow.Objects

import TurtleWow.Objects.Placement

namespace TurtleWow.Objects

open List

namespace Inventory

variable {store : ItemStore} {inv : Inventory}

-- A position that takes `p.count` more units of `entry` without touching
-- anything else: nothing lies there, or a stack of that entry with room.
structure Open (store : ItemStore) (inv : Inventory) (entry : Nat) (p : ItemPosCount) : Prop where
  container : Container store inv p.pos.1 p.pos.2
  free : inv.getItemByPos store p.pos.1 p.pos.2 = none → inv.items.lookup p.pos = none
  fits : ∀ item, inv.getItemByPos store p.pos.1 p.pos.2 = some item →
    item.entry = entry ∧ item.count + p.count ≤ (store.proto entry).stackable
  small : p.count ≤ (store.proto entry).stackable

-- No item lies out of sight in a slot that a search may offer. The bags of
-- an inventory are all in bag slots exactly when this holds.
def NothingHidden (store : ItemStore) (inv : Inventory) : Prop :=
  ∀ bag slot, Container store inv bag slot → inv.getItemByPos store bag slot = none →
    inv.items.lookup (bag, slot) = none

theorem NothingHidden.of_less {inv' : Inventory} (h : NothingHidden store inv)
    (hless : ∀ pos, inv'.items.lookup pos = none ∨ inv'.items.lookup pos = inv.items.lookup pos) :
    NothingHidden store inv' := by
  have hsame : ∀ pos item, inv'.items.lookup pos = some item → inv.items.lookup pos = some item := by
    intro pos item hfind
    rcases hless pos with hnone | heq
    · rw [hnone] at hfind
      cases hfind
    · rw [← heq, hfind]
  have hown : ∀ bag pBag, inv'.getItemByPos store inventorySlotBag0 bag = some pBag →
      inv.getItemByPos store inventorySlotBag0 bag = some pBag := by
    intro bag pBag hfind
    have hlookup := hsame _ _ (lookup_of_getItemByPos hfind)
    unfold getItemByPos at hfind ⊢
    split_ifs at hfind ⊢ with hslot hbag
    · exact hlookup
    · exact absurd hbag (by decide)
  intro bag slot hcontainer hfree
  have hcontainer' : Container store inv bag slot := by
    rcases hcontainer with hslot | ⟨hbag, pBag, hfind, hslot⟩
    · exact .inl hslot
    · exact .inr ⟨hbag, pBag, hown bag pBag hfind, hslot⟩
  cases hlookup : inv'.items.lookup (bag, slot) with
  | none => rfl
  | some item =>
    have hvisible : inv.getItemByPos store bag slot ≠ none := by
      intro hnone
      exact absurd ((hsame _ _ hlookup).symm.trans (h bag slot hcontainer' hnone)) nofun
    unfold getItemByPos at hvisible hfree
    split_ifs at hvisible hfree with hslot hrange
    · obtain ⟨rfl, -⟩ := hslot
      exact absurd (hlookup.symm.trans hfree) nofun
    · have hbag : bag ≠ inventorySlotBag0 := by
        rintro rfl
        exact absurd hrange (by decide)
      rcases hcontainer with ⟨hbag', -⟩ | ⟨-, pBag, hfind, -⟩
      · exact absurd hbag' hbag
      · have hpBag := lookup_of_getItemByPos hfind
        rw [hpBag] at hfree
        rw [hsame _ _ hpBag] at hvisible
        dsimp only at hfree hvisible
        split_ifs at hfree hvisible with hsize
        · exact absurd (hlookup.symm.trans hfree) nofun
        · exact absurd rfl hvisible
    · exact absurd rfl hvisible

theorem lookup_destroyItem (bag slot : Nat) (pos : Pos) :
    (inv.destroyItem store bag slot).items.lookup pos = none ∨
      (inv.destroyItem store bag slot).items.lookup pos = inv.items.lookup pos := by
  unfold destroyItem
  split
  · by_cases hinside : pos ∈ contentsOf (bag, slot)
    · exact .inl (Ledger.lookup_eraseAll_of_mem hinside)
    · dsimp only
      rw [Ledger.lookup_eraseAll_of_notMem hinside]
      by_cases hpos : pos = (bag, slot)
      · exact .inl (hpos ▸ AList.lookup_erase _ _)
      · exact .inr (AList.lookup_erase_ne hpos)
  · exact .inr rfl

variable {item : Item} {entry count nextGuid : Nat}

theorem getItemByPos_destroyItem {bag slot : Nat}
    (h : inv.getItemByPos store bag slot = some item) :
    (inv.destroyItem store bag slot).items.lookup (bag, slot) = none := by
  unfold destroyItem
  rw [h]
  by_cases hinside : (bag, slot) ∈ contentsOf (bag, slot)
  · exact Ledger.lookup_eraseAll_of_mem hinside
  · rw [Ledger.lookup_eraseAll_of_notMem hinside]
    exact AList.lookup_erase _ _

@[simp] theorem bindAt_entry (item : Item) (pos : Pos) : (item.bindAt store pos).entry = item.entry := by
  unfold Item.bindAt
  dsimp only
  split_ifs <;> simp

@[simp] theorem bindAt_count (item : Item) (pos : Pos) : (item.bindAt store pos).count = item.count := by
  unfold Item.bindAt
  dsimp only
  split_ifs <;> simp

theorem getBagSize_of_entry {item' : Item} (h : item'.entry = item.entry) :
    item'.getBagSize store = item.getBagSize store := by
  unfold Item.getBagSize Item.isBag Item.proto
  rw [h]

theorem getItemByPos_own_eq {inv' : Inventory} {slot : Nat}
    (h : inv'.items.lookup (inventorySlotBag0, slot) = inv.items.lookup (inventorySlotBag0, slot)) :
    inv'.getItemByPos store inventorySlotBag0 slot = inv.getItemByPos store inventorySlotBag0 slot := by
  unfold getItemByPos
  rw [h]
  split_ifs with hown hbag
  · rfl
  · exact absurd hbag (by decide)
  · rfl

-- Writing one position leaves the slots of all others as they were, as long
-- as an item that is overwritten keeps its entry.
section Frame

variable {pos : Pos} {piece : Item}
  (hentry : ∀ old, inv.items.lookup pos = some old → piece.entry = old.entry)

include hentry

theorem bag_setItem {bag : Nat} {pBag : Item}
    (h : inv.getItemByPos store inventorySlotBag0 bag = some pBag) :
    ∃ pBag', (inv.setItem pos piece).getItemByPos store inventorySlotBag0 bag = some pBag' ∧
      pBag'.entry = pBag.entry := by
  have hlookup := lookup_of_getItemByPos h
  unfold getItemByPos at h ⊢
  split_ifs at h ⊢ with hown hbag
  · by_cases hpos : pos = (inventorySlotBag0, bag)
    · subst hpos
      exact ⟨piece, AList.lookup_insert _, hentry pBag hlookup⟩
    · refine ⟨pBag, ?_, rfl⟩
      rw [setItem_items, AList.lookup_insert_ne (Ne.symm hpos)]
      exact h
  · exact absurd hbag (by decide)

theorem container_setItem {bag slot : Nat} (h : Container store inv bag slot) :
    Container store (inv.setItem pos piece) bag slot := by
  rcases h with hown | ⟨hbag, pBag, hpBag, hslot⟩
  · exact .inl hown
  · obtain ⟨pBag', hpBag', hsame⟩ := bag_setItem hentry hpBag
    refine .inr ⟨hbag, pBag', hpBag', ?_⟩
    unfold Item.proto at hslot ⊢
    rw [hsame]
    exact hslot

theorem getItemByPos_setItem {bag slot : Nat} (hcontainer : Container store inv bag slot)
    (hne : pos ≠ (bag, slot)) :
    (inv.setItem pos piece).getItemByPos store bag slot = inv.getItemByPos store bag slot := by
  have hlookup : (inv.setItem pos piece).items.lookup (bag, slot) = inv.items.lookup (bag, slot) :=
    AList.lookup_insert_ne (Ne.symm hne)
  rcases hcontainer with ⟨hbag, -⟩ | ⟨hbag, pBag, hpBag, hslot⟩
  · subst hbag
    exact getItemByPos_own_eq hlookup
  · obtain ⟨pBag', hpBag', hsame⟩ := bag_setItem hentry hpBag
    unfold getItemByPos
    simp only [hbag, false_and, if_false]
    split_ifs with hrange
    · rw [lookup_of_getItemByPos hpBag', lookup_of_getItemByPos hpBag]
      simp only [getBagSize_of_entry hsame, hlookup]
    · rfl

theorem Open.setItem {entry : Nat} {p : ItemPosCount} (h : Open store inv entry p) (hne : pos ≠ p.pos) :
    Open store (inv.setItem pos piece) entry p := by
  have hsame := getItemByPos_setItem hentry h.container hne
  refine ⟨container_setItem hentry h.container, ?_, ?_, h.small⟩
  · rw [hsame, setItem_items, AList.lookup_insert_ne (Ne.symm hne)]
    exact h.free
  · rw [hsame]
    exact h.fits

end Frame

theorem createItem_some {owner : Nat}
    (h : createItem store entry count owner nextGuid = some item) :
    item.entry = entry ∧ item.count = min count (store.proto entry).stackable ∧ 0 < count := by
  unfold createItem ItemStore.getItemPrototype at h
  split_ifs at h with hcount hknown
  · simp only [Option.some.injEq] at h
    rw [← h]
    exact ⟨rfl, rfl, by omega⟩

theorem cloneItem_some {piece : Item} {owner : Nat}
    (h : item.cloneItem store count owner nextGuid = some piece) :
    piece.entry = item.entry ∧ piece.count = min count (store.proto item.entry).stackable ∧ 0 < count := by
  unfold Item.cloneItem at h
  split at h
  · cases h
  · rename_i newItem hnew
    obtain ⟨hentry, hcount, hpos⟩ := createItem_some hnew
    simp only [Option.some.injEq] at h
    rw [← h]
    exact ⟨hentry, hcount, hpos⟩

theorem cloneItem_none {owner : Nat} (hknown : store.known item.entry)
    (h : item.cloneItem store count owner nextGuid = none) : count = 0 := by
  unfold Item.cloneItem createItem ItemStore.getItemPrototype at h
  by_cases hcount : count < 1
  · omega
  · simp [hcount, hknown] at h

theorem storeItemAt_some {pos : Pos} {item2 : Item} {clone : Bool}
    (h : inv.getItemByPos store pos.1 pos.2 = some item2) :
    (inv.storeItemAt store nextGuid pos item count clone).inv =
      inv.setItem pos ((item2.bindAt store pos).setCount (Word.add32 item2.count count)) := by
  simp only [storeItemAt, h]

theorem storeItemAt_none {pos : Pos} {piece : Item} {clone : Bool}
    (hfree : inv.getItemByPos store pos.1 pos.2 = none) (hcontainer : Container store inv pos.1 pos.2)
    (hpiece : (if clone then item.cloneItem store count inv.owner nextGuid else some (item.setCount count)) =
      some piece) :
    (inv.storeItemAt store nextGuid pos item count clone).inv =
      inv.setItem pos { piece.bindAt store pos with owner := inv.owner } := by
  simp only [storeItemAt, hfree, hpiece]
  rcases hcontainer with ⟨hbag, -⟩ | ⟨hbag, pBag, hpBag, -⟩
  · rw [if_pos hbag]
  · rw [if_neg hbag, hpBag]

-- One step of StoreItem at an open position writes a single item there,
-- `p.count` units heavier than what lay there before.
theorem storeItemAt_open (nextGuid : Nat) (clone : Bool) {p : ItemPosCount}
    (hopen : Open store inv entry p) (hitem : item.entry = entry) (hknown : store.known entry) :
    ((inv.storeItemAt store nextGuid p.pos item p.count clone).inv = inv ∧ p.count = 0) ∨
      ∃ piece, (inv.storeItemAt store nextGuid p.pos item p.count clone).inv = inv.setItem p.pos piece ∧
        piece.entry = entry ∧ piece.count = Ledger.heldAt (weigh entry) inv.items p.pos + p.count ∧
        ∀ old, inv.items.lookup p.pos = some old → old.entry = entry := by
  have hstack := (store.proto entry).stackable_le
  have hsmall := hopen.small
  cases hvisible : inv.getItemByPos store p.pos.1 p.pos.2 with
  | some item2 =>
    obtain ⟨hentry, hcount⟩ := hopen.fits item2 hvisible
    have hlookup : inv.items.lookup p.pos = some item2 := lookup_of_getItemByPos hvisible
    refine .inr ⟨_, storeItemAt_some hvisible, by simpa using hentry, ?_, ?_⟩
    · rw [Ledger.heldAt_of_lookup _ hlookup, weigh, if_pos hentry, Item.setCount_count,
        Word.add32_of_lt (by omega)]
    · intro old hold
      rw [hlookup, Option.some.injEq] at hold
      rw [← hold]
      exact hentry
  | none =>
    have hlookup := hopen.free hvisible
    have hheld : Ledger.heldAt (weigh entry) inv.items p.pos = 0 := Ledger.heldAt_of_none _ hlookup
    have hfresh : ∀ old, inv.items.lookup p.pos = some old → old.entry = entry := fun old hold => by
      rw [hlookup] at hold
      cases hold
    cases clone with
    | false =>
      refine .inr ⟨_, storeItemAt_none hvisible hopen.container (if_neg (by simp)), ?_, ?_, hfresh⟩
      · simpa using hitem
      · simp [hheld]
    | true =>
      cases hclone : item.cloneItem store p.count inv.owner nextGuid with
      | none =>
        refine .inl ⟨?_, cloneItem_none (by rw [hitem]; exact hknown) hclone⟩
        simp only [storeItemAt, hvisible, hclone, if_true]
      | some piece =>
        obtain ⟨hentry, hcount, -⟩ := cloneItem_some hclone
        rw [hitem] at hentry hcount
        refine .inr ⟨_, storeItemAt_none hvisible hopen.container ((if_pos rfl).trans hclone),
          ?_, ?_, hfresh⟩
        · simpa using hentry
        · simp only [bindAt_count, hheld, hcount]
          omega

theorem units_setItem {inv : Inventory} {pos : Pos} {piece : Item} {n : Nat}
    (hentry : piece.entry = entry) (hcount : piece.count = Ledger.heldAt (weigh entry) inv.items pos + n)
    (hold : ∀ old, inv.items.lookup pos = some old → old.entry = entry) (template : Nat) :
    (inv.setItem pos piece).units template =
      inv.units template + if template = entry then n else 0 := by
  have hadd := Ledger.total_insert_add (weigh template) inv.items pos piece
  simp only [units, setItem_items]
  by_cases htemplate : template = entry
  · subst htemplate
    rw [weigh, if_pos hentry] at hadd
    rw [if_pos rfl]
    omega
  · have hzero : Ledger.heldAt (weigh template) inv.items pos = 0 := by
      cases hlookup : inv.items.lookup pos with
      | none => exact Ledger.heldAt_of_none _ hlookup
      | some old =>
        rw [Ledger.heldAt_of_lookup _ hlookup, weigh, if_neg]
        rw [hold old hlookup]
        exact Ne.symm htemplate
    rw [weigh, if_neg (by rw [hentry]; exact Ne.symm htemplate)] at hadd
    rw [if_neg htemplate]
    omega

theorem units_storeItem (hitem : item.entry = entry)
    (hknown : store.known entry) {dest : List ItemPosCount}
    (hopen : ∀ p ∈ dest, Open store inv entry p) (hnodup : (dest.map fun p => p.pos).Nodup)
    (template : Nat) :
    (inv.storeItem store nextGuid item dest).inv.units template =
      inv.units template + if template = entry then (dest.map fun p => p.count).sum else 0 := by
  induction dest generalizing inv nextGuid with
  | nil => simp [storeItem]
  | cons first rest ih =>
    have hfirst := hopen first mem_cons_self
    rw [map_cons, nodup_cons] at hnodup
    have hstep : ∀ clone, ∃ inv', (inv.storeItemAt store nextGuid first.pos item first.count clone).inv = inv' ∧
        (∀ p ∈ rest, Open store inv' entry p) ∧
        inv'.units template = inv.units template + if template = entry then first.count else 0 := by
      intro clone
      rcases storeItemAt_open nextGuid clone hfirst hitem hknown with
        ⟨hsame, hzero⟩ | ⟨piece, hset, hentry, hcount, hold⟩
      · refine ⟨inv, hsame, fun p hp => hopen p (mem_cons_of_mem _ hp), ?_⟩
        simp [hzero]
      · refine ⟨_, hset, fun p hp => ?_, units_setItem hentry hcount hold template⟩
        refine (hopen p (mem_cons_of_mem _ hp)).setItem ?_ ?_
        · intro old h
          rw [hentry, hold old h]
        · intro heq
          exact hnodup.1 (heq ▸ mem_map_of_mem hp)
    cases rest with
    | nil =>
      obtain ⟨inv', heq, -, hunits⟩ := hstep false
      simp only [storeItem, heq, hunits, map_cons, map_nil, sum_cons, sum_nil,
        Nat.add_zero]
    | cons second rest =>
      obtain ⟨inv', heq, hrest, hunits⟩ := hstep true
      simp only [storeItem]
      rw [ih (by rw [heq]; exact hrest) hnodup.2, heq, hunits]
      simp only [map_cons, sum_cons]
      split_ifs <;> omega

theorem foldl_add32 {dest : List ItemPosCount} {start : Nat}
    (hsum : start + (dest.map fun p => p.count).sum = count) (hsmall : count < 4294967296) :
    dest.foldl (fun count p => Word.add32 count p.count) start = count := by
  induction dest generalizing start with
  | nil => simpa using hsum
  | cons p rest ih =>
    simp only [map_cons, sum_cons] at hsum
    rw [foldl_cons, Word.add32_of_lt (by omega)]
    exact ih (by omega)

theorem open_of_placed {proto : ItemPrototype} {s : Search}
    (hhidden : NothingHidden store inv) (hproto : store.getItemPrototype entry = some proto)
    (hs : Placed store inv entry proto none count s) : ∀ p ∈ s.dest, Open store inv entry p := by
  intro p hp
  have hroom := hs.room p hp
  have hsame : proto = store.proto entry := by
    unfold ItemStore.getItemPrototype at hproto
    split_ifs at hproto
    exact (Option.some.inj hproto).symm
  refine ⟨hroom.container, hhidden _ _ hroom.container, ?_, hsame ▸ hroom.small⟩
  intro item hitem
  rw [← hsame]
  exact hroom.fits item (by rw [getOtherItemByPos_none, hitem])

-- The relation between the check and the store that callers rely on: when
-- CanStoreNewItem says OK, StoreNewItem adds exactly the requested count.
def StoresExactly (store : ItemStore) (inv : Inventory) : Prop :=
  ∀ bag slot entry count nextGuid randomPropertyId,
    (inv.canStoreNewItem store bag slot entry count).msg = .ok → count < 4294967296 →
    (count = 0 ∧ inv.storeNewItem store nextGuid (inv.canStoreNewItem store bag slot entry count).dest
        entry randomPropertyId = none) ∨
      ∃ stored, inv.storeNewItem store nextGuid (inv.canStoreNewItem store bag slot entry count).dest
          entry randomPropertyId = some stored ∧
        ∀ template, stored.inv.units template =
          inv.units template + if template = entry then count else 0

theorem storesExactly_of_nothingHidden (h : NothingHidden store inv) : StoresExactly store inv := by
  intro bag slot entry count nextGuid randomPropertyId hmsg hcount
  obtain ⟨proto, hproto, hplaced⟩ := placed_of_canStoreItemInto hmsg
  have hknown : store.known entry := by
    unfold ItemStore.getItemPrototype at hproto
    split_ifs at hproto with hknown
    exact hknown
  have hsum : 0 + ((inv.canStoreNewItem store bag slot entry count).dest.map fun p => p.count).sum = count :=
    hplaced.sum
  unfold storeNewItem
  simp only [foldl_add32 hsum hcount]
  cases hcreate : createItem store entry count inv.owner nextGuid with
  | none =>
    refine .inl ⟨?_, rfl⟩
    unfold createItem ItemStore.getItemPrototype at hcreate
    by_cases hone : count < 1
    · omega
    · simp [hone, hknown] at hcreate
  | some item =>
    refine .inr ⟨_, rfl, fun template => ?_⟩
    have hitem := (createItem_some hcreate).1
    have hopen := open_of_placed h hproto hplaced
    rw [Nat.zero_add] at hsum
    refine (units_storeItem ?_ hknown hopen hplaced.nodup template).trans ?_
    · exact hitem
    exact congrArg (fun n => inv.units template + if template = entry then n else 0) hsum

end Inventory

end TurtleWow.Objects

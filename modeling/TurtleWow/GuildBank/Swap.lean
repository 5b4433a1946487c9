import TurtleWow.GuildBank.Trail.Deposit
import TurtleWow.Objects.Exact

namespace TurtleWow.GuildBank

open Util Objects

-- The two checks of a swap: the one before anything moves, and the one that the
-- withdrawal makes when the bag item is already in the bank.

namespace Session

variable {s : Session} {env : Env} {pos : Pos} {bagItem : Item} {bankItem : EntryRef}

def swapCheck (s : Session) (env : Env) (bankItem : BankItem) : StoreResult :=
  s.player.inventory.canStoreNewItem env.store nullBag nullSlot bankItem.itemTemplate bankItem.count

def bagsWithout (s : Session) (env : Env) (pos : Pos) : Inventory :=
  s.player.inventory.destroyItem env.store pos.1 pos.2

def withdrawCheck (s : Session) (env : Env) (pos : Pos) (bankItem : BankItem) : StoreResult :=
  (s.bagsWithout env pos).canStoreNewItem env.store inventorySlotBag0 nullSlot bankItem.itemTemplate bankItem.count

def SwapRefused (s : Session) (env : Env) (bankItem : BankItem) : Prop :=
  (s.swapCheck env bankItem).msg ≠ .ok ∧ (s.swapCheck env bankItem).msg ≠ .inventoryFull

def Untouched (s after : Session) : Prop :=
  after.bank.items = s.bank.items ∧ after.player.inventory = s.player.inventory

def Arrived (s after : Session) (env : Env) (pos : Pos) (bankItem : BankItem) : Prop :=
  ∀ template, after.player.inventory.units template =
    (s.bagsWithout env pos).units template + if template = bankItem.itemTemplate then bankItem.count else 0

theorem swapItems_refused (h : s.SwapRefused env bankItem.item) : Untouched s (s.swapItems env pos bagItem bankItem) := by
  have hreply : s.swapItems env pos bagItem bankItem = s.reply (.equipError (s.swapCheck env bankItem.item).msg) :=
    if_pos h
  rw [hreply]
  exact ⟨rfl, rfl⟩

def deposited (s : Session) (env : Env) (pos : Pos) (bagItem : Item) (bankItem : BankItem) : Session :=
  s.depositItemInSlot env bankItem.tab bankItem.slot pos bagItem bagItem.count 0 .changed false

theorem swapItems_goes (h : ¬ s.SwapRefused env bankItem.item) :
    s.swapItems env pos bagItem bankItem =
      (s.deposited env pos bagItem bankItem.item).withdrawEntry env bankItem.item.tab bankItem.item.count
        inventorySlotBag0 nullSlot { index := none, item := bankItem.item } none 0 :=
  if_neg h

theorem inventory_deposited (hfound : s.bank.getItem bankItem.item.tab bankItem.item.slot = some bankItem) :
    (s.deposited env pos bagItem bankItem.item).player.inventory = s.bagsWithout env pos := by
  obtain ⟨hplayer, -⟩ := player_depositItemInSlot_whole env pos bagItem false hfound
  rw [deposited, hplayer]
  rfl

theorem units_cloneFromEntry {inv : Inventory} {item : Item} (hitem : inv.items.lookup pos = some item)
    (player : Nat) (bItem : BankItem) (template : Nat) :
    (inv.setItem pos (cloneFromEntry player item bItem)).units template = inv.units template := by
  have hunits := Inventory.units_setItem_of_some hitem (cloneFromEntry player item bItem) template
  have hweigh : Inventory.weigh template pos (cloneFromEntry player item bItem) = Inventory.weigh template pos item := rfl
  omega

theorem inventory_finishWithdraw (bankTab count : Nat) (ref : EntryRef) :
    (s.finishWithdraw env bankTab count ref).player.inventory = s.player.inventory := by
  unfold finishWithdraw
  split <;> simp

theorem withdrawEntry_refused {bankTab count playerBag playerSlot remainer : Nat} {ref : EntryRef}
    {pItem : Option (Pos × Item)} (h : (s.player.inventory.canStoreNewItem env.store (Word.u8 playerBag)
      (Word.u8 playerSlot) ref.item.itemTemplate count).msg ≠ .ok) :
    (s.withdrawEntry env bankTab count playerBag playerSlot ref pItem remainer).player = s.player := by
  unfold withdrawEntry
  rw [if_pos h]
  rfl

theorem units_withdrawEntry {bankTab count playerBag playerSlot : Nat} {ref : EntryRef}
    (hhidden : Inventory.NothingHidden env.store s.player.inventory) (hcount : count < 4294967296)
    (hok : (s.player.inventory.canStoreNewItem env.store (Word.u8 playerBag) (Word.u8 playerSlot)
      ref.item.itemTemplate count).msg = .ok) (template : Nat) :
    (s.withdrawEntry env bankTab count playerBag playerSlot ref none 0).player.inventory.units template =
      s.player.inventory.units template + if template = ref.item.itemTemplate then count else 0 := by
  have hexact := Inventory.storesExactly_of_nothingHidden hhidden (Word.u8 playerBag) (Word.u8 playerSlot)
    ref.item.itemTemplate count s.nextItemGuid (env.randomPropertyId ref.item.itemTemplate) hok hcount
  unfold withdrawEntry
  rw [if_neg (not_not.mpr hok)]
  rcases hexact with ⟨rfl, hnone⟩ | ⟨stored, hstored, hunits⟩
  · rw [hnone]
    simp
  · rw [hstored]
    rw [inventory_finishWithdraw]
    refine Eq.trans ?_ (hunits template)
    dsimp only [Player.inventory]
    split
    · split
      · next item hitem => exact units_cloneFromEntry hitem _ _ template
      · rfl
    · rfl

-- A swap is atomic when the bags have room for the bank item without the bag item,
-- and only then where the first check lets it start.
theorem swap_atomic_iff (hfound : s.bank.getItem bankItem.item.tab bankItem.item.slot = some bankItem)
    (hbag : s.player.inventory.getItemByPos env.store pos.1 pos.2 = some bagItem)
    (hhidden : Inventory.NothingHidden env.store s.player.inventory) (hcount : bankItem.item.count < 4294967296) :
    (((s.withdrawCheck env pos bankItem.item).msg ≠ .ok →
        Untouched s (s.swapItems env pos bagItem bankItem)) ∧
      (Untouched s (s.swapItems env pos bagItem bankItem) ∨
        Arrived s (s.swapItems env pos bagItem bankItem) env pos bankItem.item)) ↔
    s.SwapRefused env bankItem.item ∨ (s.withdrawCheck env pos bankItem.item).msg = .ok := by
  have hinventory := @inventory_deposited s env pos bagItem bankItem hfound
  by_cases hrefused : s.SwapRefused env bankItem.item
  · have hsame := @swapItems_refused s env pos bagItem bankItem hrefused
    exact iff_of_true ⟨fun _ => hsame, .inl hsame⟩ (.inl hrefused)
  · rw [or_iff_right hrefused, swapItems_goes hrefused]
    constructor
    · rintro ⟨hkept, -⟩
      by_contra hfails
      -- the deposit has already taken the bag item
      have hbags := (hkept hfails).2
      have hstays : ((s.deposited env pos bagItem bankItem.item).withdrawEntry env bankItem.item.tab
          bankItem.item.count inventorySlotBag0 nullSlot { index := none, item := bankItem.item } none 0).player.inventory =
            s.bagsWithout env pos := by
        rw [withdrawEntry_refused, hinventory]
        rw [hinventory]
        exact hfails
      have hgone := Inventory.getItemByPos_destroyItem hbag
      rw [← bagsWithout, ← hstays, hbags, Inventory.lookup_of_getItemByPos hbag] at hgone
      cases hgone
    · intro hok
      refine ⟨fun hfails => absurd hok hfails, .inr fun template => ?_⟩
      rw [units_withdrawEntry ?_ hcount ?_ template, hinventory]
      · rw [hinventory]
        exact hhidden.of_less (Inventory.lookup_destroyItem _ _)
      · rw [hinventory]
        exact hok

def ringEntryInBank : EntryRef :=
  { index := some 0, item := Bank.loadItem sampleEnv (sampleRow 7 1 1 ringEntry 1) }

def before (inv : Inventory) : Session :=
  { bank := { emptyBank with tabs := 1, items := [ringEntryInBank.item] }, db := sampleDb [] 1 0,
    player := { guid := 9, money := 0, inventory := inv }, rank := 0, nextItemGuid := 100, replies := [] }

def oneCloth : Inventory := { owner := 9, items := AList.singleton (255, 23) (sampleItem 50 clothEntry 5 9) }

theorem nothingHidden_oneCloth : Inventory.NothingHidden sampleStore oneCloth := by
  intro bag slot _ hfree
  by_cases hpos : (bag, slot) = (255, 23)
  · cases hpos
    cases hfree
  · exact AList.lookup_eq_none.mpr fun hmem =>
      hpos (List.mem_singleton.mp (AList.mem_keys.mp hmem))

theorem swap_atomic_cloth_for_ring :
    Untouched (before oneCloth)
        ((before oneCloth).swapItems sampleEnv (255, 23) (sampleItem 50 clothEntry 5 9) ringEntryInBank) ∨
      Arrived (before oneCloth)
        ((before oneCloth).swapItems sampleEnv (255, 23) (sampleItem 50 clothEntry 5 9) ringEntryInBank)
        sampleEnv (255, 23) ringEntryInBank.item :=
  ((swap_atomic_iff rfl rfl nothingHidden_oneCloth (by decide)).mpr (.inr (by decide))).2

def arrowProto : ItemPrototype := { clothProto with itemClass := .projectile, bagFamily := .arrows }

def quiverProto : ItemPrototype := { bagProto with itemClass := .quiver, subClass := subclassQuiver }

abbrev arrowEntry : Nat := 4

abbrev quiverEntry : Nat := 5

def hunterEnv : Env :=
  { sampleEnv with
    store :=
      { known := fun entry => entry = arrowEntry || entry = quiverEntry || sampleStore.known entry,
        proto := fun entry =>
          if entry = arrowEntry then arrowProto else if entry = quiverEntry then quiverProto
          else sampleStore.proto entry,
        randomProperties := fun _ => none } }

def fullBackpack : Inventory :=
  { owner := 9,
    items := (slotRange inventorySlotItemStart inventorySlotItemEnd).foldl
      (fun items slot => items.insert (255, slot) (sampleItem slot ringEntry 1 9))
      ((AList.singleton (255, 19) (sampleItem 50 quiverEntry 1 9)).insert (19, 0) (sampleItem 51 arrowEntry 20 9)) }

-- The arrows go to the bank, and the ring to nobody.
theorem swap_loses_ring :
    (before fullBackpack).player.inventory.getItemByPos hunterEnv.store 19 0 =
        some (sampleItem 51 arrowEntry 20 9) ∧
      ¬ (((before fullBackpack).withdrawCheck hunterEnv (19, 0) ringEntryInBank.item).msg ≠ .ok →
        Untouched (before fullBackpack)
          ((before fullBackpack).swapItems hunterEnv (19, 0) (sampleItem 51 arrowEntry 20 9)
            ringEntryInBank)) := by
  refine ⟨by decide, fun h => ?_⟩
  have hsame := (h (by decide)).1
  revert hsame
  decide

end Session

end TurtleWow.GuildBank

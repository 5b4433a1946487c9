import TurtleWow.GuildBank.Trail.Basic

namespace TurtleWow.GuildBank

open Util Objects

section

variable {Fits : BankItem → Prop} {taken : Option (List Nat)} {forgets : Bool}

variable {s : Session} {pItem : Item} {count bankTab bankSlot : Nat} {found : EntryRef}

-- The player side changes no entry; what remains of his item goes on to
-- `inFreeSlot`.
theorem takeDeposited_trail {env : Env} {inFreeSlot : Session → Item → Session} {pos : Pos}
    {remainer : Nat}
    (hrest : remainer ≠ 0 → ∀ s' : Session, s'.bank = s.bank → s'.db = s.db →
      Trail Fits taken forgets s' (inFreeSlot s' (pItem.setCount (Word.sub32 pItem.count count)))) :
    Trail Fits taken forgets s (s.takeDeposited env inFreeSlot pos pItem count remainer) := by
  unfold Session.takeDeposited
  split_ifs with hzero
  · exact .sameBank rfl rfl
  · exact .sameBank rfl rfl
  · refine (Trail.inventory s _).trans (hrest hzero (s.setInventory _) rfl rfl)

theorem refill_trail {t : Session} {i : Nat} (new : BankItem)
    (htakes : Takes taken s) (hs : ∀ item ∈ s.bank.items, Fits item)
    (hindex : found.index = some i) (hi : s.bank.items[i]? = some found.item)
    (hslot : SameSlot new found.item) (hstate : new.state = .changed)
    (hkind : new.isInferno = s.bank.inferno) (hfits : Fits new)
    (hrest : Takes taken (s.putDeposit { found with item := new }) →
      (∀ item ∈ (s.putDeposit { found with item := new }).bank.items, Fits item) →
      Trail Fits taken forgets (s.putDeposit { found with item := new }) t) :
    Trail Fits taken forgets s t := by
  have hput : Becomes s (s.putDeposit { found with item := new }) (s.bank.items.set i new)
      (s.bank.updateQueue ++ [new]) := putDeposit_changed hindex hstate
  refine .trans (.edit (.refill i found.item new hi hslot hstate (.inr hkind) hfits) hput) (hrest ?_ ?_)
  · refine htakes.of_guids ?_
    rw [hput.items, guids_set hi hslot.guid]
  · intro item hitem
    rw [hput.items] at hitem
    rcases List.mem_or_eq_of_mem_set hitem with hold | rfl
    · exact hs item hold
    · exact hfits

theorem depositItemInSlotThen_trail {env : Env} {inFreeSlot : Session → Item → Session}
    {pos : Pos} {remainer : Nat} {state : ItemUpdateState}
    {stack : Bool} (htakes : Takes taken s)
    (hs : ∀ item ∈ s.bank.items, Fits item)
    (hstate : state = .changed ∨ (state = .new ∧ taken.isSome ∧ remainer = 0 ∧
      ∀ item ∈ s.bank.items, ¬(item.tab = bankTab ∧ item.slot = bankSlot)))
    (hfits : ∀ ref, s.depositTarget bankTab bankSlot count state stack = some ref →
      Fits (cloneFromItem env.store s.bank.inferno { ref.item with state := state } pItem))
    (hrest : remainer ≠ 0 → ∀ s' : Session, Takes taken s' →
      (∀ item ∈ s'.bank.items, Fits item) →
      Trail Fits taken forgets s' (inFreeSlot s' (pItem.setCount (Word.sub32 pItem.count count)))) :
    Trail Fits taken forgets s
      (s.depositItemInSlotThen env inFreeSlot bankTab bankSlot pos pItem count remainer state stack) := by
  unfold Session.depositItemInSlotThen
  cases htarget : s.depositTarget bankTab bankSlot count state stack with
  | none => exact .reply s _
  | some ref =>
    have hfit := hfits ref htarget
    refine .finish ?_ env _ _ _ _ _
    unfold Session.depositTarget at htarget
    rcases hstate with rfl | ⟨rfl, hsome, rfl, hfree⟩
    · rw [if_neg (by decide)] at htarget
      obtain ⟨found, hfound, rfl⟩ := Option.map_eq_some_iff.mp htarget
      obtain ⟨⟨i, hindex, hi⟩, -, -⟩ := Bank.getItem_some hfound
      refine refill_trail _ htakes hs hindex hi ?_ ?_ ?_ hfit fun htakes hs => ?_
      · exact ⟨rfl, rfl, rfl, rfl⟩
      · rfl
      · rfl
      refine takeDeposited_trail fun hzero s' hbank _ => hrest hzero s' ?_ ?_
      · exact htakes.of_guids (by rw [hbank])
      · rw [hbank]
        exact hs
    · rw [if_pos rfl, Option.some.injEq] at htarget
      subst htarget
      refine .trans (.edit (.put _ rfl (htakes.eq hsome) rfl (.inl rfl) rfl hfree hfit) (putDeposit_new rfl)) ?_
      exact takeDeposited_trail fun hzero => absurd rfl hzero

theorem findStack_some {env : Env} {i : Nat} {bItem : BankItem}
    (h : s.findStack env bankTab pItem = some (i, bItem)) :
    (∃ ref, s.bank.getItem bankTab i = some ref ∧ ref.item = bItem) ∧ bItem.itemTemplate = pItem.entry ∧
      bItem.count < bItem.maxStackSize ∧ 1 < (pItem.proto env.store).getMaxStackSize := by
  unfold Session.findStack at h
  split at h
  · rename_i hstacks
    obtain ⟨j, -, hj⟩ := List.exists_of_findSome?_eq_some h
    cases href : s.bank.getItem bankTab j with
    | none => simp [href] at hj
    | some ref =>
      simp only [href, Option.ite_none_right_eq_some, Option.some.injEq, Prod.mk.injEq] at hj
      obtain ⟨⟨htemplate, hroom⟩, rfl, rfl⟩ := hj
      exact ⟨⟨ref, href, rfl⟩, htemplate, hroom, hstacks⟩
  · cases h

theorem findFreeSlot_some {slot : Nat} (h : s.findFreeSlot bankTab = some slot) :
    1 ≤ slot ∧ slot ≤ 98 ∧ ∀ item ∈ s.bank.items, ¬(item.tab = bankTab ∧ item.slot = slot) := by
  unfold Session.findFreeSlot at h
  have hrange := mem_slotRange (List.mem_of_find?_eq_some h)
  have hfree := List.find?_some h
  rw [Option.isNone_iff_eq_none] at hfree
  exact ⟨hrange.1, by omega, Bank.getItem_none hfree⟩

-- The entry that a stacking deposit finds again is the one it looked at. The
-- count stays a variable, as unification would unfold its arithmetic.
theorem depositTarget_changed {stack : Bool}
    {ref : EntryRef} (hfound : s.bank.getItem bankTab bankSlot = some found)
    (h : s.depositTarget bankTab bankSlot count .changed stack = some ref) :
    ∃ total, total = (if stack then Word.add32 found.item.count count else count) ∧
      ref = { found with item := { found.item with count := total } } := by
  unfold Session.depositTarget at h
  rw [if_neg (by decide), hfound, Option.map_some, Option.some.injEq] at h
  exact ⟨_, rfl, h.symm⟩

theorem depositTarget_new {stack : Bool} {ref : EntryRef}
    (h : s.depositTarget bankTab bankSlot count .new stack = some ref) :
    ref = { index := none, item := s.newEntry bankTab bankSlot count } := by
  unfold Session.depositTarget at h
  rw [if_pos rfl, Option.some.injEq] at h
  exact h.symm

theorem depositItemInFreeSlotFuel_trail {env : Env} {pos : Pos} {Good : Item → Prop}
    {Amount Tab : Nat → Prop} (hrules : Rules env Fits Good Amount Tab) (htab : Tab bankTab) (hsome : taken.isSome) {fuel : Nat}
    (htakes : Takes taken s)
    (hs : ∀ item ∈ s.bank.items, Fits item) (hgood : Good pItem) :
    Trail Fits taken forgets s (Session.depositItemInFreeSlotFuel env bankTab pos fuel s pItem) := by
  induction fuel generalizing s pItem with
  | zero => exact .sameBank rfl rfl
  | succ fuel ih =>
    unfold Session.depositItemInFreeSlotFuel
    simp only
    split
    · rename_i i bItem hstack
      obtain ⟨⟨found, hfound, rfl⟩, hsame, hroom, -⟩ := findStack_some hstack
      have hfit := hs _ (Bank.getItem_some hfound).1.mem
      split_ifs with hall
      · refine depositItemInSlotThen_trail htakes hs (.inl rfl) ?_ fun hzero => absurd rfl hzero
        rintro ref href
        obtain ⟨total, htotal, rfl⟩ := depositTarget_changed hfound href
        rw [if_pos rfl] at htotal
        exact hrules.stackAll _ pItem found.item total hgood hfit hsame hroom hall htotal
      · refine depositItemInSlotThen_trail htakes hs (.inl rfl) ?_ fun _ s' htakes' hs' =>
          ih htakes' hs' (hrules.rest pItem found.item hgood hfit hsame hroom hall)
        rintro ref href
        obtain ⟨total, htotal, rfl⟩ := depositTarget_changed hfound href
        rw [if_pos rfl] at htotal
        exact hrules.fillUp _ pItem found.item total hfit hsame htotal
    · split
      · rename_i slot hslot
        obtain ⟨hlo, hhi, hfree⟩ := findFreeSlot_some hslot
        refine depositItemInSlotThen_trail htakes hs (.inr ⟨rfl, hsome, rfl, hfree⟩) ?_ fun hzero =>
          absurd rfl hzero
        rintro ref href
        rw [depositTarget_new href]
        exact hrules.create _ pItem _ htab hlo hhi (.inl ⟨hgood, rfl⟩)
      · exact (Trail.reply s _).trans (.reply _ _)

theorem depositItemInSlot_over {env : Env} {pos : Pos}
    {stack : Bool}
    (htakes : Takes taken s) (hs : ∀ item ∈ s.bank.items, Fits item)
    (hfound : s.bank.getItem bankTab bankSlot = some found)
    (hfits : ∀ total, total = (if stack then Word.add32 found.item.count count else count) →
      Fits (cloneFromItem env.store s.bank.inferno { found.item with count := total, state := .changed }
        pItem)) :
    Trail Fits taken forgets s (s.depositItemInSlot env bankTab bankSlot pos pItem count 0 .changed stack) := by
  refine depositItemInSlotThen_trail htakes hs (.inl rfl) ?_ fun hzero => absurd rfl hzero
  rintro ref href
  obtain ⟨total, htotal, rfl⟩ := depositTarget_changed hfound href
  exact hfits total htotal

theorem player_depositItemInSlot_whole (env : Env) (pos : Pos)
    (pItem : Item) (stack : Bool) (hfound : s.bank.getItem bankTab bankSlot = some found) :
    (s.depositItemInSlot env bankTab bankSlot pos pItem pItem.count 0 .changed stack).player =
        (s.setInventory (s.player.inventory.destroyItem env.store pos.1 pos.2)).player ∧
      (s.depositItemInSlot env bankTab bankSlot pos pItem pItem.count 0 .changed stack).nextItemGuid =
        s.nextItemGuid := by
  unfold Session.depositItemInSlot Session.depositItemInSlotThen Session.depositTarget
  rw [if_neg (by decide), hfound, Option.map_some]
  unfold Session.takeDeposited
  simp only [if_true]
  rw [Session.saveToDB_player, Session.saveToDB_nextItemGuid]
  exact ⟨rfl, rfl⟩

end

open Util Objects

section

variable {Fits : BankItem → Prop} {taken : Option (List Nat)} {forgets : Bool}

variable {s : Session}

theorem finishWithdraw_trail {env : Env} {bankTab count i : Nat} {ref : EntryRef}
    {old : BankItem} (hindex : ref.index = some i) (hi : s.bank.items[i]? = some old)
    (hstate : (ref.item = { old with state := .removed }) ∨
      (ref.item.state = .changed ∧ SameSlot ref.item old ∧ ref.item.isInferno = old.isInferno ∧
        Fits ref.item)) :
    Trail Fits taken forgets s (s.finishWithdraw env bankTab count ref) := by
  have htabs : ∀ t : Session, Trail Fits taken forgets t (t.sendTabWithdrawalsLeft env (Word.u8 bankTab)).saveToDB :=
    fun t => .trans (.sameBank (by simp) (by simp)) (.save _)
  unfold Session.finishWithdraw
  refine .trans ?_ (htabs _)
  rcases hstate with hremoved | ⟨hchanged, hslot, hkind, hfits⟩
  · rw [if_pos (by rw [hremoved])]
    refine .edit (.remove i old hi) ⟨?_, ?_, rfl, ?_, ?_, ?_⟩
    · simp only [Session.updateBank_bank, Session.logAction_bank, Bank.deleteItem_items hindex,
        Bank.logAction_items, Bank.enqueue_items, Bank.write_items hindex]
      rw [List.eraseIdx_set_eq]
    · unfold Bank.deleteItem
      rw [hindex]
      simp [Bank.withItems, Bank.enqueue, Bank.write, hindex, hremoved]
    · unfold Bank.deleteItem
      rw [hindex]
      simp [Bank.withItems, Bank.enqueue, Bank.write, hindex]
    · unfold Bank.deleteItem
      rw [hindex]
      simp [Bank.withItems, Bank.enqueue, Bank.write, hindex]
    · unfold Bank.deleteItem
      rw [hindex]
      simp [Bank.withItems, Bank.enqueue, Bank.write, hindex]
  · rw [if_neg (by rw [hchanged]; decide)]
    refine .trans (.edit (.refill i old ref.item hi hslot hchanged (.inl hkind) hfits) ?_)
      (.aside (.logAction _ env _ _ _ _ _))
    simp only [Bank.write, hindex]
    exact ⟨rfl, rfl, rfl, rfl, rfl, rfl⟩

theorem finishWithdraw_forget {env : Env} {bankTab count : Nat} {ref : EntryRef}
    {aux : BankItem} (hindex : ref.index = none) (hremoved : ref.item = { aux with state := .removed })
    (hforgets : forgets = true) :
    Trail Fits taken forgets s (s.finishWithdraw env bankTab count ref) := by
  have htabs : ∀ t : Session, Trail Fits taken forgets t (t.sendTabWithdrawalsLeft env (Word.u8 bankTab)).saveToDB :=
    fun t => .trans (.sameBank (by simp) (by simp)) (.save _)
  unfold Session.finishWithdraw
  refine .trans ?_ (htabs _)
  rw [if_pos (by rw [hremoved]), Bank.write_none hindex, Bank.deleteItem_none hindex]
  refine .trans (.edit (.forget aux hforgets) ?_) (.aside (.logAction _ env _ _ _ _ _))
  rw [hremoved]
  exact ⟨rfl, rfl, rfl, rfl, rfl, rfl⟩

def Withdrawn (left : Nat) (old new : BankItem) : Prop :=
  (left = 0 ∧ new = { old with state := .removed }) ∨
    (left ≠ 0 ∧ new = { old with count := left, state := .changed })

theorem withdrawEntry_trail {env : Env} {bankTab count playerBag playerSlot remainer : Nat}
    {ref : EntryRef} {pItem : Option (Pos × Item)}
    (hleft : pItem.isSome → remainer ≠ 0 → Word.sub32 ref.item.count count = remainer)
    (hfinish : ∀ t : Session, ∀ new, t.bank = s.bank → t.db = s.db → Withdrawn remainer ref.item new →
      (s.player.inventory.canStoreNewItem env.store (Word.u8 playerBag) (Word.u8 playerSlot)
        ref.item.itemTemplate count).msg = .ok →
      (pItem = none → (s.player.inventory.storeNewItem env.store s.nextItemGuid
        (s.player.inventory.canStoreNewItem env.store (Word.u8 playerBag) (Word.u8 playerSlot)
          ref.item.itemTemplate count).dest ref.item.itemTemplate
        (env.randomPropertyId ref.item.itemTemplate)).isSome) →
      Trail Fits taken forgets s (t.finishWithdraw env bankTab count { ref with item := new })) :
    Trail Fits taken forgets s (s.withdrawEntry env bankTab count playerBag playerSlot ref pItem remainer) := by
  unfold Session.withdrawEntry
  dsimp only
  split
  · exact .reply s _
  rename_i hmsg
  rw [not_not] at hmsg
  split
  · rename_i pos item
    refine hfinish _ _ rfl rfl ?_ hmsg fun h => by cases h
    by_cases hzero : remainer = 0
    · rw [if_pos hzero]
      exact .inl ⟨hzero, rfl⟩
    · rw [if_neg hzero, hleft rfl hzero]
      exact .inr ⟨hzero, rfl⟩
  · split
    · exact .save s
    · rename_i stored hstored
      refine hfinish _ _ rfl rfl ?_ hmsg fun _ => by rw [hstored]; rfl
      by_cases hzero : remainer = 0
      · rw [if_pos hzero]
        exact .inl ⟨hzero, rfl⟩
      · rw [if_neg hzero]
        exact .inr ⟨hzero, rfl⟩

theorem withdrawEntry_points {env : Env} {bankTab count playerBag playerSlot remainer : Nat}
    {ref : EntryRef} {pItem : Option (Pos × Item)} (hpoints : s.bank.Points ref)
    (hleft : pItem.isSome → remainer ≠ 0 → Word.sub32 ref.item.count count = remainer)
    (hfits : (s.player.inventory.canStoreNewItem env.store (Word.u8 playerBag) (Word.u8 playerSlot)
        ref.item.itemTemplate count).msg = .ok → remainer ≠ 0 →
      Fits { ref.item with count := remainer, state := .changed }) :
    Trail Fits taken forgets s (s.withdrawEntry env bankTab count playerBag playerSlot ref pItem remainer) := by
  obtain ⟨i, hindex, hi⟩ := hpoints
  refine withdrawEntry_trail hleft fun t new hbank hdb hnew hmsg _ => ?_
  refine .trans (.sameBank hbank hdb) (finishWithdraw_trail hindex (by rw [hbank]; exact hi) ?_)
  rcases hnew with ⟨-, rfl⟩ | ⟨hzero, rfl⟩
  · exact .inl rfl
  · exact .inr ⟨rfl, ⟨rfl, rfl, rfl, rfl⟩, rfl, hfits hmsg hzero⟩

-- Both halves of a swap go through: the bank item fits the bags once the bag
-- item is gone.
def SwapCompletes (env : Env) (s : Session) (pos : Pos) (bankItem : BankItem) : Prop :=
  let inv := s.player.inventory.destroyItem env.store pos.1 pos.2
  let res := inv.canStoreNewItem env.store inventorySlotBag0 nullSlot bankItem.itemTemplate bankItem.count
  res.msg = .ok ∧ (inv.storeNewItem env.store s.nextItemGuid res.dest bankItem.itemTemplate
    (env.randomPropertyId bankItem.itemTemplate)).isSome

theorem swapItems_trail {env : Env} {Good : Item → Prop} {Amount Tab : Nat → Prop}
    (hrules : Rules env Fits Good Amount Tab) {pos : Pos} {bagItem : Item} {bankItem : EntryRef}
    (htakes : Takes taken s) (hs : ∀ item ∈ s.bank.items, Fits item)
    (hfound : s.bank.getItem bankItem.item.tab bankItem.item.slot = some bankItem) (hgood : Good bagItem)
    (hswap : SwapCompletes env s pos bankItem.item → forgets = true) :
    Trail Fits taken forgets s (s.swapItems env pos bagItem bankItem) := by
  have hpoints := (Bank.getItem_some hfound).1
  unfold Session.swapItems
  dsimp only
  split_ifs with hstore
  · exact .reply s _
  have hdeposit : Trail Fits taken forgets s (s.depositItemInSlot env bankItem.item.tab bankItem.item.slot pos
      bagItem bagItem.count 0 .changed false) := by
    refine depositItemInSlot_over htakes hs hfound fun total htotal => ?_
    rw [if_neg (by decide)] at htotal
    rw [htotal]
    exact hrules.swapIn _ bagItem bankItem.item hgood (hs _ hpoints.mem)
  obtain ⟨hplayer, hguid⟩ := player_depositItemInSlot_whole env pos bagItem false hfound
  refine hdeposit.trans (withdrawEntry_trail (fun h => by cases h) fun t new hbank hdb hnew hmsg hstored => ?_)
  rcases hnew with ⟨-, rfl⟩ | ⟨hzero, -⟩
  · refine .trans (.sameBank hbank hdb) (finishWithdraw_forget rfl rfl (hswap ?_))
    have hstored := hstored rfl
    rw [hplayer, hguid] at hstored
    rw [hplayer] at hmsg
    exact ⟨hmsg, hstored⟩
  · exact absurd rfl hzero

end

end TurtleWow.GuildBank

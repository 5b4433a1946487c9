import TurtleWow.GuildBank.Trail.Deposit
import TurtleWow.Objects.Placement

namespace TurtleWow.GuildBank

open Util Objects List

-- What the four item handlers leave is a trail, when the items and numbers
-- that they put into the bank are as `Rules` asks.

def stacksOver (dItem : BankItem) (pItem : Item) : Prop :=
  dItem.itemTemplate = pItem.entry ∧ 1 < dItem.maxStackSize

-- `Good` and `Amount` are asked only where a deposit puts them to use, and a
-- swap may complete only where `swaps` says so.
def DepositMeets (Good : Item → Prop) (Amount Tab : Nat → Prop) (swaps : Bool) (env : Env) (msg : Text) (s : Session) :
    Prop :=
  ∀ name playerBag playerSlot bankTab bankSlot count pItem,
    tokens msg ':' = [name, playerBag, playerSlot, bankTab, bankSlot, count] →
    s.canAccessTab env (atoiU8 bankTab) .depositItem →
    s.player.inventory.getItemByPos env.store (Session.depositPos (atoiU8 playerBag) (atoiU8 playerSlot)).1
      (Session.depositPos (atoiU8 playerBag) (atoiU8 playerSlot)).2 = some pItem →
    Tab (atoiU8 bankTab) ∧ (atoiU8 bankSlot = 0 → Good pItem) ∧
      (atoiU8 bankSlot ≠ 0 → s.bank.getItem (atoiU8 bankTab) (atoiU8 bankSlot) = none →
        Amount (atoiU8 count)) ∧
      ∀ dItem, s.bank.getItem (atoiU8 bankTab) (atoiU8 bankSlot) = some dItem →
        ¬stacksOver dItem.item pItem → Good pItem ∧
          (SwapCompletes env s (Session.depositPos (atoiU8 playerBag) (atoiU8 playerSlot)) dItem.item →
            swaps = true)

def WithdrawMeets (Good : Item → Prop) (swaps : Bool) (env : Env) (msg : Text) (s : Session) : Prop :=
  ∀ name bankTab bankSlot playerBag playerSlot count bItem pItem,
    tokens msg ':' = [name, bankTab, bankSlot, playerBag, playerSlot, count] →
    s.canAccessTab env (atoiU32 bankTab) .withdrawItem →
    s.bank.getItem (atoiU32 bankTab) (atoiU32 bankSlot) = some bItem →
    s.player.inventory.getItemByPos env.store (Word.u8 (Session.withdrawBag (atoiU32 playerBag)))
      (Word.u8 (Session.withdrawSlot (atoiU32 playerBag) (atoiU32 playerSlot))) = some pItem →
    ¬stacksOver bItem.item pItem → Good pItem ∧
      (SwapCompletes env s (Word.u8 (Session.withdrawBag (atoiU32 playerBag)),
        Word.u8 (Session.withdrawSlot (atoiU32 playerBag) (atoiU32 playerSlot))) bItem.item → swaps = true)

def SplitMeets (Amount : Nat → Prop) (env : Env) (msg : Text) (s : Session) : Prop :=
  ∀ name bankTab fromSlot toSlot split,
    tokens msg ':' = [name, bankTab, fromSlot, toSlot, split] →
    s.canAccessTab env (atoiU8 bankTab) .splitItem →
    s.bank.getItem (atoiU8 bankTab) (atoiU8 toSlot) = none → Amount (atoiU8 split)

section

variable {Fits : BankItem → Prop} {taken : Option (List Nat)} {forgets : Bool} {env : Env} {Good : Item → Prop}
  {Amount Tab : Nat → Prop} {s : Session}

theorem isItemBankable_trail (item : Item) : Trail Fits taken forgets s (s.isItemBankable env item).2 :=
  .sameBank (s.isItemBankable_bank env item) (s.isItemBankable_db env item)

variable {bankTab : Nat}

section

variable (hrules : Rules env Fits Good Amount Tab)

include hrules

theorem depositOver_trail {bankSlot count : Nat}
    {pos : Pos} {pItem : Item} {dItem : EntryRef}
    (htakes : Takes taken s) (hs : ∀ item ∈ s.bank.items, Fits item)
    (hfound : s.bank.getItem bankTab bankSlot = some dItem) (hcount : count < 256)
    (hgood : ¬stacksOver dItem.item pItem → Good pItem ∧
      (SwapCompletes env s pos dItem.item → forgets = true)) :
    Trail Fits taken forgets s (s.depositOver env bankTab bankSlot pos pItem count dItem) := by
  obtain ⟨hpoints, htab, hslot⟩ := Bank.getItem_some hfound
  have hfit := hs _ hpoints.mem
  unfold Session.depositOver
  split_ifs with hsame hstacks hall hover
  · exact .reply s _
  · refine depositItemInSlot_over htakes hs hfound fun total htotal => ?_
    rw [if_pos rfl] at htotal
    exact hrules.stackSome _ pItem dItem.item count total hfit hcount hstacks.1 hall htotal
  · refine withdrawEntry_points hpoints (fun _ _ => by rw [hover.2]) fun _ hleft => ?_
    exact hrules.withdrawOver dItem.item count _ hfit hover.1 hover.2 rfl hleft
  · refine depositItemInSlot_over htakes hs hfound fun total htotal => ?_
    rw [if_pos rfl] at htotal
    exact hrules.fillUp _ pItem dItem.item total hfit hstacks.1 htotal
  · refine swapItems_trail hrules htakes hs ?_ (hgood hstacks).1 (hgood hstacks).2
    rw [htab, hslot]
    exact hfound

theorem depositItem_trail {msg : Text}
    (hs : ∀ item ∈ s.bank.items, Fits item) (hmeets : DepositMeets Good Amount Tab forgets env msg s) :
    Trail Fits (some (s.bank.items.map fun item => item.guid)) forgets s (s.depositItem env msg) := by
  unfold Session.depositItem
  split
  · rename_i name playerBag playerSlot bankTab bankSlot count hparams
    dsimp only
    refine Trail.ite (fun _ => .reply s _) fun hrange => ?_
    refine Trail.ite (fun _ => (Trail.reply s _).trans (.reply _ _)) fun haccess => ?_
    split
    · exact .reply s _
    rename_i pItem hpItem
    obtain ⟨htab, hfree, hempty, hswap⟩ :=
      hmeets _ _ _ _ _ _ pItem hparams (by simpa using haccess) hpItem
    split_ifs with hbankable hmax hslot
    · exact isItemBankable_trail pItem
    · exact .reply s _
    · exact depositItemInFreeSlotFuel_trail hrules htab rfl (takes_self s) hs (hfree hslot)
    split
    · rename_i dItem hdItem
      exact depositOver_trail hrules (takes_self s) hs hdItem (atoiU8_lt _) (hswap dItem hdItem)
    · rename_i hnone
      refine depositItemInSlotThen_trail (takes_self s) hs (.inr ⟨rfl, rfl, rfl, Bank.getItem_none hnone⟩) ?_ fun hzero =>
        absurd rfl hzero
      rintro ref href
      rw [depositTarget_new href]
      refine hrules.create _ pItem _ htab (Nat.pos_of_ne_zero hslot) ?_ (.inr ⟨hempty hslot hnone, ?_⟩)
      · exact Nat.le_of_not_lt fun h => hrange (.inr (.inr h))
      · exact Nat.le_of_not_lt hmax
  · exact .reply s _

theorem withdrawOver_trail {withdrawCount bag slot : Nat} {bItem : EntryRef} {pItem : Item}
    (htakes : Takes taken s) (hs : ∀ item ∈ s.bank.items, Fits item)
    (hfound : s.bank.getItem bItem.item.tab bItem.item.slot = some bItem)
    (hpItem : s.player.inventory.getItemByPos env.store (Word.u8 bag) (Word.u8 slot) = some pItem)
    (hcount : withdrawCount ≤ bItem.item.count)
    (hgood : ¬stacksOver bItem.item pItem → Good pItem ∧
      (SwapCompletes env s (Word.u8 bag, Word.u8 slot) bItem.item → forgets = true)) :
    Trail Fits taken forgets s
      (s.withdrawOver env bankTab withdrawCount bag slot bItem (Word.u8 bag, Word.u8 slot) pItem) := by
  have hpoints := (Bank.getItem_some hfound).1
  have hfit := hs _ hpoints.mem
  unfold Session.withdrawOver
  split_ifs with hstacks hfew
  · refine withdrawEntry_points hpoints (fun _ _ => rfl) fun hmsg hleft => ?_
    obtain ⟨-, hroom⟩ := Inventory.merges_of_canStoreNewItem hpItem hmsg
    rw [← hstacks.1] at hroom
    exact hrules.withdrawFew pItem bItem.item withdrawCount _ hfit hstacks.1.symm hcount hroom hfew rfl hleft
  · refine withdrawEntry_points hpoints (fun _ _ => rfl) fun _ hleft => ?_
    exact hrules.withdrawSome bItem.item withdrawCount _ hfit hcount rfl hleft
  · obtain ⟨hgood, hswap⟩ := hgood fun h => hstacks ⟨h.1.symm, h.2⟩
    exact swapItems_trail hrules htakes hs hfound hgood hswap

section

variable (hs : ∀ item ∈ s.bank.items, Fits item)

include hs

theorem withdrawItem_trail {msg : Text} (hmeets : WithdrawMeets Good forgets env msg s) :
    Trail Fits none forgets s (s.withdrawItem env msg) := by
  unfold Session.withdrawItem
  split
  · rename_i name bankTab bankSlot playerBag playerSlot count hparams
    dsimp only
    refine Trail.ite (fun _ => .reply s _) fun hrange => ?_
    refine Trail.ite (fun _ => (Trail.reply s _).trans (.reply _ _)) fun haccess => ?_
    split
    · exact .reply s _
    rename_i bItem hbItem
    obtain ⟨hpoints, htab, hslot⟩ := Bank.getItem_some hbItem
    refine Trail.ite (fun _ => .reply s _) fun hmore => ?_
    split_ifs with hauto hwhole
    · exact withdrawEntry_points hpoints (fun h => by cases h) fun _ hleft => absurd rfl hleft
    · exact .reply s _
    split
    · rename_i pItem hpItem
      split_ifs with hbankable
      · exact isItemBankable_trail pItem
      · refine withdrawOver_trail hrules (takes_none s) hs ?_ hpItem (Nat.le_of_not_lt hmore) ?_
        · rw [htab, hslot]
          exact hbItem
        · exact hmeets _ _ _ _ _ _ bItem pItem hparams (by simpa using haccess) hbItem hpItem
    · refine withdrawEntry_points hpoints (fun h => by cases h) fun _ hleft => ?_
      exact hrules.withdrawSome bItem.item _ _ (hs _ hpoints.mem) (Nat.le_of_not_lt hmore) rfl hleft
  · exact .reply s _

theorem exchange_trail {sItem dItem : EntryRef}
    {fromSlot toSlot : Nat} (hsource : s.bank.getItem bankTab fromSlot = some sItem)
    (hdest : s.bank.getItem bankTab toSlot = some dItem) (hfrom : 1 ≤ fromSlot ∧ fromSlot ≤ bankTabSize)
    (hto : 1 ≤ toSlot ∧ toSlot ≤ bankTabSize) (hne : fromSlot ≠ toSlot) :
    Trail Fits taken forgets s (s.exchange sItem dItem fromSlot toSlot).saveToDB := by
  obtain ⟨⟨i, hindex, hi⟩, htab, hslot⟩ := Bank.getItem_some hsource
  obtain ⟨⟨j, hjndex, hj⟩, htab', hslot'⟩ := Bank.getItem_some hdest
  have hij : i ≠ j := by
    rintro rfl
    rw [hi, Option.some.injEq] at hj
    rw [← hslot, ← hslot', hj] at hne
    exact hne rfl
  have hfit := hrules.move sItem.item toSlot (hs _ (mem_of_getElem? hi)) hto.1 hto.2
  have hfit' := hrules.move dItem.item fromSlot (hs _ (mem_of_getElem? hj)) hfrom.1 hfrom.2
  subst hslot hslot'
  refine Trail.trans (.edit (.exchange i j sItem.item dItem.item hi hj hij (by rw [htab, htab']) hfit hfit')
    ?_) (.save _)
  unfold Session.exchange Bank.write
  simp only [hindex, hjndex, Bank.enqueue]
  exact ⟨rfl, by simp [Bank.withItems], rfl, rfl, rfl, rfl⟩

theorem moveEntry_trail {fromSlot toSlot : Nat} (hfrom : 1 ≤ fromSlot ∧ fromSlot ≤ bankTabSize)
    (hto : 1 ≤ toSlot ∧ toSlot ≤ bankTabSize) (hne : fromSlot ≠ toSlot) :
    Trail Fits taken forgets s (s.moveEntry (s.bank.getItem bankTab fromSlot) (s.bank.getItem bankTab toSlot)
      fromSlot toSlot) := by
  unfold Session.moveEntry
  split
  · exact .reply s _
  · rename_i sItem hsource hdest
    obtain ⟨⟨i, hindex, hi⟩, htab, hslot⟩ := Bank.getItem_some hsource
    have hfree := Bank.getItem_none hdest
    rw [← htab] at hfree
    refine .edit (.move i sItem.item toSlot hi hfree
      (hrules.move _ _ (hs _ (mem_of_getElem? hi)) hto.1 hto.2)) ?_
    simp only [Bank.write, hindex]
    exact ⟨rfl, rfl, rfl, rfl, rfl, rfl⟩
  · rename_i sItem dItem hsource hdest
    obtain ⟨⟨i, hindex, hi⟩, htab, hslot⟩ := Bank.getItem_some hsource
    obtain ⟨⟨j, hjndex, hj⟩, htab', hslot'⟩ := Bank.getItem_some hdest
    have hfit := hs _ (mem_of_getElem? hi)
    have hfit' := hs _ (mem_of_getElem? hj)
    have hij : i ≠ j := by
      rintro rfl
      rw [hi, Option.some.injEq] at hj
      rw [← hslot, ← hslot', hj] at hne
      exact hne rfl
    split_ifs with hsame hmax hall
    · exact exchange_trail hrules hs hsource hdest hfrom hto hne
    · exact Trail.writeThenRemove _ hjndex hindex hj hi hij.symm (rewritten_count dItem.item _)
        (hrules.mergeAll sItem.item dItem.item _ hfit hfit' hsame hall rfl)
    · exact Trail.writeBoth _ _ hindex hjndex hi hj hij (rewritten_count sItem.item _)
        (rewritten_count dItem.item _)
        (hrules.mergeFew sItem.item dItem.item _ hfit hfit' hsame (fun h => hmax (.inl h)) hall rfl)
        (hrules.mergeFull dItem.item hfit')
    · exact exchange_trail hrules hs hsource hdest hfrom hto hne

theorem moveItem_trail {msg : Text} : Trail Fits taken forgets s (s.moveItem env msg) := by
  unfold Session.moveItem
  split
  · dsimp only
    refine Trail.ite (fun _ => (Trail.reply s _).trans (.reply _ _)) fun _ => ?_
    refine Trail.ite (fun _ => .reply s _) fun hne => ?_
    refine Trail.ite (fun _ => .reply s _) fun hrange => ?_
    simp only [not_or, Nat.not_lt] at hrange
    exact moveEntry_trail hrules hs ⟨Nat.pos_of_ne_zero hrange.2.2.1, hrange.2.2.2.1⟩
      ⟨Nat.pos_of_ne_zero hrange.2.2.2.2.1, hrange.2.2.2.2.2⟩ hne
  · exact .reply s _

end

end

theorem writeThenPut_trail {found : EntryRef} {new : BankItem} {i slot count : Nat}
    (htakes : Takes taken s) (hsome : taken.isSome) (hindex : found.index = some i)
    (hi : s.bank.items[i]? = some found.item) (hnew : Rewritten new found.item) (hfits : Fits new)
    (hfree : ∀ item ∈ s.bank.items, ¬(item.tab = found.item.tab ∧ item.slot = slot))
    (hput : ∀ guid, Fits { new with
      guildid := s.bank.guildid, guid := guid, slot := slot, count := count, state := .new }) :
    Trail Fits taken forgets s (s.updateBank
      (((s.bank.write { found with item := new }).enqueue new).enqueue
        { ((s.bank.write { found with item := new }).enqueue new).cloneBankItem new with
          slot := slot, count := count, state := .new } |>.addItem
        { ((s.bank.write { found with item := new }).enqueue new).cloneBankItem new with
          slot := slot, count := count, state := .new })) := by
  refine (Trail.write new hindex hi hnew hfits).trans ?_
  have hitems : ((s.bank.write { found with item := new }).enqueue new).items = s.bank.items.set i new :=
    Bank.write_item_items hindex new
  have hguildid : ((s.bank.write { found with item := new }).enqueue new).guildid = s.bank.guildid := by
    simp only [Bank.write, hindex]
    rfl
  generalize (s.bank.write { found with item := new }).enqueue new = b at hitems hguildid ⊢
  refine .edit (.put { b.cloneBankItem new with slot := slot, count := count, state := .new } rfl ?_ rfl
    (.inr ⟨new, ?_, rfl⟩) rfl ?_ ?_) ⟨rfl, rfl, rfl, rfl, rfl, rfl⟩
  · rw [Session.updateBank_bank, hitems, guids_set hi hnew.guid]
    exact htakes.eq hsome
  · rw [Session.updateBank_bank, hitems]
    exact mem_set (List.getElem?_eq_some_iff.mp hi).1 new
  · intro item hitem
    rw [Session.updateBank_bank, hitems] at hitem
    show ¬(item.tab = new.tab ∧ item.slot = slot)
    rcases mem_or_eq_of_mem_set hitem with hold | rfl
    · rw [hnew.tab]
      exact hfree item hold
    · rw [hnew.slot]
      intro h
      exact hfree _ (mem_of_getElem? hi) ⟨rfl, h.2⟩
  · have hfits := hput b.getNewGuid
    rw [← hguildid] at hfits
    exact hfits

theorem countThenPut_trail {found : EntryRef} {i slot count : Nat} (left : Nat)
    (htakes : Takes taken s) (hsome : taken.isSome) (hindex : found.index = some i)
    (hi : s.bank.items[i]? = some found.item)
    (hfits : Fits { found.item with count := left, state := .changed })
    (hfree : ∀ item ∈ s.bank.items, ¬(item.tab = found.item.tab ∧ item.slot = slot))
    (hput : ∀ guid, Fits { found.item with
      guildid := s.bank.guildid, guid := guid, slot := slot, count := count, state := .new }) :
    let sItem := { found with item := { found.item with count := left, state := .changed } }
    let b := (s.bank.write sItem).enqueue sItem.item
    let dItem := { b.cloneBankItem sItem.item with slot := slot, count := count, state := .new }
    Trail Fits taken forgets s (s.updateBank ((b.enqueue dItem).addItem dItem)) :=
  writeThenPut_trail htakes hsome hindex hi (rewritten_count found.item left) hfits hfree hput

section

variable (hrules : Rules env Fits Good Amount Tab)

include hrules

theorem splitToFree_trail {fromSlot toSlot split : Nat}
    {sItem : EntryRef} (htakes : Takes taken s) (hsome : taken.isSome)
    (hs : ∀ item ∈ s.bank.items, Fits item) (hsource : s.bank.getItem bankTab fromSlot = some sItem)
    (hdest : s.bank.getItem bankTab toSlot = none) (hto : 1 ≤ toSlot ∧ toSlot ≤ bankTabSize)
    (hamount : Amount split) (hsplit : split < 256) :
    Trail Fits taken forgets s (s.splitToFree sItem toSlot split) := by
  obtain ⟨⟨i, hindex, hi⟩, htab, -⟩ := Bank.getItem_some hsource
  have hfit := hs _ (mem_of_getElem? hi)
  unfold Session.splitToFree
  refine Trail.ite (fun _ => .reply s _) fun hmax => ?_
  refine Trail.ite (fun _ => .reply s _) fun hpos => ?_
  have hoff := hrules.splitOff sItem.item split _ hfit hamount hsplit (Int.not_le.mp hpos) rfl
  refine .trans (countThenPut_trail _ htakes hsome hindex hi hoff ?_ fun guid => ?_) (.save _)
  · rw [htab]
    exact Bank.getItem_none hdest
  · exact hrules.splitNew sItem.item _ guid toSlot split hfit hamount (Nat.lt_of_not_le hmax) hto.1 hto.2

theorem splitToStack_trail {fromSlot toSlot split : Nat}
    {sItem dItem : EntryRef} (hs : ∀ item ∈ s.bank.items, Fits item)
    (hsource : s.bank.getItem bankTab fromSlot = some sItem)
    (hdest : s.bank.getItem bankTab toSlot = some dItem) (hne : fromSlot ≠ toSlot) :
    Trail Fits taken forgets s (s.splitToStack sItem dItem split) := by
  obtain ⟨⟨i, hindex, hi⟩, htab, hslot⟩ := Bank.getItem_some hsource
  obtain ⟨⟨j, hjndex, hj⟩, htab', hslot'⟩ := Bank.getItem_some hdest
  have hfit := hs _ (mem_of_getElem? hi)
  have hfit' := hs _ (mem_of_getElem? hj)
  have hij : i ≠ j := by
    rintro rfl
    rw [hi, Option.some.injEq] at hj
    rw [← hslot, ← hslot', hj] at hne
    exact hne rfl
  unfold Session.splitToStack
  dsimp only
  split_ifs with hsame hroom hzero hmax hzero' hmax'
  · exact .reply s _
  · exact .reply s _
  · exact .reply s _
  · exact .reply s _
  · exact Trail.writeBoth _ _ hindex hjndex hi hj hij (rewritten_count sItem.item _)
      (rewritten_count dItem.item _)
      (hrules.splitOver sItem.item dItem.item _ hfit hfit' hsame hzero (Nat.le_of_not_lt hmax)).1
      (hrules.splitOver sItem.item dItem.item _ hfit hfit' hsame hzero' (Nat.le_of_not_lt hmax')).2
  · exact .reply s _
  · exact .reply s _

theorem splitItem_trail {msg : Text} (hs : ∀ item ∈ s.bank.items, Fits item) (hmeets : SplitMeets Amount env msg s) :
    Trail Fits (some (s.bank.items.map fun item => item.guid)) forgets s (s.splitItem env msg) := by
  unfold Session.splitItem
  split
  · rename_i name bankTab fromSlot toSlot split hparams
    refine Trail.ite (fun _ => (Trail.reply s _).trans (.reply _ _)) fun haccess => ?_
    refine Trail.ite (fun _ => .reply s _) fun hne => ?_
    refine Trail.ite (fun _ => .reply s _) fun hrange => ?_
    simp only [not_or, Nat.not_lt] at hrange
    split
    · exact .sameBank rfl rfl
    · rename_i sItem hsource hdest
      exact splitToFree_trail hrules (takes_self s) rfl hs hsource hdest
        ⟨Nat.pos_of_ne_zero hrange.2.2.2.2.1, hrange.2.2.2.2.2⟩
        (hmeets _ _ _ _ _ hparams (by simpa using haccess) hdest) (atoiU8_lt _)
    · rename_i sItem dItem hsource hdest
      exact splitToStack_trail hrules hs hsource hdest hne
  · exact .reply s _

end

end

end TurtleWow.GuildBank

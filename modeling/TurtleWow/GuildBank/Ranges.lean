import TurtleWow.GuildBank.Unique

namespace TurtleWow.GuildBank

open Util Objects List

-- Every entry holds between one unit and a full stack, in a slot of an
-- unlocked tab.

structure InRange (store : ItemStore) (tabs : Nat) (item : BankItem) : Prop where
  some : 1 ≤ item.count
  full : item.count ≤ item.maxStackSize
  slot : 1 ≤ item.slot ∧ item.slot ≤ bankTabSize
  tab : 1 ≤ item.tab ∧ item.tab ≤ tabs
  stack : item.maxStackSize = (store.proto item.itemTemplate).stackable

structure Sound (store : ItemStore) (item : Item) : Prop where
  some : 1 ≤ item.count
  full : item.count ≤ (store.proto item.entry).stackable

section

variable {store : ItemStore} {tabs : Nat} {entry : BankItem} {pItem : Item}

theorem InRange.stack_le (h : InRange store tabs entry) : entry.maxStackSize ≤ 255 := by
  rw [h.stack]
  exact (store.proto entry.itemTemplate).stackable_le

theorem InRange.setCount (h : InRange store tabs entry) {count : Nat} (hsome : 1 ≤ count)
    (hfull : count ≤ entry.maxStackSize) (state : ItemUpdateState) :
    InRange store tabs { entry with count := count, state := state } :=
  ⟨hsome, hfull, h.slot, h.tab, h.stack⟩

theorem inRange_cloneFromItem (inferno : Bool) (hsome : 1 ≤ entry.count)
    (hfull : entry.count ≤ (store.proto pItem.entry).stackable)
    (hslot : 1 ≤ entry.slot ∧ entry.slot ≤ bankTabSize) (htab : 1 ≤ entry.tab ∧ entry.tab ≤ tabs) :
    InRange store tabs (cloneFromItem store inferno entry pItem) := ⟨hsome, hfull, hslot, htab, rfl⟩

theorem InRange.stack_eq (h : InRange store tabs entry) (hsame : entry.itemTemplate = pItem.entry) :
    entry.maxStackSize = (store.proto pItem.entry).stackable := by
  rw [h.stack, hsame]

theorem InRange.cloneCount (h : InRange store tabs entry) (inferno : Bool) {count : Nat}
    (hsome : 1 ≤ count) (hfull : count ≤ (store.proto pItem.entry).stackable) :
    InRange store tabs
      (cloneFromItem store inferno { entry with count := count, state := .changed } pItem) :=
  inRange_cloneFromItem inferno hsome hfull h.slot h.tab

end

theorem rules_inRange (env : Env) (tabs : Nat) :
    Rules env (InRange env.store tabs) (Sound env.store) (fun count => 1 ≤ count)
      (fun tab => 1 ≤ tab ∧ tab ≤ tabs) where
  stackAll := by
    intro inferno pItem entry total hgood hentry hsame hroom hall htotal
    have hle := hentry.stack_le
    have hfull := hgood.full
    rw [← hentry.stack_eq hsame] at hfull
    rw [Word.add32_of_lt (by omega)] at hall htotal
    refine hentry.cloneCount inferno ?_ ?_
    · have := hgood.some
      omega
    · rw [← hentry.stack_eq hsame]
      omega
  stackSome := by
    intro inferno pItem entry count total hentry hcount hsame hall htotal
    have hle := hentry.stack_le
    have hsome := hentry.some
    have hfull := hentry.full
    rw [Word.add32_of_lt (by omega)] at hall htotal
    refine hentry.cloneCount inferno (by omega) ?_
    rw [← hentry.stack_eq hsame]
    omega
  fillUp := by
    intro inferno pItem entry total hentry hsame htotal
    have hle := hentry.stack_le
    have hsome := hentry.some
    have hfull := hentry.full
    rw [Word.sub32_of_le (by omega) hfull, Word.add32_of_lt (by omega)] at htotal
    refine hentry.cloneCount inferno (by omega) ?_
    rw [← hentry.stack_eq hsame]
    omega
  rest := by
    intro pItem entry hgood hentry hsame hroom hmore
    have hle := hentry.stack_le
    have hfull := hgood.full
    rw [← hentry.stack_eq hsame] at hfull
    rw [Word.add32_of_lt (by omega)] at hmore
    rw [Word.sub32_of_le (by omega) (Nat.le_of_lt hroom), Word.sub32_of_le (by omega) (by omega)]
    refine ⟨?_, ?_⟩
    · show 1 ≤ pItem.count - (entry.maxStackSize - entry.count)
      omega
    · show pItem.count - (entry.maxStackSize - entry.count) ≤ (env.store.proto pItem.entry).stackable
      exact Nat.le_trans (Nat.sub_le _ _) hgood.full
  create := by
    intro inferno pItem entry htab hlo hhi hcount
    rcases hcount with ⟨hgood, heq⟩ | ⟨hsome, hfull⟩
    · refine inRange_cloneFromItem inferno ?_ ?_ ⟨hlo, hhi⟩ htab
      · rw [heq]
        exact hgood.some
      · rw [heq]
        exact hgood.full
    · exact inRange_cloneFromItem inferno hsome hfull ⟨hlo, hhi⟩ htab
  swapIn := by
    intro inferno pItem entry hgood hentry
    exact hentry.cloneCount inferno hgood.some hgood.full
  withdrawSome := by
    intro entry count left hentry hcount hleft hne
    have hle := hentry.stack_le
    have hfull := hentry.full
    rw [Word.sub32_of_le (by omega) hcount] at hleft
    exact hentry.setCount (by omega) (by omega) .changed
  withdrawFew := by
    intro pItem entry wanted left hentry hsame hwanted hroom hfew hleft hne
    have hle := hentry.stack_le
    have hfull := hentry.full
    have hstack : entry.maxStackSize = (pItem.proto env.store).getMaxStackSize := hentry.stack_eq hsame
    rw [← hstack] at hroom hfew hleft
    rw [Word.add32_of_lt (by omega)] at hfew
    rw [Word.sub32_of_le (by omega) (Nat.le_of_lt hroom), Word.sub32_of_le (by omega) (by omega)] at hleft
    exact hentry.setCount (by omega) (by omega) .changed
  withdrawOver := by
    intro entry count left hentry hcount hmax hleft hne
    have hle := hentry.stack_le
    have hmissing : Word.sub32 entry.maxStackSize count = entry.maxStackSize - count :=
      Word.sub32_of_le (by omega) (by omega)
    rw [hmissing, Word.sub32_of_le (by omega) (by omega)] at hleft
    exact hentry.setCount (by omega) (by omega) .changed
  move := by
    intro entry slot hentry hlo hhi
    exact ⟨hentry.some, hentry.full, ⟨hlo, hhi⟩, hentry.tab, hentry.stack⟩
  mergeAll := by
    intro sItem dItem total hsource hdest hsame hall htotal
    have hle := hsource.stack_le
    have hle' := hdest.stack_le
    have hsome := hdest.some
    have hfull := hsource.full
    have hfull' := hdest.full
    have hstack : sItem.maxStackSize = dItem.maxStackSize := by
      rw [hsource.stack, hdest.stack, hsame]
    rw [Word.add32_of_lt (by omega)] at hall htotal
    exact hdest.setCount (by omega) (by omega) .changed
  mergeFew := by
    intro sItem dItem left hsource hdest hsame hne hmore hleft
    have hle := hsource.stack_le
    have hle' := hdest.stack_le
    have hfull := hsource.full
    have hfull' := hdest.full
    have hstack : sItem.maxStackSize = dItem.maxStackSize := by
      rw [hsource.stack, hdest.stack, hsame]
    rw [Word.add32_of_lt (by omega)] at hmore
    have hroom : Word.sub32 sItem.maxStackSize dItem.count = sItem.maxStackSize - dItem.count :=
      Word.sub32_of_le (by omega) (by omega)
    rw [hroom, Word.sub32_of_le (by omega) (by omega)] at hleft
    exact hsource.setCount (by omega) (by omega) .changed
  mergeFull := by
    intro dItem hdest
    exact hdest.setCount (Nat.le_trans hdest.some hdest.full) (Nat.le_refl _) .changed
  splitOff := by
    intro sItem split left hsource hamount hsplit hpos hleft
    have hle := hsource.stack_le
    have hfull := hsource.full
    have hsource32 : Word.i32 (sItem.count : Int) = sItem.count := Word.i32_of_lt (by omega)
    have hdiff : Word.i32 ((sItem.count : Int) - split) = (sItem.count : Int) - split := by
      unfold Word.i32
      split_ifs <;> omega
    rw [hsource32, hdiff] at hpos hleft
    unfold Word.toU32 at hleft
    exact hsource.setCount (by omega) (by omega) .changed
  splitNew := by
    intro sItem guildid guid slot split hsource hamount hmax hlo hhi
    exact ⟨hamount, Nat.le_of_lt hmax, ⟨hlo, hhi⟩, hsource.tab, hsource.stack⟩
  splitOver := by
    intro sItem dItem left hsource hdest hsame hne hmax
    have hstack : sItem.maxStackSize = dItem.maxStackSize := by
      rw [hsource.stack, hdest.stack, hsame]
    exact ⟨hsource.setCount (Nat.pos_of_ne_zero hne) hmax .changed,
      hdest.setCount (Nat.pos_of_ne_zero hne) (by omega) .changed⟩

theorem InRange.settle {store : ItemStore} {tabs : Nat} {item : BankItem} (h : InRange store tabs item) :
    InRange store tabs item.settle := ⟨h.some, h.full, h.slot, h.tab, h.stack⟩

theorem InRange.mono {store : ItemStore} {tabs tabs' : Nat} {item : BankItem} (h : InRange store tabs item)
    (hle : tabs ≤ tabs') : InRange store tabs' item :=
  ⟨h.some, h.full, h.slot, ⟨h.tab.1, Nat.le_trans h.tab.2 hle⟩, h.stack⟩

structure BankInRange (store : ItemStore) (least : Nat) (b : Bank) : Prop where
  tabs : least ≤ b.tabs
  items : ∀ item ∈ b.items, InRange store b.tabs item

theorem BankInRange.saveToDB {store : ItemStore} {least : Nat} {s : Session}
    (h : BankInRange store least s.bank) : BankInRange store least s.saveToDB.bank := by
  refine ⟨by rw [s.saveToDB_tabs]; exact h.tabs, fun item hitem => ?_⟩
  rw [s.saveToDB_tabs]
  rcases s.saveToDB_items with hitems | hitems
  · rw [hitems] at hitem
    exact h.items item hitem
  · rw [hitems] at hitem
    obtain ⟨old, hold, rfl⟩ := mem_map.mp hitem
    exact (h.items old hold).settle

theorem fits_edit {Fits : BankItem → Prop} {taken : Option (List Nat)} {forgets : Bool} {b : Bank}
    {items snaps : List BankItem} (h : ∀ item ∈ b.items, Fits item)
    (hedit : Edit Fits taken forgets b items snaps) : ∀ item ∈ items, Fits item := by
  intro item hitem
  cases hedit with
  | refill i old new hi hslot hstate hkind hfits =>
    rcases mem_or_eq_of_mem_set hitem with hold | rfl
    · exact h item hold
    · exact hfits
  | move i old slot hi hfree hfits =>
    rcases mem_or_eq_of_mem_set hitem with hold | rfl
    · exact h item hold
    · exact hfits
  | exchange i j old other hi hj hne htab hold hother =>
    rcases mem_or_eq_of_mem_set hitem with hitem | rfl
    · rcases mem_or_eq_of_mem_set hitem with hitem | rfl
      · exact h item hitem
      · exact hold
    · exact hother
  | remove i old hi => exact h item (mem_of_mem_eraseIdx hitem)
  | put new hguid htaken hguildid hkind hstate hfree hfits =>
    rcases mem_append.mp hitem with hold | hnew
    · exact h item hold
    · rw [mem_singleton.mp hnew]
      exact hfits
  | forget => exact h item hitem

theorem BankInRange.trail {store : ItemStore} {least tabs : Nat} {taken : Option (List Nat)} {s s' : Session}
    (h : BankInRange store least s.bank) (htabs : s.bank.tabs = tabs)
    (htrail : Trail (InRange store tabs) taken true s s') : BankInRange store least s'.bank := by
  have hboth := Trail.invariant (P := fun s => BankInRange store least s.bank ∧ s.bank.tabs = tabs) ?_ ?_ ?_
    htrail ⟨h, htabs⟩
  · exact hboth.1
  · rintro s s' ⟨hs, htabs⟩ hsame
    refine ⟨⟨?_, ?_⟩, ?_⟩
    · rw [hsame.tabs]
      exact hs.tabs
    · rw [hsame.tabs, hsame.items]
      exact hs.items
    · rw [hsame.tabs, htabs]
  · rintro s s' items snaps ⟨hs, htabs⟩ hedit hbecomes
    refine ⟨⟨?_, ?_⟩, ?_⟩
    · rw [hbecomes.tabs]
      exact hs.tabs
    · rw [hbecomes.tabs, hbecomes.items, htabs]
      exact fits_edit (htabs ▸ hs.items) hedit
    · rw [hbecomes.tabs, htabs]
  · rintro s ⟨hs, htabs⟩
    exact ⟨hs.saveToDB, by rw [s.saveToDB_tabs, htabs]⟩

def UnlockTabPaid (msg : Text) (s : Session) (tab : Nat) : Prop :=
  s.rank = 0 ∧ (∃ name number source, tokens msg ':' = [name, number, source] ∧ tab = atoiU8 number ∧
    (atoiU8 source = 0 → Session.tabCost tab ≤ s.bank.money) ∧
    (atoiU8 source ≠ 0 → Session.tabCost tab ≤ s.player.money)) ∧ 1 < tab ∧ tab ≤ maxTabs

theorem unlockTab_cases (s : Session) (env : Env) (msg : Text) :
    SameEntries s (s.unlockTab env msg) ∧ (s.unlockTab env msg).bank.tabs = s.bank.tabs ∨
      ∃ tab, UnlockTabPaid msg s tab ∧ ∃ t, SameEntries s t ∧ t.bank.tabs = tab ∧
        s.unlockTab env msg = t.saveToDB := by
  unfold Session.unlockTab
  split
  · exact .inl ⟨⟨rfl, rfl, rfl, rfl, rfl⟩, rfl⟩
  rename_i hrank
  split
  · rename_i name number source hparams
    dsimp only
    split_ifs with hrange hcost hsource hmoney hmoney
    · exact .inl ⟨⟨rfl, rfl, rfl, rfl, rfl⟩, rfl⟩
    · exact .inl ⟨⟨rfl, rfl, rfl, rfl, rfl⟩, rfl⟩
    · exact .inl ⟨⟨rfl, rfl, rfl, rfl, rfl⟩, rfl⟩
    · refine .inr ⟨atoiU8 number, ?_, openTab_parts ?_ _ _ _⟩
      · refine ⟨not_not.mp hrank, ⟨name, number, source, hparams, rfl, ?_, ?_⟩, by omega, by omega⟩
        · exact fun _ => Nat.le_of_not_lt hmoney
        · exact fun h => absurd hsource h
      · exact ⟨rfl, rfl, rfl, rfl, rfl⟩
    · exact .inl ⟨⟨rfl, rfl, rfl, rfl, rfl⟩, rfl⟩
    · refine .inr ⟨atoiU8 number, ?_, openTab_parts (sameEntries_setMoney s _) _ _ _⟩
      refine ⟨not_not.mp hrank, ⟨name, number, source, hparams, rfl, ?_, ?_⟩, by omega, by omega⟩
      · exact fun h => absurd h hsource
      · exact fun _ => Nat.le_of_not_lt hmoney
  · exact .inl ⟨⟨rfl, rfl, rfl, rfl, rfl⟩, rfl⟩

theorem tabs_handle (env : Env) (msg : Text) (s : Session) {call : Call}
    (hcall : call.touchesEntries = false) (hne : call ≠ .unlockTab) :
    (call.handle env msg s).bank.tabs = s.bank.tabs := by
  cases call with
  | unlockGuildBank => cases hcall
  | depositItem => cases hcall
  | withdrawItem => cases hcall
  | moveItem => cases hcall
  | splitItem => cases hcall
  | unlockTab => exact absurd rfl hne
  | unlockTabCost =>
    simp only [Call.handle, Session.unlockTabCost]
    split
    · rfl
    split
    · split_ifs <;> rfl
    · rfl
  | getBankInfo => rfl
  | getTabItems =>
    simp only [Call.handle, Session.sendTabItems, Session.queryTab]
    split
    · simp
    · rfl
  | getTabWithdrawalsLeft =>
    simp only [Call.handle, Session.sendTabWithdrawalsLeftMsg, Session.queryTab]
    split
    · simp
    · rfl
  | getTabLog =>
    simp only [Call.handle, Session.sendTabLog, Session.queryTab]
    split
    · split_ifs <;> rfl
    · rfl
  | getMoneyLog => rfl
  | updateTab =>
    simp only [Call.handle, Session.updateTab]
    split
    · rfl
    split
    · split_ifs <;> simp
    · rfl
  | depositMoney =>
    simp only [Call.handle, Session.depositMoney]
    split
    · rfl
    split_ifs
    · rfl
    · rfl
    · simp only [Session.finishMoney, Session.saveToDB_tabs, Session.updateBank_bank,
        Session.logAction_bank, Bank.logAction_tabs]
      rfl
  | withdrawMoney =>
    simp only [Call.handle, Session.withdrawMoney]
    split
    · rfl
    split_ifs
    · rfl
    · rfl
    · simp only [Session.finishMoney, Session.saveToDB_tabs, Session.updateBank_bank,
        Session.logAction_bank, Bank.logAction_tabs]
      rfl

-- When a handler call keeps the ranges. `store` are the templates the bank
-- was loaded with.
def KeepsRange (store : ItemStore) (env : Env) (msg : Text) (s : Session) (call : Call) : Prop :=
  env.store = store ∧
    match call with
    | .unlockGuildBank => UnlockPaid msg s → s.bank.tabs ≤ 1 ∧
        ∀ row ∈ s.bank.rowsOf s.db.bank, InRange store 1 (Bank.loadItem env row)
    | .unlockTab => ∀ tab, UnlockTabPaid msg s tab → s.bank.tabs ≤ tab
    | .depositItem =>
      DepositMeets (Sound store) (fun count => 1 ≤ count)
        (fun tab => 1 ≤ tab ∧ tab ≤ s.bank.tabs) true env msg s
    | .withdrawItem => WithdrawMeets (Sound store) true env msg s
    | .splitItem => SplitMeets (fun count => 1 ≤ count) env msg s
    | _ => True

theorem bankInRange_handle {store : ItemStore} {least : Nat} (env : Env) (msg : Text) (s : Session)
    (call : Call) (h : BankInRange store least s.bank) (hok : KeepsRange store env msg s call) :
    BankInRange store least (call.handle env msg s).bank := by
  obtain ⟨rfl, hok⟩ := hok
  have hrules := rules_inRange env s.bank.tabs
  have hquiet : ∀ t, SameEntries s t → s.bank.tabs ≤ t.bank.tabs → BankInRange env.store least t.bank := by
    intro t hsame htabs
    refine ⟨Nat.le_trans h.tabs htabs, ?_⟩
    rw [hsame.items]
    exact fun item hitem => (h.items item hitem).mono htabs
  have hother : call.touchesEntries = false → call ≠ .unlockTab →
      BankInRange env.store least (call.handle env msg s).bank := by
    intro hcall hne
    have htabs := tabs_handle env msg s hcall hne
    obtain ⟨t, hsame, heq | heq⟩ := quiet_handle s env msg hcall
    · rw [heq] at htabs ⊢
      exact hquiet t hsame (Nat.le_of_eq htabs.symm)
    · rw [heq, Session.saveToDB_tabs] at htabs
      rw [heq]
      exact (hquiet t hsame (Nat.le_of_eq htabs.symm)).saveToDB
  cases call with
  | unlockGuildBank =>
    rcases unlockGuildBank_cases s env msg with ⟨hsame, hbank⟩ | ⟨hpaid, hreloaded⟩
    · exact hquiet _ hsame (Nat.le_of_eq (congrArg Bank.tabs hbank).symm)
    · obtain ⟨htabs, hrows⟩ := hok hpaid
      refine ⟨?_, ?_⟩
      · simp only [Call.handle]
        rw [hreloaded.tabs]
        exact Nat.le_trans h.tabs htabs
      · simp only [Call.handle]
        rw [hreloaded.tabs, hreloaded.items]
        intro item hitem
        rcases mem_append.mp hitem with hold | hnew
        · exact (h.items item hold).mono htabs
        · obtain ⟨row, hrow, rfl⟩ := mem_map.mp hnew
          exact hrows row hrow
  | unlockTab =>
    rcases unlockTab_cases s env msg with ⟨hsame, htabs⟩ | ⟨tab, hpaid, t, hsame, htabs, heq⟩
    · exact hquiet _ hsame (Nat.le_of_eq htabs.symm)
    · simp only [Call.handle]
      rw [heq]
      refine (hquiet t hsame ?_).saveToDB
      rw [htabs]
      exact hok tab hpaid
  | depositItem => exact h.trail rfl (depositItem_trail hrules h.items hok)
  | withdrawItem => exact h.trail rfl (withdrawItem_trail hrules h.items hok)
  | moveItem =>
    have htrail : Trail (InRange env.store s.bank.tabs) none true s (s.moveItem env msg) :=
      moveItem_trail hrules h.items
    exact h.trail rfl htrail
  | splitItem => exact h.trail rfl (splitItem_trail hrules h.items hok)
  | unlockTabCost => exact hother rfl (by decide)
  | getBankInfo => exact hother rfl (by decide)
  | getTabItems => exact hother rfl (by decide)
  | getTabWithdrawalsLeft => exact hother rfl (by decide)
  | getTabLog => exact hother rfl (by decide)
  | getMoneyLog => exact hother rfl (by decide)
  | updateTab => exact hother rfl (by decide)
  | depositMoney => exact hother rfl (by decide)
  | withdrawMoney => exact hother rfl (by decide)

def depositLocked : Message :=
  sampleMessage "TW_GUILDBANK DepositItem:0:1:2:1:5" 0
    { owner := 9, items := AList.singleton (255, 23) (sampleItem 50 clothEntry 5 9) }

end TurtleWow.GuildBank

import TurtleWow.GuildBank.Trail.Handlers

namespace TurtleWow.GuildBank

open Util Objects List

-- All handlers but the unlock of the bank and the four of items leave entries,
-- queue and rows alone, except for saving them.

structure SameEntries (s s' : Session) : Prop where
  items : s'.bank.items = s.bank.items
  queue : s'.bank.updateQueue = s.bank.updateQueue
  db : s'.db = s.db
  guildid : s'.bank.guildid = s.bank.guildid
  inferno : s'.bank.inferno = s.bank.inferno

def Quiet (s s' : Session) : Prop := ∃ t, SameEntries s t ∧ (s' = t ∨ s' = t.saveToDB)

theorem SameEntries.quiet {s t : Session} (h : SameEntries s t) : Quiet s t := ⟨t, h, .inl rfl⟩

theorem SameEntries.save {s t : Session} (h : SameEntries s t) : Quiet s t.saveToDB := ⟨t, h, .inr rfl⟩

theorem SameEntries.sameBank {s t : Session} (hbank : t.bank = s.bank) (hdb : t.db = s.db) :
    SameEntries s t := ⟨by rw [hbank], by rw [hbank], hdb, by rw [hbank], by rw [hbank]⟩

def Call.touchesEntries : Call → Bool
  | .unlockGuildBank | .depositItem | .withdrawItem | .moveItem | .splitItem => true
  | _ => false

section

variable {s : Session} {env : Env}

theorem sameEntries_logAction (s : Session) (env : Env) (action : GuildBankAction) (tab itemId count : Nat)
    (bItem : Option BankItem) : SameEntries s (s.logAction env action tab itemId count bItem) :=
  ⟨by simp, by simp, rfl, by simp, by simp⟩

theorem sameEntries_setMoney (s : Session) (money : Nat) : SameEntries s (s.setMoney money) :=
  ⟨rfl, rfl, rfl, rfl, rfl⟩

theorem openTab_parts {env : Env} {s t : Session} (h : SameEntries s t) (tab cost : Nat)
    (action : GuildBankAction) :
    ∃ u, SameEntries s u ∧ u.bank.tabs = tab ∧ t.openTab env tab cost action = u.saveToDB := by
  have hlog := sameEntries_logAction (t.updateBank { t.bank with tabs := tab }) env action tabMoney tab cost
    none
  refine ⟨_, ⟨?_, ?_, ?_, ?_, ?_⟩, ?_, rfl⟩
  · exact hlog.items.trans h.items
  · exact hlog.queue.trans h.queue
  · exact h.db
  · exact hlog.guildid.trans h.guildid
  · exact hlog.inferno.trans h.inferno
  · exact Bank.logAction_tabs _ _ _ _ _ _ _

theorem quiet_openTab {t : Session} (h : SameEntries s t) (tab cost : Nat) (action : GuildBankAction) :
    Quiet s (t.openTab env tab cost action) := by
  obtain ⟨u, hsame, -, heq⟩ := openTab_parts h tab cost action
  exact ⟨u, hsame, .inr heq⟩

theorem quiet_finishMoney {t : Session} (h : SameEntries s t) (action : GuildBankAction)
    (bankMoney money : Nat) : Quiet s (t.finishMoney env action bankMoney money) := by
  have hlog := sameEntries_logAction (t.updateBank { t.bank with money := bankMoney }) env action tabMoney 0
    money none
  refine SameEntries.save (t := Session.updateBank _ _) ⟨?_, ?_, ?_, ?_, ?_⟩
  · exact hlog.items.trans h.items
  · exact hlog.queue.trans h.queue
  · exact h.db
  · exact hlog.guildid.trans h.guildid
  · exact hlog.inferno.trans h.inferno

theorem quiet_reply (s : Session) (r : Reply) : Quiet s (s.reply r) :=
  SameEntries.quiet ⟨rfl, rfl, rfl, rfl, rfl⟩

theorem quiet_queryTab {error : String} {msg : Text} {answer : Nat → Session}
    (h : ∀ tab, Quiet s (answer tab)) : Quiet s (s.queryTab error msg answer) := by
  unfold Session.queryTab
  split
  · exact h _
  · exact quiet_reply s _

theorem sameEntries_sendTabWithdrawalsLeft (s : Session) (env : Env) (tab : Nat) :
    SameEntries s (s.sendTabWithdrawalsLeft env tab) :=
  .sameBank (s.sendTabWithdrawalsLeft_bank env tab) (s.sendTabWithdrawalsLeft_db env tab)

theorem quiet_unlockTab (msg : Text) : Quiet s (s.unlockTab env msg) := by
  unfold Session.unlockTab
  split
  · exact quiet_reply s _
  split
  · dsimp only
    split_ifs
    · exact quiet_reply s _
    · exact quiet_reply s _
    · exact SameEntries.quiet ⟨rfl, rfl, rfl, rfl, rfl⟩
    · refine quiet_openTab ?_ _ _ _
      exact ⟨rfl, rfl, rfl, rfl, rfl⟩
    · exact SameEntries.quiet ⟨rfl, rfl, rfl, rfl, rfl⟩
    · exact quiet_openTab (sameEntries_setMoney s _) _ _ _
  · exact quiet_reply s _

theorem quiet_handle (s : Session) (env : Env) (msg : Text) {call : Call} (hcall : call.touchesEntries = false) :
    Quiet s (call.handle env msg s) := by
  cases call with
  | unlockGuildBank => cases hcall
  | depositItem => cases hcall
  | withdrawItem => cases hcall
  | moveItem => cases hcall
  | splitItem => cases hcall
  | unlockTab => exact quiet_unlockTab msg
  | unlockTabCost =>
    simp only [Call.handle, Session.unlockTabCost]
    split
    · exact quiet_reply s _
    split
    · split_ifs <;> exact quiet_reply s _
    · exact quiet_reply s _
  | getBankInfo => exact SameEntries.quiet ⟨rfl, rfl, rfl, rfl, rfl⟩
  | getTabItems =>
    simp only [Call.handle, Session.sendTabItems]
    refine quiet_queryTab fun tab => SameEntries.quiet ?_
    have hsent := sameEntries_sendTabWithdrawalsLeft s env tab
    exact ⟨hsent.items, hsent.queue, hsent.db, hsent.guildid, hsent.inferno⟩
  | getTabWithdrawalsLeft =>
    exact quiet_queryTab fun tab => (sameEntries_sendTabWithdrawalsLeft s env tab).quiet
  | getTabLog =>
    simp only [Call.handle, Session.sendTabLog]
    refine quiet_queryTab fun tab => ?_
    split_ifs
    · exact quiet_reply s _
    · exact quiet_reply s _
  | getMoneyLog => exact quiet_reply s _
  | updateTab =>
    simp only [Call.handle, Session.updateTab]
    split
    · exact quiet_reply s _
    split
    · split_ifs
      · exact quiet_reply s _
      · exact quiet_reply s _
      · exact quiet_reply s _
      · exact quiet_reply s _
      · exact SameEntries.save ⟨rfl, rfl, rfl, rfl, rfl⟩
    · exact quiet_reply s _
  | depositMoney =>
    simp only [Call.handle, Session.depositMoney]
    split
    · exact quiet_reply s _
    split_ifs
    · exact SameEntries.quiet ⟨rfl, rfl, rfl, rfl, rfl⟩
    · exact SameEntries.quiet ⟨rfl, rfl, rfl, rfl, rfl⟩
    · exact quiet_finishMoney (sameEntries_setMoney s _) _ _ _
  | withdrawMoney =>
    simp only [Call.handle, Session.withdrawMoney]
    split
    · exact quiet_reply s _
    split_ifs
    · exact SameEntries.quiet ⟨rfl, rfl, rfl, rfl, rfl⟩
    · exact SameEntries.quiet ⟨rfl, rfl, rfl, rfl, rfl⟩
    · exact quiet_finishMoney (sameEntries_setMoney s _) _ _ _

end

-- An unlock that the price is paid for reads all stored rows again, on top of
-- the entries in memory.
def UnlockPaid (msg : Text) (s : Session) : Prop :=
  s.rank = 0 ∧ (∃ name, tokens msg ':' = [name, "Ok".toList]) ∧ guildBankCost ≤ s.player.money

structure Reloaded (env : Env) (s s' : Session) : Prop where
  items : s'.bank.items = s.bank.items ++ (s.bank.rowsOf s.db.bank).map (Bank.loadItem env)
  queue : s'.bank.updateQueue = s.bank.updateQueue
  rows : s'.db.bank = s.db.bank
  guildid : s'.bank.guildid = s.bank.guildid
  inferno : s'.bank.inferno = s.bank.inferno
  tabs : s'.bank.tabs = 1

theorem owns_self (b : Bank) : b.owns b.guildid b.inferno = true := by simp [Bank.owns]

-- The rows that an unlock reads: the tabs row that it has just inserted is
-- the last one, and a money row is there.
theorem bankRows_insertBank (b : Bank) (db : Database) :
    ∃ money, (b.bankRows (Session.insertBank b db)).getLast? = some (Session.newTabsRow b, money) := by
  have hmoney : ∃ rows money, (Session.insertBank b db).money.filter
      (fun row => b.owns row.guildid row.isInferno) = rows ++ [money] := by
    have hne : (Session.insertBank b db).money.filter (fun row => b.owns row.guildid row.isInferno) ≠ [] := by
      simp only [Session.insertBank]
      split_ifs with hany
      · obtain ⟨row, hrow, howns⟩ := any_eq_true.mp hany
        exact ne_nil_of_mem (mem_filter.mpr ⟨hrow, howns⟩)
      · refine ne_nil_of_mem (mem_filter.mpr ⟨mem_append_right _ mem_cons_self, ?_⟩)
        exact owns_self b
    exact ⟨_, _, (dropLast_append_getLast hne).symm⟩
  obtain ⟨rows, money, hrows⟩ := hmoney
  refine ⟨money, ?_⟩
  have hlast : (db.tabs ++ [Session.newTabsRow b]).filter (fun row => b.owns row.guildid row.isInferno) =
      db.tabs.filter (fun row => b.owns row.guildid row.isInferno) ++ [Session.newTabsRow b] := by
    rw [filter_append]
    simp [Session.newTabsRow, owns_self]
  have hflat : b.bankRows (Session.insertBank b db) =
      (db.tabs.filter fun row => b.owns row.guildid row.isInferno).flatMap (fun tabs =>
        (rows ++ [money]).map fun money => (tabs, money)) ++
      (rows.map (fun money => (Session.newTabsRow b, money)) ++ [(Session.newTabsRow b, money)]) := by
    unfold Bank.bankRows
    rw [hrows]
    show List.flatMap _ ((db.tabs ++ [Session.newTabsRow b]).filter _) = _
    rw [hlast]
    simp
  rw [hflat, ← append_assoc, List.getLast?_concat]

theorem loadLog_same (env : Env) (b : Bank) (db : Database) :
    (b.loadLog env db).items = b.items ∧ (b.loadLog env db).updateQueue = b.updateQueue ∧
      (b.loadLog env db).guildid = b.guildid ∧ (b.loadLog env db).inferno = b.inferno ∧
      (b.loadLog env db).tabs = b.tabs := by
  unfold Bank.loadLog
  dsimp only
  split_ifs <;> exact ⟨rfl, rfl, rfl, rfl, rfl⟩

theorem unlockedBank_reloads (s : Session) (env : Env) :
    (s.unlockedBank env).items = s.bank.items ++ (s.bank.rowsOf s.db.bank).map (Bank.loadItem env) ∧
      (s.unlockedBank env).updateQueue = s.bank.updateQueue ∧
      (s.unlockedBank env).guildid = s.bank.guildid ∧ (s.unlockedBank env).inferno = s.bank.inferno ∧
      (s.unlockedBank env).tabs = 1 := by
  obtain ⟨money, hlast⟩ := bankRows_insertBank s.bank s.db
  have hrows : ({ s.bank with tabs := 1 } : Bank).bankRows (Session.insertBank s.bank s.db) =
      s.bank.bankRows (Session.insertBank s.bank s.db) := rfl
  unfold Session.unlockedBank
  obtain ⟨hitems, hqueue, hguildid, hinferno, htabs⟩ := loadLog_same env
    (({ s.bank with tabs := 1 } : Bank).loadBank env (Session.insertBank s.bank s.db))
    (Session.insertBank s.bank s.db)
  rw [hitems, hqueue, hguildid, hinferno, htabs]
  unfold Bank.loadBank
  rw [hrows, hlast]
  exact ⟨rfl, rfl, rfl, rfl, rfl⟩

theorem unlockGuildBank_cases (s : Session) (env : Env) (msg : Text) :
    SameEntries s (s.unlockGuildBank env msg) ∧ (s.unlockGuildBank env msg).bank = s.bank ∨
      (UnlockPaid msg s ∧ Reloaded env s (s.unlockGuildBank env msg)) := by
  unfold Session.unlockGuildBank
  split
  · exact .inl ⟨⟨rfl, rfl, rfl, rfl, rfl⟩, rfl⟩
  rename_i hrank
  split
  · rename_i name query hparams
    split_ifs with hcost hok hmoney
    · exact .inl ⟨⟨rfl, rfl, rfl, rfl, rfl⟩, rfl⟩
    · exact .inl ⟨⟨rfl, rfl, rfl, rfl, rfl⟩, rfl⟩
    · obtain ⟨hitems, hqueue, hguildid, hinferno, htabs⟩ := unlockedBank_reloads s env
      refine .inr ⟨⟨not_not.mp hrank, ⟨name, by rw [hparams, hok]⟩, Nat.le_of_not_lt hmoney⟩, ?_⟩
      exact ⟨hitems, hqueue, rfl, hguildid, hinferno, htabs⟩
    · exact .inl ⟨⟨rfl, rfl, rfl, rfl, rfl⟩, rfl⟩
  · exact .inl ⟨⟨rfl, rfl, rfl, rfl, rfl⟩, rfl⟩

end TurtleWow.GuildBank

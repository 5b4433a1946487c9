import TurtleWow.GuildBank.Items
import TurtleWow.Lib.Run

namespace TurtleWow.GuildBank

open Util Objects

namespace Session

section

variable (s : Session)

def setMoney (money : Nat) : Session := { s with player := { s.player with money := money } }

def tabCost (tab : Nat) : Nat :=
  if tab = 2 then tab2Cost
  else if tab = 3 then tab3Cost
  else if tab = 4 then tab4Cost
  else if tab = 5 then tab5Cost
  else 0

def newTabsRow (b : Bank) : TabsRow :=
  { guildid := b.guildid, isInferno := b.inferno, tabs := 1,
    info := fun tab =>
      { name := "Tab".toList ++ showNat tab,
        icon := (["inv_misc_bag_08", "inv_misc_bag_05", "inv_misc_bag_03", "inv_misc_bag_06",
          "inv_misc_bag_02"].getD (tab - 1) "").toList,
        withdrawals := 0, minrank := 0 } }

-- The two inserts of an unlock. A tabs row is always added, as its key is
-- generated; a money row only when this bank has none.
def insertBank (b : Bank) (db : Database) : Database :=
  { db with
    tabs := db.tabs ++ [newTabsRow b],
    money :=
      if db.money.any fun row => b.owns row.guildid row.isInferno then db.money
      else db.money ++ [{ guildid := b.guildid, isInferno := b.inferno, money := 0 }] }

def unlockedBank (env : Env) : Bank :=
  let db := insertBank s.bank s.db
  (({ s.bank with tabs := 1 }).loadBank env db).loadLog env db

def sendBankMoney : Session :=
  s.reply (.addon ("BankInfo:money:".toList ++ showNat s.bank.money))

def sendBankInfo : Session :=
  let s := s.sendBankMoney
  let tabs := [1, 2, 3, 4, 5].map s.bank.tabInfo
  let info := "BankInfo:Tabs:".toList ++ showNat s.bank.tabs ++ ":".toList ++
    tabs.flatMap (fun tab => tab.name ++ [':']) ++ tabs.flatMap (fun tab => tab.icon ++ [':']) ++
    tabs.flatMap (fun tab => showNat tab.withdrawals ++ [':']) ++
    tabs.flatMap fun tab => showNat tab.minrank ++ [':']
  s.reply (.addon info.dropLast)

def unlockGuildBank (env : Env) (msg : Text) : Session :=
  if s.rank ≠ 0 then s.say "UnlockGuildBank:Error:NotGM"
  else
    match tokens msg ':' with
    | [_, query] =>
      if query = "Cost".toList then
        s.reply (.addon ("UnlockGuildBank:Cost:".toList ++ showNat (guildBankCost / gold)))
      else if query = "Ok".toList then
        if s.player.money < guildBankCost then s.reply .buyError
        else
          let s :=
            { s with
              bank := s.unlockedBank env, db := insertBank s.bank s.db,
              player := { s.player with money := modifyMoney s.player.money (-(Word.i32 guildBankCost)) } }
          let s := s.sendBankInfo
          s.updateBank
            { s.bank with
              moneyLog := s.bank.moneyLog ++
                [{ player := s.player.guid, action := .unlockGuildBank, money := guildBankCost,
                   stamp := Word.u32 env.now, state := .new }] }
      else s.say "UnlockGuildBank:Error:UnknownAction"
    | _ => s.sayQuoting "UnlockGuildBank:Error:WrongSyntax" msg

def openTab (env : Env) (tab cost : Nat) (action : GuildBankAction) : Session :=
  let s := s.updateBank { s.bank with tabs := tab }
  let s := s.logAction env action tabMoney tab cost none
  (s.updateBank { s.bank with tabsChanged := true }).saveToDB

-- Unlocks a guild tab and logs this action. `moneySource` 0 is the bank.
def unlockTab (env : Env) (msg : Text) : Session :=
  if s.rank ≠ 0 then s.say "UnlockTab:Error:NotGM"
  else
    match tokens msg ':' with
    | [_, tab, moneySource] =>
      let tab := atoiU8 tab
      let moneySource := atoiU8 moneySource
      if tab ≤ 1 ∨ maxTabs < tab then s.say "UnlockTab:Error:ParamsOutOfRange"
      else
        let cost := tabCost tab
        if cost = 0 then s.say "UnlockTab:Error:CantFindPrice"
        else if moneySource = 0 then
          if s.bank.money < cost then
            (s.notify "Your guild bank does not have enough money.").say
              "UnlockTab:Error:Player:NotEnoughMoney"
          else
            (s.updateBank { s.bank with money := s.bank.money - cost, moneyChanged := true }).openTab env
              tab cost .unlockTabGuildMoney
        else if s.player.money < cost then
          (s.reply .buyError).say "UnlockTab:Error:Bank:NotEnoughMoney"
        else
          (s.setMoney (modifyMoney s.player.money (-(Word.i32 cost)))).openTab env tab cost
            .unlockTabPersonalMoney
    | _ => s.sayQuoting "UnlockTab:Error:WrongSyntax" msg

def unlockTabCost (msg : Text) : Session :=
  if s.rank ≠ 0 then s.say "UnlockTabCost:Error:NotGM"
  else
    match tokens msg ':' with
    | [_, tab] =>
      let tab := atoiU8 tab
      if tab ≤ 1 ∨ maxTabs < tab then s.say "UnlockTabCost:Error:WrongTab"
      else if tabCost tab = 0 then s.say "UnlockTabCost:Error:Cost0"
      else
        s.reply (.addon ("Unlock:Tab:".toList ++ showNat tab ++ ":Cost:".toList ++
          showNat (tabCost tab / gold)))
    | _ => s.sayQuoting "UnlockTabCost:Error:WrongSyntax" msg

def updateTab (env : Env) (msg : Text) : Session :=
  if s.rank ≠ 0 then s.say "UpdateTab:Error:NotGM"
  else
    match tokens msg ':' with
    | [_, tab, name, icon, withdrawals, minrank] =>
      let tab := atoiU8 tab
      let withdrawals := atoiU8 withdrawals
      let minrank := atoiU8 minrank
      if name = [] ∨ 30 < name.length then s.say "UpdateTab:Error:WrongName"
      else if icon = [] ∨ 63 < icon.length then s.say "UpdateTab:Error:WrongIcon"
      else if maxWeeklyWithdrawals < withdrawals then s.say "UpdateTab:Error:WrongWithdrawals"
      else if env.ranksSize < minrank then s.say "UpdateTab:Error:WrongMinRank"
      else
        (s.updateBank
          { s.bank with
            tabInfo := Function.update s.bank.tabInfo tab
              { name := name, icon := icon, withdrawals := withdrawals, minrank := minrank },
            tabsChanged := true }).saveToDB
    | _ => s.sayQuoting "UpdateTab:Error:WrongSyntax" msg

def moneyParam (msg : Text) : Option Nat :=
  match tokens msg ':' with
  | [_, money] =>
    match strtoul money with
    | some parsed => if 4294967295 < parsed then none else some parsed
    | none => none
  | _ => none

def finishMoney (env : Env) (action : GuildBankAction) (bankMoney money : Nat) : Session :=
  let s := s.updateBank { s.bank with money := bankMoney }
  let s := s.logAction env action tabMoney 0 money none
  (s.updateBank { s.bank with moneyChanged := true }).saveToDB

def depositMoney (env : Env) (msg : Text) : Session :=
  match moneyParam msg with
  | none => s.sayQuoting "DepositMoney:Error:WrongSyntax" msg
  | some money =>
    if Word.sub32 4294967295 s.bank.money < money then
      (s.notify "Your guild bank cannot hold that much.").say "DepositMoney:Error:TooMuch"
    else if s.player.money < money then (s.reply .buyError).say "DepositMoney:Error:NotEnoughMoney"
    else
      (s.setMoney (modifyMoney s.player.money (-(Word.i32 money)))).finishMoney env .depositMoney
        (Word.add32 s.bank.money money) money

def withdrawMoney (env : Env) (msg : Text) : Session :=
  match moneyParam msg with
  | none => s.sayQuoting "WithdrawMoney:Error:WrongSyntax" msg
  | some money =>
    if !s.canAccessTab env tabMoney .withdrawMoney then
      (s.notify "You dont have access to guild money.").say "WithdrawMoney:Error:NoAccess"
    else if s.bank.money < money then
      (s.notify "Your guild bank does not have enough money.").say "WithdrawMoney:Error:NotEnoug"
    else
      (s.setMoney (modifyMoney s.player.money (Word.i32 money))).finishMoney env .withdrawMoney
        (s.bank.money - money) money

abbrev logLinesLimit : Nat := 50

-- A query of one tab. The reply carries the data, the source sends it as text
-- in packets of limited size.
def queryTab (error : String) (msg : Text) (answer : Nat → Session) : Session :=
  match tokens msg ':' with
  | [_, tab] => answer (atoiU8 tab)
  | _ => s.sayQuoting error msg

def sendTabItems (env : Env) (msg : Text) : Session :=
  s.queryTab "TabItems:Error:WrongSyntax" msg fun tab =>
    (s.sendTabWithdrawalsLeft env tab).reply
      (.tabItems tab ((slotRange 1 99).filterMap fun i => (s.bank.getItem tab i).map EntryRef.item))

def sendTabWithdrawalsLeftMsg (env : Env) (msg : Text) : Session :=
  s.queryTab "SendTabWithdrawalsLeft:Error:WrongSyntax" msg fun tab => s.sendTabWithdrawalsLeft env tab

def sendTabLog (msg : Text) : Session :=
  s.queryTab "SendTabLog:Error:WrongSyntax" msg fun tab =>
    if tab = 0 ∨ maxTabs < tab then s.say "SendTabLog:Error:ParamsOutOfRange"
    else s.reply (.tabLog tab ((s.bank.log tab).drop ((s.bank.log tab).length - logLinesLimit)))

def sendMoneyLog : Session :=
  s.reply (.moneyLog (s.bank.moneyLog.drop (s.bank.moneyLog.length - logLinesLimit)))

end

end Session

-- The handlers that HandleAddonMessages calls, in its order. A message runs
-- every handler whose keyword occurs in it, except that an unlock of the bank
-- is never followed by another handler.
inductive Call where
  | unlockGuildBank
  | unlockTab | unlockTabCost | getBankInfo | getTabItems | getTabWithdrawalsLeft | getTabLog
  | getMoneyLog | depositItem | withdrawItem | moveItem | splitItem | updateTab | depositMoney
  | withdrawMoney
  deriving DecidableEq, Repr

namespace Call

def keyword : Call → Text
  | unlockGuildBank => "UnlockGuildBank:".toList
  | unlockTab => "UnlockTab:".toList
  | unlockTabCost => "UnlockTabCost:".toList
  | getBankInfo => "GetBankInfo:".toList
  | getTabItems => "GetTabItems:".toList
  | getTabWithdrawalsLeft => "GetTabWithdrawalsLeft:".toList
  | getTabLog => "GetTabLog:".toList
  | getMoneyLog => "GetMoneyLog:".toList
  | depositItem => "DepositItem:".toList
  | withdrawItem => "WithdrawItem:".toList
  | moveItem => "MoveItem:".toList
  | splitItem => "SplitItem:".toList
  | updateTab => "UpdateTab:".toList
  | depositMoney => "DepositMoney:".toList
  | withdrawMoney => "WithdrawMoney:".toList

def all : List Call :=
  [unlockTab, unlockTabCost, getBankInfo, getTabItems, getTabWithdrawalsLeft, getTabLog, getMoneyLog,
    depositItem, withdrawItem, moveItem, splitItem, updateTab, depositMoney, withdrawMoney]

def handle (env : Env) (msg : Text) (s : Session) : Call → Session
  | unlockGuildBank => s.unlockGuildBank env msg
  | unlockTab => s.unlockTab env msg
  | unlockTabCost => s.unlockTabCost msg
  | getBankInfo => s.sendBankInfo
  | getTabItems => s.sendTabItems env msg
  | getTabWithdrawalsLeft => s.sendTabWithdrawalsLeftMsg env msg
  | getTabLog => s.sendTabLog msg
  | getMoneyLog => s.sendMoneyLog
  | depositItem => s.depositItem env msg
  | withdrawItem => s.withdrawItem env msg
  | moveItem => s.moveItem env msg
  | splitItem => s.splitItem env msg
  | updateTab => s.updateTab env msg
  | depositMoney => s.depositMoney env msg
  | withdrawMoney => s.withdrawMoney env msg

end Call

namespace Session

def handleAddonMessages (s : Session) (env : Env) (msg : Text) : Session :=
  if s.bank.saveLock then s.say "ActionBlockedBySaveLock"
  else if strstr msg Call.unlockGuildBank.keyword then s.unlockGuildBank env msg
  else if s.bank.tabs = 0 then s.say "BankInfo:NoGuildBank"
  else Run.run (Call.handle env msg) s (Call.all.filter fun call => strstr msg call.keyword)

def callsFor (s : Session) (msg : Text) : List Call :=
  if s.bank.saveLock then []
  else if strstr msg Call.unlockGuildBank.keyword then [Call.unlockGuildBank]
  else if s.bank.tabs = 0 then []
  else Call.all.filter fun call => strstr msg call.keyword

theorem handleAddonMessages_run (s : Session) (env : Env) (msg : Text) :
    ∃ r, s.handleAddonMessages env msg = (Run.run (Call.handle env msg) s (s.callsFor msg)).reply r ∨
      s.handleAddonMessages env msg = Run.run (Call.handle env msg) s (s.callsFor msg) := by
  unfold handleAddonMessages callsFor
  split_ifs
  · exact ⟨_, .inl rfl⟩
  · exact ⟨.buyError, .inr rfl⟩
  · exact ⟨_, .inl rfl⟩
  · exact ⟨.buyError, .inr rfl⟩

end Session

-- The bank and its tables between messages, and what a message brings along:
-- the player as he is at that moment, his rank and what is read of the world.
structure Server where
  bank : Bank
  db : Database

structure Message where
  player : Player
  rank : Nat
  atVault : Bool
  nextItemGuid : Nat
  env : Env
  text : Text

namespace Server

def session (srv : Server) (m : Message) : Session :=
  { bank := srv.bank, db := srv.db, player := m.player, rank := m.rank, nextItemGuid := m.nextItemGuid,
    replies := [] }

def receive (srv : Server) (m : Message) : Server :=
  if m.atVault then
    let s := (srv.session m).handleAddonMessages m.env m.text
    { bank := s.bank, db := s.db }
  else srv

def MessageMeets (ok : Env → Text → Session → Call → Prop) (srv : Server) (m : Message) : Prop :=
  m.atVault → Run.Guarded (Call.handle m.env m.text) (ok m.env m.text) (srv.session m)
    ((srv.session m).callsFor m.text)

-- What every handler keeps under its condition, every run of messages keeps.
theorem receive_invariant (ok : Env → Text → Session → Call → Prop) (invariant : Bank → Database → Prop)
    (hstep : ∀ env msg (s : Session) call, invariant s.bank s.db → ok env msg s call →
      invariant (call.handle env msg s).bank (call.handle env msg s).db)
    {srv : Server} {messages : List Message} (hs : invariant srv.bank srv.db)
    (hg : Run.Guarded receive (MessageMeets ok) srv messages) :
    invariant (Run.run receive srv messages).bank (Run.run receive srv messages).db := by
  refine Run.run_invariant receive (MessageMeets ok) (fun srv => invariant srv.bank srv.db) ?_ hs hg
  intro srv m hsrv hm
  unfold receive
  split
  · rename_i hvault
    have hsession : (fun s : Session => invariant s.bank s.db) (srv.session m) := hsrv
    have hrun := Run.run_invariant (Call.handle m.env m.text) (ok m.env m.text)
      (fun s => invariant s.bank s.db) (fun s call => hstep m.env m.text s call) hsession (hm hvault)
    obtain ⟨r, h | h⟩ := (srv.session m).handleAddonMessages_run m.env m.text
    · simp only [h, Session.reply_bank, Session.reply_db]
      exact hrun
    · simp only [h]
      exact hrun
  · exact hsrv

end Server

def sampleEnv : Env :=
  { store := sampleStore, now := 2000000, localtime := { wday := 1, hour := 0, min := 0, sec := 0 },
    ranksSize := 5, randomPropertyId := fun _ => 0, unsetStackSize := 0 }

def sampleRow (guid tab slot entry count : Nat) : BankRow :=
  { guildid := 4, guid := guid, isInferno := false, tab := tab, slot := slot, itemTemplate := entry,
    creatorGuid := 0, giftCreatorGuid := 0, count := count, duration := 0, charges := [], flags := 0,
    enchantments := [], randomPropertyId := 0, transmogrifyId := 0, durability := 0, text := 0,
    generatedLoot := 0 }

def sampleTab : BankTab := { name := "Tab".toList, icon := "icon".toList, withdrawals := 0, minrank := 0 }

def sampleDb (rows : List BankRow) (tabs money : Nat) : Database :=
  { bank := rows, tabs := [{ guildid := 4, isInferno := false, tabs := tabs, info := fun _ => sampleTab }],
    money := [{ guildid := 4, isInferno := false, money := money }], log := [] }

def emptyBank : Bank :=
  { guildid := 4, inferno := false, tabs := 0, money := 0, items := [], tabInfo := fun _ => sampleTab,
    log := fun _ => [], moneyLog := [], updateQueue := [], saveLock := false, tabsChanged := false,
    moneyChanged := false, moneyLogChanged := false, logChanged := false }

def sampleServer (rows : List BankRow) (tabs money : Nat) : Server :=
  { bank := Session.setGuild sampleEnv emptyBank (sampleDb rows tabs money),
    db := sampleDb rows tabs money }

def sampleMessage (text : String) (money : Nat) (inv : Inventory) : Message :=
  { player := { guid := 9, money := money, inventory := inv }, rank := 0, atVault := true,
    nextItemGuid := 100, env := sampleEnv, text := text.toList }

end TurtleWow.GuildBank

import TurtleWow.GuildBank.State
import Mathlib.Data.List.Sort

namespace TurtleWow.GuildBank

open Util Objects

namespace BankRow

def key (row : BankRow) : Nat × Nat × Bool := (row.guildid, row.guid, row.isInferno)

-- The WHERE clause of the UPDATE names no bank kind.
def sameGuid (row other : BankRow) : Bool := other.guildid = row.guildid && other.guid = row.guid

end BankRow

namespace BankItem

-- INSERT fails on a key that is taken.
def addToDB (item : BankItem) (rows : List BankRow) : Option (List BankRow) :=
  if item.toBankRow.key ∈ rows.map BankRow.key then none else some (rows ++ [item.toBankRow])

-- UPDATE sets every column but guildid and guid, isInferno included. Where it
-- finds a row of each bank kind it would give both one key, and fails.
def saveToDB (item : BankItem) (rows : List BankRow) : Option (List BankRow) :=
  if (rows.filter item.toBankRow.sameGuid).length ≤ 1 then
    some (rows.map fun row => if item.toBankRow.sameGuid row then item.toBankRow else row)
  else none

def deleteFromDB (item : BankItem) (rows : List BankRow) : Option (List BankRow) :=
  some (rows.filter fun row => row.key ≠ item.toBankRow.key)

def execute (rows : List BankRow) (item : BankItem) : Option (List BankRow) :=
  match item.state with
  | .new => item.addToDB rows
  | .changed => item.saveToDB rows
  | .removed => item.deleteFromDB rows
  | .unchanged => some rows

def settle (item : BankItem) : BankItem := { item with state := .unchanged }

end BankItem

-- The queue, statement by statement; `none` when one of them fails.
def executeQueue (queue : List BankItem) (rows : List BankRow) : Option (List BankRow) :=
  queue.foldlM BankItem.execute rows

namespace Bank

section

variable (b : Bank)

def owns (guildid : Nat) (isInferno : Bool) : Bool :=
  guildid = b.guildid && isInferno = b.inferno

def rowsOf (rows : List BankRow) : List BankRow :=
  rows.filter fun row => b.owns row.guildid row.isInferno

def moneyLogRow (entry : MoneyLog) : LogRow :=
  { guildid := b.guildid, isInferno := b.inferno, player := entry.player, action := entry.action,
    tab := 0, item := 0, randomPropertyId := 0, enchant := 0, count := entry.money, stamp := entry.stamp }

def itemLogRow (entry : BankLog) : LogRow :=
  { guildid := b.guildid, isInferno := b.inferno, player := entry.player, action := entry.action,
    tab := entry.tab, item := entry.item, randomPropertyId := entry.randomPropertyId,
    enchant := entry.enchant, count := entry.count, stamp := entry.stamp }

def newMoneyLogRows : List LogRow :=
  if b.moneyLogChanged then
    (b.moneyLog.filter fun entry => entry.state = .new).map b.moneyLogRow
  else []

def newItemLogRows : List LogRow :=
  if b.logChanged then
    [1, 2, 3, 4, 5].flatMap fun tab => ((b.log tab).filter fun entry => entry.state = .new).map b.itemLogRow
  else []

-- What one save leaves in the tables. guild_bank and guild_bank_log are
-- transactional, so a failing statement takes both back; the tables for money
-- and tabs are not.
def commit (db : Database) : Database :=
  let money :=
    if b.moneyChanged then
      db.money.map fun row => if b.owns row.guildid row.isInferno then { row with money := b.money } else row
    else db.money
  let tabs :=
    if b.tabsChanged then
      db.tabs.map fun row =>
        if b.owns row.guildid row.isInferno then
          { row with tabs := b.tabs, info := fun tab => if tab = 0 then row.info 0 else b.tabInfo tab }
        else row
    else db.tabs
  match executeQueue b.updateQueue db.bank with
  | some bank =>
    { bank := bank, tabs := tabs, money := money, log := db.log ++ b.newMoneyLogRows ++ b.newItemLogRows }
  | none => { db with tabs := tabs, money := money }

-- The members after a save: whatever the database made of it, all changes
-- count as written.
def settled : Bank :=
  { b with
    moneyLog :=
      if b.moneyLogChanged then b.moneyLog.map fun entry => { entry with state := .unchanged } else b.moneyLog,
    log := fun tab =>
      if b.logChanged ∧ 1 ≤ tab ∧ tab ≤ maxTabs then
        (b.log tab).map fun entry => { entry with state := .unchanged }
      else b.log tab,
    items := if b.updateQueue = [] then b.items else b.items.map BankItem.settle,
    updateQueue := [], moneyChanged := false, tabsChanged := false, moneyLogChanged := false,
    logChanged := false }

def nothingToSave : Bool :=
  !b.moneyLogChanged && !b.tabsChanged && !b.moneyChanged && !b.logChanged && b.updateQueue.isEmpty

def loadItem (env : Env) (row : BankRow) : BankItem :=
  let params := tokens row.enchantments ' '
  { row with
    tab := Word.u8 row.tab, slot := Word.u8 row.slot, flags := Word.u8 row.flags,
    durability := Word.u8 row.durability,
    enchant := if params.length = 21 then atoiU32 (params.getD 0 []) else 0,
    maxStackSize :=
      match env.store.getItemPrototype row.itemTemplate with
      | some proto => proto.getMaxStackSize
      | none => env.unsetStackSize,
    state := .unchanged }

def bankRows (db : Database) : List (TabsRow × MoneyRow) :=
  (db.tabs.filter fun row => b.owns row.guildid row.isInferno).flatMap fun tabs =>
    (db.money.filter fun row => b.owns row.guildid row.isInferno).map fun money => (tabs, money)

end

-- LoadBank: the last row wins, and the stored items are appended to b_items.
def loadBank (env : Env) (b : Bank) (db : Database) : Bank :=
  match (b.bankRows db).getLast? with
  | none => b
  | some (tabs, money) =>
    { b with
      tabs := tabs.tabs, money := money.money,
      tabInfo := fun tab =>
        if tab = tabMoney then { b.tabInfo tabMoney with minrank := 1 }
        else if tab ≤ maxTabs then tabs.info tab
        else b.tabInfo tab,
      items := b.items ++ (b.rowsOf db.bank).map (loadItem env) }

def overwrite {α : Type} (loaded old : List α) : List α := loaded ++ old.drop loaded.length

def loadLog (env : Env) (b : Bank) (db : Database) : Bank :=
  let timeStamp := Word.toU32 ((env.now : Int) - 604800)
  let rows :=
    (db.log.filter fun row => b.owns row.guildid row.isInferno && decide (timeStamp ≤ row.stamp)).insertionSort
      fun row other => row.stamp ≤ other.stamp
  if rows = [] then b
  else
    { b with
      moneyLog :=
        overwrite ((rows.filter fun row => Word.u8 row.tab = tabMoney).map fun row =>
          { player := row.player, action := row.action, money := row.count, stamp := row.stamp,
            state := .unchanged }) b.moneyLog,
      log := fun tab =>
        if tab = tabMoney then b.log tab
        else
          overwrite ((rows.filter fun row => Word.u8 row.tab = tab).map fun row =>
            { player := row.player, action := row.action, tab := tab, item := row.item,
              enchant := row.enchant, randomPropertyId := row.randomPropertyId,
              count := Word.u8 row.count, stamp := row.stamp, state := .unchanged }) (b.log tab),
      moneyLogChanged := false, logChanged := false }

end Bank

namespace Session

def saveToDB (s : Session) : Session :=
  if s.bank.saveLock ∨ s.bank.nothingToSave then s
  else { s with bank := s.bank.settled, db := s.bank.commit s.db }

def setGuild (env : Env) (b : Bank) (db : Database) : Bank :=
  let loaded := (({ b with tabs := 0 }).loadBank env db).loadLog env db
  { loaded with
    tabsChanged := false, moneyChanged := false, moneyLogChanged := false, logChanged := false,
    updateQueue := [] }

section

variable (s : Session)

@[simp] theorem saveToDB_player : s.saveToDB.player = s.player := by
  unfold saveToDB
  split_ifs <;> rfl

@[simp] theorem saveToDB_nextItemGuid : s.saveToDB.nextItemGuid = s.nextItemGuid := by
  unfold saveToDB
  split_ifs <;> rfl

@[simp] theorem saveToDB_tabs : s.saveToDB.bank.tabs = s.bank.tabs := by
  unfold saveToDB
  split_ifs <;> rfl

@[simp] theorem saveToDB_guildid : s.saveToDB.bank.guildid = s.bank.guildid := by
  unfold saveToDB
  split_ifs <;> rfl

@[simp] theorem saveToDB_inferno : s.saveToDB.bank.inferno = s.bank.inferno := by
  unfold saveToDB
  split_ifs <;> rfl

theorem saveToDB_items : s.saveToDB.bank.items = s.bank.items ∨
    s.saveToDB.bank.items = s.bank.items.map BankItem.settle := by
  unfold saveToDB
  split
  · exact .inl rfl
  · show s.bank.settled.items = _ ∨ s.bank.settled.items = _
    by_cases h : s.bank.updateQueue = []
    · exact .inl (if_pos h)
    · exact .inr (if_neg h)

end

end Session

end TurtleWow.GuildBank

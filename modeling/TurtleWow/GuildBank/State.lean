import TurtleWow.Objects.Store

namespace TurtleWow.GuildBank

open Util Objects

abbrev guildBankCost : Nat := 2000 * gold
abbrev tab2Cost : Nat := 500 * gold
abbrev tab3Cost : Nat := 1000 * gold
abbrev tab4Cost : Nat := 1500 * gold
abbrev tab5Cost : Nat := 2000 * gold
abbrev tabMoney : Nat := 0
abbrev maxTabs : Nat := 5
abbrev maxWeeklyWithdrawals : Nat := 5
abbrev bankTabSize : Nat := 98

inductive GuildBankAction where
  | withdrawItem | depositItem | unlockGuildBank | unlockTabPersonalMoney | withdrawMoney
  | depositMoney | unlockTabGuildMoney | destroyItem | splitItem | moveItem
  deriving DecidableEq, Repr

inductive ItemUpdateState where
  | unchanged | changed | new | removed
  deriving DecidableEq, Repr

structure BankRow where
  guildid : Nat
  guid : Nat
  isInferno : Bool
  tab : Nat
  slot : Nat
  itemTemplate : Nat
  creatorGuid : Nat
  giftCreatorGuid : Nat
  count : Nat
  duration : Int
  charges : Text
  flags : Nat
  enchantments : Text
  randomPropertyId : Int
  transmogrifyId : Nat
  durability : Nat
  text : Nat
  generatedLoot : Int
  deriving DecidableEq, Repr

-- An entry of b_items: the persistent columns and what only lives in memory.
structure BankItem extends BankRow where
  maxStackSize : Nat
  enchant : Nat
  state : ItemUpdateState
  deriving DecidableEq, Repr

structure BankLog where
  player : Nat
  action : GuildBankAction
  tab : Nat
  item : Nat
  enchant : Nat
  randomPropertyId : Int
  count : Nat
  stamp : Nat
  state : ItemUpdateState
  deriving DecidableEq, Repr

structure MoneyLog where
  player : Nat
  action : GuildBankAction
  money : Nat
  stamp : Nat
  state : ItemUpdateState
  deriving DecidableEq, Repr

structure BankTab where
  name : Text
  icon : Text
  withdrawals : Nat
  minrank : Nat
  deriving DecidableEq, Repr

-- What operator[] of the map makes of a missing key.
def BankTab.empty : BankTab := { name := [], icon := [], withdrawals := 0, minrank := 0 }

-- The members of GuildBank. `b_log` and `b_moneyLog` are maps whose keys are
-- 0, 1, ..., size - 1, so a list in that order holds the same.
structure Bank where
  guildid : Nat
  inferno : Bool
  tabs : Nat
  money : Nat
  items : List BankItem
  tabInfo : Nat → BankTab
  log : Nat → List BankLog
  moneyLog : List MoneyLog
  updateQueue : List BankItem
  saveLock : Bool
  tabsChanged : Bool
  moneyChanged : Bool
  moneyLogChanged : Bool
  logChanged : Bool

structure TabsRow where
  guildid : Nat
  isInferno : Bool
  tabs : Nat
  info : Nat → BankTab

structure MoneyRow where
  guildid : Nat
  isInferno : Bool
  money : Nat
  deriving DecidableEq, Repr

structure LogRow where
  guildid : Nat
  isInferno : Bool
  player : Nat
  action : GuildBankAction
  tab : Nat
  item : Nat
  randomPropertyId : Int
  enchant : Nat
  count : Nat
  stamp : Nat
  deriving DecidableEq, Repr

structure Database where
  bank : List BankRow
  tabs : List TabsRow
  money : List MoneyRow
  log : List LogRow

structure Tm where
  wday : Nat
  hour : Nat
  min : Nat
  sec : Nat
  deriving DecidableEq, Repr

-- What a message reads from outside the bank: the item templates, the clock
-- as time() and localtime() give it, the guild's number of ranks, the random
-- property a new item would get, and the bytes that an entry's maxStackSize
-- holds when no template sets it.
structure Env where
  store : ItemStore
  now : Nat
  localtime : Tm
  ranksSize : Nat
  randomPropertyId : Nat → Int
  unsetStackSize : Nat

inductive Reply where
  | addon (text : Text)
  | notification (text : Text)
  | buyError
  | equipError (msg : InventoryResult)
  | tabItems (tab : Nat) (items : List BankItem)
  | tabLog (tab : Nat) (lines : List BankLog)
  | moneyLog (lines : List MoneyLog)
  deriving DecidableEq, Repr

structure Player where
  guid : Nat
  money : Nat
  inventory : Inventory
  deriving DecidableEq

structure Session where
  bank : Bank
  db : Database
  player : Player
  rank : Nat
  nextItemGuid : Nat
  replies : List Reply

namespace Session

def reply (s : Session) (r : Reply) : Session := { s with replies := s.replies ++ [r] }

abbrev say (s : Session) (text : String) : Session := s.reply (.addon text.toList)

abbrev notify (s : Session) (text : String) : Session := s.reply (.notification text.toList)

abbrev sayQuoting (s : Session) (text : String) (msg : Text) : Session :=
  s.reply (.addon (text.toList ++ "(".toList ++ msg ++ ")".toList))

section

variable (s : Session) (r : Reply)

@[simp] theorem reply_bank : (s.reply r).bank = s.bank := rfl

@[simp] theorem reply_db : (s.reply r).db = s.db := rfl

@[simp] theorem reply_player : (s.reply r).player = s.player := rfl

@[simp] theorem reply_rank : (s.reply r).rank = s.rank := rfl

@[simp] theorem reply_nextItemGuid : (s.reply r).nextItemGuid = s.nextItemGuid := rfl

end

end Session

end TurtleWow.GuildBank

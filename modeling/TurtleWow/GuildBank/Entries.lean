import TurtleWow.GuildBank.Database

namespace TurtleWow.GuildBank

open Util Objects

-- A BankItem pointer: the place in b_items it points to, if any, and the
-- entry there. The copy that SwapItems takes points nowhere.
structure EntryRef where
  index : Option Nat
  item : BankItem

namespace Bank

section

variable (b : Bank)

def getItem (tab slot : Nat) : Option EntryRef :=
  match b.items.findIdx? fun item => item.tab = tab && item.slot = slot with
  | some i => (b.items[i]?).map fun item => { index := some i, item := item }
  | none => none

def getNewGuid : Nat :=
  Word.add32 (b.items.foldl (fun guid item => if guid < item.guid then item.guid else guid) 0) 1

def withItems (items : List BankItem) : Bank := { b with items := items }

def addItem (item : BankItem) : Bank := b.withItems (b.items ++ [item])

def deleteItem (ref : EntryRef) : Bank :=
  match ref.index with
  | some i => b.withItems (b.items.eraseIdx i)
  | none => b

def write (ref : EntryRef) : Bank :=
  match ref.index with
  | some i => b.withItems (b.items.set i ref.item)
  | none => b

def enqueue (item : BankItem) : Bank := { b with updateQueue := b.updateQueue ++ [item] }

end

end Bank

-- What CloneItem writes of the item it clones into an entry: nothing of its
-- guid, place and count.
def cloneFromItem (store : ItemStore) (isInferno : Bool) (bItem : BankItem) (pItem : Item) : BankItem :=
  let enchantment := fun i => pItem.details.enchantments.getD i ⟨0, 0, 0⟩
  { bItem with
    itemTemplate := pItem.entry,
    creatorGuid := pItem.details.creator,
    giftCreatorGuid := pItem.details.giftCreator,
    maxStackSize := (pItem.proto store).getMaxStackSize,
    duration := pItem.details.duration,
    isInferno := isInferno,
    charges := (List.range 5).flatMap fun i => showInt (pItem.details.spellCharges.getD i 0) ++ [' '],
    flags := Word.u8 pItem.details.flags,
    enchantments := (List.range 7).flatMap fun i =>
      showNat (enchantment i).id ++ [' '] ++ showNat (enchantment i).duration ++ [' '] ++
        showNat (enchantment i).charges ++ [' '],
    enchant := (enchantment 0).id,
    randomPropertyId := pItem.details.randomPropertyId,
    transmogrifyId := pItem.details.transmogrifyId,
    durability := Word.u8 pItem.details.durability,
    text := pItem.details.textId,
    generatedLoot := if pItem.details.generatedLoot then 1 else 0 }

-- Creates an Item from a BankItem, for withdrawals: all but its count.
def cloneFromEntry (playerGuid : Nat) (item : Item) (bItem : BankItem) : Item :=
  let chr := tokens bItem.charges ' '
  let ench := tokens bItem.enchantments ' '
  let number := fun i => Word.u32 ((strtoul (ench.getD i [])).getD 0)
  { item with
    owner := playerGuid
    details :=
      { creator := bItem.creatorGuid,
        giftCreator := bItem.giftCreatorGuid,
        duration := bItem.duration,
        spellCharges := if chr.length = 5 then chr.map atoi else item.details.spellCharges,
        flags := bItem.flags,
        enchantments := (List.range 7).map fun i => ⟨number (3 * i), number (3 * i + 1), number (3 * i + 2)⟩,
        randomPropertyId := bItem.randomPropertyId,
        transmogrifyId := bItem.transmogrifyId,
        durability := bItem.durability,
        textId := bItem.text,
        generatedLoot := bItem.generatedLoot = 1 } }

namespace Bank

def cloneBankItem (b : Bank) (sItem : BankItem) : BankItem :=
  { sItem with guildid := b.guildid, guid := b.getNewGuid }

-- Logs an action: tab 0 is the money log, there is no log beyond the last tab.
def logAction (b : Bank) (env : Env) (player : Nat) (action : GuildBankAction) (tab itemId count : Nat)
    (bItem : Option BankItem) : Bank :=
  if maxTabs < tab then b
  else if tab = tabMoney then
    { b with
      moneyLog := b.moneyLog ++
        [{ player := player, action := action, money := count, stamp := Word.u32 env.now, state := .new }],
      moneyLogChanged := true }
  else
    let line : BankLog :=
      { player := player, action := action, tab := tab, item := itemId,
        enchant := (bItem.map fun item => item.enchant).getD 0,
        randomPropertyId := (bItem.map fun item => item.randomPropertyId).getD 0,
        count := Word.u8 count, stamp := Word.u32 env.now, state := .new }
    { b with log := Function.update b.log tab (b.log tab ++ [line]), logChanged := true }

def weekStart (env : Env) : Int :=
  let wday : Int := if env.localtime.wday = 0 then 6 else (env.localtime.wday : Int) - 1
  (env.now : Int) - wday * 86400 -
    ((env.localtime.sec : Int) + 60 * env.localtime.min + 60 * 60 * env.localtime.hour)

def isWeekWithdrawal (env : Env) (player tab : Nat) (line : BankLog) : Bool :=
  line.action = .withdrawItem && line.player = player && line.tab = tab && weekStart env ≤ line.stamp

-- The counter of the source is a uint8.
def weekWithdrawals (b : Bank) (env : Env) (player tab : Nat) : Nat :=
  (b.log tab).foldl (fun n line => if isWeekWithdrawal env player tab line then Word.u8 (n + 1) else n) 0

def getTabWithdrawalsLeft (b : Bank) (env : Env) (player tab : Nat) : Nat :=
  if tab = 0 ∨ maxTabs < tab then 0
  else if (b.tabInfo tab).withdrawals ≤ b.weekWithdrawals env player tab then 0
  else (b.tabInfo tab).withdrawals - b.weekWithdrawals env player tab

def canAccessTab (b : Bank) (env : Env) (player rank tab : Nat) (action : GuildBankAction) : Bool :=
  if action = .withdrawMoney then rank ≤ 1
  else if (action = .splitItem ∨ action = .destroyItem) ∧ (b.tabInfo tab).minrank < rank then false
  else if (action = .withdrawItem ∨ action = .depositItem) ∧ 0 < (b.tabInfo tab).withdrawals ∧
      rank = (b.tabInfo tab).minrank ∧ b.getTabWithdrawalsLeft env player tab = 0 then false
  else rank ≤ (b.tabInfo tab).minrank

end Bank

namespace Session

def updateBank (s : Session) (b : Bank) : Session := { s with bank := b }

def setInventory (s : Session) (inv : Inventory) : Session :=
  { s with player := { s.player with inventory := inv } }

def logAction (s : Session) (env : Env) (action : GuildBankAction) (tab itemId count : Nat)
    (bItem : Option BankItem) : Session :=
  s.updateBank (s.bank.logAction env s.player.guid action tab itemId count bItem)

def canAccessTab (s : Session) (env : Env) (tab : Nat) (action : GuildBankAction) : Bool :=
  s.bank.canAccessTab env s.player.guid s.rank tab action

def isItemBankable (s : Session) (env : Env) (bItem : Item) : Bool × Session :=
  if bItem.isSoulBound then
    (false, (s.notify "You cannot deposit soulbound items.").say "Error:ItemSoulBound")
  else if (bItem.proto env.store).isConjuredConsumable then
    (false, (s.notify "You cannot deposit conjured items.").say "Error:ItemConjured")
  else if 0 < (bItem.proto env.store).duration then
    (false, (s.notify "You cannot deposit temporary items.").say "Error:ItemTemporary")
  else (true, s)

def sendTabWithdrawalsLeft (s : Session) (env : Env) (tab : Nat) : Session :=
  if tab = 0 ∨ maxTabs < tab then s.say "SendTabWithdrawalsLeft:Error:ParamsOutOfRange"
  else
    let left : Text :=
      if (s.bank.tabInfo tab).withdrawals = 0 ∨ s.rank < (s.bank.tabInfo tab).minrank ∨ s.rank = 0 then
        "Unlimited".toList
      else showNat (s.bank.getTabWithdrawalsLeft env s.player.guid tab)
    s.reply (.addon ("TabWithdrawalsLeft:".toList ++ showNat tab ++ ":".toList ++ left))

end Session

def Bank.Points (b : Bank) (ref : EntryRef) : Prop :=
  ∃ i, ref.index = some i ∧ b.items[i]? = some ref.item

namespace Bank

variable {b : Bank} {ref : EntryRef} {tab slot : Nat}

theorem getItem_some (h : b.getItem tab slot = some ref) :
    b.Points ref ∧ ref.item.tab = tab ∧ ref.item.slot = slot := by
  unfold getItem at h
  split at h
  · rename_i i hfind
    obtain ⟨item, hitem, heq⟩ := Option.map_eq_some_iff.mp h
    rw [← heq]
    obtain ⟨hlt, hplace, -⟩ := List.findIdx?_eq_some_iff_getElem.mp hfind
    rw [List.getElem?_eq_getElem hlt, Option.some.injEq] at hitem
    rw [hitem] at hplace
    refine ⟨⟨i, rfl, by rw [List.getElem?_eq_getElem hlt, hitem]⟩, ?_⟩
    simpa using hplace
  · cases h

theorem getItem_none (h : b.getItem tab slot = none) :
    ∀ item ∈ b.items, ¬(item.tab = tab ∧ item.slot = slot) := by
  unfold getItem at h
  split at h
  · rename_i i hfind
    obtain ⟨hlt, -⟩ := List.findIdx?_eq_some_iff_getElem.mp hfind
    rw [List.getElem?_eq_getElem hlt] at h
    cases h
  · rename_i hfind
    intro item hitem
    simpa using List.findIdx?_eq_none_iff.mp hfind item hitem

theorem Points.mem (h : b.Points ref) : ref.item ∈ b.items := by
  obtain ⟨i, -, hi⟩ := h
  exact List.mem_of_getElem? hi

@[simp] theorem withItems_items (items : List BankItem) : (b.withItems items).items = items := rfl

@[simp] theorem enqueue_items (item : BankItem) : (b.enqueue item).items = b.items := rfl

@[simp] theorem addItem_items (item : BankItem) : (b.addItem item).items = b.items ++ [item] := rfl

theorem write_items {i : Nat} (h : ref.index = some i) : (b.write ref).items = b.items.set i ref.item := by
  simp only [write, h, withItems_items]

theorem write_item_items {i : Nat} (h : ref.index = some i) (item : BankItem) :
    (b.write { ref with item := item }).items = b.items.set i item := write_items h

theorem write_none (h : ref.index = none) : b.write ref = b := by
  simp only [write, h]

theorem deleteItem_items {i : Nat} (h : ref.index = some i) :
    (b.deleteItem ref).items = b.items.eraseIdx i := by
  simp only [deleteItem, h, withItems_items]

theorem deleteItem_none (h : ref.index = none) : b.deleteItem ref = b := by
  simp only [deleteItem, h]

@[simp] theorem logAction_items (env : Env) (player : Nat) (action : GuildBankAction)
    (tab itemId count : Nat) (bItem : Option BankItem) :
    (b.logAction env player action tab itemId count bItem).items = b.items := by
  unfold logAction
  split_ifs <;> rfl

@[simp] theorem logAction_tabs (env : Env) (player : Nat) (action : GuildBankAction)
    (tab itemId count : Nat) (bItem : Option BankItem) :
    (b.logAction env player action tab itemId count bItem).tabs = b.tabs := by
  unfold logAction
  split_ifs <;> rfl

@[simp] theorem logAction_updateQueue (env : Env) (player : Nat) (action : GuildBankAction)
    (tab itemId count : Nat) (bItem : Option BankItem) :
    (b.logAction env player action tab itemId count bItem).updateQueue = b.updateQueue := by
  unfold logAction
  split_ifs <;> rfl

@[simp] theorem logAction_money (env : Env) (player : Nat) (action : GuildBankAction)
    (tab itemId count : Nat) (bItem : Option BankItem) :
    (b.logAction env player action tab itemId count bItem).money = b.money := by
  unfold logAction
  split_ifs <;> rfl

end Bank

namespace Session

variable (s : Session) (env : Env)

@[simp] theorem updateBank_bank (b : Bank) : (s.updateBank b).bank = b := rfl

@[simp] theorem updateBank_db (b : Bank) : (s.updateBank b).db = s.db := rfl

@[simp] theorem updateBank_player (b : Bank) : (s.updateBank b).player = s.player := rfl

@[simp] theorem setInventory_bank (inv : Inventory) : (s.setInventory inv).bank = s.bank := rfl

@[simp] theorem setInventory_db (inv : Inventory) : (s.setInventory inv).db = s.db := rfl

@[simp] theorem setInventory_inventory (inv : Inventory) :
    (s.setInventory inv).player.inventory = inv := rfl

@[simp] theorem logAction_bank (action : GuildBankAction) (tab itemId count : Nat)
    (bItem : Option BankItem) :
    (s.logAction env action tab itemId count bItem).bank =
      s.bank.logAction env s.player.guid action tab itemId count bItem := rfl

@[simp] theorem logAction_player (action : GuildBankAction) (tab itemId count : Nat)
    (bItem : Option BankItem) :
    (s.logAction env action tab itemId count bItem).player = s.player := rfl

@[simp] theorem sendTabWithdrawalsLeft_bank (tab : Nat) :
    (s.sendTabWithdrawalsLeft env tab).bank = s.bank := by
  unfold sendTabWithdrawalsLeft
  split_ifs <;> rfl

@[simp] theorem sendTabWithdrawalsLeft_db (tab : Nat) :
    (s.sendTabWithdrawalsLeft env tab).db = s.db := by
  unfold sendTabWithdrawalsLeft
  split_ifs <;> rfl

@[simp] theorem sendTabWithdrawalsLeft_player (tab : Nat) :
    (s.sendTabWithdrawalsLeft env tab).player = s.player := by
  unfold sendTabWithdrawalsLeft
  split_ifs <;> rfl

theorem isItemBankable_bank (item : Item) : (s.isItemBankable env item).2.bank = s.bank := by
  unfold isItemBankable
  split_ifs <;> rfl

theorem isItemBankable_db (item : Item) : (s.isItemBankable env item).2.db = s.db := by
  unfold isItemBankable
  split_ifs <;> rfl

end Session

end TurtleWow.GuildBank

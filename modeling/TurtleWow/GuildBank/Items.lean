import TurtleWow.GuildBank.Entries

namespace TurtleWow.GuildBank

open Util Objects

def pred8 (n : Nat) : Nat := Word.u8 (n + 255)

namespace Session

section

variable (s : Session)

def newEntry (tab slot count : Nat) : BankItem :=
  { guildid := s.bank.guildid, guid := s.bank.getNewGuid, isInferno := s.bank.inferno, tab := tab,
    slot := slot, itemTemplate := 0, creatorGuid := 0, giftCreatorGuid := 0, count := count,
    duration := 0, charges := [], flags := 0, enchantments := [], randomPropertyId := 0,
    transmogrifyId := 0, durability := 0, text := 0, generatedLoot := 0, maxStackSize := 0,
    enchant := 0, state := .new }

def depositTarget (bankTab bankSlot count : Nat) (state : ItemUpdateState) (stack : Bool) : Option EntryRef :=
  if state = .new then some { index := none, item := s.newEntry bankTab bankSlot count }
  else
    (s.bank.getItem bankTab bankSlot).map fun ref =>
      { ref with
        item := { ref.item with count := if stack then Word.add32 ref.item.count count else count } }

-- The bank side of a deposit: the entry is written and queued, and added when
-- it is new.
def putDeposit (ref : EntryRef) : Session :=
  let b := (s.bank.write ref).enqueue ref.item
  s.updateBank (if ref.item.state = .new then b.addItem ref.item else b)

-- The player side: `pItem` at `pos` loses `count` units, and `inFreeSlot`
-- deposits what remains of it.
def takeDeposited (env : Env) (inFreeSlot : Session → Item → Session) (pos : Pos)
    (pItem : Item) (count remainer : Nat) : Session :=
  let left := pItem.setCount (Word.sub32 pItem.count count)
  if remainer = 0 then
    if count = pItem.count then
      -- deposited all, remove from player inventory
      s.setInventory (s.player.inventory.destroyItem env.store pos.1 pos.2)
    else
      -- deposited just a portion (from split)
      s.setInventory (s.player.inventory.setItem pos left)
  else inFreeSlot (s.setInventory (s.player.inventory.setItem pos left)) left

def depositItemInSlotThen (env : Env) (inFreeSlot : Session → Item → Session)
    (bankTab bankSlot : Nat) (pos : Pos) (pItem : Item) (count remainer : Nat)
    (state : ItemUpdateState) (stack : Bool) : Session :=
  match s.depositTarget bankTab bankSlot count state stack with
  | none =>
    s.reply (.addon ("DepositItem:Error:CantFindStackDestinationItemAt:".toList ++ showNat bankTab ++
      ":".toList ++ showNat bankSlot))
  | some ref =>
    let bItem := cloneFromItem env.store s.bank.inferno { ref.item with state := state } pItem
    let s := s.putDeposit { ref with item := bItem }
    let s := s.takeDeposited env inFreeSlot pos pItem count remainer
    (s.logAction env .depositItem bItem.tab bItem.itemTemplate count (some bItem)).saveToDB

def findStack (env : Env) (bankTab : Nat) (pItem : Item) : Option (Nat × BankItem) :=
  if 1 < (pItem.proto env.store).getMaxStackSize then
    (slotRange 1 99).findSome? fun i =>
      match s.bank.getItem bankTab i with
      | some ref =>
        if ref.item.itemTemplate = pItem.entry ∧ ref.item.count < ref.item.maxStackSize then
          some (i, ref.item)
        else none
      | none => none
  else none

def findFreeSlot (bankTab : Nat) : Option Nat :=
  (slotRange 1 99).find? fun slot => (s.bank.getItem bankTab slot).isNone

end

-- Fills one stack after the other, then takes a free slot. Each pass but the
-- last fills a stack of the tab up, so the fuel bounds the stacks of a tab.
def depositItemInFreeSlotFuel (env : Env) (bankTab : Nat) (pos : Pos) : Nat → Session → Item → Session
  | 0, s, _ => s
  | fuel + 1, s, pItem =>
    let inSlot := depositItemInSlotThen s env (depositItemInFreeSlotFuel env bankTab pos fuel) bankTab
    match s.findStack env bankTab pItem with
    | some (i, bItem) =>
      let room := Word.sub32 bItem.maxStackSize bItem.count
      if Word.add32 pItem.count bItem.count ≤ bItem.maxStackSize then
        -- can stack all
        inSlot i pos pItem pItem.count 0 .changed true
      else
        -- can only stack max_stack - current_bank_count
        inSlot i pos pItem room (Word.sub32 pItem.count room) .changed true
    | none =>
      match s.findFreeSlot bankTab with
      | some slot => inSlot slot pos pItem pItem.count 0 .new false
      | none => (s.notify "Your bank tab is full.").say "DepositItem:Error:BankTabFullAdd"

abbrev freeSlotFuel : Nat := 200

section

variable (s : Session)

def depositItemInFreeSlot (env : Env) (bankTab : Nat) (pos : Pos) (pItem : Item) : Session :=
  depositItemInFreeSlotFuel env bankTab pos freeSlotFuel s pItem

def depositItemInSlot (env : Env) (bankTab bankSlot : Nat) (pos : Pos) (pItem : Item)
    (count remainer : Nat) (state : ItemUpdateState) (stack : Bool) : Session :=
  s.depositItemInSlotThen env (fun s pItem => s.depositItemInFreeSlot env bankTab pos pItem) bankTab
    bankSlot pos pItem count remainer state stack

def finishWithdraw (env : Env) (bankTab count : Nat) (ref : EntryRef) : Session :=
  let s := s.updateBank ((s.bank.write ref).enqueue ref.item)
  let s := s.logAction env .withdrawItem ref.item.tab ref.item.itemTemplate count (some ref.item)
  let s := if ref.item.state = .removed then s.updateBank (s.bank.deleteItem ref) else s
  (s.sendTabWithdrawalsLeft env (Word.u8 bankTab)).saveToDB

-- Withdraws a bank item to player inventory: over the item `pItem`, or to
-- wherever the check of the storage puts it.
def withdrawEntry (env : Env) (bankTab count playerBag playerSlot : Nat) (ref : EntryRef)
    (pItem : Option (Pos × Item)) (remainer : Nat) : Session :=
  let bItem := ref.item
  let res := s.player.inventory.canStoreNewItem env.store (Word.u8 playerBag) (Word.u8 playerSlot)
    bItem.itemTemplate count
  if res.msg ≠ .ok then s.reply (.equipError res.msg)
  else
    match pItem with
    | some (pos, item) =>
      -- withdraw count over item in bag
      let bItem :=
        if remainer = 0 then { bItem with state := .removed }
        else { bItem with count := Word.sub32 bItem.count count, state := .changed }
      let grown := item.setCount (Word.add32 item.count count)
      (s.setInventory (s.player.inventory.setItem pos grown)).finishWithdraw env bankTab count
        { ref with item := bItem }
    | none =>
      match s.player.inventory.storeNewItem env.store s.nextItemGuid res.dest bItem.itemTemplate
          (env.randomPropertyId bItem.itemTemplate) with
      | none => s.saveToDB
      | some stored =>
        let inv :=
          match stored.last with
          | some pos =>
            match stored.inv.items.lookup pos with
            | some item => stored.inv.setItem pos (cloneFromEntry s.player.guid item bItem)
            | none => stored.inv
          | none => stored.inv
        let bItem :=
          if remainer = 0 then { bItem with state := .removed }
          else { bItem with count := remainer, state := .changed }
        { s.setInventory inv with nextItemGuid := stored.nextGuid }.finishWithdraw env bankTab count
          { ref with item := bItem }

-- Swaps a player bag item with a guild bank item. The bag item is destroyed
-- by the deposit, and a destroyed item says it lies at (255, 255).
def swapItems (env : Env) (pos : Pos) (bagItem : Item) (bankItem : EntryRef) : Session :=
  let res := s.player.inventory.canStoreNewItem env.store nullBag nullSlot bankItem.item.itemTemplate
    bankItem.item.count
  if res.msg ≠ .ok ∧ res.msg ≠ .inventoryFull then s.reply (.equipError res.msg)
  else
    let aux := bankItem.item
    let s := s.depositItemInSlot env aux.tab aux.slot pos bagItem bagItem.count 0 .changed false
    s.withdrawEntry env aux.tab aux.count inventorySlotBag0 nullSlot { index := none, item := aux } none 0

def depositOver (env : Env) (bankTab bankSlot : Nat) (pos : Pos) (pItem : Item)
    (count : Nat) (dItem : EntryRef) : Session :=
  if dItem.item.itemTemplate = pItem.entry ∧ dItem.item.count = pItem.count ∧
      dItem.item.count = dItem.item.maxStackSize ∧
      dItem.item.randomPropertyId = pItem.details.randomPropertyId then
    s.say "DepositItem:Swap:Error:SameItemSameCount"
  else if dItem.item.itemTemplate = pItem.entry ∧ 1 < dItem.item.maxStackSize then
    if Word.add32 dItem.item.count count ≤ dItem.item.maxStackSize then
      -- can stack all
      s.depositItemInSlot env bankTab bankSlot pos pItem count 0 .changed true
    else if count < dItem.item.count ∧ dItem.item.count = dItem.item.maxStackSize then
      -- a stack over a full stack withdraws what is missing from the bag's
      let withdrawCount := Word.sub32 dItem.item.maxStackSize count
      let remainer := Word.sub32 dItem.item.maxStackSize withdrawCount
      s.withdrawEntry env bankTab withdrawCount pos.1 pos.2 dItem (some (pos, pItem)) remainer
    else
      -- can only stack a few
      let stackCount := Word.sub32 dItem.item.maxStackSize dItem.item.count
      s.depositItemInSlot env bankTab bankSlot pos pItem stackCount 0 .changed true
  else s.swapItems env pos pItem dItem

-- From the client's bags 0..4 to the server's 255 and 19..22.
def depositPos (playerBag playerSlot : Nat) : Pos :=
  if playerBag = 0 then (inventorySlotBag0, pred8 (Word.u8 (playerSlot + inventorySlotItemStart)))
  else (pred8 (Word.u8 (playerBag + inventorySlotBagStart)), pred8 playerSlot)

def depositItem (env : Env) (msg : Text) : Session :=
  match tokens msg ':' with
  | [_, playerBag, playerSlot, bankTab, bankSlot, count] =>
    let pos := depositPos (atoiU8 playerBag) (atoiU8 playerSlot)
    let bankTab := atoiU8 bankTab
    let bankSlot := atoiU8 bankSlot
    let count := atoiU8 count
    if bankTab = 0 ∨ maxTabs < bankTab ∨ bankTabSize < bankSlot then
      s.say "DepositItem:Error:ParamsOutOfRange"
    else if !s.canAccessTab env bankTab .depositItem then
      (s.notify "You dont have access to this tab.").say "DepositItem:Error:NoRights"
    else
      match s.player.inventory.getItemByPos env.store pos.1 pos.2 with
      | none =>
        s.reply (.addon ("DepositItem:Error:CantGetPlayerItem:".toList ++ showNat pos.1 ++
          ":".toList ++ showNat pos.2))
      | some pItem =>
        let bankable := s.isItemBankable env pItem
        if !bankable.1 then bankable.2
        else if pItem.getMaxStackCount env.store < count then
          s.say "DepositItem:Error:Count>GetMaxStackCount"
        else if bankSlot = 0 then s.depositItemInFreeSlot env bankTab pos pItem
        else
          match s.bank.getItem bankTab bankSlot with
          | some dItem => s.depositOver env bankTab bankSlot pos pItem count dItem
          | none => s.depositItemInSlot env bankTab bankSlot pos pItem count 0 .new false
  | _ => s.sayQuoting "DepositItem:Error:WrongSyntax" msg

def withdrawOver (env : Env) (bankTab withdrawCount playerBag playerSlot : Nat)
    (bItem : EntryRef) (pos : Pos) (pItem : Item) : Session :=
  if pItem.entry = bItem.item.itemTemplate ∧ 1 < bItem.item.maxStackSize then
    let count :=
      if pItem.getMaxStackCount env.store < Word.add32 withdrawCount pItem.count then
        -- cant stack all, stack how many we can, leave the rest in bank
        Word.sub32 (pItem.proto env.store).getMaxStackSize pItem.count
      else withdrawCount
    s.withdrawEntry env bankTab count playerBag playerSlot bItem (some (pos, pItem))
      (Word.sub32 bItem.item.count count)
  else s.swapItems env pos pItem bItem

def withdrawBag (playerBag : Nat) : Nat := if playerBag = 0 then 255 else Word.add32 playerBag 18

def withdrawSlot (playerBag playerSlot : Nat) : Nat :=
  if withdrawBag playerBag = 255 then Word.add32 playerSlot 22 else Word.sub32 playerSlot 1

def withdrawItem (env : Env) (msg : Text) : Session :=
  match tokens msg ':' with
  | [_, bankTab, bankSlot, playerBag, playerSlot, withdrawCount] =>
    let bankTab := atoiU32 bankTab
    let bankSlot := atoiU32 bankSlot
    let playerBag := atoiU32 playerBag
    let playerSlot := atoiU32 playerSlot
    let withdrawCount := atoiU32 withdrawCount
    if bankTab = 0 ∨ maxTabs < bankTab ∨ bankSlot = 0 ∨ bankTabSize < bankSlot then
      s.say "WithdrawItem:Error:ParamsOutOfRange"
    else if !s.canAccessTab env bankTab .withdrawItem then
      (s.notify "You dont have access to this tab.").say "WithdrawItem:Error:NoRights"
    else
      match s.bank.getItem bankTab bankSlot with
      | none => s.say "WithdrawItem:Error:CantFindBankItem"
      | some bItem =>
        if bItem.item.count < withdrawCount then
          s.say "WithdrawItem:Error:CantWithdrawMoreThanCount"
        else if playerBag = 0 ∧ playerSlot = 0 then
          -- auto dest to player bag
          if bItem.item.count = withdrawCount then
            s.withdrawEntry env bankTab bItem.item.count nullBag nullSlot bItem none 0
          else s.say "WithdrawItem:Error:CantAutoWithdrawDifferentCount"
        else
          -- targeted destination in bag
          let bag := withdrawBag playerBag
          let slot := withdrawSlot playerBag playerSlot
          match s.player.inventory.getItemByPos env.store (Word.u8 bag) (Word.u8 slot) with
          | some pItem =>
            let bankable := s.isItemBankable env pItem
            if !bankable.1 then bankable.2
            else
              s.withdrawOver env bankTab withdrawCount bag slot bItem (Word.u8 bag, Word.u8 slot) pItem
          | none =>
            s.withdrawEntry env bankTab withdrawCount bag slot bItem none
              (Word.sub32 bItem.item.count withdrawCount)
  | _ => s.sayQuoting "WithdrawItem:Error:WrongSyntax" msg

def exchange (sItem dItem : EntryRef) (fromSlot toSlot : Nat) : Session :=
  let sItem := { sItem with item := { sItem.item with slot := toSlot, state := .changed } }
  let dItem := { dItem with item := { dItem.item with slot := fromSlot, state := .changed } }
  s.updateBank ((((s.bank.write sItem).enqueue sItem.item).write dItem).enqueue dItem.item)

def moveEntry (sItem dItem : Option EntryRef) (fromSlot toSlot : Nat) : Session :=
  match sItem, dItem with
  | none, _ => s.say "MoveItem:Error:CantGetSource"
  | some sItem, none =>
    -- destination is empty just move source to dest
    let sItem := { sItem with item := { sItem.item with slot := toSlot, state := .changed } }
    s.updateBank ((s.bank.write sItem).enqueue sItem.item)
  | some sItem, some dItem =>
    if sItem.item.itemTemplate = dItem.item.itemTemplate then
      if sItem.item.count = sItem.item.maxStackSize ∨ dItem.item.count = dItem.item.maxStackSize then
        -- if source or dest is max stack just swap around
        (s.exchange sItem dItem fromSlot toSlot).saveToDB
      else if Word.add32 sItem.item.count dItem.item.count ≤ sItem.item.maxStackSize then
        -- can stack all to dest
        let dItem :=
          { dItem with
            item := { dItem.item with
              count := Word.add32 sItem.item.count dItem.item.count, state := .changed } }
        let sItem := { sItem with item := { sItem.item with state := .removed } }
        let b := ((s.bank.write dItem).enqueue dItem.item).write sItem
        s.updateBank ((b.enqueue sItem.item).deleteItem sItem)
      else
        -- can only move a few to dest
        let sItem :=
          { sItem with
            item := { sItem.item with
              count := Word.sub32 sItem.item.count
                (Word.sub32 sItem.item.maxStackSize dItem.item.count), state := .changed } }
        let dItem :=
          { dItem with item := { dItem.item with count := dItem.item.maxStackSize, state := .changed } }
        s.updateBank ((((s.bank.write sItem).enqueue sItem.item).write dItem).enqueue dItem.item)
    else (s.exchange sItem dItem fromSlot toSlot).saveToDB

def moveItem (env : Env) (msg : Text) : Session :=
  match tokens msg ':' with
  | [_, bankTab, fromSlot, toSlot] =>
    let bankTab := atoiU8 bankTab
    let fromSlot := atoiU8 fromSlot
    let toSlot := atoiU8 toSlot
    if !s.canAccessTab env bankTab .moveItem then
      (s.notify "You dont have access in this tab.").say "MoveItem:Error:NoRights"
    else if fromSlot = toSlot then s.say "MoveItem:Error:SameSourceDest"
    else if bankTab = 0 ∨ maxTabs < bankTab ∨ fromSlot = 0 ∨ bankTabSize < fromSlot ∨ toSlot = 0 ∨
        bankTabSize < toSlot then
      s.say "MoveItem:Error:ParamsOutOfRange"
    else
      s.moveEntry (s.bank.getItem bankTab fromSlot) (s.bank.getItem bankTab toSlot) fromSlot toSlot
  | _ => s.sayQuoting "MoveItem:Error:WrongSyntax" msg

def splitToFree (sItem : EntryRef) (toSlot split : Nat) : Session :=
  if sItem.item.maxStackSize ≤ split then s.say "SplitItem:Error:DestinationCountTooBig"
  else
    let sourceNewCount := Word.i32 (Word.i32 sItem.item.count - split)
    if sourceNewCount ≤ 0 then s.say "SplitItem:Error:SourceLeftCount0"
    else
      let sItem :=
        { sItem with item := { sItem.item with count := Word.toU32 sourceNewCount, state := .changed } }
      let b := (s.bank.write sItem).enqueue sItem.item
      let dItem := { b.cloneBankItem sItem.item with slot := toSlot, count := split, state := .new }
      (s.updateBank ((b.enqueue dItem).addItem dItem)).saveToDB

def splitToStack (sItem dItem : EntryRef) (split : Nat) : Session :=
  if sItem.item.itemTemplate = dItem.item.itemTemplate then
    let destNewCount := Word.add32 dItem.item.count split
    if destNewCount ≤ dItem.item.maxStackSize then
      let sourceNewCount := Word.sub32 sItem.item.count split
      if sourceNewCount = 0 then s.say "SplitItem:Error:SourceCount0"
      else if sItem.item.maxStackSize < sourceNewCount then s.say "SplitItem:Error:BadSourceCount"
      else if destNewCount = 0 then s.say "SplitItem:Error:DestCount0"
      else if sItem.item.maxStackSize < destNewCount then s.say "SplitItem:Error:BadDestCount"
      else
        let sItem := { sItem with item := { sItem.item with count := sourceNewCount, state := .changed } }
        let dItem := { dItem with item := { dItem.item with count := destNewCount, state := .changed } }
        s.updateBank ((((s.bank.write sItem).enqueue sItem.item).write dItem).enqueue dItem.item)
    else s.say "SplitItem:cantStackOnTarget"
  else s.say "SplitItem:destinationItemDifferent"

def splitItem (env : Env) (msg : Text) : Session :=
  match tokens msg ':' with
  | [_, bankTab, fromSlot, toSlot, split] =>
    let bankTab := atoiU8 bankTab
    let fromSlot := atoiU8 fromSlot
    let toSlot := atoiU8 toSlot
    let split := atoiU8 split
    if !s.canAccessTab env bankTab .splitItem then
      (s.notify "You dont have access to this tab.").say "SplitItem:Error:NoRights"
    else if fromSlot = toSlot then s.say "SplitItem:Error:fromSlot=toSlot"
    else if bankTab = 0 ∨ maxTabs < bankTab ∨ fromSlot = 0 ∨ bankTabSize < fromSlot ∨ toSlot = 0 ∨
        bankTabSize < toSlot then
      s.say "SplitItem:Error:ParamsOutOfRange"
    else
      match s.bank.getItem bankTab fromSlot, s.bank.getItem bankTab toSlot with
      | none, _ => s
      | some sItem, none => s.splitToFree sItem toSlot split
      | some sItem, some dItem => s.splitToStack sItem dItem split
  | _ => s.sayQuoting "SplitItem:Error:WrongSyntax" msg

end

end Session

end TurtleWow.GuildBank

import Mathlib.Logic.Function.Basic
import TurtleWow.Lib.Bytes
import TurtleWow.Lib.Lists
import TurtleWow.Lib.Run

namespace TurtleWow.Looting

abbrev maxNrLootItems : Nat := 16
abbrev maxNrQuestItems : Nat := 32

inductive LootMethod where
  | freeForAll | roundRobin | masterLoot | groupLoot | needBeforeGreed
  deriving DecidableEq, Repr

structure LootStoreItem where
  itemid : Nat
  conditionId : Nat
  needsQuest : Bool
  count : Nat
  deriving DecidableEq, Repr

structure LootItem where
  itemid : Nat
  conditionId : Nat
  count : Nat
  isLooted : Bool
  isBlocked : Bool
  freeforall : Bool
  isUnderthreshold : Bool
  isCounted : Bool
  needsQuest : Bool
  lootOwner : Nat
  deriving DecidableEq, Repr

structure QuestItem where
  index : Nat
  isLooted : Bool
  deriving DecidableEq, Repr

abbrev QuestItemMap : Type := List (Nat × List QuestItem)

structure Handout where
  quest : Bool
  index : Nat
  player : Nat
  deriving DecidableEq, Repr

-- `handed` is what the loot has given away since it was filled; the source
-- keeps no such list.
structure Loot where
  personal : Bool
  items : List LootItem
  gold : Nat
  unlootedCount : Nat
  questItems : List LootItem
  playerQuestItems : QuestItemMap
  playerFFAItems : QuestItemMap
  playerConditionalItems : QuestItemMap
  allowedLooters : List Nat
  handed : List Handout
  deriving DecidableEq, Repr

-- What a step reads of the world: item templates, the conditions and quests
-- that decide who may have an item, which players are in the world, near, able
-- to use an item and in this or another group, and for each slot whose bags
-- have room for it and the dice.
structure View where
  partyLoot : Nat → Bool
  quality : Nat → Option Nat
  eligible : Nat → Nat → Nat → Bool → Bool
  inWorld : Nat → Bool
  near : Nat → Bool
  canUse : Nat → Nat → Bool
  member : Nat → Bool
  otherMethod : Nat → Option LootMethod
  canStore : Nat → Nat → Bool
  dice : Nat → Nat → Nat

namespace LootItem

def new (view : View) (item : LootStoreItem) : LootItem :=
  { itemid := item.itemid, conditionId := item.conditionId, count := Word.u8 item.count, isLooted := false,
    isBlocked := false, freeforall := view.partyLoot item.itemid, isUnderthreshold := false, isCounted := false,
    needsQuest := item.needsQuest, lootOwner := 0 }

def allowedForPlayer (view : View) (player : Nat) (item : LootItem) : Bool :=
  view.eligible player item.itemid item.conditionId item.needsQuest &&
    (item.lootOwner = 0 || player = item.lootOwner)

-- What the loot's functions write to an entry.

section

variable (item : LootItem)

def looted : LootItem := { item with isLooted := true }

def givenAway : LootItem := { item with count := 0, isLooted := true }

def blocked : LootItem := { item with isBlocked := true }

def unblocked : LootItem := { item with isBlocked := false }

end

def owned (player : Nat) (item : LootItem) : LootItem := { item with lootOwner := player }

def counted (item : LootItem) : LootItem := { item with isCounted := true }

def underthreshold (item : LootItem) : LootItem := { item with isUnderthreshold := true }

end LootItem

def QuestItem.looted (item : QuestItem) : QuestItem := { item with isLooted := true }

namespace QuestItemMap

def find (copies : QuestItemMap) (player : Nat) : Option (List QuestItem) :=
  (copies.find? fun entry => entry.1 = player).map fun entry => entry.2

def setLooted (copies : QuestItemMap) (player copy : Nat) : QuestItemMap :=
  Lists.updateFirst (fun entry => entry.1 = player)
    (fun entry => (entry.1, entry.2.modify copy QuestItem.looted)) copies

end QuestItemMap

namespace Loot

def new : Loot :=
  { personal := false, items := [], gold := 0, unlootedCount := 0, questItems := [], playerQuestItems := [],
    playerFFAItems := [], playerConditionalItems := [], allowedLooters := [], handed := [] }

def cleared : Loot := { Loot.new with personal := true }

def isLooted (loot : Loot) : Bool := loot.gold = 0 && loot.unlootedCount = 0

def addItem (view : View) (loot : Loot) (item : LootStoreItem) : Loot :=
  if item.needsQuest then
    if loot.questItems.length < maxNrQuestItems then
      { loot with questItems := loot.questItems ++ [.new view item] }
    else loot
  else if loot.items.length < maxNrLootItems then
    { loot with
      items := loot.items ++ [.new view item],
      unlootedCount :=
        if item.conditionId = 0 ∧ !view.partyLoot item.itemid then Word.u8 (loot.unlootedCount + 1)
        else loot.unlootedCount }
  else loot

-- The three loops over the entries: the entries after it, the player's copies
-- and how many of them are counted.

def ffaCopies (view : View) (player : Nat) : Nat → List LootItem → List QuestItem
  | _, [] => []
  | i, item :: rest =>
    if !item.isLooted ∧ item.freeforall ∧ item.allowedForPlayer view player then
      { index := i, isLooted := false } :: ffaCopies view player (i + 1) rest
    else ffaCopies view player (i + 1) rest

-- `room` is what is left of the 16 slots that a loot window has.
def questCopies (view : View) (player : Nat) : Nat → Nat → List LootItem → List LootItem × List QuestItem × Nat
  | _, _, [] => ([], [], 0)
  | _, 0, items => (items, [], 0)
  | i, room + 1, item :: rest =>
    if !item.isLooted ∧ item.allowedForPlayer view player then
      let after := questCopies view player (i + 1) room rest
      (item.blocked :: after.1, { index := i, isLooted := false } :: after.2.1,
        after.2.2 + if item.freeforall ∨ !item.isBlocked then 1 else 0)
    else
      let after := questCopies view player (i + 1) (room + 1) rest
      (item :: after.1, after.2)

def conditionalCopies (view : View) (player : Nat) : Nat → List LootItem → List LootItem × List QuestItem × Nat
  | _, [] => ([], [], 0)
  | i, item :: rest =>
    let after := conditionalCopies view player (i + 1) rest
    if !item.isLooted ∧ !item.freeforall ∧ item.conditionId ≠ 0 ∧ item.allowedForPlayer view player then
      (item.counted :: after.1, { index := i, isLooted := false } :: after.2.1,
        after.2.2 + if item.isCounted then 0 else 1)
    else (item :: after.1, after.2)

def fillFFALoot (view : View) (player : Nat) (loot : Loot) : Loot :=
  let ql := ffaCopies view player 0 loot.items
  if ql = [] then loot
  else
    { loot with
      unlootedCount := Word.u8 (loot.unlootedCount + ql.length),
      playerFFAItems := (player, ql) :: loot.playerFFAItems }

def fillQuestLoot (view : View) (player : Nat) (loot : Loot) : Loot :=
  if loot.items.length = maxNrLootItems then loot
  else
    let copies := questCopies view player 0 (maxNrLootItems - loot.items.length) loot.questItems
    if copies.2.1 = [] then loot
    else
      { loot with
        questItems := copies.1, unlootedCount := Word.u8 (loot.unlootedCount + copies.2.2),
        playerQuestItems := (player, copies.2.1) :: loot.playerQuestItems }

def fillNonQuestNonFFAConditionalLoot (view : View) (player : Nat) (loot : Loot) : Loot :=
  let copies := conditionalCopies view player 0 loot.items
  if copies.2.1 = [] then loot
  else
    { loot with
      items := copies.1, unlootedCount := Word.u8 (loot.unlootedCount + copies.2.2),
      playerConditionalItems := (player, copies.2.1) :: loot.playerConditionalItems }

-- A fill is skipped for a player who has a list already.
def fillMissing (missing : Bool) (fill : Loot → Loot) (loot : Loot) : Loot := if missing then fill loot else loot

def fillNotNormalLootFor (view : View) (player : Nat) (loot : Loot) : Loot :=
  if view.inWorld player then
    let loot := { loot with allowedLooters := loot.allowedLooters ++ [player] }
    let loot := fillMissing (loot.playerQuestItems.find player).isNone (fillQuestLoot view player) loot
    let loot := fillMissing (loot.playerFFAItems.find player).isNone (fillFFALoot view player) loot
    fillMissing (loot.playerConditionalItems.find player).isNone (fillNonQuestNonFFAConditionalLoot view player) loot
  else loot

def isUnder (view : View) (threshold : Nat) (item : LootItem) : Bool :=
  match view.quality item.itemid with
  | none => false
  | some quality => quality < threshold

def setUnderthreshold (view : View) (threshold : Nat) (loot : Loot) : Loot :=
  { loot with items := loot.items.map fun item =>
      if isUnder view threshold item then item.underthreshold else item }

-- FillLoot into a cleared loot, with what Process has added. Group loot goes
-- to the group's members at reward distance.
def fillLoot (view : View) (drops : List LootStoreItem) (owner : Nat) (group : Option (List Nat × Nat)) : Loot :=
  let loot := drops.foldl (addItem view) cleared
  match group with
  | none => loot.fillNotNormalLootFor view owner
  | some (members, threshold) =>
    let loot := { loot with personal := false }
    let loot := (members.filter view.near).foldl
      (fun loot player =>
        fillNotNormalLootFor view player { loot with allowedLooters := loot.allowedLooters ++ [player] }) loot
    loot.setUnderthreshold view threshold

def isAllowedLooter (loot : Loot) (player : Nat) (doPersonalCheck : Bool) : Bool :=
  (doPersonalCheck && loot.personal) || loot.allowedLooters.contains player

inductive Found where
  | quest (copy index : Nat)
  | ffa (copy : Nat)
  | conditional (copy : Nat)
  | plain
  deriving DecidableEq, Repr

def copyOf (copies : QuestItemMap) (player slot : Nat) : Option (Nat × QuestItem) :=
  match copies.find player with
  | none => none
  | some ql =>
    match ql.findIdx? fun item => item.index = slot with
    | none => none
    | some copy => (ql[copy]?).map fun item => (copy, item)

def lootItemInSlot (loot : Loot) (slot player : Nat) : Option (LootItem × Found) :=
  match loot.items[slot]? with
  | none =>
    match loot.playerQuestItems.find player with
    | none => none
    | some ql =>
      match ql[slot - loot.items.length]? with
      | none => none
      | some qitem =>
        match loot.questItems[qitem.index]? with
        | none => none
        | some item =>
          if item.isLooted ∨ qitem.isLooted then none
          else some (item, .quest (slot - loot.items.length) qitem.index)
  | some item =>
    if item.freeforall then
      match copyOf loot.playerFFAItems player slot with
      | none => if item.isLooted then none else some (item, .plain)
      | some (copy, ffaitem) => if ffaitem.isLooted then none else some (item, .ffa copy)
    else if item.isLooted then none
    else if item.conditionId ≠ 0 then
      match copyOf loot.playerConditionalItems player slot with
      | none => some (item, .plain)
      | some (copy, conditem) => if conditem.isLooted then none else some (item, .conditional copy)
    else some (item, .plain)

end Loot

end TurtleWow.Looting

import Mathlib.Data.Int.Order.Basic
import Mathlib.Data.Nat.Basic
import Mathlib.Logic.Function.Basic
import TurtleWow.Lib.Multimap
import TurtleWow.Lib.Run

namespace TurtleWow.Quests

def maxQuestLogSize : ℕ := 20
def questObjectivesCount : ℕ := 4
def inMilliseconds : ℕ := 1000

inductive QuestStatus
  | none
  | complete
  | incomplete
  | failed
deriving DecidableEq

inductive QuestUpdateState
  | unchanged
  | changed
  | new
  | deleted
deriving DecidableEq

-- The template of a quest: its flags, objectives and what the log depends on
structure Quest where
  repeatable : Bool
  timed : Bool
  deliver : Bool
  killOrCast : Bool
  speakTo : Bool
  explorationOrEvent : Bool
  autoRewarded : Bool
  autoComplete : Bool
  reqItemId : ℕ → ℕ
  reqItemCount : ℕ → ℕ
  reqCreatureOrGOId : ℕ → ℤ
  reqCreatureOrGOCount : ℕ → ℕ
  rewOrReqMoney : ℤ
  repObjectiveFaction : ℕ
  repObjectiveValue : ℤ
  requiredSkill : ℕ
  limitTime : ℕ
  rewChoiceItemId : ℕ → ℕ

structure QuestSlot where
  questId : ℕ := 0
  complete : Bool := false
  fail : Bool := false
  timer : ℕ := 0

structure QuestStatusData where
  status : QuestStatus := .none
  rewarded : Bool := false
  explored : Bool := false
  timer : ℕ := 0
  uState : QuestUpdateState := .new
  rewardChoice : ℕ := 0
  itemcount : ℕ → ℕ := fun _ => 0
  creatureOrGOcount : ℕ → ℕ := fun _ => 0

-- A row of character_queststatus
structure QuestRow where
  status : QuestStatus
  rewarded : Bool
  explored : Bool
  timer : ℕ
  mobcount : ℕ → ℕ
  itemcount : ℕ → ℕ
  rewardChoice : ℕ

-- What is still to do of the calls in progress, innermost first. At `items` the
-- items, the money and the reputation change.
inductive Frame
  | items
  | itemAddedQuestCheck (entry count slot : ℕ)
  | itemRemovedQuestCheck (entry count slot : ℕ)
  | moneyChanged (count : ℕ) (slot : ℕ)
  | reputationChanged (faction slot : ℕ)
  | adjustQuestReqItemCount (quest : ℕ)
  | completeIfCan (quest : ℕ)
  | removeTimedQuest (quest : ℕ)
  | remove (slot quest : ℕ)
  | rewardSlot (quest reward : ℕ)
  | reward (quest : ℕ)
  | dropQuests (skill quest : ℕ)
  | drop (quest : ℕ)
deriving DecidableEq

-- What has happened to the quests: the calls of SetQuestStatus, AddQuest,
-- RemoveQuestAtSlot and RewardQuest
inductive Event
  | status (quest : ℕ) (status : QuestStatus)
  | accepted (quest : ℕ)
  | removed (quest : ℕ)
  | rewarded (quest : ℕ)
deriving DecidableEq

structure Player where
  log : ℕ → QuestSlot
  questStatus : OrderedMap ℕ QuestStatusData
  timedquests : List ℕ
  questRows : OrderedMap ℕ QuestRow
  calls : List Frame
  history : List Event

-- What a step sees of the rest of the player: the other requirements of a quest,
-- the inventory, the money and the reputation
structure View where
  satisfies : ℕ → Bool
  satisfiesBasic : ℕ → Bool
  satisfiesChallenges : ℕ → Bool
  canGiveSourceItem : ℕ → Bool
  canStoreRewards : ℕ → ℕ → Bool
  canTakeStartItems : ℕ → Bool
  itemCount : ℕ → Bool → ℕ
  money : ℕ
  reputation : ℕ → ℤ
  now : ℕ
  sharedTimer : Option ℕ

-- Quest 0 is no quest: it marks a free slot of the log.
structure Templates where
  quest : ℕ → Option Quest
  zero : quest 0 = none

instance : CoeFun Templates fun _ => ℕ → Option Quest := ⟨Templates.quest⟩

def u16 (n : ℕ) : ℕ := n % 2 ^ 16

def QuestStatusData.touched (data : QuestStatusData) : QuestStatusData :=
  if data.uState = .new then data else { data with uState := .changed }

namespace Player

def initial : Player where
  log _ := {}
  questStatus := OrderedMap.empty
  timedquests := []
  questRows := OrderedMap.empty
  calls := []
  history := []

variable (templates : Templates) (view : View) (p : Player)

-- mQuestStatus[quest], which makes an entry when there is none
def data (quest : ℕ) : QuestStatusData := (p.questStatus.find quest).getD {}

def setData (quest : ℕ) (data : QuestStatusData) : Player := { p with questStatus := p.questStatus.insert quest data }

def record (event : Event) : Player := { p with history := p.history ++ [event] }

def push (frames : List Frame) : Player := { p with calls := frames ++ p.calls }

def findQuestSlot (quest : ℕ) : ℕ :=
  ((List.range maxQuestLogSize).find? fun slot => (p.log slot).questId = quest).getD maxQuestLogSize

def setQuestSlot (slot quest timer : ℕ) : Player :=
  { p with log := fun other => if other = slot then { questId := quest, timer } else p.log other }

def setQuestSlotState (slot : ℕ) (complete fail : Bool) : Player :=
  { p with log := fun other =>
      if other = slot then
        { p.log slot with complete := (p.log slot).complete || complete, fail := (p.log slot).fail || fail }
      else p.log other }

def removeQuestSlotComplete (slot : ℕ) : Player :=
  { p with log := fun other => if other = slot then { p.log slot with complete := false } else p.log other }

def setQuestSlotTimer (slot timer : ℕ) : Player :=
  { p with log := fun other => if other = slot then { p.log slot with timer } else p.log other }

def swapQuestSlot (slot1 slot2 : ℕ) : Player :=
  { p with log := fun other =>
      if other = slot1 then p.log slot2 else if other = slot2 then p.log slot1 else p.log other }

section

variable (quest : ℕ)

def getQuestStatus : QuestStatus :=
  if quest = 0 then .none else ((p.questStatus.find quest).map QuestStatusData.status).getD .none

def setQuestStatus (status : QuestStatus) : Player :=
  if (templates quest).isSome then
    (p.setData quest { p.data quest with status }.touched).record (.status quest status)
  else p

def getQuestRewardStatus : Bool :=
  match templates quest, p.questStatus.find quest with
  | some info, some data => if data.status ≠ .none ∧ info.repeatable = false then data.rewarded else false
  | _, _ => false

def addTimedQuest : Player := { p with timedquests := p.timedquests.insert quest }

def removeTimedQuest : Player := { p with timedquests := p.timedquests.erase quest }

def satisfyQuestStatus : Bool :=
  match p.questStatus.find quest with
  | some data => data.status = .none
  | none => true

def satisfyQuestTimed (info : Quest) : Bool := p.timedquests.isEmpty || !info.timed

def canTakeQuest (info : Quest) (skipStatusCheck : Bool) : Bool :=
  (skipStatusCheck || p.satisfyQuestStatus quest) && view.satisfies quest && p.satisfyQuestTimed info

def canAddQuest : Bool := decide (p.findQuestSlot 0 < maxQuestLogSize) && view.canGiveSourceItem quest

def canCompleteQuest : Bool :=
  if quest = 0 then false
  else
    let status := ((p.questStatus.find quest).map QuestStatusData.status).getD .none
    if status = .complete then false
    else match templates quest with
      | none => false
      | some info =>
        if info.autoRewarded then view.satisfiesBasic quest
        else if info.autoComplete && p.canTakeQuest view quest info false then true
        else if status ≠ .incomplete then false
        else
          let data := p.data quest
          let objectives := List.range questObjectivesCount
          (!info.deliver || objectives.all fun i =>
            info.reqItemCount i = 0 || info.reqItemCount i ≤ data.itemcount i) &&
          (!(info.killOrCast || info.speakTo) || objectives.all fun i =>
            info.reqCreatureOrGOId i = 0 || info.reqCreatureOrGOCount i = 0 ||
              info.reqCreatureOrGOCount i ≤ data.creatureOrGOcount i) &&
          !(info.explorationOrEvent && !data.explored) &&
          !(info.timed && data.timer = 0 && !(info.explorationOrEvent && data.status = .complete)) &&
          !(info.rewOrReqMoney < 0 && (view.money : ℤ) < -info.rewOrReqMoney) &&
          !(info.repObjectiveFaction ≠ 0 && view.reputation info.repObjectiveFaction < info.repObjectiveValue)

end

def canRewardQuest (quest reward : ℕ) (info : Quest) : Bool :=
  view.satisfiesChallenges quest &&
  (if info.autoComplete then p.canTakeQuest view quest info true else p.getQuestStatus quest = .complete) &&
  !p.getQuestRewardStatus templates quest &&
  (!info.deliver || (List.range questObjectivesCount).all fun i =>
    info.reqItemCount i = 0 || info.reqItemCount i ≤ view.itemCount (info.reqItemId i) false) &&
  !(info.rewOrReqMoney < 0 && (view.money : ℤ) < -info.rewOrReqMoney) &&
  view.canStoreRewards quest reward

def rewardQuest (quest reward : ℕ) : Player :=
  p.push [.items, .removeTimedQuest quest, .items, .rewardSlot quest reward]

section

variable (quest : ℕ)

def completeQuest : Player :=
  if quest = 0 then p
  else
    let p' := p.setQuestStatus templates quest .complete
    let slot := p'.findQuestSlot quest
    let p' := if slot < maxQuestLogSize then p'.setQuestSlotState slot true false else p'
    match templates quest with
    | some info => if info.autoRewarded then p'.rewardQuest quest 0 else p'
    | none => p'

def incompleteQuest : Player :=
  if quest = 0 then p
  else
    let p' := p.setQuestStatus templates quest .incomplete
    let slot := p'.findQuestSlot quest
    if slot < maxQuestLogSize then p'.removeQuestSlotComplete slot else p'

def completeIfCan : Player :=
  if p.canCompleteQuest templates view quest then p.completeQuest templates quest else p

-- AddQuest, up to where the items change
def addQuest (info : Quest) : Player :=
  let slot := p.findQuestSlot 0
  let old := p.data quest
  let limit := (view.sharedTimer.map fun timer => timer / inMilliseconds).getD info.limitTime
  let data := { old with
    status := .incomplete
    explored := false
    itemcount := if info.deliver then fun _ => 0 else old.itemcount
    creatureOrGOcount := if info.killOrCast || info.speakTo then fun _ => 0 else old.creatureOrGOcount
    timer := if info.timed then limit * inMilliseconds else 0 }
  let p' := if info.timed then p.addTimedQuest quest else p
  let p' := p'.setData quest data.touched
  let p' := p'.setQuestSlot slot quest (if info.timed then view.now + limit else 0)
  (p'.record (.accepted quest)).push [.items, .adjustQuestReqItemCount quest]

def adjustQuestReqItemCount : Player :=
  match templates quest with
  | none => p
  | some info =>
    if info.deliver then
      (List.range questObjectivesCount).foldl (fun p i =>
        if info.reqItemCount i ≠ 0 then
          let data := p.data quest
          let count := min (view.itemCount (info.reqItemId i) true) (info.reqItemCount i)
          p.setData quest { data with itemcount := Function.update data.itemcount i count }.touched
        else p) p
    else p

def removeTimed : List Frame :=
  match templates quest with
  | some info => if info.timed then [.removeTimedQuest quest] else []
  | none => []

end

def removeQuestAtSlot (slot : ℕ) : Player :=
  if slot < maxQuestLogSize then
    let quest := (p.log slot).questId
    if quest = 0 then p.setQuestSlot slot 0 0
    else if view.canTakeStartItems quest then
      p.push ([.items] ++ removeTimed templates quest ++ [.items, .remove slot quest])
    else p
  else p

-- HandleQuestLogRemoveQuest: RemoveQuestAtSlot without the items of the objectives
def handleQuestLogRemoveQuest (slot : ℕ) : Player :=
  if slot < maxQuestLogSize then
    let quest := (p.log slot).questId
    if quest = 0 then p.setQuestSlot slot 0 0
    else if view.canTakeStartItems quest then
      p.push ([.items] ++ removeTimed templates quest ++ [.remove slot quest])
    else p
  else p

def failQuest (quest : ℕ) : Player :=
  match templates quest with
  | none => p
  | some info =>
    let slot := p.findQuestSlot quest
    if info.repeatable && !info.timed then p.removeQuestAtSlot templates view slot
    else
      let p' :=
        if slot < maxQuestLogSize then
          ((p.setQuestSlotTimer slot 1).setQuestSlotState slot false true).setQuestStatus templates quest .failed
        else p
      if info.timed then
        let p' := p'.removeTimedQuest quest
        p'.setData quest { p'.data quest with timer := 0 }
      else p'

def areaExploredOrEventHappens (quest : ℕ) : Player :=
  if quest = 0 then p
  else
    let slot := p.findQuestSlot quest
    let p' :=
      if slot < maxQuestLogSize ∧ (p.data quest).explored = false then
        (p.setQuestSlotState slot true false).setData quest { p.data quest with explored := true }.touched
      else p
    p'.completeIfCan templates view quest

-- The objective for which KilledMonsterCredit, CastedCreatureOrGO and
-- TalkedToCreature find credit in a slot
def creditObjective (slot objective : ℕ) : Player :=
  let quest := (p.log slot).questId
  if maxQuestLogSize ≤ slot ∨ quest = 0 then p
  else match templates quest with
    | none => p
    | some info =>
      let data := p.data quest
      if (info.killOrCast || info.speakTo) && data.status = .incomplete then
        let p' :=
          if data.creatureOrGOcount objective < info.reqCreatureOrGOCount objective then
            let count := data.creatureOrGOcount objective + 1
            p.setData quest
              { data with creatureOrGOcount := Function.update data.creatureOrGOcount objective count }.touched
          else p
        p'.completeIfCan templates view quest
      else p

-- The loops over the log: what is done at one slot

def itemObjective (info : Quest) (entry : ℕ) : Option ℕ :=
  (List.range questObjectivesCount).find? fun j => info.reqItemId j = entry

def itemAddedQuestCheck (entry count slot : ℕ) : Player :=
  let quest := (p.log slot).questId
  let data := p.data quest
  if quest = 0 ∨ data.status ≠ .incomplete then p
  else match templates quest with
    | none => p
    | some info =>
      if info.deliver then
        match itemObjective info entry with
        | none => p
        | some j =>
          let p' :=
            if data.itemcount j < info.reqItemCount j then
              let newCount := min (u16 (data.itemcount j + count)) (u16 (info.reqItemCount j))
              p.setData quest { data with itemcount := Function.update data.itemcount j newCount }.touched
            else p
          p'.completeIfCan templates view quest
      else p

-- The count of an objective after the loss of items
def countAfterLoss (info : Quest) (data : QuestStatusData) (entry count j : ℕ) : ℕ :=
  let current := if info.reqItemCount j ≤ data.itemcount j then view.itemCount entry false else data.itemcount j
  min (u16 (if current < count then 0 else current - count)) (u16 (info.reqItemCount j))

def itemRemovedQuestCheck (entry count slot : ℕ) : Player :=
  let quest := (p.log slot).questId
  if quest = 0 then p
  else match templates quest with
    | none => p
    | some info =>
      if info.deliver then
        match itemObjective info entry with
        | none => p
        | some j =>
          let data := p.data quest
          let newCount := countAfterLoss view info data entry count j
          if newCount ≠ info.reqItemCount j then
            (p.setData quest { data with itemcount := Function.update data.itemcount j newCount }.touched).incompleteQuest
              templates quest
          else p
      else p

def moneyChanged (count slot : ℕ) : Player :=
  let quest := (p.log slot).questId
  if quest = 0 then p
  else match templates quest with
    | none => p
    | some info =>
      if info.rewOrReqMoney < 0 then
        match (p.data quest).status with
        | .incomplete => if -info.rewOrReqMoney ≤ count then p.completeIfCan templates view quest else p
        | .complete => if (count : ℤ) < -info.rewOrReqMoney then p.incompleteQuest templates quest else p
        | _ => p
      else p

def reputationChanged (faction slot : ℕ) : Player :=
  let quest := (p.log slot).questId
  if quest = 0 then p
  else match templates quest with
    | none => p
    | some info =>
      if info.repObjectiveFaction = faction then
        match (p.data quest).status with
        | .incomplete =>
          if info.repObjectiveValue ≤ view.reputation faction then p.completeIfCan templates view quest else p
        | .complete =>
          if view.reputation faction < info.repObjectiveValue then p.incompleteQuest templates quest else p
        | _ => p
      else p

end Player

end TurtleWow.Quests

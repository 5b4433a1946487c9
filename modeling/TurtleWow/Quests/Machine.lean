import TurtleWow.Quests.Player

namespace TurtleWow.Quests

open Run

-- `go` goes on with the innermost call in progress. The first block is what the
-- handlers and the world do; the second are the calls themselves, without the
-- checks of their callers.
inductive Input
  | go
  | itemAdded (entry count : ℕ)
  | itemRemoved (entry count : ℕ)
  | moneyChanged (count : ℕ)
  | reputationChanged (faction : ℕ)
  | acceptQuest (quest : ℕ)
  | requestReward (quest : ℕ)
  | chooseReward (quest reward : ℕ)
  | questLogRemoveQuest (slot : ℕ)
  | questLogSwapQuest (slot1 slot2 : ℕ)
  | areaExploredOrEventHappens (quest : ℕ)
  | creditObjective (slot objective : ℕ)
  | failQuest (quest : ℕ)
  | update (diff : ℕ)
  | addQuest (quest : ℕ)
  | removeQuestAtSlot (slot : ℕ)
  | completeQuest (quest : ℕ)
  | incompleteQuest (quest : ℕ)
  | rewardQuest (quest reward : ℕ)
  | loseSkill (skill : ℕ)
  | saveQuestStatus
  | loadQuestStatus (order : List ℕ)

-- A quest that has its place in the log
def QuestStatusData.active (data : QuestStatusData) (info : Quest) : Bool :=
  decide (data.status ≠ .none) && (!data.rewarded || info.repeatable)

def QuestStatusData.row (data : QuestStatusData) (now : ℕ) : QuestRow where
  status := data.status
  rewarded := data.rewarded
  explored := data.explored
  timer := data.timer / inMilliseconds + now
  mobcount := data.creatureOrGOcount
  itemcount := data.itemcount
  rewardChoice := data.rewardChoice

def QuestRow.data (row : QuestRow) (timer : ℕ) : QuestStatusData where
  status := row.status
  rewarded := row.rewarded
  explored := row.explored
  timer := timer
  uState := .unchanged
  rewardChoice := if row.rewarded then row.rewardChoice else 0
  itemcount := row.itemcount
  creatureOrGOcount := row.mobcount

namespace Player

variable (templates : Templates) (view : View) (p : Player)

def rewardSlot (quest reward : ℕ) : Player :=
  let slot := p.findQuestSlot quest
  let p' := if slot < maxQuestLogSize then p.setQuestSlot slot 0 0 else p
  let choice := ((templates quest).map fun info => info.rewChoiceItemId reward).getD 0
  (p'.setData quest { p'.data quest with rewardChoice := choice }).push [.items, .reward quest, .items]

def reward (quest : ℕ) : Player :=
  match templates quest with
  | none => p
  | some info =>
    let status := if info.repeatable then .none else .complete
    ((p.setData quest { p.data quest with rewarded := true }).record (.rewarded quest)).setQuestStatus templates quest
      status

def remove (slot quest : ℕ) : Player :=
  ((p.setQuestStatus templates quest .none).setQuestSlot slot 0 0).record (.removed quest)

def dropQuests (skill first : ℕ) : Player :=
  match p.questStatus.keys.find? fun quest => decide (first ≤ quest) with
  | none => p
  | some quest =>
    let p' := p.push [.dropQuests skill (quest + 1)]
    match templates quest with
    | none => p'
    | some info =>
      if info.requiredSkill = skill then
        let slot := p'.findQuestSlot quest
        if slot < maxQuestLogSize then (p'.setQuestSlot slot 0 0).push [.items, .drop quest]
        else p'.push [.drop quest]
      else p'

def drop (quest : ℕ) : Player :=
  let p' := p.setQuestStatus templates quest .none
  p'.setData quest { p'.data quest with uState := .deleted }

def resume : Frame → Player
  | .items => p
  | .itemAddedQuestCheck entry count slot =>
    if slot < maxQuestLogSize then
      (p.push [.itemAddedQuestCheck entry count (slot + 1)]).itemAddedQuestCheck templates view entry count slot
    else p
  | .itemRemovedQuestCheck entry count slot =>
    if slot < maxQuestLogSize then
      (p.push [.itemRemovedQuestCheck entry count (slot + 1)]).itemRemovedQuestCheck templates view entry count slot
    else p
  | .moneyChanged count slot =>
    if slot < maxQuestLogSize then
      (p.push [.moneyChanged count (slot + 1)]).moneyChanged templates view count slot
    else p
  | .reputationChanged faction slot =>
    if slot < maxQuestLogSize then
      (p.push [.reputationChanged faction (slot + 1)]).reputationChanged templates view faction slot
    else p
  | .adjustQuestReqItemCount quest => p.adjustQuestReqItemCount templates view quest
  | .completeIfCan quest => p.completeIfCan templates view quest
  | .removeTimedQuest quest => p.removeTimedQuest quest
  | .remove slot quest => p.remove templates slot quest
  | .rewardSlot quest reward => p.rewardSlot templates quest reward
  | .reward quest => p.reward templates quest
  | .dropQuests skill first => p.dropQuests templates skill first
  | .drop quest => p.drop templates quest

def updateTimedQuest (diff quest : ℕ) : Player :=
  let data := p.data quest
  if data.timer ≤ diff then
    match templates quest with
    | none => p
    | some info =>
      if info.explorationOrEvent && data.status = .complete then p else p.failQuest templates view quest
  else p.setData quest { data with timer := data.timer - diff }.touched

def update (diff : ℕ) : Player := p.timedquests.foldl (fun p quest => p.updateTimedQuest templates view diff quest) p

def saveQuest (now : ℕ) (quest : ℕ) (data : QuestStatusData) : Player :=
  let saved := { p with questStatus := p.questStatus.insert quest { data with uState := .unchanged } }
  match data.uState with
  | .deleted => { p with questStatus := p.questStatus.erase quest, questRows := p.questRows.erase quest }
  | .new => { saved with questRows := p.questRows.insert quest (data.row now) }
  | .changed =>
    if (p.questRows.find quest).isSome then { saved with questRows := p.questRows.insert quest (data.row now) }
    else saved
  | .unchanged => saved

def saveQuestStatus (now : ℕ) : Player :=
  p.questStatus.entries.foldl (fun p entry => p.saveQuest now entry.1 entry.2) p

def loadsTimed (quest : ℕ) (row : QuestRow) (info : Quest) : Bool :=
  info.timed && !(p.setData quest (row.data 0)).getQuestRewardStatus templates quest && decide (row.status ≠ .none)

def enterLog (slot quest timer : ℕ) (row : QuestRow) : Player :=
  (p.setQuestSlot slot quest timer).setQuestSlotState slot (row.explored || decide (row.status = .complete))
    (decide (row.status = .failed))

def loadQuest (now : ℕ) (state : Player × ℕ) (quest : ℕ) (row : QuestRow) : Player × ℕ :=
  match templates quest with
  | none => state
  | some info =>
    let timed := state.1.loadsTimed templates quest row info
    let timer := if timed then (if row.timer ≤ now then 1 else (row.timer - now) * inMilliseconds) else 0
    let p' := if timed then state.1.addTimedQuest quest else state.1
    let p' := p'.setData quest (row.data timer)
    if state.2 < maxQuestLogSize ∧ (row.data timer).active info then
      (p'.enterLog state.2 quest (if timed then row.timer else 0) row, state.2 + 1)
    else (p', state.2)

def loadRow (now : ℕ) (state : Player × ℕ) (quest : ℕ) : Player × ℕ :=
  match p.questRows.find quest with
  | none => state
  | some row => loadQuest templates now state quest row

-- The query gives the rows in some order.
def loadOrder (order : List ℕ) : List ℕ := if order.Perm p.questRows.keys then order else p.questRows.keys

def loadQuestStatus (now : ℕ) (order : List ℕ) : Player :=
  let fresh := { p with questStatus := OrderedMap.empty, timedquests := [] }
  let (loaded, slot) := (p.loadOrder order).foldl (p.loadRow templates now) (fresh, 0)
  { loaded with log := fun other => if slot ≤ other then {} else loaded.log other }

-- What items, money and reputation do to the log
def change : Input → Player
  | .itemAdded entry count => p.push [.itemAddedQuestCheck entry count 0]
  | .itemRemoved entry count => p.push [.itemRemovedQuestCheck entry count 0]
  | .moneyChanged count => p.push [.moneyChanged count 0]
  | .reputationChanged faction => p.push [.reputationChanged faction 0]
  | _ => p

def begin : Input → Player
  | .acceptQuest quest =>
    match templates quest with
    | some info =>
      if p.canTakeQuest view quest info false ∧ p.canAddQuest view quest then
        (p.push [.completeIfCan quest]).addQuest view quest info
      else p
    | none => p
  | .requestReward quest => p.completeIfCan templates view quest
  | .chooseReward quest reward =>
    match templates quest with
    | some info => if p.canRewardQuest templates view quest reward info then p.rewardQuest quest reward else p
    | none => p
  | .questLogRemoveQuest slot => p.handleQuestLogRemoveQuest templates view slot
  | .questLogSwapQuest slot1 slot2 =>
    if slot1 ≠ slot2 ∧ slot1 < maxQuestLogSize ∧ slot2 < maxQuestLogSize then p.swapQuestSlot slot1 slot2 else p
  | .areaExploredOrEventHappens quest => p.areaExploredOrEventHappens templates view quest
  | .creditObjective slot objective => p.creditObjective templates view slot objective
  | .failQuest quest => p.failQuest templates view quest
  | .update diff => p.update templates view diff
  | .addQuest quest =>
    match templates quest with
    | some info => if p.canAddQuest view quest then p.addQuest view quest info else p
    | none => p
  | .removeQuestAtSlot slot => p.removeQuestAtSlot templates view slot
  | .completeQuest quest => p.completeQuest templates quest
  | .incompleteQuest quest => p.incompleteQuest templates quest
  | .rewardQuest quest reward => if (templates quest).isSome then p.rewardQuest quest reward else p
  | .loseSkill skill => p.push [.dropQuests skill 0]
  | .saveQuestStatus => p.saveQuestStatus view.now
  | .loadQuestStatus order => p.loadQuestStatus templates view.now order
  | input => p.change input

def step (p : Player) (input : View × Input) : Player :=
  match p.calls with
  | [] => p.begin templates input.1 input.2
  | .items :: rest =>
    match input.2 with
    | .itemAdded _ _ | .itemRemoved _ _ | .moneyChanged _ | .reputationChanged _ => p.change input.2
    | _ => { p with calls := rest }
  | frame :: rest => { p with calls := rest }.resume templates input.1 frame

end Player

end TurtleWow.Quests

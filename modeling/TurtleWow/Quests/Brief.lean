import Mathlib.Logic.Relation
import TurtleWow.Quests.Machine

namespace TurtleWow.Quests

-- What the status of the quests depends on, without the objectives, the timers
-- and the save states: an abstract player, and what can happen to him

@[ext] structure Brief where
  questAt : ℕ → ℕ
  status : ℕ → QuestStatus
  rewarded : ℕ → Bool
  calls : List Frame
  history : List Event

def Quest.auto (info : Quest) : Bool := info.autoComplete || info.autoRewarded

-- A call that will change the log or the status of a quest
def Frame.pending (quest : ℕ) : Frame → Bool
  | .remove _ other | .rewardSlot other _ | .reward other | .drop other => other = quest
  | _ => false

def Frame.rewards (quest : ℕ) : Frame → Bool
  | .rewardSlot other _ | .reward other => other = quest
  | _ => false

namespace Brief

variable (b : Brief)

def InLog (quest : ℕ) : Prop := ∃ slot, b.questAt slot = quest

def setStatus (quest : ℕ) (status : QuestStatus) : Brief :=
  { b with status := Function.update b.status quest status, history := b.history ++ [.status quest status] }

def setSlot (slot quest : ℕ) : Brief := { b with questAt := Function.update b.questAt slot quest }

def swapSlot (slot1 slot2 : ℕ) : Brief :=
  { b with questAt := fun slot =>
      if slot = slot1 then b.questAt slot2 else if slot = slot2 then b.questAt slot1 else b.questAt slot }

def record (event : Event) : Brief := { b with history := b.history ++ [event] }

def push (frames : List Frame) : Brief := { b with calls := frames ++ b.calls }

-- `direct` allows the calls that no handler makes without a check of its own,
-- and the loss of a skill; `careful` is the condition on the others.
variable (templates : Templates) (direct careful : Prop)

def MayComplete (quest : ℕ) (info : Quest) : Prop :=
  b.status quest ≠ .complete ∧
    (info.autoRewarded ∨ info.autoComplete ∧ b.status quest = .none ∨ b.status quest = .incomplete)

-- A quest for which being complete or not makes no difference to the log
def Settled (quest : ℕ) (info : Quest) : Prop :=
  info.auto ∨ b.InLog quest ∨ (b.rewarded quest = true ∧ info.repeatable = false)

def MayReward (quest : ℕ) (info : Quest) : Prop :=
  (info.autoComplete ∨ b.status quest = .complete) ∧
    ¬ (b.status quest ≠ .none ∧ info.repeatable = false ∧ b.rewarded quest = true)

def Pushable : Frame → Prop
  | .remove slot quest => slot < maxQuestLogSize ∧ quest ≠ 0 ∧ b.questAt slot = quest ∧
      (b.calls = [] ∨ ∃ info, templates quest = some info ∧ info.repeatable = true)
  | .rewardSlot quest _ => ∃ info, templates quest = some info ∧ (direct ∨ b.calls = [] ∧ b.MayReward quest info)
  | .reward _ | .drop _ => False
  | _ => True

inductive Action : Brief → Brief → Prop
  | push {b : Brief} (frames : List Frame) (h : ∀ frame ∈ frames, b.Pushable templates direct frame)
      (hone : ∀ quest, (frames.countP (Frame.pending quest)) ≤ 1) : Action b (b.push frames)
  | pop {b : Brief} {frame : Frame} {rest : List Frame} (hcalls : b.calls = frame :: rest)
      (hplain : ∀ quest, frame.pending quest = false) : Action b { b with calls := rest }
  | complete {b : Brief} {quest : ℕ} {info : Quest} (hinfo : templates quest = some info)
      (hplain : info.autoRewarded = false) (h : b.MayComplete quest info ∨ direct ∧ b.Settled quest info) :
      Action b (b.setStatus quest .complete)
  | completeReward {b : Brief} {quest : ℕ} {info : Quest} (hinfo : templates quest = some info)
      (hauto : info.autoRewarded = true) (h : b.MayComplete quest info ∨ direct)
      (hfree : careful → ∀ frame ∈ b.calls, frame.pending quest = false) :
      Action b ((b.setStatus quest .complete).push [.items, .removeTimedQuest quest, .items, .rewardSlot quest 0])
  | incomplete {b : Brief} {quest : ℕ} {info : Quest} (hinfo : templates quest = some info)
      (h : b.InLog quest ∧ (careful → b.status quest ≠ .failed) ∨ direct ∧ b.Settled quest info) :
      Action b (b.setStatus quest .incomplete)
  | accept {b : Brief} {quest slot : ℕ} {info : Quest} (hinfo : templates quest = some info)
      (hslot : slot < maxQuestLogSize) (hfree : b.questAt slot = 0) (hnone : b.status quest = .none)
      (hcalls : ∀ frame ∈ b.calls, ∀ quest, frame.pending quest = false)
      (hrewarded : direct → b.rewarded quest = false ∨ info.repeatable = true) :
      Action b ((({ b with status := Function.update b.status quest .incomplete } : Brief).setSlot slot quest).record
        (.accepted quest))
  | fail {b : Brief} {quest : ℕ} {info : Quest} (hinfo : templates quest = some info) (hlog : b.InLog quest)
      (hplain : careful → info.auto = false) (hcalls : ∀ frame ∈ b.calls, ∀ quest, frame.rewards quest = false) :
      Action b (b.setStatus quest .failed)
  | remove {b : Brief} {slot quest : ℕ} {rest : List Frame} (hcalls : b.calls = .remove slot quest :: rest) :
      Action b ((({ b with calls := rest }.setStatus quest .none).setSlot slot 0).record (.removed quest))
  | rewardSlot {b : Brief} {slot quest reward : ℕ} {rest : List Frame}
      (hcalls : b.calls = .rewardSlot quest reward :: rest) (hslot : b.questAt slot = quest) :
      Action b ({ b with calls := .items :: .reward quest :: .items :: rest }.setSlot slot 0)
  | rewardNoSlot {b : Brief} {quest reward : ℕ} {rest : List Frame}
      (hcalls : b.calls = .rewardSlot quest reward :: rest) (hslot : ¬ b.InLog quest) :
      Action b { b with calls := .items :: .reward quest :: .items :: rest }
  | reward {b : Brief} {quest : ℕ} {info : Quest} {rest : List Frame} (hcalls : b.calls = .reward quest :: rest)
      (hinfo : templates quest = some info) :
      Action b ((({ b with calls := rest, rewarded := Function.update b.rewarded quest true } : Brief).record
        (.rewarded quest)).setStatus quest (if info.repeatable then .none else .complete))
  | dropSlot {b : Brief} {slot quest : ℕ} (hdirect : direct) (hinfo : (templates quest).isSome) (hquest : quest ≠ 0)
      (hslot : b.questAt slot = quest) : Action b ((b.setSlot slot 0).push [.items, .drop quest])
  | dropNoSlot {b : Brief} {quest : ℕ} (hdirect : direct) (hinfo : (templates quest).isSome) (hslot : ¬ b.InLog quest) :
      Action b (b.push [.drop quest])
  | drop {b : Brief} {quest : ℕ} {rest : List Frame} (hdirect : direct) (hcalls : b.calls = .drop quest :: rest) :
      Action b ({ b with calls := rest }.setStatus quest .none)
  | swap {b : Brief} {slot1 slot2 : ℕ} (h1 : slot1 < maxQuestLogSize) (h2 : slot2 < maxQuestLogSize)
      (hcalls : b.calls = []) :
      Action b (b.swapSlot slot1 slot2)

abbrev Acts : Brief → Brief → Prop := Relation.ReflTransGen (Action templates direct careful)

end Brief

def Player.brief (p : Player) : Brief where
  questAt slot := (p.log slot).questId
  status quest := (p.data quest).status
  rewarded quest := (p.data quest).rewarded
  calls := p.calls
  history := p.history

end TurtleWow.Quests

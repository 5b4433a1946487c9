import Mathlib.Data.List.Count
import TurtleWow.Quests.RewardedOnce
import TurtleWow.Quests.Steps

namespace TurtleWow.Quests

open Run

namespace Brief

variable {templates : Templates} {b b' : Brief}

structure Steady (templates : Templates) (b : Brief) : Prop where
  logged : Logged templates b
  watched : ∀ quest, Watched templates b quest
  once : ∀ quest info, templates quest = some info → info.repeatable = false → RewardedOnce b quest

theorem Steady.action (h : Steady templates b) (haction : Action templates False True b b') : Steady templates b' where
  logged := h.logged.action haction
  watched quest := (h.watched quest).action h.logged haction
  once quest info hinfo hplain := (h.once quest info hinfo hplain).action h.logged hinfo hplain haction

theorem Steady.acts (h : Steady templates b) (hacts : Acts templates False True b b') : Steady templates b' := by
  induction hacts with
  | refl => exact h
  | tail _ haction ih => exact ih.action haction

end Brief

namespace Player

variable (templates : Templates) (p : Player)

-- A quest that is not repeatable is rewarded once and stays so, and a failed quest
-- comes back only after it was removed from the log and accepted.
structure LifeCycle : Prop where
  once : ∀ quest info, templates quest = some info → info.repeatable = false →
    p.history.count (.rewarded quest) ≤ 1 ∧ (.rewarded quest ∈ p.history → (p.data quest).rewarded = true)
  revived : ∀ quest before between after event,
    p.history = before ++ .status quest .failed :: between ++ event :: after → event.Revives quest →
      ∃ first second third, between = first ++ .removed quest :: second ++ .accepted quest :: third
  accepted : ∀ quest before between after,
    p.history = before ++ .status quest .failed :: between ++ .accepted quest :: after → .removed quest ∈ between

-- What the callers check
def CheckedInput (view : View) : Input → Prop
  | .addQuest quest => ∀ info ∈ templates quest, p.canTakeQuest view quest info false = true
  | .completeQuest quest => p.canCompleteQuest templates view quest = true ∨ (p.data quest).status = .incomplete
  | .rewardQuest quest reward => ∀ info ∈ templates quest, p.canRewardQuest templates view quest reward info = true
  | .incompleteQuest _ | .loseSkill _ | .saveQuestStatus | .loadQuestStatus _ => False
  | _ => True

-- No skill is lost.
def CheckedStep (input : View × Input) : Prop :=
  match p.calls with
  | [] => p.CheckedInput templates input.1 input.2
  | .dropQuests _ _ :: _ | .drop _ :: _ => False
  | _ => True

-- What goes wrong: an item of a failed quest is lost, a quest fails that needs no
-- acceptance, or an auto-rewarded quest is complete again while it is rewarded.
def CarefulInput (view : View) : Input → Prop
  | .failQuest quest => p.FailsPlain templates quest
  | .update diff => Guarded (fun p quest => p.updateTimedQuest templates view diff quest)
      (fun p quest => p.UpdatesPlain templates diff quest) p p.timedquests
  | _ => True

def CarefulFrame (view : View) : Frame → Prop
  | .itemAddedQuestCheck entry _ slot => p.CompletesQuietlyAt templates view slot fun info =>
    info.deliver = true ∧ (itemObjective info entry).isSome = true
  | .itemRemovedQuestCheck entry count slot => p.KeepsFailed templates view entry count slot
  | .moneyChanged count slot => p.CompletesQuietlyAt templates view slot fun info =>
    info.rewOrReqMoney < 0 ∧ -info.rewOrReqMoney ≤ count
  | .reputationChanged faction slot => p.CompletesQuietlyAt templates view slot fun info =>
    info.repObjectiveFaction = faction ∧ info.repObjectiveValue ≤ view.reputation faction
  | .completeIfCan quest => p.CompletesQuietly templates view quest
  | _ => True

def CarefulStep (input : View × Input) : Prop :=
  match p.calls with
  | [] => p.CarefulInput templates input.1 input.2
  | frame :: _ => p.CarefulFrame templates input.1 frame

variable {templates p}

theorem inputOk_of_careful {careful : Prop} {view : View} {input : Input}
    (hchecked : p.CheckedInput templates view input) (hcareful : careful → p.CarefulInput templates view input) :
    p.InputOk templates False careful view input := by
  cases input with
  | acceptQuest quest => exact False.elim
  | failQuest quest => exact hcareful
  | update diff =>
    by_cases his : careful
    · have hguarded : p.CarefulInput templates view (.update diff) := hcareful his
      exact hguarded.mono _ fun _ _ h _ => h
    · exact guarded_of_forall _ _ (fun _ _ h => absurd h his) _ _
  | addQuest quest =>
    intro info hinfo hadd
    exact ⟨status_of_canTakeQuest (hchecked info hinfo), False.elim⟩
  | completeQuest quest =>
    intro info hinfo
    left
    rcases hchecked with hcan | hincomplete
    · obtain ⟨info', hinfo', hmay⟩ := mayComplete_of_canCompleteQuest hcan
      rwa [Option.some.inj (hinfo.symm.trans hinfo')]
    · exact ⟨(fun hcomplete => nomatch hincomplete.symm.trans hcomplete), .inr (.inr hincomplete)⟩
  | incompleteQuest quest => exact hchecked.elim
  | rewardQuest quest reward =>
    intro info hinfo
    exact .inr (mayReward_of_canRewardQuest hinfo (hchecked info hinfo))
  | loseSkill skill => exact hchecked
  | saveQuestStatus => exact hchecked
  | loadQuestStatus order => exact hchecked
  | _ => exact trivial

theorem stepOk_of_careful {careful : Prop} {input : View × Input} (hchecked : p.CheckedStep templates input)
    (hcareful : careful → p.CarefulStep templates input) : p.StepOk templates False careful input := by
  rw [CheckedStep] at hchecked
  rw [CarefulStep] at hcareful
  rw [StepOk]
  cases hcalls : p.calls with
  | nil =>
    rw [hcalls] at hchecked hcareful
    exact inputOk_of_careful hchecked hcareful
  | cons frame rest =>
    rw [hcalls] at hchecked hcareful
    cases frame with
    | itemAddedQuestCheck entry count slot => exact hcareful
    | itemRemovedQuestCheck entry count slot => exact hcareful
    | moneyChanged count slot => exact hcareful
    | reputationChanged faction slot => exact hcareful
    | completeIfCan quest => exact hcareful
    | dropQuests skill first => exact hchecked
    | drop quest => exact hchecked
    | _ => exact trivial

theorem steady_initial (templates : Templates) : Brief.Steady templates initial.brief := by
  have hfree : ∀ quest, initial.brief.stage quest = .free := fun _ => rfl
  refine ⟨⟨fun _ _ => rfl, fun _ _ h => absurd rfl h, fun _ h => absurd rfl h, nofun⟩, fun quest => .of_free (hfree quest),
    fun _ _ _ _ => ⟨Nat.zero_le 1, Nat.zero_le 1, nofun⟩⟩

theorem run_steady {inputs : List (View × Input)} (hchecked : Guarded (Player.step templates) (CheckedStep templates) initial inputs)
    (hcareful : Guarded (Player.step templates) (CarefulStep templates) initial inputs) :
    Brief.Steady templates (run (Player.step templates) initial inputs).brief :=
  run_invariant (Player.step templates) _ (fun p => Brief.Steady templates p.brief)
    (fun _ _ h hok => h.acts (acts_step h.logged (stepOk_of_careful hok.1 fun _ => hok.2))) (steady_initial templates)
    (hchecked.and _ hcareful)

theorem lifeCycle_of_steady (h : Brief.Steady templates p.brief) : p.LifeCycle templates where
  once quest info hinfo hplain :=
    ⟨(h.once quest info hinfo hplain).count, fun hmem => ((h.once quest info hinfo hplain).ended hmem).flag⟩
  revived quest before between after event hhistory hrevives := by
    have hunbroken : follow quest .free p.history ≠ .broken := (h.watched quest).unbroken
    exact removed_and_accepted (hhistory ▸ hunbroken) hrevives
  accepted quest before between after hhistory := by
    have hunbroken : follow quest .free p.history ≠ .broken := (h.watched quest).unbroken
    exact removed_before_accepted (hhistory ▸ hunbroken)

theorem quest_life_cycle {templates : Templates} {inputs : List (View × Input)}
    (hchecked : Guarded (Player.step templates) (CheckedStep templates) initial inputs)
    (hcareful : Guarded (Player.step templates) (CarefulStep templates) initial inputs) :
    (run (Player.step templates) initial inputs).LifeCycle templates :=
  lifeCycle_of_steady (run_steady hchecked hcareful)

-- A timed quest for an item
def parcel : Quest where
  repeatable := false
  timed := true
  deliver := true
  killOrCast := false
  speakTo := false
  explorationOrEvent := false
  autoRewarded := false
  autoComplete := false
  reqItemId i := if i = 0 then 100 else 0
  reqItemCount i := if i = 0 then 1 else 0
  reqCreatureOrGOId _ := 0
  reqCreatureOrGOCount _ := 0
  rewOrReqMoney := 0
  repObjectiveFaction := 0
  repObjectiveValue := 0
  requiredSkill := 0
  limitTime := 60
  rewChoiceItemId _ := 0

def parcels : Templates := ⟨fun quest => if quest = 1 then some parcel else none, rfl⟩

def willing (items : ℕ) : View where
  satisfies _ := true
  satisfiesBasic _ := true
  satisfiesChallenges _ := true
  canGiveSourceItem _ := true
  canStoreRewards _ _ := true
  canTakeStartItems _ := true
  itemCount _ _ := items
  money := 0
  reputation _ := 0
  now := 0
  sharedTimer := none

def rewardedParcel : List (View × Input) :=
  [(willing 1, .acceptQuest 1), (willing 1, .go), (willing 1, .go), (willing 1, .go), (willing 1, .update 10),
    (willing 1, .chooseReward 1 0), (willing 1, .go), (willing 1, .go), (willing 1, .go), (willing 1, .go),
    (willing 1, .go), (willing 1, .go), (willing 1, .go)]

theorem quest_life_cycle_parcel : (run (Player.step parcels) initial rewardedParcel).LifeCycle parcels :=
  quest_life_cycle
    ⟨trivial, trivial, trivial, trivial, trivial, trivial, trivial, trivial, trivial, trivial, trivial, trivial, trivial,
      trivial⟩
    ⟨trivial, trivial, trivial, nofun, ⟨fun htimer => absurd htimer (by decide), trivial⟩, trivial, trivial, trivial,
      trivial, trivial, trivial, trivial, trivial, trivial⟩

-- The item of a failed quest is lost, and the quest is incomplete again.
def lateParcel : List (View × Input) :=
  [(willing 1, .acceptQuest 1), (willing 1, .go), (willing 1, .go), (willing 1, .go), (willing 1, .update 60000),
    (willing 0, .itemRemoved 100 1), (willing 0, .go)]

theorem failed_quest_comes_back :
    Guarded (Player.step parcels) (CheckedStep parcels) initial lateParcel ∧
      ¬ (run (Player.step parcels) initial lateParcel).LifeCycle parcels := by
  refine ⟨⟨trivial, trivial, trivial, trivial, trivial, trivial, trivial, trivial⟩, fun h => ?_⟩
  obtain ⟨first, second, third, hnil⟩ := h.revived 1 [.accepted 1, .status 1 .complete] [] [] (.status 1 .incomplete)
    (by decide) (.inl rfl)
  simp at hnil

end Player

end TurtleWow.Quests

import TurtleWow.Quests.Recorded

namespace TurtleWow.Quests

open Run

-- The log, the statuses and the rows agree over the steps of a session.

namespace Player

open Brief QuestStatusData

variable {templates : Templates} {view : View} {p : Player} {quest : ℕ} {info : Quest}

structure Sane (templates : Templates) (p : Player) : Prop where
  logged : Logged templates p.brief
  agree : ∀ quest info, templates quest = some info → Agree p.brief quest info
  recorded : p.Recorded templates

-- Being complete or not makes no difference to the log.
def SettledHere (p : Player) (quest : ℕ) (info : Quest) : Prop :=
  info.auto = true ∨ p.findQuestSlot quest < maxQuestLogSize ∨ (p.data quest).rewarded = true ∧ info.repeatable = false

def Fresh (p : Player) (quest : ℕ) (info : Quest) : Prop := (p.data quest).rewarded = false ∨ info.repeatable = true

def DirectFrame (templates : Templates) (view : View) (p : Player) : Frame → Prop
  | .adjustQuestReqItemCount quest | .remove _ quest | .reward quest => p.Touchable quest
  | .completeIfCan quest => p.canCompleteQuest templates view quest = true → p.Touchable quest
  | _ => True

def DirectInput (templates : Templates) (view : View) (p : Player) : Input → Prop
  | .acceptQuest quest => ∀ info ∈ templates quest, p.canTakeQuest view quest info false = true →
      p.canAddQuest view quest = true → p.Fresh quest info ∧ p.Touchable quest
  | .requestReward quest | .areaExploredOrEventHappens quest =>
    p.canCompleteQuest templates view quest = true → p.Touchable quest
  | .update diff => Guarded (fun p quest => p.updateTimedQuest templates view diff quest)
      (fun p quest => diff < (p.data quest).timer → p.Touchable quest) p p.timedquests
  | .addQuest quest => ∀ info ∈ templates quest, p.canAddQuest view quest = true →
      (p.data quest).status = .none ∧ p.Fresh quest info ∧ p.Touchable quest
  | .completeQuest quest | .incompleteQuest quest =>
    (∀ info ∈ templates quest, p.SettledHere quest info) ∧ p.Touchable quest
  | .saveQuestStatus | .loadQuestStatus _ => False
  | _ => True

def DirectStep (templates : Templates) (p : Player) (input : View × Input) : Prop :=
  match p.calls with
  | [] => p.DirectInput templates input.1 input.2
  | frame :: _ => p.DirectFrame templates input.1 frame

theorem settled_of_settledHere (h : p.SettledHere quest info) : p.brief.Settled quest info := by
  rcases h with hauto | hslot | hover
  · exact .inl hauto
  · exact .inr (.inl ⟨_, findQuestSlot_spec hslot⟩)
  · exact .inr (.inr hover)

theorem inputOk_of_direct {input : Input} (h : p.DirectInput templates view input) :
    p.InputOk templates True False view input := by
  cases input with
  | acceptQuest quest => exact fun _ info hinfo htake hadd => (h info hinfo htake hadd).1
  | failQuest quest => exact False.elim
  | update diff => exact guarded_of_forall _ _ (fun _ _ => False.elim) _ _
  | addQuest quest =>
    intro info hinfo hadd
    obtain ⟨hnone, hfresh, -⟩ := h info hinfo hadd
    exact ⟨hnone, fun _ => hfresh⟩
  | completeQuest quest =>
    intro info hinfo
    exact .inr ⟨trivial, fun _ => settled_of_settledHere (h.1 info hinfo)⟩
  | incompleteQuest quest =>
    intro info hinfo
    exact .inr ⟨trivial, settled_of_settledHere (h.1 info hinfo)⟩
  | rewardQuest quest reward => exact fun _ _ => .inl trivial
  | loseSkill skill => exact trivial
  | saveQuestStatus => exact h
  | loadQuestStatus order => exact h
  | _ => exact trivial

theorem stepOk_of_direct {input : View × Input} (h : p.DirectStep templates input) :
    p.StepOk templates True False input := by
  rw [DirectStep] at h
  rw [StepOk]
  cases hcalls : p.calls with
  | nil =>
    rw [hcalls] at h
    exact inputOk_of_direct h
  | cons frame rest =>
    cases frame with
    | itemAddedQuestCheck entry count slot => exact False.elim
    | itemRemovedQuestCheck entry count slot => exact False.elim
    | moneyChanged count slot => exact False.elim
    | reputationChanged faction slot => exact False.elim
    | completeIfCan quest => exact False.elim
    | _ => exact trivial

theorem keeps_resume (h : p.Sane templates) {frame : Frame} {rest : List Frame} (hcalls : p.calls = frame :: rest)
    (hok : p.DirectFrame templates view frame) (hdrop : ∀ quest, frame ≠ .drop quest) :
    Keeps p (({ p with calls := rest } : Player).resume templates view frame) := by
  have hpop : Keeps p { p with calls := rest } := keeps_same rfl rfl
  have hnext : ∀ next, Keeps p (({ p with calls := rest } : Player).push [next]) := fun _ => keeps_same rfl rfl
  have hin : ∀ slot, (p.log slot).questId ≠ 0 → p.Touchable (p.log slot).questId := fun slot =>
    touchable_of_inLog h.logged h.recorded
  cases frame with
  | items => exact hpop
  | itemAddedQuestCheck entry count slot =>
    simp only [resume]
    split
    · exact (hnext _).trans (keeps_itemAddedQuestCheck (hin slot))
    · exact hpop
  | itemRemovedQuestCheck entry count slot =>
    simp only [resume]
    split
    · exact (hnext _).trans (keeps_itemRemovedQuestCheck (hin slot))
    · exact hpop
  | moneyChanged count slot =>
    simp only [resume]
    split
    · exact (hnext _).trans ((checked_moneyChanged count).keeps (hin slot))
    · exact hpop
  | reputationChanged faction slot =>
    simp only [resume]
    split
    · exact (hnext _).trans ((checked_reputationChanged faction).keeps (hin slot))
    · exact hpop
  | adjustQuestReqItemCount quest => exact hpop.trans (keeps_adjustQuestReqItemCount hok)
  | completeIfCan quest => exact hpop.trans (keeps_completeIfCan hok)
  | removeTimedQuest quest => exact hpop.trans (keeps_same rfl rfl)
  | remove slot quest => exact hpop.trans (keeps_remove (p := { p with calls := rest }) hok slot)
  | rewardSlot quest reward => exact hpop.trans (keeps_rewardSlot quest reward)
  | reward quest => exact hpop.trans (keeps_reward hok)
  | dropQuests skill first => exact hpop.trans (keeps_dropQuests skill first)
  | drop quest => exact absurd rfl (hdrop quest)

theorem keeps_change (input : Input) : Keeps p (p.change input) := by
  cases input with
  | itemAdded entry count => exact keeps_same rfl rfl
  | itemRemoved entry count => exact keeps_same rfl rfl
  | moneyChanged count => exact keeps_same rfl rfl
  | reputationChanged faction => exact keeps_same rfl rfl
  | _ => exact .refl p

theorem keeps_updateTimedQuest {diff : ℕ} (hlogged : Logged templates p.brief) (hrecorded : p.Recorded templates)
    (hok : diff < (p.data quest).timer → p.Touchable quest) :
    Keeps p (p.updateTimedQuest templates view diff quest) := by
  rw [updateTimedQuest]
  split
  · split
    · exact .refl p
    · split
      · exact .refl p
      · exact keeps_failQuest (touchable_of_findQuestSlot hlogged hrecorded)
  · next htimer => exact keeps_touched (hok (not_le.mp htimer)) rfl

theorem keeps_update {diff : ℕ} (hlogged : Logged templates p.brief) (hrecorded : p.Recorded templates)
    (hidle : p.Unrewarding) (hok : Guarded (fun p quest => p.updateTimedQuest templates view diff quest)
      (fun p quest => diff < (p.data quest).timer → p.Touchable quest) p p.timedquests) :
    Keeps p (p.update templates view diff) := by
  refine run_rel _ _ (fun p => Logged templates p.brief ∧ p.Recorded templates ∧ p.Unrewarding) Keeps Keeps.refl
    (fun _ _ _ => Keeps.trans) (fun p quest h hok => ?_) ⟨hlogged, hrecorded, hidle⟩ hok
  obtain ⟨hlogged, hrecorded, hidle⟩ := h
  have hkeeps := @keeps_updateTimedQuest _ view _ _ _ hlogged hrecorded hok
  refine ⟨⟨?_, hkeeps.to hrecorded, hidle.updateTimedQuest diff quest⟩, hkeeps⟩
  have hacts : Acts templates True False p.brief (p.updateTimedQuest templates view diff quest).brief :=
    acts_updateTimedQuest hidle False.elim
  exact hlogged.acts hacts

theorem keeps_begin (h : p.Sane templates) (hcalls : p.calls = []) {input : Input}
    (hok : p.DirectInput templates view input) : Keeps p (p.begin templates view input) := by
  have hin : ∀ slot, (p.log slot).questId ≠ 0 → p.Touchable (p.log slot).questId := fun slot =>
    touchable_of_inLog h.logged h.recorded
  cases input with
  | acceptQuest quest =>
    simp only [begin]
    split
    · next info hinfo =>
        split
        · next hchecks =>
            have htouch := (hok info hinfo hchecks.1 hchecks.2).2
            have hpush : Keeps p (p.push [.completeIfCan quest]) := keeps_same rfl rfl
            exact hpush.trans (keeps_addQuest htouch)
        · exact .refl p
    · exact .refl p
  | requestReward quest => exact keeps_completeIfCan hok
  | chooseReward quest reward =>
    simp only [begin]
    split
    · split
      · exact keeps_same rfl rfl
      · exact .refl p
    · exact .refl p
  | questLogRemoveQuest slot => exact keeps_handleQuestLogRemoveQuest slot
  | questLogSwapQuest slot1 slot2 =>
    simp only [begin]
    split
    · exact keeps_same rfl rfl
    · exact .refl p
  | areaExploredOrEventHappens quest =>
    exact keeps_areaExploredOrEventHappens (touchable_of_findQuestSlot h.logged h.recorded) hok
  | creditObjective slot objective => exact keeps_creditObjective objective (hin slot)
  | failQuest quest => exact keeps_failQuest (touchable_of_findQuestSlot h.logged h.recorded)
  | update diff => exact keeps_update h.logged h.recorded (by rw [Unrewarding, hcalls]; simp) hok
  | addQuest quest =>
    simp only [begin]
    split
    · next info hinfo =>
        split
        · next hadd => exact keeps_addQuest (hok info hinfo hadd).2.2
        · exact .refl p
    · exact .refl p
  | removeQuestAtSlot slot => exact keeps_removeQuestAtSlot slot
  | completeQuest quest => exact keeps_completeQuest hok.2
  | incompleteQuest quest => exact keeps_incompleteQuest hok.2
  | rewardQuest quest reward =>
    simp only [begin]
    split
    · exact keeps_same rfl rfl
    · exact .refl p
  | loseSkill skill => exact keeps_same rfl rfl
  | saveQuestStatus => exact hok.elim
  | loadQuestStatus order => exact hok.elim
  | itemAdded entry count => exact keeps_change (.itemAdded entry count)
  | itemRemoved entry count => exact keeps_change (.itemRemoved entry count)
  | moneyChanged count => exact keeps_change (.moneyChanged count)
  | reputationChanged faction => exact keeps_change (.reputationChanged faction)
  | go => exact .refl p

theorem agree_acts {b b' : Brief} (h : Acts templates True False b b') (hlogged : Logged templates b)
    (hinfo : templates quest = some info) (hagree : Agree b quest info) : Agree b' quest info := by
  induction h with
  | refl => exact hagree
  | tail hacts haction ih => exact ih.action (hlogged.acts hacts) hinfo trivial haction

theorem recorded_step (h : p.Sane templates) {input : View × Input} (hok : p.DirectStep templates input) :
    (p.step templates input).Recorded templates := by
  rw [DirectStep] at hok
  rw [step]
  cases hcalls : p.calls with
  | nil =>
    rw [hcalls] at hok
    exact (keeps_begin h hcalls hok).to h.recorded
  | cons frame rest =>
    rw [hcalls] at hok
    cases frame with
    | items =>
      dsimp only
      split
      · exact (keeps_change _).to h.recorded
      · exact (keeps_change _).to h.recorded
      · exact (keeps_change _).to h.recorded
      · exact (keeps_change _).to h.recorded
      · exact h.recorded
    | drop quest =>
      obtain ⟨hsome, -⟩ : FrameOk templates p.brief (.drop quest) := frameOk_head h.logged hcalls
      exact (recorded_drop (p := { p with calls := rest }) h.recorded hsome).1
    | _ => exact (keeps_resume h hcalls hok (by simp)).to h.recorded

theorem Sane.step (h : p.Sane templates) {input : View × Input} (hok : p.DirectStep templates input) :
    (p.step templates input).Sane templates where
  logged := h.logged.acts (acts_step h.logged (stepOk_of_direct hok))
  agree quest info hinfo := agree_acts (acts_step h.logged (stepOk_of_direct hok)) h.logged hinfo (h.agree quest info hinfo)
  recorded := recorded_step h hok

end Player

end TurtleWow.Quests

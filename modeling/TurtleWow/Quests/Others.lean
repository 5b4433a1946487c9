import TurtleWow.Quests.Steps

namespace TurtleWow.Quests

open List

-- What a call leaves alone: every quest but the one it is about.

namespace Brief

variable {b b' b'' : Brief} {quest other : ℕ}

structure Spares (quest : ℕ) (b b' : Brief) : Prop where
  status : b'.status quest = b.status quest
  rewarded : b'.rewarded quest = b.rewarded quest
  calls : ∀ frame ∈ b'.calls, frame.rewards quest = true → frame ∈ b.calls

theorem Spares.refl (quest : ℕ) (b : Brief) : Spares quest b b := ⟨rfl, rfl, fun _ hmem _ => hmem⟩

theorem Spares.of_eq (h : b' = b) : Spares quest b b' := h ▸ .refl quest b

theorem Spares.trans (first : Spares quest b b') (second : Spares quest b' b'') : Spares quest b b'' where
  status := second.status.trans first.status
  rewarded := second.rewarded.trans first.rewarded
  calls frame hmem hrewards := first.calls frame (second.calls frame hmem hrewards) hrewards

theorem Spares.setStatus (hne : other ≠ quest) (status : QuestStatus) : Spares other b (b.setStatus quest status) :=
  ⟨Function.update_of_ne hne _ _, rfl, fun _ hmem _ => hmem⟩

theorem Spares.push {frames : List Frame} (h : ∀ frame ∈ frames, frame.rewards quest = false) :
    Spares quest b (b.push frames) := by
  refine ⟨rfl, rfl, fun frame hmem hrewards => ?_⟩
  rcases mem_append.mp hmem with hnew | hold
  · exact nomatch (h frame hnew).symm.trans hrewards
  · exact hold

theorem Spares.pop {frame : Frame} {rest : List Frame} (hcalls : b.calls = frame :: rest) :
    Spares quest b { b with calls := rest } :=
  ⟨rfl, rfl, fun _ hmem _ => hcalls ▸ mem_cons_of_mem _ hmem⟩

end Brief

namespace Player

open Brief

variable {templates : Templates} {view : View} {p : Player} {quest other : ℕ} {info : Quest}

section

variable (hne : other ≠ quest)

include hne

theorem spares_setQuestStatus (status : QuestStatus) :
    Spares other p.brief (p.setQuestStatus templates quest status).brief := by
  by_cases hknown : (templates quest).isSome
  · rw [brief_setQuestStatus hknown]
    exact .setStatus hne status
  · rw [setQuestStatus, if_neg hknown]
    exact .refl _ _

theorem rewardFrames_other (reward : ℕ) :
    ∀ frame ∈ [Frame.items, .removeTimedQuest quest, .items, .rewardSlot quest reward], frame.rewards other = false := by
  intro frame hmem
  simp only [mem_cons, not_mem_nil, or_false] at hmem
  rcases hmem with rfl | rfl | rfl | rfl
  · rfl
  · rfl
  · rfl
  · exact decide_eq_false hne.symm

theorem spares_rewardQuest (reward : ℕ) :
    Spares other p.brief (p.rewardQuest quest reward).brief :=
  .push (rewardFrames_other hne reward)

theorem spares_completeQuest :
    Spares other p.brief (p.completeQuest templates quest).brief := by
  cases hinfo : templates quest with
  | none =>
    have hsame : p.setQuestStatus templates quest .complete = p :=
      if_neg (show ¬ (templates quest).isSome = true by rw [hinfo]; exact nofun)
    rw [completeQuest]
    split
    · exact .refl _ _
    · rw [hsame, hinfo]
      dsimp only
      split
      · exact .of_eq (brief_setQuestSlotState _ _ _ _)
      · exact .refl _ _
  | some info =>
    rw [brief_completeQuest hinfo]
    split
    · exact (Spares.setStatus hne _).trans (.push (rewardFrames_other hne 0))
    · exact .setStatus hne _

theorem spares_incompleteQuest :
    Spares other p.brief (p.incompleteQuest templates quest).brief := by
  by_cases hzero : quest = 0
  · rw [incompleteQuest, if_pos hzero]
    exact .refl _ _
  · rw [brief_incompleteQuest hzero]
    exact spares_setQuestStatus hne _

theorem spares_completeIfCan :
    Spares other p.brief (p.completeIfCan templates view quest).brief := by
  rw [completeIfCan]
  split
  · exact spares_completeQuest hne
  · exact .refl _ _

end

theorem spares_touched_completeIfCan {data : QuestStatusData} (hstatus : data.status = (p.data quest).status)
    (hrewarded : data.rewarded = (p.data quest).rewarded) (hne : other ≠ quest) :
    Spares other p.brief ((p.setData quest data.touched).completeIfCan templates view quest).brief :=
  (Spares.of_eq (brief_touched hstatus hrewarded)).trans (spares_completeIfCan hne)

theorem spares_touched_incompleteQuest {data : QuestStatusData} (hstatus : data.status = (p.data quest).status)
    (hrewarded : data.rewarded = (p.data quest).rewarded) (hne : other ≠ quest) :
    Spares other p.brief ((p.setData quest data.touched).incompleteQuest templates quest).brief :=
  (Spares.of_eq (brief_touched hstatus hrewarded)).trans (spares_incompleteQuest hne)

theorem spares_addQuest (hne : other ≠ quest) : Spares other p.brief (p.addQuest view quest info).brief := by
  rw [brief_addQuest]
  refine ⟨Function.update_of_ne hne _ _, rfl, fun frame hmem hrewards => ?_⟩
  rcases mem_append.mp hmem with hnew | hold
  · simp only [mem_cons, not_mem_nil, or_false] at hnew
    rcases hnew with rfl | rfl <;> cases hrewards
  · exact hold

theorem spares_pushRemove {slot : ℕ} {frames : List Frame} (hframes : ∀ frame ∈ frames, ∀ quest, frame.pending quest = false) :
    Spares other p.brief (p.push (frames ++ [.remove slot quest])).brief := by
  refine .push fun frame hmem => ?_
  rcases mem_append.mp hmem with hplain | hlast
  · exact rewards_of_pending (hframes frame hplain other)
  · rw [mem_singleton.mp hlast]
    rfl

theorem spares_removeQuestAtSlot (slot : ℕ) :
    Spares other p.brief (p.removeQuestAtSlot templates view slot).brief := by
  rw [removeQuestAtSlot]
  split
  · dsimp only
    split
    · next hzero => exact .of_eq (acts_freeSlot hzero)
    split
    · have hframes := plain_append (plain_append plain_items
        (@plain_removeTimed templates (p.log slot).questId)) plain_items
      have hpush := @spares_pushRemove p (p.log slot).questId other slot _ hframes
      simpa using hpush
    · exact .refl _ _
  · exact .refl _ _

theorem spares_handleQuestLogRemoveQuest (slot : ℕ) :
    Spares other p.brief (p.handleQuestLogRemoveQuest templates view slot).brief := by
  rw [handleQuestLogRemoveQuest]
  split
  · dsimp only
    split
    · next hzero => exact .of_eq (acts_freeSlot hzero)
    split
    · exact spares_pushRemove (plain_append plain_items plain_removeTimed)
    · exact .refl _ _
  · exact .refl _ _

theorem spares_failQuest (h : other ≠ quest ∨ ¬ p.brief.InLog other) :
    Spares other p.brief (p.failQuest templates view quest).brief := by
  rw [failQuest]
  split
  · exact .refl _ _
  · dsimp only
    split
    · exact spares_removeQuestAtSlot _
    · rw [brief_clearTimer]
      split
      · next hslot =>
          have hne : other ≠ quest := by
            rcases h with hne | hout
            · exact hne
            · rintro rfl
              exact hout ⟨_, findQuestSlot_spec hslot⟩
          refine Spares.trans (.of_eq ?_) (spares_setQuestStatus hne _)
          rw [brief_setQuestSlotState, brief_setQuestSlotTimer]
      · exact .refl _ _

theorem questAt_setQuestStatus (p : Player) (status : QuestStatus) :
    (p.setQuestStatus templates quest status).brief.questAt = p.brief.questAt := by
  rw [setQuestStatus]
  split <;> rfl

theorem questAt_removeQuestAtSlot (p : Player) (slot : ℕ) :
    (p.removeQuestAtSlot templates view slot).brief.questAt = p.brief.questAt := by
  rw [removeQuestAtSlot]
  split
  · dsimp only
    split
    · next hzero => rw [acts_freeSlot hzero]
    split <;> rfl
  · rfl

theorem questAt_failQuest (p : Player) (quest : ℕ) :
    (p.failQuest templates view quest).brief.questAt = p.brief.questAt := by
  rw [failQuest]
  split
  · rfl
  · dsimp only
    split
    · exact questAt_removeQuestAtSlot _ _
    · rw [brief_clearTimer]
      split
      · rw [questAt_setQuestStatus, brief_setQuestSlotState, brief_setQuestSlotTimer]
      · rfl

theorem questAt_updateTimedQuest (p : Player) (diff quest : ℕ) :
    (p.updateTimedQuest templates view diff quest).brief.questAt = p.brief.questAt := by
  rw [updateTimedQuest]
  split
  · split
    · rfl
    · split
      · rfl
      · exact questAt_failQuest _ _
  · exact congrArg Brief.questAt (brief_touched rfl rfl)

theorem spares_updateTimedQuest {diff : ℕ} (hout : ¬ p.brief.InLog other) :
    Spares other p.brief (p.updateTimedQuest templates view diff quest).brief := by
  rw [updateTimedQuest]
  split
  · split
    · exact .refl _ _
    · split
      · exact .refl _ _
      · exact spares_failQuest (.inr hout)
  · exact .of_eq (brief_touched rfl rfl)

theorem spares_update {diff : ℕ} (hout : ¬ p.brief.InLog other) :
    Spares other p.brief (p.update templates view diff).brief := by
  rw [update]
  generalize p.timedquests = quests
  induction quests generalizing p with
  | nil => exact .refl _ _
  | cons quest rest ih =>
    have hsame := @questAt_updateTimedQuest templates view p diff quest
    have hstill : ¬ (p.updateTimedQuest templates view diff quest).brief.InLog other := by
      rintro ⟨slot, hslot⟩
      exact hout ⟨slot, hsame ▸ hslot⟩
    exact (spares_updateTimedQuest hout).trans (ih hstill)

theorem spares_slot {p' : Player} {slot : ℕ} (hout : ¬ p.brief.InLog other)
    (h : other ≠ (p.log slot).questId → Spares other p.brief p'.brief) : Spares other p.brief p'.brief :=
  h fun hsame => hout ⟨slot, hsame.symm⟩

theorem spares_creditObjective {slot objective : ℕ} (hout : ¬ p.brief.InLog other) :
    Spares other p.brief (p.creditObjective templates view slot objective).brief := by
  refine @spares_slot _ _ _ slot hout fun hne => ?_
  rw [creditObjective]
  dsimp only
  split
  · exact .refl _ _
  split
  · exact .refl _ _
  split
  · split
    · exact spares_touched_completeIfCan rfl rfl hne
    · exact spares_completeIfCan hne
  · exact .refl _ _

theorem spares_itemAddedQuestCheck {entry count slot : ℕ} (hout : ¬ p.brief.InLog other) :
    Spares other p.brief (p.itemAddedQuestCheck templates view entry count slot).brief := by
  refine @spares_slot _ _ _ slot hout fun hne => ?_
  rw [itemAddedQuestCheck]
  split
  · exact .refl _ _
  split
  · exact .refl _ _
  split
  · split
    · exact .refl _ _
    · split
      · exact spares_touched_completeIfCan rfl rfl hne
      · exact spares_completeIfCan hne
  · exact .refl _ _

theorem spares_itemRemovedQuestCheck {entry count slot : ℕ} (hout : ¬ p.brief.InLog other) :
    Spares other p.brief (p.itemRemovedQuestCheck templates view entry count slot).brief := by
  refine @spares_slot _ _ _ slot hout fun hne => ?_
  rw [itemRemovedQuestCheck]
  dsimp only
  split
  · exact .refl _ _
  split
  · exact .refl _ _
  split
  · split
    · exact .refl _ _
    · split
      · exact spares_touched_incompleteQuest rfl rfl hne
      · exact .refl _ _
  · exact .refl _ _

theorem Checked.spares {slot : ℕ} {reached : Quest → Prop} {p' : Player}
    (h : Checked templates view p slot reached p') (hout : ¬ p.brief.InLog other) : Spares other p.brief p'.brief := by
  refine @spares_slot _ _ _ slot hout fun hne => ?_
  cases h with
  | same => exact .refl _ _
  | completes _ _ _ _ _ => exact spares_completeIfCan hne
  | spoils _ _ => exact spares_incompleteQuest hne

theorem areaExplored_of_out (hout : ¬ p.brief.InLog quest) : (p.areaExploredOrEventHappens templates view quest).brief =
    p.brief ∨ (p.areaExploredOrEventHappens templates view quest) = p.completeIfCan templates view quest := by
  rw [areaExploredOrEventHappens]
  split
  · exact .inl rfl
  · right
    have hnot : ¬ (p.findQuestSlot quest < maxQuestLogSize ∧ (p.data quest).explored = false) :=
      fun h => hout ⟨_, findQuestSlot_spec h.1⟩
    dsimp only
    rw [if_neg hnot]

theorem spares_areaExploredOrEventHappens (hne : other ≠ quest) :
    Spares other p.brief (p.areaExploredOrEventHappens templates view quest).brief := by
  rw [areaExploredOrEventHappens]
  split
  · exact .refl _ _
  dsimp only
  split
  · have hslot := brief_setQuestSlotState p (p.findQuestSlot quest) true false
    exact hslot ▸ spares_touched_completeIfCan (p := p.setQuestSlotState (p.findQuestSlot quest) true false) rfl rfl hne
  · exact spares_completeIfCan hne

theorem spares_pop {frame : Frame} {rest : List Frame} (hcalls : p.calls = frame :: rest) :
    Spares other p.brief ({ p with calls := rest } : Player).brief := .pop hcalls

theorem spares_next {frame next : Frame} {rest : List Frame} (hcalls : p.calls = frame :: rest)
    (hnext : next.rewards other = false) :
    Spares other p.brief (({ p with calls := rest } : Player).push [next]).brief :=
  (spares_pop hcalls).trans (.push fun _ hmem => mem_singleton.mp hmem ▸ hnext)

theorem spares_remove {slot : ℕ} (hne : other ≠ quest) :
    Spares other p.brief (p.remove templates slot quest).brief := by
  rw [remove, brief_record, brief_setQuestSlot]
  have hstatus := @spares_setQuestStatus templates p _ _ hne .none
  exact ⟨hstatus.status, hstatus.rewarded, hstatus.calls⟩

theorem spares_rewardSlot {reward : ℕ} (hne : other ≠ quest) :
    Spares other p.brief (p.rewardSlot templates quest reward).brief := by
  have hpush : ∀ frame ∈ [Frame.items, .reward quest, .items], frame.rewards other = false := by
    intro frame hmem
    simp only [mem_cons, not_mem_nil, or_false] at hmem
    rcases hmem with rfl | rfl | rfl
    · rfl
    · exact decide_eq_false hne.symm
    · rfl
  rw [brief_rewardSlot]
  refine Spares.trans ?_ (.push hpush)
  split
  · exact ⟨rfl, rfl, fun _ hmem _ => hmem⟩
  · exact .refl _ _

theorem spares_reward (hne : other ≠ quest) : Spares other p.brief (p.reward templates quest).brief := by
  cases hinfo : templates quest with
  | none =>
    rw [reward, hinfo]
    exact .refl _ _
  | some info =>
    rw [brief_reward hinfo]
    have hflag : Spares other p.brief
        (({ p.brief with rewarded := Function.update p.brief.rewarded quest true } : Brief).record (.rewarded quest)) :=
      ⟨rfl, Function.update_of_ne hne _ _, fun _ hmem _ => hmem⟩
    exact hflag.trans (.setStatus hne _)

theorem spares_change (input : Input) : Spares other p.brief (p.change input).brief := by
  cases input with
  | itemAdded entry count => exact .push fun _ hmem => mem_singleton.mp hmem ▸ rfl
  | itemRemoved entry count => exact .push fun _ hmem => mem_singleton.mp hmem ▸ rfl
  | moneyChanged count => exact .push fun _ hmem => mem_singleton.mp hmem ▸ rfl
  | reputationChanged faction => exact .push fun _ hmem => mem_singleton.mp hmem ▸ rfl
  | _ => exact .refl _ _

end Player

end TurtleWow.Quests

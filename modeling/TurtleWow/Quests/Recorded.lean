import TurtleWow.Quests.Agree
import TurtleWow.Quests.Steps

namespace TurtleWow.Quests

open Run

-- What the save state of a quest says of its row

structure QuestRow.Matches (row : QuestRow) (data : QuestStatusData) : Prop where
  status : row.status = data.status
  rewarded : row.rewarded = data.rewarded
  explored : row.explored = data.explored
  mobcount : row.mobcount = data.creatureOrGOcount
  itemcount : row.itemcount = data.itemcount

def QuestStatusData.Recorded (row : Option QuestRow) (data : QuestStatusData) : Prop :=
  match data.uState with
  | .new => row = none
  | .changed => row.isSome = true
  | .unchanged => ∃ found, row = some found ∧ found.Matches data
  | .deleted => data.status = .none

-- A quest that is marked as changed needs a row to update.
def QuestStatusData.Touchable (row : Option QuestRow) (data : QuestStatusData) : Prop :=
  data.uState = .deleted → row.isSome = true

-- What is not saved changes, or the quest is marked.
inductive QuestStatusData.Edit (row : Option QuestRow) (old new : QuestStatusData) : Prop
  | silent (hstate : new.uState = old.uState) (hstatus : new.status = old.status)
      (hmatches : ∀ found : QuestRow, found.Matches old → found.Matches new)
  | touch (h : old.Touchable row) (hstate : new.uState = if old.uState = .new then .new else .changed)

namespace QuestStatusData

variable {row : Option QuestRow} {old new : QuestStatusData}

theorem Edit.recorded (h : Edit row old new) (hold : old.Recorded row) : new.Recorded row := by
  rw [Recorded] at hold ⊢
  cases h with
  | silent hstate hstatus hmatches =>
    rw [hstate]
    cases hcase : old.uState with
    | new => rwa [hcase] at hold
    | changed => rwa [hcase] at hold
    | unchanged =>
      rw [hcase] at hold
      obtain ⟨found, hrow, hfound⟩ := hold
      exact ⟨found, hrow, hmatches found hfound⟩
    | deleted =>
      rw [hcase] at hold
      exact hstatus.trans hold
  | touch htouch hstate =>
    rw [hstate]
    cases hcase : old.uState with
    | new => rwa [hcase] at hold
    | changed => rwa [hcase] at hold
    | unchanged =>
      rw [hcase] at hold
      obtain ⟨found, hrow, -⟩ := hold
      exact Option.isSome_of_eq_some hrow
    | deleted => exact htouch hcase

theorem Edit.touchable (h : Edit row old new) (hold : old.Touchable row) : new.Touchable row := by
  intro hdeleted
  cases h with
  | silent hstate hstatus hmatches => exact hold (hstate.symm.trans hdeleted)
  | touch htouch hstate =>
    rw [hdeleted] at hstate
    split at hstate <;> cases hstate

theorem touched_uState (data : QuestStatusData) :
    data.touched.uState = if data.uState = .new then .new else .changed := by
  rw [touched]
  split
  · next hnew => exact hnew
  · rfl

theorem edit_touched {data : QuestStatusData} (h : old.Touchable row) (hstate : data.uState = old.uState) :
    Edit row old data.touched := .touch h (by rw [touched_uState, hstate])

theorem touchable_of_status (h : old.Recorded row) (hstatus : old.status ≠ .none) : old.Touchable row := by
  intro hdeleted
  rw [Recorded, hdeleted] at h
  exact absurd h hstatus

end QuestStatusData

namespace Player

open Brief QuestStatusData

variable {templates : Templates} {view : View} {direct careful : Prop} {p p' p'' : Player} {quest : ℕ} {info : Quest}

def Touchable (p : Player) (quest : ℕ) : Prop := (p.data quest).Touchable (p.questRows.find quest)

def Recorded (templates : Templates) (p : Player) : Prop :=
  ∀ quest, (templates quest).isSome → (p.data quest).Recorded (p.questRows.find quest)

-- The rows stay, and what has happened to each quest is recorded.
structure Keeps (p p' : Player) : Prop where
  rows : p'.questRows = p.questRows
  recorded : ∀ quest, (p.data quest).Recorded (p.questRows.find quest) → (p'.data quest).Recorded (p'.questRows.find quest)
  touchable : ∀ quest, p.Touchable quest → p'.Touchable quest

theorem Keeps.refl (p : Player) : Keeps p p := ⟨rfl, fun _ => id, fun _ => id⟩

theorem Keeps.trans (h : Keeps p p') (h' : Keeps p' p'') : Keeps p p'' where
  rows := h'.rows.trans h.rows
  recorded quest hold := h'.recorded quest (h.recorded quest hold)
  touchable quest hold := h'.touchable quest (h.touchable quest hold)

theorem Keeps.to (h : Keeps p p') (hp : p.Recorded templates) : p'.Recorded templates :=
  fun quest hsome => h.recorded quest (hp quest hsome)

theorem keeps_same (hstatus : p'.questStatus = p.questStatus) (hrows : p'.questRows = p.questRows) : Keeps p p' := by
  have hdata : ∀ quest, p'.data quest = p.data quest := fun quest => by rw [data, data, hstatus]
  refine ⟨hrows, fun quest hold => ?_, fun quest hold => ?_⟩
  · rwa [hdata, hrows]
  · rwa [Touchable, hdata, hrows]

theorem keeps_edit (hrows : p'.questRows = p.questRows)
    (h : ∀ other, p'.data other = p.data other ∨ Edit (p.questRows.find other) (p.data other) (p'.data other)) :
    Keeps p p' := by
  refine ⟨hrows, fun other hold => ?_, fun other hold => ?_⟩
  · rw [hrows]
    rcases h other with hsame | hedit
    · rwa [hsame]
    · exact hedit.recorded hold
  · rw [Touchable, hrows]
    rcases h other with hsame | hedit
    · rw [hsame]
      exact hold
    · exact hedit.touchable hold

variable {data : QuestStatusData} {slot : ℕ}

theorem keeps_setData (h : Edit (p.questRows.find quest) (p.data quest) data) :
    Keeps p (p.setData quest data) := by
  refine keeps_edit rfl fun other => ?_
  rw [data_setData]
  split
  · next hsame =>
      rw [hsame]
      exact .inr h
  · exact .inl rfl

section

variable (h : p.Touchable quest)

include h

theorem keeps_touched (hstate : data.uState = (p.data quest).uState) :
    Keeps p (p.setData quest data.touched) := keeps_setData (edit_touched h hstate)

theorem keeps_setQuestStatus (status : QuestStatus) : Keeps p (p.setQuestStatus templates quest status) := by
  rw [setQuestStatus]
  split
  · have hset : Keeps p (p.setData quest { p.data quest with status }.touched) := keeps_touched h rfl
    exact hset.trans (keeps_same rfl rfl)
  · exact .refl p

theorem keeps_completeQuest : Keeps p (p.completeQuest templates quest) := by
  rw [completeQuest]
  split
  · exact .refl p
  · dsimp only
    have hlog : ∀ slot, Keeps p (if slot < maxQuestLogSize then
        (p.setQuestStatus templates quest .complete).setQuestSlotState slot true false
        else p.setQuestStatus templates quest .complete) := by
      intro slot
      split
      · exact (keeps_setQuestStatus h .complete).trans (keeps_same rfl rfl)
      · exact keeps_setQuestStatus h .complete
    split
    · split
      · exact (hlog _).trans (keeps_same rfl rfl)
      · exact hlog _
    · exact hlog _

theorem keeps_incompleteQuest : Keeps p (p.incompleteQuest templates quest) := by
  rw [incompleteQuest]
  split
  · exact .refl p
  · dsimp only
    split
    · exact (keeps_setQuestStatus h .incomplete).trans (keeps_same rfl rfl)
    · exact keeps_setQuestStatus h .incomplete

end

theorem keeps_completeIfCan (h : p.canCompleteQuest templates view quest = true → p.Touchable quest) :
    Keeps p (p.completeIfCan templates view quest) := by
  rw [completeIfCan]
  split
  · next hcan => exact keeps_completeQuest (h hcan)
  · exact .refl p

theorem keeps_touched_completeIfCan (h : p.Touchable quest)
    (hstate : data.uState = (p.data quest).uState) :
    Keeps p ((p.setData quest data.touched).completeIfCan templates view quest) := by
  have htouched := keeps_touched h hstate
  exact htouched.trans (keeps_completeIfCan fun _ => htouched.touchable quest h)

theorem keeps_addQuest (h : p.Touchable quest) : Keeps p (p.addQuest view quest info) := by
  rw [addQuest]
  have htimed : Keeps p (if info.timed = true then p.addTimedQuest quest else p) := by
    split
    · exact keeps_same rfl rfl
    · exact .refl p
  have hdata : (if info.timed = true then p.addTimedQuest quest else p).data quest = p.data quest := by
    split <;> rfl
  refine htimed.trans (.trans (keeps_touched (htimed.touchable quest h) ?_) (keeps_same rfl rfl))
  rw [hdata]

theorem keeps_adjustQuestReqItemCount (h : p.Touchable quest) :
    Keeps p (p.adjustQuestReqItemCount templates view quest) := by
  rw [adjustQuestReqItemCount]
  split
  · exact .refl p
  · next info hinfo =>
      split
      · refine run_rel _ (fun _ _ => True) (fun p' => p'.Touchable quest) Keeps Keeps.refl (fun _ _ _ => Keeps.trans)
          (fun p' i h' _ => ?_) h (guarded_of_forall _ _ (fun _ _ => trivial) _ _)
        split
        · have htouched : Keeps p' (p'.setData quest { p'.data quest with
              itemcount := Function.update (p'.data quest).itemcount i
                (min (view.itemCount (info.reqItemId i) true) (info.reqItemCount i)) }.touched) := keeps_touched h' rfl
          exact ⟨htouched.touchable quest h', htouched⟩
        · exact ⟨h', .refl p'⟩
      · exact .refl p

theorem keeps_removeQuestAtSlot (slot : ℕ) : Keeps p (p.removeQuestAtSlot templates view slot) := by
  rw [removeQuestAtSlot]
  split
  · dsimp only
    split
    · exact keeps_same rfl rfl
    split
    · exact keeps_same rfl rfl
    · exact .refl p
  · exact .refl p

theorem keeps_handleQuestLogRemoveQuest (slot : ℕ) : Keeps p (p.handleQuestLogRemoveQuest templates view slot) := by
  rw [handleQuestLogRemoveQuest]
  split
  · dsimp only
    split
    · exact keeps_same rfl rfl
    split
    · exact keeps_same rfl rfl
    · exact .refl p
  · exact .refl p

theorem keeps_silent (hstate : data.uState = (p.data quest).uState)
    (hstatus : data.status = (p.data quest).status)
    (hmatches : ∀ found : QuestRow, found.Matches (p.data quest) → found.Matches data) : Keeps p (p.setData quest data) :=
  keeps_setData (.silent hstate hstatus hmatches)

theorem keeps_clearTimer (p : Player) (quest : ℕ) : Keeps p (p.setData quest { p.data quest with timer := 0 }) :=
  keeps_silent rfl rfl fun _ h => ⟨h.status, h.rewarded, h.explored, h.mobcount, h.itemcount⟩

theorem keeps_failQuest (h : quest ≠ 0 → p.findQuestSlot quest < maxQuestLogSize → p.Touchable quest) :
    Keeps p (p.failQuest templates view quest) := by
  rw [failQuest]
  split
  · exact .refl p
  · next info hinfo =>
    split
    · exact keeps_removeQuestAtSlot _
    · have hlog : Keeps p (if p.findQuestSlot quest < maxQuestLogSize then
          ((p.setQuestSlotTimer (p.findQuestSlot quest) 1).setQuestSlotState (p.findQuestSlot quest) false
            true).setQuestStatus templates quest .failed else p) := by
        split
        · next hslot =>
            have hstate : Keeps p ((p.setQuestSlotTimer (p.findQuestSlot quest) 1).setQuestSlotState
              (p.findQuestSlot quest) false true) := keeps_same rfl rfl
            exact hstate.trans (keeps_setQuestStatus (hstate.touchable quest (h (ne_zero_of_info hinfo) hslot)) .failed)
        · exact .refl p
      have htimer : ∀ p', Keeps p p' → Keeps p ((p'.removeTimedQuest quest).setData quest
          { (p'.removeTimedQuest quest).data quest with timer := 0 }) := by
        intro p' hp'
        have hremoved : Keeps p (p'.removeTimedQuest quest) := hp'.trans (keeps_same rfl rfl)
        exact hremoved.trans (keeps_clearTimer (p'.removeTimedQuest quest) quest)
      split
      · exact htimer _ hlog
      · exact hlog

theorem keeps_rewardChoice (p : Player) (quest choice : ℕ) :
    Keeps p (p.setData quest { p.data quest with rewardChoice := choice }) :=
  keeps_silent rfl rfl fun _ h => ⟨h.status, h.rewarded, h.explored, h.mobcount, h.itemcount⟩

theorem keeps_rewardSlot (quest reward : ℕ) : Keeps p (p.rewardSlot templates quest reward) := by
  rw [rewardSlot]
  have hlog : Keeps p (if p.findQuestSlot quest < maxQuestLogSize then p.setQuestSlot (p.findQuestSlot quest) 0 0 else p) := by
    split
    · exact keeps_same rfl rfl
    · exact .refl p
  have hchoice : ∀ p', Keeps p p' → ∀ choice, Keeps p (p'.setData quest { p'.data quest with rewardChoice := choice }) :=
    fun p' hp' choice => hp'.trans (keeps_rewardChoice p' quest choice)
  exact (hchoice _ hlog _).trans (keeps_same rfl rfl)

theorem data_setQuestStatus (h : (templates quest).isSome) (status : QuestStatus) (other : ℕ) :
    (p.setQuestStatus templates quest status).data other =
      if other = quest then { p.data quest with status }.touched else p.data other := by
  rw [setQuestStatus, if_pos h]
  exact data_setData p quest other _

theorem rows_setQuestStatus (p : Player) (quest : ℕ) (status : QuestStatus) :
    (p.setQuestStatus templates quest status).questRows = p.questRows := by
  rw [setQuestStatus]
  split <;> rfl

theorem keeps_reward (h : p.Touchable quest) : Keeps p (p.reward templates quest) := by
  rw [reward]
  split
  · exact .refl p
  · next info hinfo =>
      refine keeps_edit (rows_setQuestStatus _ quest _) fun other => ?_
      rw [data_setQuestStatus (Option.isSome_of_eq_some hinfo)]
      have hflag : ∀ other, ((p.setData quest { p.data quest with rewarded := true }).record (.rewarded quest)).data other =
          if other = quest then { p.data quest with rewarded := true } else p.data other := fun other =>
        data_setData p quest other _
      split
      · next hsame =>
          rw [hflag, if_pos rfl, hsame]
          exact .inr (edit_touched h rfl)
      · next hne =>
          rw [hflag, if_neg hne]
          exact .inl rfl

theorem keeps_remove (h : p.Touchable quest) (slot : ℕ) : Keeps p (p.remove templates slot quest) := by
  rw [remove]
  exact (keeps_setQuestStatus h .none).trans (keeps_same rfl rfl)

theorem recorded_drop (h : p.Recorded templates) (hsome : (templates quest).isSome) :
    (p.drop templates quest).Recorded templates ∧ (p.drop templates quest).questRows = p.questRows := by
  have hrows : (p.drop templates quest).questRows = p.questRows := rows_setQuestStatus p quest .none
  refine ⟨fun other hother => ?_, hrows⟩
  rw [hrows]
  have hdata : (p.drop templates quest).data other = if other = quest then
      { (p.setQuestStatus templates quest .none).data quest with uState := .deleted }
      else (p.setQuestStatus templates quest .none).data other := data_setData _ quest other _
  rw [hdata]
  split
  · show ((p.setQuestStatus templates quest .none).data quest).status = .none
    rw [data_setQuestStatus hsome, if_pos rfl, touched_status]
  · next hne =>
      rw [data_setQuestStatus hsome, if_neg hne]
      exact h other hother

theorem keeps_dropQuests (skill first : ℕ) : Keeps p (p.dropQuests templates skill first) := by
  rw [dropQuests]
  split
  · exact .refl p
  · dsimp only
    split
    · exact keeps_same rfl rfl
    · split
      · split
        · exact keeps_same rfl rfl
        · exact keeps_same rfl rfl
      · exact keeps_same rfl rfl

theorem keeps_areaExploredOrEventHappens (hlog : quest ≠ 0 → p.findQuestSlot quest < maxQuestLogSize → p.Touchable quest)
    (hcan : p.canCompleteQuest templates view quest = true → p.Touchable quest) :
    Keeps p (p.areaExploredOrEventHappens templates view quest) := by
  rw [areaExploredOrEventHappens]
  split
  · exact .refl p
  · next hquest =>
    dsimp only
    split
    · next hslot =>
        have hstate : Keeps p (p.setQuestSlotState (p.findQuestSlot quest) true false) := keeps_same rfl rfl
        exact hstate.trans (keeps_touched_completeIfCan (hstate.touchable quest (hlog hquest hslot.1)) rfl)
    · exact keeps_completeIfCan hcan

theorem keeps_creditObjective (objective : ℕ)
    (h : (p.log slot).questId ≠ 0 → p.Touchable (p.log slot).questId) :
    Keeps p (p.creditObjective templates view slot objective) := by
  rw [creditObjective]
  dsimp only
  split
  · exact .refl p
  · next hslot =>
      have htouch := h fun hzero => hslot (.inr hzero)
      split
      · exact .refl p
      · split
        · split
          · exact keeps_touched_completeIfCan htouch rfl
          · exact keeps_completeIfCan fun _ => htouch
        · exact .refl p

theorem keeps_itemAddedQuestCheck {entry count : ℕ} (h : (p.log slot).questId ≠ 0 → p.Touchable (p.log slot).questId) :
    Keeps p (p.itemAddedQuestCheck templates view entry count slot) := by
  rw [itemAddedQuestCheck]
  split
  · exact .refl p
  · next hslot =>
      have htouch := h fun hzero => hslot (.inl hzero)
      split
      · exact .refl p
      · split
        · split
          · exact .refl p
          · split
            · exact keeps_touched_completeIfCan htouch rfl
            · exact keeps_completeIfCan fun _ => htouch
        · exact .refl p

theorem keeps_itemRemovedQuestCheck {entry count : ℕ}
    (h : (p.log slot).questId ≠ 0 → p.Touchable (p.log slot).questId) :
    Keeps p (p.itemRemovedQuestCheck templates view entry count slot) := by
  rw [itemRemovedQuestCheck]
  dsimp only
  split
  · exact .refl p
  · next hzero =>
      split
      · exact .refl p
      · next info hinfo =>
          split
          · split
            · exact .refl p
            · next j hj =>
              split
              · have htouched : Keeps p (p.setData (p.log slot).questId { p.data (p.log slot).questId with
                    itemcount := Function.update (p.data (p.log slot).questId).itemcount j
                      (countAfterLoss view info (p.data (p.log slot).questId) entry count j) }.touched) :=
                  keeps_touched (h hzero) rfl
                exact htouched.trans (keeps_incompleteQuest (htouched.touchable _ (h hzero)))
              · exact .refl p
          · exact .refl p

theorem Checked.keeps {reached : Quest → Prop} (hchecked : Checked templates view p slot reached p')
    (h : (p.log slot).questId ≠ 0 → p.Touchable (p.log slot).questId) : Keeps p p' := by
  cases hchecked with
  | same => exact .refl p
  | completes hslot _ _ _ _ => exact keeps_completeIfCan fun _ => h hslot
  | spoils hslot _ => exact keeps_incompleteQuest (h hslot)

theorem touchable_of_inLog (hlogged : Logged templates p.brief) (h : p.Recorded templates)
    (hslot : (p.log slot).questId ≠ 0) : p.Touchable (p.log slot).questId := by
  obtain ⟨hstatus, hsome⟩ := hlogged.live slot hslot
  exact touchable_of_status (h _ hsome) hstatus

theorem touchable_of_findQuestSlot (hlogged : Logged templates p.brief) (h : p.Recorded templates) (hquest : quest ≠ 0)
    (hslot : p.findQuestSlot quest < maxQuestLogSize) : p.Touchable quest := by
  have hat := findQuestSlot_spec hslot
  have htouch := touchable_of_inLog hlogged h (hat.symm ▸ hquest)
  rwa [hat] at htouch

end Player

end TurtleWow.Quests

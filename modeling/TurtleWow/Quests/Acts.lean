import TurtleWow.Quests.Logged

namespace TurtleWow.Quests

open List

-- The functions of the player as actions of his brief

namespace Player

open Brief

variable {templates : Templates} {view : View} {direct careful : Prop} {p : Player} {quest : ℕ} {info : Quest}

theorem data_setData (p : Player) (quest other : ℕ) (data : QuestStatusData) :
    (p.setData quest data).data other = if other = quest then data else p.data other := by
  show ((p.questStatus.insert quest data).find other).getD {} = _
  rw [OrderedMap.find_insert]
  split
  · rfl
  · rfl

theorem touched_status (data : QuestStatusData) : data.touched.status = data.status := by
  rw [QuestStatusData.touched]
  split <;> rfl

theorem touched_rewarded (data : QuestStatusData) : data.touched.rewarded = data.rewarded := by
  rw [QuestStatusData.touched]
  split <;> rfl

variable {data : QuestStatusData} {slot : ℕ}

theorem brief_setData (hstatus : data.status = (p.data quest).status)
    (hrewarded : data.rewarded = (p.data quest).rewarded) : (p.setData quest data).brief = p.brief := by
  refine Brief.ext rfl (funext fun other => ?_) (funext fun other => ?_) rfl rfl
  · show ((p.setData quest data).data other).status = (p.data other).status
    rw [data_setData]
    split
    · next hsame => rw [hsame, hstatus]
    · rfl
  · show ((p.setData quest data).data other).rewarded = (p.data other).rewarded
    rw [data_setData]
    split
    · next hsame => rw [hsame, hrewarded]
    · rfl

theorem brief_touched (hstatus : data.status = (p.data quest).status)
    (hrewarded : data.rewarded = (p.data quest).rewarded) : (p.setData quest data.touched).brief = p.brief :=
  brief_setData ((touched_status data).trans hstatus) ((touched_rewarded data).trans hrewarded)

theorem brief_setQuestStatus (h : (templates quest).isSome) (status : QuestStatus) :
    (p.setQuestStatus templates quest status).brief = p.brief.setStatus quest status := by
  rw [setQuestStatus, if_pos h]
  refine Brief.ext rfl (funext fun other => ?_) (funext fun other => ?_) rfl rfl
  · show ((p.setData quest _).data other).status = (p.brief.setStatus quest status).status other
    rw [data_setData, setStatus_status]
    split
    · rw [touched_status]
    · rfl
  · show ((p.setData quest _).data other).rewarded = (p.data other).rewarded
    rw [data_setData]
    split
    · next hsame => rw [hsame, touched_rewarded]
    · rfl

theorem brief_setQuestSlot (p : Player) (slot quest timer : ℕ) :
    (p.setQuestSlot slot quest timer).brief = p.brief.setSlot slot quest := by
  refine Brief.ext (funext fun other => ?_) rfl rfl rfl rfl
  show ((p.setQuestSlot slot quest timer).log other).questId = _
  rw [setSlot_questAt, setQuestSlot]
  dsimp only
  split <;> rfl

theorem brief_log {log : ℕ → QuestSlot} (h : ∀ slot, (log slot).questId = (p.log slot).questId) :
    ({ p with log } : Player).brief = p.brief := Brief.ext (funext h) rfl rfl rfl rfl

theorem brief_setQuestSlotState (p : Player) (slot : ℕ) (complete fail : Bool) :
    (p.setQuestSlotState slot complete fail).brief = p.brief := by
  refine brief_log fun other => ?_
  split
  · next hsame => rw [hsame]
  · rfl

theorem brief_removeQuestSlotComplete (p : Player) (slot : ℕ) : (p.removeQuestSlotComplete slot).brief = p.brief := by
  refine brief_log fun other => ?_
  split
  · next hsame => rw [hsame]
  · rfl

theorem brief_setQuestSlotTimer (p : Player) (slot timer : ℕ) : (p.setQuestSlotTimer slot timer).brief = p.brief := by
  refine brief_log fun other => ?_
  split
  · next hsame => rw [hsame]
  · rfl

theorem brief_push (p : Player) (frames : List Frame) : (p.push frames).brief = p.brief.push frames := rfl

theorem brief_record (p : Player) (event : Event) : (p.record event).brief = p.brief.record event := rfl

theorem findQuestSlot_spec (h : p.findQuestSlot quest < maxQuestLogSize) :
    (p.log (p.findQuestSlot quest)).questId = quest := by
  rw [findQuestSlot] at h ⊢
  cases hfind : (List.range maxQuestLogSize).find? fun slot => (p.log slot).questId = quest with
  | none =>
    rw [hfind] at h
    exact absurd h (lt_irrefl _)
  | some slot =>
    have hslot := List.find?_some hfind
    exact of_decide_eq_true hslot

theorem not_inLog_of_findQuestSlot (htail : ∀ slot, maxQuestLogSize ≤ slot → p.brief.questAt slot = 0)
    (hquest : quest ≠ 0) (h : ¬ p.findQuestSlot quest < maxQuestLogSize) : ¬ p.brief.InLog quest := by
  rintro ⟨slot, hslot⟩
  by_cases hlt : slot < maxQuestLogSize
  · cases hfind : (List.range maxQuestLogSize).find? fun slot => (p.log slot).questId = quest with
    | none => exact absurd (decide_eq_true hslot) (List.find?_eq_none.mp hfind slot (mem_range.mpr hlt))
    | some found =>
      refine h ?_
      rw [findQuestSlot, hfind]
      exact mem_range.mp (mem_of_find?_eq_some hfind)
  · exact hquest (hslot.symm.trans (htail slot (not_lt.mp hlt)))

theorem data_status (p : Player) (quest : ℕ) :
    ((p.questStatus.find quest).map QuestStatusData.status).getD .none = (p.data quest).status := by
  rw [data]
  cases p.questStatus.find quest <;> rfl

theorem status_of_satisfyQuestStatus (h : p.satisfyQuestStatus quest = true) : (p.data quest).status = .none := by
  rw [satisfyQuestStatus] at h
  rw [data]
  cases hfind : p.questStatus.find quest with
  | none => rfl
  | some data =>
    rw [hfind] at h
    exact of_decide_eq_true h

theorem status_of_canTakeQuest (h : p.canTakeQuest view quest info false = true) : (p.data quest).status = .none := by
  simp only [canTakeQuest, Bool.false_or, Bool.and_eq_true] at h
  exact status_of_satisfyQuestStatus h.1.1

theorem mayComplete_of_canCompleteQuest (h : p.canCompleteQuest templates view quest = true) :
    ∃ info, templates quest = some info ∧ p.brief.MayComplete quest info := by
  simp only [canCompleteQuest, data_status] at h
  by_cases hzero : quest = 0
  · exact absurd h (by simp [hzero])
  rw [if_neg hzero] at h
  by_cases hcomplete : (p.data quest).status = .complete
  · exact absurd h (by simp [hcomplete])
  rw [if_neg hcomplete] at h
  cases hinfo : templates quest with
  | none => exact absurd h (by simp [hinfo])
  | some info =>
    refine ⟨info, rfl, hcomplete, ?_⟩
    rw [hinfo] at h
    dsimp only at h
    split at h
    · next hauto => exact .inl hauto
    split at h
    · next htake =>
        rw [Bool.and_eq_true] at htake
        exact .inr (.inl ⟨htake.1, status_of_canTakeQuest htake.2⟩)
    split at h
    · cases h
    · next hincomplete => exact .inr (.inr (not_not.mp hincomplete))

theorem mayReward_of_canRewardQuest {reward : ℕ} (hinfo : templates quest = some info)
    (h : p.canRewardQuest templates view quest reward info = true) : p.brief.MayReward quest info := by
  have hquest := ne_zero_of_info hinfo
  simp only [canRewardQuest, Bool.and_eq_true, Bool.not_eq_true'] at h
  obtain ⟨⟨⟨⟨⟨-, htake⟩, hnot⟩, -⟩, -⟩, -⟩ := h
  refine ⟨?_, fun ⟨hstatus, hplain, hrewarded⟩ => ?_⟩
  · split at htake
    · next hauto => exact .inl hauto
    · rw [getQuestStatus, if_neg hquest, data_status] at htake
      exact .inr (of_decide_eq_true htake)
  · rw [getQuestRewardStatus, hinfo] at hnot
    cases hfind : p.questStatus.find quest with
    | none => exact hstatus (by show (p.data quest).status = .none; rw [data, hfind]; rfl)
    | some data =>
      have hdata : p.data quest = data := by rw [Player.data, hfind]; rfl
      rw [hfind] at hnot
      dsimp only at hnot
      rw [if_pos ⟨hdata ▸ hstatus, hplain⟩] at hnot
      have hflag : (p.data quest).rewarded = true := hrewarded
      rw [hdata] at hflag
      exact nomatch hnot.symm.trans hflag

theorem brief_completeQuest (hinfo : templates quest = some info) :
    (p.completeQuest templates quest).brief =
      if info.autoRewarded then
        (p.brief.setStatus quest .complete).push [.items, .removeTimedQuest quest, .items, .rewardSlot quest 0]
      else p.brief.setStatus quest .complete := by
  have hset := brief_setQuestStatus (p := p) (Option.isSome_of_eq_some hinfo) .complete
  rw [completeQuest, if_neg (ne_zero_of_info hinfo), hinfo]
  dsimp only
  have hslot : ∀ slot, (if slot < maxQuestLogSize then (p.setQuestStatus templates quest .complete).setQuestSlotState slot
      true false else p.setQuestStatus templates quest .complete).brief = p.brief.setStatus quest .complete := by
    intro slot
    split
    · rw [brief_setQuestSlotState, hset]
    · exact hset
  split
  · rw [rewardQuest, brief_push, hslot]
  · exact hslot _

theorem acts_completeQuest (hmay : ∀ info, templates quest = some info → p.brief.MayComplete quest info ∨ direct ∧
      (info.autoRewarded = false → p.brief.Settled quest info))
    (hfree : careful → ∀ info, templates quest = some info → info.autoRewarded = true →
      ∀ frame ∈ p.calls, frame.pending quest = false) :
    Acts templates direct careful p.brief (p.completeQuest templates quest).brief := by
  cases hinfo : templates quest with
  | none =>
    by_cases hzero : quest = 0
    · rw [completeQuest, if_pos hzero]
    rw [completeQuest, if_neg hzero, setQuestStatus, hinfo, if_neg (show ¬ (none : Option Quest).isSome = true from nofun)]
    dsimp only
    split
    · rw [brief_setQuestSlotState]
    · exact .refl
  | some info =>
    rw [brief_completeQuest hinfo]
    split
    · next hauto =>
        exact .single (.completeReward hinfo hauto ((hmay info hinfo).imp id And.left) fun hcareful =>
          hfree hcareful info hinfo hauto)
    · next hauto =>
        have hplain := Bool.eq_false_iff.mpr hauto
        exact .single (.complete hinfo hplain ((hmay info hinfo).imp id fun h => ⟨h.1, h.2 hplain⟩))

theorem brief_incompleteQuest (hquest : quest ≠ 0) :
    (p.incompleteQuest templates quest).brief = (p.setQuestStatus templates quest .incomplete).brief := by
  rw [incompleteQuest, if_neg hquest]
  dsimp only
  split
  · exact brief_removeQuestSlotComplete _ _
  · rfl

theorem acts_incompleteQuest (hmay : ∀ info, templates quest = some info →
      p.brief.InLog quest ∧ (careful → p.brief.status quest ≠ .failed) ∨ direct ∧ p.brief.Settled quest info) :
    Acts templates direct careful p.brief (p.incompleteQuest templates quest).brief := by
  by_cases hzero : quest = 0
  · rw [incompleteQuest, if_pos hzero]
  rw [brief_incompleteQuest hzero]
  cases hinfo : templates quest with
  | none =>
    rw [setQuestStatus, if_neg (by rw [hinfo]; exact nofun)]
  | some info =>
    rw [brief_setQuestStatus (Option.isSome_of_eq_some hinfo)]
    exact .single (.incomplete hinfo (hmay info hinfo))

theorem acts_touched_incompleteQuest (hstatus : data.status = (p.data quest).status)
    (hrewarded : data.rewarded = (p.data quest).rewarded) (hmay : ∀ info, templates quest = some info →
      p.brief.InLog quest ∧ (careful → p.brief.status quest ≠ .failed) ∨ direct ∧ p.brief.Settled quest info) :
    Acts templates direct careful p.brief ((p.setData quest data.touched).incompleteQuest templates quest).brief := by
  have hbrief := brief_touched hstatus hrewarded
  have hacts : Acts templates direct careful (p.setData quest data.touched).brief _ :=
    acts_incompleteQuest (by rwa [hbrief])
  rwa [hbrief] at hacts

-- No call in progress will remove or reward an auto-rewarded quest that is now
-- complete.
def CompletesQuietly (templates : Templates) (view : View) (p : Player) (quest : ℕ) : Prop :=
  ∀ info ∈ templates quest, info.autoRewarded = true → p.canCompleteQuest templates view quest = true →
    ∀ frame ∈ p.calls, frame.pending quest = false

theorem acts_completeIfCan (hquiet : careful → p.CompletesQuietly templates view quest) :
    Acts templates direct careful p.brief (p.completeIfCan templates view quest).brief := by
  rw [completeIfCan]
  split
  · next hcan =>
      obtain ⟨info, hinfo, hmay⟩ := mayComplete_of_canCompleteQuest hcan
      refine acts_completeQuest (fun info' hinfo' => .inl ?_) fun hcareful info' hinfo' hauto =>
        hquiet hcareful info' hinfo' hauto hcan
      rwa [Option.some.inj (hinfo'.symm.trans hinfo)]
  · exact .refl

theorem completesQuietly_setData (hstatus : data.status = (p.data quest).status)
    (h : p.CompletesQuietly templates view quest) :
    (p.setData quest data).CompletesQuietly templates view quest := by
  intro info hinfo hauto hcan
  refine h info hinfo hauto ?_
  have hinfo' : templates quest = some info := hinfo
  have hdata : (p.setData quest data).data quest = data := (data_setData p quest quest data).trans (if_pos rfl)
  simp only [canCompleteQuest, data_status, hdata, hstatus, hinfo', if_pos hauto] at hcan ⊢
  exact hcan

theorem completesQuietly_of_nil (hcalls : p.calls = []) : p.CompletesQuietly templates view quest := by
  intro info _ _ _ frame hmem
  rw [hcalls] at hmem
  cases hmem

theorem acts_touched_completeIfCan (hstatus : data.status = (p.data quest).status)
    (hrewarded : data.rewarded = (p.data quest).rewarded) (hquiet : careful → p.CompletesQuietly templates view quest) :
    Acts templates direct careful p.brief ((p.setData quest data.touched).completeIfCan templates view quest).brief := by
  have hbrief := brief_touched hstatus hrewarded
  have hacts : Acts templates direct careful (p.setData quest data.touched).brief _ := acts_completeIfCan fun hcareful =>
    completesQuietly_setData ((touched_status data).trans hstatus) (hquiet hcareful)
  rwa [hbrief] at hacts

theorem acts_rewardQuest {reward : ℕ} (hinfo : templates quest = some info)
    (h : direct ∨ p.calls = [] ∧ p.brief.MayReward quest info) :
    Acts templates direct careful p.brief (p.rewardQuest quest reward).brief := by
  rw [rewardQuest, brief_push]
  refine .single (.push _ (fun frame hmem => ?_) fun other => ?_)
  · simp only [mem_cons, not_mem_nil, or_false] at hmem
    rcases hmem with rfl | rfl | rfl | rfl
    · exact trivial
    · exact trivial
    · exact trivial
    · exact ⟨info, hinfo, h⟩
  · by_cases hsame : quest = other <;> simp [Frame.pending, hsame]

-- Frames that change no quest by themselves

theorem pushable_of_plain {b : Brief} {frame : Frame} (h : ∀ quest, frame.pending quest = false) :
    b.Pushable templates direct frame := by
  cases frame with
  | remove slot quest => exact absurd (h quest) (by simp [Frame.pending])
  | rewardSlot quest reward => exact absurd (h quest) (by simp [Frame.pending])
  | reward quest => exact absurd (h quest) (by simp [Frame.pending])
  | drop quest => exact absurd (h quest) (by simp [Frame.pending])
  | _ => exact trivial

theorem acts_push {frames : List Frame} (hframes : ∀ frame ∈ frames, ∀ quest, frame.pending quest = false) :
    Acts templates direct careful p.brief (p.push frames).brief := by
  refine .single (.push frames (fun frame hmem => pushable_of_plain (hframes frame hmem)) fun quest => ?_)
  rw [countP_eq_zero.mpr fun frame hmem => Bool.eq_false_iff.mp (hframes frame hmem quest)]
  exact Nat.zero_le 1

theorem plain_removeTimed : ∀ frame ∈ removeTimed templates quest, ∀ other, frame.pending other = false := by
  intro frame hmem
  rw [removeTimed] at hmem
  split at hmem
  · split at hmem
    · rw [mem_singleton.mp hmem]
      exact fun _ => rfl
    · cases hmem
  · cases hmem

theorem plain_items : ∀ frame ∈ [Frame.items], ∀ other, frame.pending other = false := by
  intro frame hmem
  rw [mem_singleton.mp hmem]
  exact fun _ => rfl

theorem plain_append {first second : List Frame} (hfirst : ∀ frame ∈ first, ∀ other, frame.pending other = false)
    (hsecond : ∀ frame ∈ second, ∀ other, frame.pending other = false) :
    ∀ frame ∈ first ++ second, ∀ other, frame.pending other = false := fun frame hmem =>
  (mem_append.mp hmem).elim (hfirst frame) (hsecond frame)

theorem brief_timed (p : Player) (quest : ℕ) (timed : Bool) :
    (if timed = true then p.addTimedQuest quest else p).brief = p.brief := by
  split <;> rfl

theorem brief_addQuest (p : Player) (view : View) (quest : ℕ) (info : Quest) :
    (p.addQuest view quest info).brief = (((({ p.brief with
      status := Function.update p.brief.status quest .incomplete } : Brief).setSlot (p.findQuestSlot 0) quest).record
        (.accepted quest)).push [.items, .adjustQuestReqItemCount quest]) := by
  have htimed := brief_timed p quest info.timed
  rw [addQuest]
  generalize (if info.timed = true then p.addTimedQuest quest else p) = p' at htimed ⊢
  rw [brief_push, brief_record, brief_setQuestSlot]
  refine congrArg (Brief.push · _) (congrArg (Brief.record · _) (congrArg (Brief.setSlot · _ _) ?_))
  refine Brief.ext (congrArg Brief.questAt htimed :) (funext fun other => ?_) (funext fun other => ?_)
    (congrArg Brief.calls htimed :) (congrArg Brief.history htimed :)
  · show ((p'.setData quest _).data other).status = Function.update p.brief.status quest .incomplete other
    rw [data_setData, Function.update_apply, ← htimed]
    split
    · rw [touched_status]
    · rfl
  · show ((p'.setData quest _).data other).rewarded = p.brief.rewarded other
    rw [data_setData, ← htimed]
    split
    · next hsame =>
        rw [touched_rewarded, hsame, htimed]
        rfl
    · rfl

theorem acts_addQuest (hinfo : templates quest = some info) (hadd : p.canAddQuest view quest = true)
    (hnone : (p.data quest).status = .none) (hcalls : ∀ frame ∈ p.calls, ∀ quest, frame.pending quest = false)
    (hrewarded : direct → (p.data quest).rewarded = false ∨ info.repeatable = true) :
    Acts templates direct careful p.brief (p.addQuest view quest info).brief := by
  rw [canAddQuest, Bool.and_eq_true, decide_eq_true_eq] at hadd
  rw [brief_addQuest]
  have haccept : Action templates direct careful p.brief _ :=
    .accept hinfo hadd.1 (findQuestSlot_spec hadd.1) hnone hcalls hrewarded
  refine .trans (.single haccept) (.single (.push _ (fun frame hmem => pushable_of_plain ?_) fun other => ?_))
  · simp only [mem_cons, not_mem_nil, or_false] at hmem
    rcases hmem with rfl | rfl <;> exact fun _ => rfl
  · simp [Frame.pending]

theorem acts_pushRemove (frames : List Frame) {all : List Frame}
    (hall : all = frames ++ [.remove slot (p.log slot).questId])
    (hslot : slot < maxQuestLogSize)
    (hquest : (p.log slot).questId ≠ 0) (hframes : ∀ frame ∈ frames, ∀ quest, frame.pending quest = false)
    (hcalls : p.calls = [] ∨ ∃ info, templates (p.log slot).questId = some info ∧ info.repeatable = true) :
    Acts templates direct careful p.brief (p.push all).brief := by
  subst hall
  refine .single (.push _ (fun frame hmem => ?_) fun quest => ?_)
  · rcases mem_append.mp hmem with hplain | hlast
    · exact pushable_of_plain (hframes frame hplain)
    · rw [mem_singleton.mp hlast]
      exact ⟨hslot, hquest, rfl, hcalls⟩
  · rw [countP_append,
      countP_eq_zero.mpr fun frame hmem => Bool.eq_false_iff.mp (hframes frame hmem quest), Nat.zero_add]
    exact countP_le_length

theorem acts_freeSlot (h : (p.log slot).questId = 0) : (p.setQuestSlot slot 0 0).brief = p.brief := by
  rw [brief_setQuestSlot]
  refine Brief.ext (funext fun other => ?_) rfl rfl rfl rfl
  rw [setSlot_questAt]
  split
  · next hsame => exact (hsame ▸ h).symm
  · rfl

theorem acts_removeQuestAtSlot (hcalls : slot < maxQuestLogSize →
      p.calls = [] ∨ ∃ info, templates (p.log slot).questId = some info ∧ info.repeatable = true) :
    Acts templates direct careful p.brief (p.removeQuestAtSlot templates view slot).brief := by
  rw [removeQuestAtSlot]
  by_cases hslot : slot < maxQuestLogSize
  · rw [if_pos hslot]
    dsimp only
    split
    · next hzero => rw [acts_freeSlot hzero]
    split
    · next hquest htake =>
        refine acts_pushRemove ([.items] ++ removeTimed templates (p.log slot).questId ++ [.items]) (by simp) hslot hquest
          ?_ (hcalls hslot)
        exact plain_append (plain_append plain_items plain_removeTimed) plain_items
    · exact .refl
  · rw [if_neg hslot]

theorem acts_handleQuestLogRemoveQuest (hcalls : p.calls = []) :
    Acts templates direct careful p.brief (p.handleQuestLogRemoveQuest templates view slot).brief := by
  rw [handleQuestLogRemoveQuest]
  by_cases hslot : slot < maxQuestLogSize
  · rw [if_pos hslot]
    dsimp only
    split
    · next hzero => rw [acts_freeSlot hzero]
    split
    · next hquest htake =>
        exact acts_pushRemove ([.items] ++ removeTimed templates (p.log slot).questId) rfl hslot hquest
          (plain_append plain_items plain_removeTimed) (.inl hcalls)
    · exact .refl
  · rw [if_neg hslot]

theorem brief_clearTimer (p : Player) (quest : ℕ) (timed : Bool) :
    (if timed = true then (p.removeTimedQuest quest).setData quest { (p.removeTimedQuest quest).data quest with timer := 0 }
      else p).brief = p.brief := by
  split
  · exact brief_setData (p := p.removeTimedQuest quest) rfl rfl
  · rfl

-- A quest of the log that FailQuest fails must be accepted to be completed.
def FailsPlain (templates : Templates) (p : Player) (quest : ℕ) : Prop :=
  ∀ info ∈ templates quest, ¬ (info.repeatable = true ∧ info.timed = false) →
    p.findQuestSlot quest < maxQuestLogSize → info.auto = false

theorem acts_failQuest (hcalls : ∀ frame ∈ p.calls, ∀ quest, frame.rewards quest = false)
    (hplain : careful → p.FailsPlain templates quest) :
    Acts templates direct careful p.brief (p.failQuest templates view quest).brief := by
  rw [failQuest]
  cases hinfo : templates quest with
  | none => exact .refl
  | some info =>
    dsimp only
    split
    · next hrepeatable =>
        rw [Bool.and_eq_true] at hrepeatable
        exact acts_removeQuestAtSlot fun hslot => .inr ⟨info, by rw [findQuestSlot_spec hslot, hinfo], hrepeatable.1⟩
    · next hrepeatable =>
        have hnot : ¬ (info.repeatable = true ∧ info.timed = false) := by simpa using hrepeatable
        refine (brief_clearTimer _ quest info.timed).symm ▸ ?_
        split
        · next hslot =>
            rw [brief_setQuestStatus (Option.isSome_of_eq_some hinfo), brief_setQuestSlotState, brief_setQuestSlotTimer]
            have hlog : p.brief.InLog quest := ⟨_, findQuestSlot_spec hslot⟩
            exact .single (.fail hinfo hlog (fun hcareful => hplain hcareful info hinfo hnot hslot) hcalls)
        · exact .refl

theorem acts_areaExploredOrEventHappens (hcalls : p.calls = []) :
    Acts templates direct careful p.brief (p.areaExploredOrEventHappens templates view quest).brief := by
  rw [areaExploredOrEventHappens]
  split
  · exact .refl
  dsimp only
  split
  · have hslot := brief_setQuestSlotState p (p.findQuestSlot quest) true false
    refine hslot ▸ acts_touched_completeIfCan (p := p.setQuestSlotState (p.findQuestSlot quest) true false) rfl rfl ?_
    exact fun _ => completesQuietly_of_nil hcalls
  · exact acts_completeIfCan fun _ => completesQuietly_of_nil hcalls

theorem acts_creditObjective {objective : ℕ} (hcalls : p.calls = []) :
    Acts templates direct careful p.brief (p.creditObjective templates view slot objective).brief := by
  rw [creditObjective]
  dsimp only
  split
  · exact .refl
  split
  · exact .refl
  split
  · split
    · exact acts_touched_completeIfCan rfl rfl fun _ => completesQuietly_of_nil hcalls
    · exact acts_completeIfCan fun _ => completesQuietly_of_nil hcalls
  · exact .refl

theorem acts_itemAddedQuestCheck {entry count : ℕ} (hquiet : careful → (p.data (p.log slot).questId).status = .incomplete →
      ∀ info ∈ templates (p.log slot).questId, info.deliver = true → (itemObjective info entry).isSome = true →
        p.CompletesQuietly templates view (p.log slot).questId) :
    Acts templates direct careful p.brief (p.itemAddedQuestCheck templates view entry count slot).brief := by
  rw [itemAddedQuestCheck]
  split
  · exact .refl
  · next hstatus =>
      rw [not_or, not_not] at hstatus
      split
      · exact .refl
      · next info hinfo =>
          split
          · next hdeliver =>
              split
              · exact .refl
              · next j hj =>
                  have hquiet' : careful → p.CompletesQuietly templates view (p.log slot).questId := fun hcareful =>
                    hquiet hcareful hstatus.2 info hinfo hdeliver (Option.isSome_of_eq_some hj)
                  split
                  · exact acts_touched_completeIfCan rfl rfl hquiet'
                  · exact acts_completeIfCan hquiet'
          · exact .refl

theorem acts_itemRemovedQuestCheck {entry count : ℕ} (hcareful : careful → ∀ info ∈ templates (p.log slot).questId,
      info.deliver = true → ∀ j ∈ itemObjective info entry,
        countAfterLoss view info (p.data (p.log slot).questId) entry count j ≠ info.reqItemCount j →
          (p.data (p.log slot).questId).status ≠ .failed) :
    Acts templates direct careful p.brief (p.itemRemovedQuestCheck templates view entry count slot).brief := by
  rw [itemRemovedQuestCheck]
  dsimp only
  split
  · exact .refl
  split
  · exact .refl
  · next info hinfo =>
      split
      · next hdeliver =>
          split
          · exact .refl
          · next j hj =>
              split
              · next hcount =>
                  refine acts_touched_incompleteQuest rfl rfl fun _ _ => .inl ⟨⟨slot, rfl⟩, fun hcareful' => ?_⟩
                  exact hcareful hcareful' info hinfo hdeliver j hj hcount
              · exact .refl
      · exact .refl

theorem acts_loseComplete (hcomplete : (p.data (p.log slot).questId).status = .complete) :
    Acts templates direct careful p.brief (p.incompleteQuest templates (p.log slot).questId).brief := by
  refine acts_incompleteQuest fun _ _ => .inl ⟨⟨slot, rfl⟩, fun _ hfailed => ?_⟩
  exact nomatch hcomplete.symm.trans hfailed

-- What a check of one slot makes of the player: its quest is completed, if the
-- value is reached, or is not complete any more.
inductive Checked (templates : Templates) (view : View) (p : Player) (slot : ℕ) (reached : Quest → Prop) : Player → Prop
  | same : Checked templates view p slot reached p
  | completes (hslot : (p.log slot).questId ≠ 0) (info : Quest) (hinfo : info ∈ templates (p.log slot).questId)
      (hincomplete : (p.data (p.log slot).questId).status = .incomplete) (hreached : reached info) :
      Checked templates view p slot reached (p.completeIfCan templates view (p.log slot).questId)
  | spoils (hslot : (p.log slot).questId ≠ 0) (hcomplete : (p.data (p.log slot).questId).status = .complete) :
      Checked templates view p slot reached (p.incompleteQuest templates (p.log slot).questId)

theorem checked_moneyChanged (count : ℕ) : Checked templates view p slot
    (fun info => info.rewOrReqMoney < 0 ∧ -info.rewOrReqMoney ≤ count) (p.moneyChanged templates view count slot) := by
  rw [moneyChanged]
  split
  · exact .same
  split
  · exact .same
  split
  · split
    · split
      · exact .completes ‹_› _ ‹_› ‹_› ⟨‹_›, ‹_›⟩
      · exact .same
    · split
      · exact .spoils ‹_› ‹_›
      · exact .same
    · exact .same
  · exact .same

theorem checked_reputationChanged (faction : ℕ) : Checked templates view p slot
    (fun info => info.repObjectiveFaction = faction ∧ info.repObjectiveValue ≤ view.reputation faction)
    (p.reputationChanged templates view faction slot) := by
  rw [reputationChanged]
  split
  · exact .same
  split
  · exact .same
  split
  · split
    · split
      · exact .completes ‹_› _ ‹_› ‹_› ⟨‹_›, ‹_›⟩
      · exact .same
    · split
      · exact .spoils ‹_› ‹_›
      · exact .same
    · exact .same
  · exact .same

theorem Checked.acts {reached : Quest → Prop} {p' : Player} (h : Checked templates view p slot reached p')
    (hquiet : careful → (p.data (p.log slot).questId).status = .incomplete →
      ∀ info ∈ templates (p.log slot).questId, reached info → p.CompletesQuietly templates view (p.log slot).questId) :
    Acts templates direct careful p.brief p'.brief := by
  cases h with
  | same => exact .refl
  | completes _ info hinfo hincomplete hreached =>
    exact acts_completeIfCan fun hcareful => hquiet hcareful hincomplete info hinfo hreached
  | spoils _ hcomplete => exact acts_loseComplete hcomplete

end Player

end TurtleWow.Quests

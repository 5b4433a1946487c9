import TurtleWow.Quests.Logged

namespace TurtleWow.Quests

open List

namespace Brief

variable {templates : Templates} {b b' : Brief} {quest : ℕ} {info : Quest}

-- A quest that is not repeatable: at most one call in progress will remove or
-- reward it, and once it is rewarded it stays complete and out of the log.
structure Over (b : Brief) (quest : ℕ) : Prop where
  flag : b.rewarded quest = true
  complete : b.status quest = .complete
  out : ¬ b.InLog quest
  idle : ∀ frame ∈ b.calls, frame.pending quest = false

structure RewardedOnce (b : Brief) (quest : ℕ) : Prop where
  one : b.calls.countP (Frame.pending quest) ≤ 1
  count : b.history.count (.rewarded quest) ≤ 1
  ended : .rewarded quest ∈ b.history → b.Over quest

theorem RewardedOnce.keep (h : RewardedOnce b quest) (events : List Event) (hhistory : b'.history = b.history ++ events)
    (hevents : .rewarded quest ∉ events) (hone : b'.calls.countP (Frame.pending quest) ≤ 1)
    (hover : b.Over quest → b'.Over quest) : RewardedOnce b' quest where
  one := hone
  count := by
    rw [hhistory, count_append, count_eq_zero_of_not_mem hevents]
    exact h.count
  ended hmem := by
    rw [hhistory, mem_append] at hmem
    exact hover (h.ended (hmem.resolve_right hevents))

theorem Over.frame (h : b.Over quest) (hcalls : ∀ frame ∈ b'.calls, frame ∈ b.calls ∨ frame.pending quest = false)
    (hlog : b'.InLog quest → b.InLog quest) (hstatus : b'.status quest = b.status quest)
    (hflag : b'.rewarded quest = b.rewarded quest) : b'.Over quest where
  flag := hflag.trans h.flag
  complete := hstatus.trans h.complete
  out hin := h.out (hlog hin)
  idle frame hmem := (hcalls frame hmem).elim (h.idle frame) id

variable {rest : List Frame}

theorem Over.not_pending (h : b.Over quest) {frame : Frame} (hcalls : b.calls = frame :: rest) :
    frame.pending quest = false := h.idle frame (hcalls ▸ mem_cons_self)

theorem RewardedOnce.setStatus (h : RewardedOnce b quest) (other : ℕ) (status : QuestStatus)
    (hnot : other = quest → ¬ b.Over quest) : RewardedOnce (b.setStatus other status) quest := by
  refine h.keep [.status other status] rfl (by simp) h.one fun hover => ?_
  refine hover.frame (fun _ => .inl) id ?_ rfl
  rw [setStatus_status, if_neg fun hsame => hnot hsame.symm hover]

theorem pushed_pending (hinfo : templates quest = some info) (hplain : info.repeatable = false) {frame : Frame}
    (hpush : b.Pushable templates False frame) (hpending : frame.pending quest = true) :
    b.calls = [] ∧ ¬ b.Over quest := by
  cases frame with
  | remove slot other =>
    obtain rfl : other = quest := of_decide_eq_true hpending
    obtain ⟨hslot, hquest, hat, hcalls⟩ := hpush
    refine ⟨hcalls.resolve_right ?_, fun hover => hover.out ⟨slot, hat⟩⟩
    rintro ⟨info', hinfo', hrepeatable⟩
    rw [← Option.some.inj (hinfo.symm.trans hinfo'), hplain] at hrepeatable
    cases hrepeatable
  | rewardSlot other reward =>
    obtain rfl : other = quest := of_decide_eq_true hpending
    obtain ⟨info', hinfo', hmay⟩ := hpush
    obtain ⟨hcalls, -, hnot⟩ := hmay.resolve_left id
    refine ⟨hcalls, fun hover => hnot ⟨hover.complete ▸ nofun, ?_, hover.flag⟩⟩
    rw [← Option.some.inj (hinfo.symm.trans hinfo'), hplain]
  | reward other => exact hpush.elim
  | drop other => exact hpush.elim
  | _ => cases hpending

theorem RewardedOnce.push (h : RewardedOnce b quest) (hinfo : templates quest = some info)
    (hplain : info.repeatable = false) {frames : List Frame} (hpush : ∀ frame ∈ frames, b.Pushable templates False frame)
    (hone : frames.countP (Frame.pending quest) ≤ 1) : RewardedOnce (b.push frames) quest := by
  by_cases hpending : ∃ frame ∈ frames, frame.pending quest = true
  · obtain ⟨frame, hmem, hpending⟩ := hpending
    obtain ⟨hcalls, hnot⟩ := pushed_pending hinfo hplain (hpush frame hmem) hpending
    refine h.keep [] (append_nil _).symm not_mem_nil ?_ fun hover => absurd hover hnot
    show (frames ++ b.calls).countP _ ≤ 1
    rw [hcalls, append_nil]
    exact hone
  · have hidle : ∀ frame ∈ frames, frame.pending quest = false := fun frame hmem =>
      Bool.eq_false_iff.mpr fun hbad => hpending ⟨frame, hmem, hbad⟩
    refine h.keep [] (append_nil _).symm not_mem_nil ?_ fun hover => ?_
    · show (frames ++ b.calls).countP _ ≤ 1
      rw [countP_append, countP_eq_zero.mpr fun frame hmem => Bool.eq_false_iff.mp (hidle frame hmem), Nat.zero_add]
      exact h.one
    · refine hover.frame (fun frame hmem => ?_) id rfl rfl
      exact (mem_append.mp hmem).elim (fun hnew => .inr (hidle frame hnew)) .inl

theorem RewardedOnce.reward (h : RewardedOnce b quest) (hlogged : Logged templates b)
    (hcalls : b.calls = .reward quest :: rest) (hat : b'.questAt = b.questAt) (hrest : b'.calls = rest)
    (hhistory : b'.history = b.history ++ [.rewarded quest, .status quest .complete])
    (hflag : b'.rewarded quest = true) (hstatus : b'.status quest = .complete) : RewardedOnce b' quest := by
  have hpending : (Frame.reward quest).pending quest = true := decide_eq_true rfl
  have hfirst : .rewarded quest ∉ b.history := fun hmem =>
    nomatch ((h.ended hmem).not_pending hcalls).symm.trans hpending
  have hone := h.one
  rw [hcalls, countP_cons_of_pos hpending] at hone
  have hnone : rest.countP (Frame.pending quest) = 0 := by omega
  obtain ⟨-, hout⟩ : FrameOk templates b (.reward quest) := hlogged.frames _ (hcalls ▸ mem_cons_self)
  refine ⟨?_, ?_, fun _ => ⟨hflag, hstatus, ?_, ?_⟩⟩
  · rw [hrest, hnone]
    exact Nat.zero_le 1
  · rw [hhistory, count_append, count_eq_zero_of_not_mem hfirst]
    simp
  · rintro ⟨slot, hslot⟩
    exact hout ⟨slot, hat ▸ hslot⟩
  · rw [hrest]
    exact fun frame hmem => Bool.eq_false_iff.mpr (countP_eq_zero.mp hnone frame hmem)

theorem inLog_of_setSlot {slot other : ℕ} (hne : quest ≠ other) (h : (b.setSlot slot other).InLog quest) :
    b.InLog quest := by
  obtain ⟨place, hplace⟩ := h
  rw [setSlot_questAt] at hplace
  split at hplace
  · exact absurd hplace.symm hne
  · exact ⟨place, hplace⟩

theorem countP_le {frame : Frame} {calls : List Frame} (hcalls : calls = frame :: rest) :
    rest.countP (Frame.pending quest) ≤ calls.countP (Frame.pending quest) :=
  hcalls ▸ (sublist_cons_self frame rest).countP_le

theorem RewardedOnce.rewardSlot (h : RewardedOnce b quest) {other reward : ℕ}
    (hcalls : b.calls = .rewardSlot other reward :: rest) (hnew : b'.calls = .items :: .reward other :: .items :: rest)
    (hhistory : b'.history = b.history) (hlog : b'.InLog quest → b.InLog quest) (hstatus : b'.status = b.status)
    (hflag : b'.rewarded = b.rewarded) : RewardedOnce b' quest := by
  have hone := h.one
  refine h.keep [] (hhistory.trans (append_nil _).symm) not_mem_nil ?_ fun hover => ?_
  · rw [hnew]
    rw [hcalls] at hone
    simpa [countP_cons, Frame.pending] using hone
  · have hidle : (Frame.rewardSlot other reward).pending quest = false := hover.not_pending hcalls
    refine hover.frame (fun frame hmem => ?_) hlog (congrFun hstatus quest) (congrFun hflag quest)
    rw [hnew] at hmem
    simp only [mem_cons] at hmem
    rcases hmem with rfl | rfl | rfl | hrest
    · exact .inr rfl
    · exact .inr hidle
    · exact .inr rfl
    · exact .inl (hcalls ▸ mem_cons_of_mem _ hrest)

theorem RewardedOnce.action (h : RewardedOnce b quest) (hlogged : Logged templates b)
    (hinfo : templates quest = some info) (hplain : info.repeatable = false)
    (haction : Action templates False True b b') : RewardedOnce b' quest := by
  have hquest := ne_zero_of_info hinfo
  cases haction with
  | push frames hpush hone => exact h.push hinfo hplain hpush (hone quest)
  | @pop frame rest hcalls hpop =>
    refine h.keep [] (append_nil _).symm not_mem_nil ?_ fun hover => ?_
    · have hone := h.one
      rwa [hcalls, countP_cons_of_neg (Bool.eq_false_iff.mp (hpop quest))] at hone
    · exact hover.frame (fun frame hmem => .inl (hcalls ▸ mem_cons_of_mem _ hmem)) id rfl rfl
  | @complete other info' hinfo' hplain' hmay =>
    refine h.setStatus other _ fun hsame hover => ?_
    exact (hmay.resolve_right fun hdirect => hdirect.1).1 (hsame ▸ hover.complete)
  | @completeReward other info' hinfo' hauto hmay hfree =>
    refine h.keep [.status other .complete] rfl (by simp) ?_ fun hover => ?_
    · show (Frame.items :: .removeTimedQuest other :: .items :: .rewardSlot other 0 :: b.calls).countP _ ≤ 1
      by_cases hsame : other = quest
      · have hidle : ∀ frame ∈ b.calls, ¬ frame.pending quest = true := fun frame hmem =>
          Bool.eq_false_iff.mp (hsame ▸ hfree trivial frame hmem)
        simp [Frame.pending, hsame, countP_eq_zero.mpr hidle]
      · have hone := h.one
        simpa [countP_cons, Frame.pending, hsame] using hone
    · have hne : quest ≠ other := by
        rintro rfl
        exact (hmay.resolve_right id).1 hover.complete
      refine hover.frame (fun frame hmem => ?_) id ((setStatus_status _ _ _ _).trans (if_neg hne)) rfl
      rcases mem_append.mp hmem with hnew | hold
      · simp only [mem_cons, not_mem_nil, or_false] at hnew
        rcases hnew with rfl | rfl | rfl | rfl
        · exact .inr rfl
        · exact .inr rfl
        · exact .inr rfl
        · exact .inr (decide_eq_false hne.symm)
      · exact .inl hold
  | @incomplete other info' hinfo' hmay =>
    refine h.setStatus other _ fun hsame hover => hover.out ?_
    exact hsame ▸ (hmay.resolve_right fun hdirect => hdirect.1).1
  | @accept other slot info' hinfo' hslot hfree hnone hcalls hrewarded =>
    refine h.keep [.accepted other] rfl (by simp) h.one fun hover => ?_
    have hne : quest ≠ other := by
      rintro rfl
      cases hover.complete.symm.trans hnone
    exact hover.frame (fun _ => .inl) (inLog_of_setSlot hne) (Function.update_of_ne hne _ _) rfl
  | @fail other info' hinfo' hlog hplain' hcalls => exact h.setStatus other _ fun hsame hover => hover.out (hsame ▸ hlog)
  | @remove slot other rest hcalls =>
    refine h.keep [.status other .none, .removed other] (append_assoc _ _ _) (by simp)
      ((countP_le hcalls).trans h.one) fun hover => ?_
    have hne : quest ≠ other := by
      rintro rfl
      cases (hover.not_pending hcalls).symm.trans (decide_eq_true rfl)
    refine hover.frame (fun frame hmem => .inl (hcalls ▸ mem_cons_of_mem _ hmem)) (inLog_of_setSlot hquest)
      ((setStatus_status _ _ _ _).trans (if_neg hne)) rfl
  | @rewardSlot slot other reward rest hcalls hslot => exact h.rewardSlot hcalls rfl rfl (inLog_of_setSlot hquest) rfl rfl
  | @rewardNoSlot other reward rest hcalls hslot => exact h.rewardSlot hcalls rfl rfl id rfl rfl
  | @reward other info' rest hcalls hinfo' =>
    by_cases hsame : other = quest
    · subst hsame
      obtain rfl := Option.some.inj (hinfo.symm.trans hinfo')
      rw [hplain]
      refine h.reward hlogged hcalls rfl rfl (append_assoc _ _ _) (Function.update_self _ _ _) ?_
      exact (setStatus_status _ _ _ _).trans (if_pos rfl)
    · refine h.keep [.rewarded other, .status other _] (append_assoc _ _ _) (by simp [Ne.symm hsame])
        ((countP_le hcalls).trans h.one) fun hover => ?_
      refine hover.frame (fun frame hmem => .inl (hcalls ▸ mem_cons_of_mem _ hmem)) id
        ((setStatus_status _ _ _ _).trans (if_neg (Ne.symm hsame))) (Function.update_of_ne (Ne.symm hsame) _ _)
  | dropSlot hdirect => exact hdirect.elim
  | dropNoSlot hdirect => exact hdirect.elim
  | drop hdirect => exact hdirect.elim
  | @swap slot1 slot2 h1 h2 hcalls =>
    refine h.keep [] (append_nil _).symm not_mem_nil h.one fun hover => ?_
    refine hover.frame (fun _ => .inl) (fun hlog => ?_) rfl rfl
    obtain ⟨slot, hslot⟩ := hlog
    exact ⟨_, (swapSlot_questAt b slot1 slot2 slot).symm.trans hslot⟩

end Brief

end TurtleWow.Quests

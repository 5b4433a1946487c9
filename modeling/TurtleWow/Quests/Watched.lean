import TurtleWow.Quests.Stages

namespace TurtleWow.Quests

open Run List

namespace Brief

variable {templates : Templates} {b b' : Brief} {quest : ℕ}

def stage (b : Brief) (quest : ℕ) : Stage := follow quest .free b.history

-- A failed quest is neither rewarded nor completed by itself, and no call in
-- progress will reward it.
structure Tame (templates : Templates) (b : Brief) (quest : ℕ) : Prop where
  plain : ∀ info, templates quest = some info → info.auto = false
  idle : ∀ frame ∈ b.calls, frame.rewards quest = false

structure Watched (templates : Templates) (b : Brief) (quest : ℕ) : Prop where
  unbroken : b.stage quest ≠ .broken
  tame : b.stage quest ≠ .free → b.Tame templates quest
  failed : b.stage quest = .failed → b.status quest = .failed
  removed : b.stage quest = .removed → b.status quest = .none

theorem Watched.keep (h : Watched templates b quest) (hstage : b'.stage quest = b.stage quest)
    (hstatus : b'.status quest = b.status quest)
    (hidle : b.stage quest ≠ .free → b.Tame templates quest → ∀ frame ∈ b'.calls, frame.rewards quest = false) :
    Watched templates b' quest where
  unbroken := hstage ▸ h.unbroken
  tame hfree := ⟨(h.tame (hstage ▸ hfree)).plain, hidle (hstage ▸ hfree) (h.tame (hstage ▸ hfree))⟩
  failed hfailed := hstatus.trans (h.failed (hstage ▸ hfailed))
  removed hremoved := hstatus.trans (h.removed (hstage ▸ hremoved))

theorem Watched.of_free (h : b.stage quest = .free) : Watched templates b quest where
  unbroken hbroken := nomatch h.symm.trans hbroken
  tame hfree := absurd h hfree
  failed hfailed := nomatch h.symm.trans hfailed
  removed hremoved := nomatch h.symm.trans hremoved

theorem stage_append (history : List Event) (h : b'.history = b.history ++ history) (quest : ℕ) :
    b'.stage quest = follow quest (b.stage quest) history := by
  rw [stage, h, follow_append]
  rfl

theorem stage_other (history : List Event) (h : b'.history = b.history ++ history)
    (hother : ∀ event ∈ history, event.quest ≠ quest) : b'.stage quest = b.stage quest := by
  rw [stage_append history h, follow_other hother]

theorem Watched.not_complete (h : Watched templates b quest) (hfree : b.stage quest ≠ .free) :
    b.status quest ≠ .complete := by
  cases hstage : b.stage quest with
  | free => exact absurd hstage hfree
  | failed => exact h.failed hstage ▸ nofun
  | removed => exact h.removed hstage ▸ nofun
  | broken => exact absurd hstage h.unbroken

theorem Watched.free_of_mayComplete (h : Watched templates b quest) {info : Quest}
    (hinfo : templates quest = some info) (hmay : b.MayComplete quest info) : b.stage quest = .free := by
  by_contra hfree
  have hauto := (h.tame hfree).plain info hinfo
  rw [Quest.auto, Bool.or_eq_false_iff] at hauto
  rcases hmay.2 with hrewarded | ⟨hcomplete, -⟩ | hincomplete
  · exact nomatch hauto.2.symm.trans hrewarded
  · exact nomatch hauto.1.symm.trans hcomplete
  · cases hstage : b.stage quest with
    | free => exact hfree hstage
    | failed => exact nomatch (h.failed hstage).symm.trans hincomplete
    | removed => exact nomatch (h.removed hstage).symm.trans hincomplete
    | broken => exact h.unbroken hstage

theorem Watched.not_mayReward (h : Watched templates b quest) (hfree : b.stage quest ≠ .free) {info : Quest}
    (hinfo : templates quest = some info) : ¬ b.MayReward quest info := by
  rintro ⟨hcomplete | hcomplete, -⟩
  · have hauto := (h.tame hfree).plain info hinfo
    rw [Quest.auto, Bool.or_eq_false_iff] at hauto
    exact nomatch hauto.1.symm.trans hcomplete
  · exact h.not_complete hfree hcomplete

theorem Tame.sublist (h : Tame templates b quest) (hcalls : ∀ frame ∈ b'.calls, frame ∈ b.calls) :
    ∀ frame ∈ b'.calls, frame.rewards quest = false := fun frame hmem => h.idle frame (hcalls frame hmem)

theorem rewards_of_pending {frame : Frame} (h : frame.pending quest = false) : frame.rewards quest = false := by
  cases frame with
  | rewardSlot other reward => exact h
  | reward other => exact h
  | _ => rfl

theorem Watched.setOther (h : Watched templates b quest) {other : ℕ} (hne : other ≠ quest) (status : QuestStatus) :
    Watched templates (b.setStatus other status) quest := by
  refine h.keep (stage_other [.status other status] rfl fun event hmem => ?_) ?_ fun _ htame => htame.idle
  · rw [mem_singleton.mp hmem]
    exact hne
  · rw [setStatus_status, if_neg hne.symm]

theorem stage_setStatus (h : b.stage quest = .free) {status : QuestStatus} (hstatus : status ≠ .failed) :
    (b.setStatus quest status).stage quest = .free := by
  rw [stage_append [.status quest status] rfl quest, h]
  cases status with
  | failed => exact absurd rfl hstatus
  | none => rfl
  | _ => simp [follow, Stage.next]

theorem Watched.setFailed (h : Watched templates b quest) (htame : Tame templates b quest) :
    Watched templates (b.setStatus quest .failed) quest := by
  have hstage : (b.setStatus quest .failed).stage quest = .failed :=
    (stage_append [.status quest .failed] rfl quest).trans (next_failed _ quest h.unbroken)
  refine ⟨hstage ▸ nofun, fun _ => ⟨htame.plain, htame.idle⟩, fun _ => ?_, fun hremoved => ?_⟩
  · rw [setStatus_status, if_pos rfl]
  · exact nomatch hstage.symm.trans hremoved

theorem Tame.rewardFrames {other reward : ℕ} {rest : List Frame} (h : Tame templates b quest)
    (hcalls : b.calls = .rewardSlot other reward :: rest) :
    ∀ frame ∈ .items :: .reward other :: .items :: rest, frame.rewards quest = false := by
  have hidle := h.idle
  rw [hcalls, forall_mem_cons] at hidle
  intro frame hmem
  simp only [mem_cons] at hmem
  rcases hmem with rfl | rfl | rfl | hrest
  · rfl
  · exact hidle.1
  · rfl
  · exact hidle.2 frame hrest

theorem Watched.remove (h : Watched templates b quest)
    (hhistory : b'.history = b.history ++ [.status quest .none, .removed quest]) (hstatus : b'.status quest = .none)
    (hsub : ∀ frame ∈ b'.calls, frame ∈ b.calls) : Watched templates b' quest := by
  have hstage := stage_append _ hhistory quest
  have hremoved : b.stage quest ≠ .free → b'.stage quest = .removed → Watched templates b' quest := by
    intro hfree hnew
    have htame := h.tame hfree
    refine ⟨fun hbroken => ?_, fun _ => ⟨htame.plain, htame.sublist hsub⟩, fun hfailed => ?_, fun _ => hstatus⟩
    · cases hnew.symm.trans hbroken
    · cases hnew.symm.trans hfailed
  cases hold : b.stage quest with
  | free => exact Watched.of_free (by rw [hstage, hold]; simp [follow, Stage.next])
  | broken => exact absurd hold h.unbroken
  | failed => exact hremoved (by simp [hold]) (by rw [hstage, hold]; simp [follow, Stage.next])
  | removed => exact hremoved (by simp [hold]) (by rw [hstage, hold]; simp [follow, Stage.next])

theorem Watched.action (h : Watched templates b quest) (hlogged : Logged templates b)
    (haction : Action templates False True b b') : Watched templates b' quest := by
  cases haction with
  | push frames hpush hone =>
    refine h.keep rfl rfl fun hfree htame frame hmem => ?_
    rcases mem_append.mp hmem with hnew | hold
    · have hpushable := hpush frame hnew
      cases frame with
      | rewardSlot other reward =>
        obtain ⟨info, hinfo, hmay⟩ := hpushable
        refine decide_eq_false ?_
        rintro rfl
        exact h.not_mayReward hfree hinfo (hmay.resolve_left id).2
      | reward other => exact hpushable.elim
      | _ => rfl
    · exact htame.idle frame hold
  | pop hcalls hplain =>
    exact h.keep rfl rfl fun _ htame => htame.sublist fun frame hmem => hcalls ▸ mem_cons_of_mem _ hmem
  | @complete other info hinfo hplain hmay =>
    by_cases hsame : other = quest
    · subst hsame
      have hstage := h.free_of_mayComplete hinfo (hmay.resolve_right fun hdirect => hdirect.1)
      exact Watched.of_free (stage_setStatus hstage (by simp))
    · exact h.setOther hsame _
  | @completeReward other info hinfo hauto hmay hfree =>
    by_cases hsame : other = quest
    · subst hsame
      have hstage := h.free_of_mayComplete hinfo (hmay.resolve_right id)
      have hcomplete : (b.setStatus other .complete).stage other = .free := stage_setStatus hstage (by simp)
      exact Watched.of_free hcomplete
    · refine (h.setOther hsame .complete).keep rfl rfl fun _ htame frame hmem => ?_
      rcases mem_append.mp hmem with hnew | hold
      · simp only [mem_cons, not_mem_nil, or_false] at hnew
        rcases hnew with rfl | rfl | rfl | rfl
        · rfl
        · rfl
        · rfl
        · exact decide_eq_false hsame
      · exact htame.idle frame hold
  | @incomplete other info hinfo hmay =>
    by_cases hsame : other = quest
    · subst hsame
      obtain ⟨⟨slot, hslot⟩, hnot⟩ := hmay.resolve_right fun hdirect => hdirect.1
      refine Watched.of_free (stage_setStatus ?_ (by simp))
      cases hstage : b.stage other with
      | free => rfl
      | failed => exact absurd (h.failed hstage) (hnot trivial)
      | removed =>
        have hlive := (hlogged.live slot (hslot ▸ ne_zero_of_info hinfo)).1
        exact absurd (hslot ▸ h.removed hstage) hlive
      | broken => exact absurd hstage h.unbroken
    · exact h.setOther hsame _
  | @accept other slot info hinfo hslot hfree hnone hcalls hrewarded =>
    by_cases hsame : other = quest
    · subst hsame
      refine Watched.of_free ((stage_append (b := b) [.accepted other] rfl other).trans ?_)
      cases hstage : b.stage other with
      | free => simp [follow, Stage.next]
      | removed => simp [follow, Stage.next]
      | failed => cases (h.failed hstage).symm.trans hnone
      | broken => exact absurd hstage h.unbroken
    · refine h.keep (stage_other [.accepted other] rfl fun event hmem => ?_)
        (Function.update_of_ne (Ne.symm hsame) _ _) fun _ htame => htame.idle
      rw [mem_singleton.mp hmem]
      exact hsame
  | @fail other info hinfo hlog hplain hcalls =>
    by_cases hsame : other = quest
    · subst hsame
      refine h.setFailed ⟨fun info' hinfo' => ?_, fun frame hmem => hcalls frame hmem other⟩
      exact Option.some.inj (hinfo.symm.trans hinfo') ▸ hplain trivial
    · exact h.setOther hsame _
  | @remove slot other rest hcalls =>
    have hsub : ∀ frame ∈ rest, frame ∈ b.calls := fun frame hmem => hcalls ▸ mem_cons_of_mem _ hmem
    by_cases hsame : other = quest
    · subst hsame
      exact h.remove (append_assoc _ _ _) ((setStatus_status _ _ _ _).trans (if_pos rfl)) hsub
    · refine h.keep (stage_other [.status other .none, .removed other] (append_assoc _ _ _)
        fun event hmem => ?_) ?_ fun _ htame => htame.sublist hsub
      · simp only [mem_cons, not_mem_nil, or_false] at hmem
        rcases hmem with rfl | rfl <;> exact hsame
      · exact (setStatus_status _ _ _ _).trans (if_neg (Ne.symm hsame))
  | @rewardSlot slot other reward rest hcalls hslot =>
    exact h.keep rfl rfl fun _ htame => htame.rewardFrames hcalls
  | @rewardNoSlot other reward rest hcalls hslot =>
    exact h.keep rfl rfl fun _ htame => htame.rewardFrames hcalls
  | @reward other info rest hcalls hinfo =>
    have hsub : ∀ frame ∈ rest, frame ∈ b.calls := fun frame hmem => hcalls ▸ mem_cons_of_mem _ hmem
    by_cases hsame : other = quest
    · subst hsame
      have hstage : b.stage other = .free := by
        by_contra hfree
        exact absurd ((h.tame hfree).idle _ (hcalls ▸ mem_cons_self)) (by simp [Frame.rewards])
      refine Watched.of_free ((stage_append (b := b) [.rewarded other, _] (append_assoc _ _ _) other).trans ?_)
      rw [hstage]
      cases info.repeatable <;> simp [follow, Stage.next]
    · refine h.keep (stage_other [.rewarded other, .status other _] (append_assoc _ _ _)
        fun event hmem => ?_) ?_ fun _ htame => htame.sublist hsub
      · simp only [mem_cons, not_mem_nil, or_false] at hmem
        rcases hmem with rfl | rfl <;> exact hsame
      · exact (setStatus_status _ _ _ _).trans (if_neg (Ne.symm hsame))
  | dropSlot hdirect => exact hdirect.elim
  | dropNoSlot hdirect => exact hdirect.elim
  | drop hdirect => exact hdirect.elim
  | swap h1 h2 hcalls => exact h.keep rfl rfl fun _ htame => htame.idle

end Brief

end TurtleWow.Quests

import Mathlib.Logic.Equiv.Basic
import TurtleWow.Quests.Brief

namespace TurtleWow.Quests

open Run List

-- Each quest is in the log once, and a quest in the log has a status.

namespace Brief

variable {templates : Templates} {direct careful : Prop} {b b' : Brief} {quest slot : ℕ}

def FrameOk (templates : Templates) (b : Brief) : Frame → Prop
  | .remove slot quest =>
    (templates quest).isSome ∧ slot < maxQuestLogSize ∧ (b.questAt slot = quest ∨ b.questAt slot = 0) ∧
      ∀ other, b.questAt other = quest → other = slot
  | .rewardSlot quest _ => (templates quest).isSome
  | .reward quest | .drop quest => (templates quest).isSome ∧ ¬ b.InLog quest
  | _ => True

structure Logged (templates : Templates) (b : Brief) : Prop where
  tail : ∀ slot, maxQuestLogSize ≤ slot → b.questAt slot = 0
  unique : ∀ slot other, b.questAt slot ≠ 0 → b.questAt slot = b.questAt other → slot = other
  live : ∀ slot, b.questAt slot ≠ 0 → b.status (b.questAt slot) ≠ .none ∧ (templates (b.questAt slot)).isSome
  frames : ∀ frame ∈ b.calls, FrameOk templates b frame

theorem ne_zero_of_isSome (h : (templates quest).isSome) : quest ≠ 0 := by
  rintro rfl
  rw [show templates 0 = none from templates.zero] at h
  cases h

theorem ne_zero_of_info {info : Quest} (h : templates quest = some info) : quest ≠ 0 :=
  ne_zero_of_isSome (by rw [h]; rfl)

theorem frameOk_of_plain {frame : Frame} (h : ∀ quest, frame.pending quest = false) : FrameOk templates b frame := by
  cases frame with
  | remove slot quest => exact absurd (h quest) (by simp [Frame.pending])
  | rewardSlot quest reward => exact absurd (h quest) (by simp [Frame.pending])
  | reward quest => exact absurd (h quest) (by simp [Frame.pending])
  | drop quest => exact absurd (h quest) (by simp [Frame.pending])
  | _ => exact trivial

theorem FrameOk.shrink {frame : Frame} (h : FrameOk templates b frame)
    (hshrink : ∀ slot, b'.questAt slot = b.questAt slot ∨ b'.questAt slot = 0) : FrameOk templates b' frame := by
  have hkeep : ∀ {quest}, (templates quest).isSome → ∀ slot, b'.questAt slot = quest → b.questAt slot = quest := by
    intro quest hsome slot hslot
    rcases hshrink slot with hsame | hzero
    · exact hsame.symm.trans hslot
    · exact absurd (hslot.symm.trans hzero) (ne_zero_of_isSome hsome)
  cases frame with
  | remove slot quest =>
    obtain ⟨hsome, hslot, hat, honly⟩ := h
    refine ⟨hsome, hslot, ?_, fun other hother => honly other (hkeep hsome other hother)⟩
    rcases hshrink slot with hsame | hzero
    · rwa [hsame]
    · exact .inr hzero
  | rewardSlot quest reward => exact h
  | reward quest => exact ⟨h.1, fun ⟨slot, hslot⟩ => h.2 ⟨slot, hkeep h.1 slot hslot⟩⟩
  | drop quest => exact ⟨h.1, fun ⟨slot, hslot⟩ => h.2 ⟨slot, hkeep h.1 slot hslot⟩⟩
  | _ => exact trivial

theorem setSlot_questAt (b : Brief) (slot quest other : ℕ) :
    (b.setSlot slot quest).questAt other = if other = slot then quest else b.questAt other :=
  Function.update_apply _ _ _ _

theorem setStatus_status (b : Brief) (quest other : ℕ) (status : QuestStatus) :
    (b.setStatus quest status).status other = if other = quest then status else b.status other :=
  Function.update_apply _ _ _ _

theorem clear_shrink (b : Brief) (slot other : ℕ) :
    (b.setSlot slot 0).questAt other = b.questAt other ∨ (b.setSlot slot 0).questAt other = 0 := by
  rw [setSlot_questAt]
  by_cases hsame : other = slot
  · exact .inr (if_pos hsame)
  · exact .inl (if_neg hsame)

section

variable (h : Logged templates b)

include h

theorem Logged.status (hat : b'.questAt = b.questAt) (hcalls : ∀ frame ∈ b'.calls,
      frame ∈ b.calls ∨ FrameOk templates b frame)
    (hstatus : ∀ slot, b.questAt slot ≠ 0 → b.status (b.questAt slot) ≠ .none → b'.status (b.questAt slot) ≠ .none) :
    Logged templates b' where
  tail := hat ▸ h.tail
  unique := hat ▸ h.unique
  live slot hslot := by
    rw [hat] at hslot ⊢
    exact ⟨hstatus slot hslot (h.live slot hslot).1, (h.live slot hslot).2⟩
  frames frame hmem := by
    have hshrink : ∀ slot, b'.questAt slot = b.questAt slot ∨ b'.questAt slot = 0 := fun slot => .inl (by rw [hat])
    rcases hcalls frame hmem with hold | hok
    · exact (h.frames frame hold).shrink hshrink
    · exact hok.shrink hshrink

theorem Logged.setStatus (quest : ℕ) {status : QuestStatus} (hstatus : status ≠ .none) :
    Logged templates (b.setStatus quest status) := by
  refine h.status rfl (fun _ => .inl) fun slot _ hold => ?_
  rw [setStatus_status]
  split
  · exact hstatus
  · exact hold

theorem Logged.clear (slot : ℕ) (hat : b'.questAt = (b.setSlot slot 0).questAt)
    (hcalls : ∀ frame ∈ b'.calls, frame ∈ b.calls ∨ FrameOk templates b' frame)
    (hstatus : ∀ other, b'.questAt other ≠ 0 → b'.status (b'.questAt other) = b.status (b'.questAt other)) :
    Logged templates b' := by
  have hshrink : ∀ other, b'.questAt other = b.questAt other ∨ b'.questAt other = 0 := by
    intro other
    rw [hat]
    exact clear_shrink b slot other
  have hkeep : ∀ other, b'.questAt other ≠ 0 → b'.questAt other = b.questAt other :=
    fun other hother => (hshrink other).resolve_right hother
  refine ⟨fun other hother => ?_, fun first second hfirst hsame => ?_, fun other hother => ?_, fun frame hmem => ?_⟩
  · rcases hshrink other with hsame | hzero
    · exact hsame.trans (h.tail other hother)
    · exact hzero
  · have hsecond : b'.questAt second ≠ 0 := fun hzero => hfirst (hsame.trans hzero)
    rw [hkeep first hfirst, hkeep second hsecond] at hsame
    exact h.unique first second (hkeep first hfirst ▸ hfirst) hsame
  · rw [hstatus other hother, hkeep other hother]
    exact h.live other (hkeep other hother ▸ hother)
  · rcases hcalls frame hmem with hold | hok
    · exact (h.frames frame hold).shrink hshrink
    · exact hok

theorem Logged.not_inLog_clear (hquest : quest ≠ 0) (hslot : b.questAt slot = quest) :
    ¬ (b.setSlot slot 0).InLog quest := by
  rintro ⟨other, hother⟩
  rw [setSlot_questAt] at hother
  by_cases hsame : other = slot
  · rw [if_pos hsame] at hother
    exact hquest hother.symm
  · rw [if_neg hsame] at hother
    exact hsame (h.unique other slot (hother ▸ hquest) (hother.trans hslot.symm))

theorem Logged.accept {info : Quest} (hinfo : templates quest = some info)
    (hslot : slot < maxQuestLogSize) (hnone : b.status quest = .none)
    (hcalls : ∀ frame ∈ b.calls, ∀ quest, frame.pending quest = false) (history : List Event) :
    Logged templates (({ b with
        status := Function.update b.status quest .incomplete
        history } : Brief).setSlot slot quest) := by
  have hquest := ne_zero_of_info hinfo
  have hnew : ∀ other, b.questAt other ≠ quest := fun other hother =>
    (h.live other (hother ▸ hquest)).1 (hother ▸ hnone)
  refine ⟨fun other hother => ?_, fun first second hfirst hsame => ?_, fun other hother => ?_,
    fun frame hmem => frameOk_of_plain (hcalls frame hmem)⟩
  · rw [setSlot_questAt, if_neg (by omega)]
    exact h.tail other hother
  · rw [setSlot_questAt] at hfirst hsame
    rw [setSlot_questAt] at hsame
    by_cases hf : first = slot
    · by_cases hs : second = slot
      · rw [hf, hs]
      · rw [if_pos hf, if_neg hs] at hsame
        exact absurd hsame.symm (hnew second)
    · by_cases hs : second = slot
      · rw [if_neg hf, if_pos hs] at hsame
        exact absurd hsame (hnew first)
      · rw [if_neg hf] at hfirst hsame
        rw [if_neg hs] at hsame
        exact h.unique first second hfirst hsame
  · rw [setSlot_questAt] at hother ⊢
    by_cases hsame : other = slot
    · rw [if_pos hsame]
      refine ⟨?_, by rw [hinfo]; rfl⟩
      show Function.update b.status quest .incomplete quest ≠ .none
      rw [Function.update_self]
      exact nofun
    · rw [if_neg hsame] at hother ⊢
      refine ⟨?_, (h.live other hother).2⟩
      show Function.update b.status quest .incomplete (b.questAt other) ≠ .none
      rw [Function.update_of_ne (hnew other)]
      exact (h.live other hother).1

end

theorem swapSlot_questAt (b : Brief) (slot1 slot2 slot : ℕ) :
    (b.swapSlot slot1 slot2).questAt slot = b.questAt (Equiv.swap slot1 slot2 slot) := by
  rw [Equiv.swap_apply_def, swapSlot]
  dsimp only
  split
  · rfl
  · split <;> rfl

theorem Logged.swap (h : Logged templates b) {slot1 slot2 : ℕ} (h1 : slot1 < maxQuestLogSize)
    (h2 : slot2 < maxQuestLogSize) (hcalls : b.calls = []) : Logged templates (b.swapSlot slot1 slot2) := by
  refine ⟨fun slot hslot => ?_, fun slot other hslot hsame => ?_, fun slot hslot => ?_,
    fun frame hmem => absurd hmem (show frame ∉ b.calls from hcalls ▸ not_mem_nil)⟩
  · have hsame : Equiv.swap slot1 slot2 slot = slot := Equiv.swap_apply_of_ne_of_ne (by omega) (by omega)
    rw [swapSlot_questAt, hsame]
    exact h.tail slot hslot
  · rw [swapSlot_questAt] at hslot hsame
    rw [swapSlot_questAt] at hsame
    exact (Equiv.swap slot1 slot2).injective (h.unique _ _ hslot hsame)
  · rw [swapSlot_questAt] at hslot ⊢
    exact h.live _ hslot

theorem Logged.action (h : Logged templates b) (haction : Action templates direct careful b b') :
    Logged templates b' := by
  cases haction with
  | push frames hpush hone =>
    refine h.status rfl (fun frame hmem => ?_) fun _ _ hold => hold
    rcases mem_append.mp hmem with hnew | hold
    · right
      have hpushable := hpush frame hnew
      cases frame with
      | remove slot quest =>
        obtain ⟨hslot, hquest, hat, -⟩ := hpushable
        refine ⟨hat ▸ (h.live slot (hat ▸ hquest)).2, hslot, .inl hat, fun other hother => ?_⟩
        exact h.unique other slot (hother ▸ hquest) (hother.trans hat.symm)
      | rewardSlot quest reward =>
        obtain ⟨info, hinfo, -⟩ := hpushable
        exact Option.isSome_of_eq_some hinfo
      | reward quest => exact hpushable.elim
      | drop quest => exact hpushable.elim
      | _ => exact trivial
    · exact .inl hold
  | pop hcalls hplain => exact h.status rfl (fun frame hmem => .inl (hcalls ▸ mem_cons_of_mem _ hmem)) fun _ _ hold => hold
  | complete hinfo hplain hmay => exact h.setStatus _ nofun
  | completeReward hinfo hauto hmay hfree =>
    refine (h.setStatus _ (by decide : QuestStatus.complete ≠ .none)).status rfl (fun frame hmem => ?_)
      fun _ _ hold => hold
    rcases mem_append.mp hmem with hnew | hold
    · right
      simp only [mem_cons, not_mem_nil, or_false] at hnew
      rcases hnew with rfl | rfl | rfl | rfl
      · exact trivial
      · exact trivial
      · exact trivial
      · exact Option.isSome_of_eq_some hinfo
    · exact .inl hold
  | incomplete hinfo hmay => exact h.setStatus _ nofun
  | @accept quest slot info hinfo hslot hfree hnone hcalls hrewarded =>
    exact h.accept hinfo hslot hnone hcalls (b.history ++ [.accepted quest])
  | fail hinfo hlog hplain hcalls => exact h.setStatus _ nofun
  | @remove slot quest rest hcalls =>
    obtain ⟨hsome, hslot, hat, honly⟩ := h.frames _ (hcalls ▸ mem_cons_self)
    refine h.clear slot rfl (fun frame hmem => .inl (hcalls ▸ mem_cons_of_mem _ hmem)) fun other hother => ?_
    refine (setStatus_status _ _ _ _).trans (if_neg fun hsame => ?_)
    have hne : other ≠ slot := fun hslot => hother ((setSlot_questAt _ _ _ _).trans (if_pos hslot))
    exact hne (honly other (((setSlot_questAt _ _ _ _).trans (if_neg hne)).symm.trans hsame))
  | @rewardSlot slot quest reward rest hcalls hslot =>
    have hok : FrameOk templates b (.rewardSlot quest reward) := h.frames _ (hcalls ▸ mem_cons_self)
    refine h.clear slot rfl (fun frame hmem => ?_) fun _ _ => rfl
    rcases mem_cons.mp hmem with rfl | hmem
    · exact .inr trivial
    rcases mem_cons.mp hmem with rfl | hmem
    · exact .inr ⟨hok, h.not_inLog_clear (ne_zero_of_isSome hok) hslot⟩
    rcases mem_cons.mp hmem with rfl | hmem
    · exact .inr trivial
    · exact .inl (hcalls ▸ mem_cons_of_mem _ hmem)
  | @rewardNoSlot quest reward rest hcalls hslot =>
    have hok : FrameOk templates b (.rewardSlot quest reward) := h.frames _ (hcalls ▸ mem_cons_self)
    refine h.status rfl (fun frame hmem => ?_) fun _ _ hold => hold
    rcases mem_cons.mp hmem with rfl | hmem
    · exact .inr trivial
    rcases mem_cons.mp hmem with rfl | hmem
    · exact .inr ⟨hok, hslot⟩
    rcases mem_cons.mp hmem with rfl | hmem
    · exact .inr trivial
    · exact .inl (hcalls ▸ mem_cons_of_mem _ hmem)
  | @reward quest info rest hcalls hinfo =>
    obtain ⟨-, hout⟩ := h.frames _ (hcalls ▸ mem_cons_self)
    refine h.status rfl (fun frame hmem => .inl (hcalls ▸ mem_cons_of_mem _ hmem)) fun other _ hold => ?_
    refine fun hnone => hold ?_
    rwa [setStatus_status, if_neg fun hsame => hout ⟨other, hsame⟩] at hnone
  | @dropSlot slot quest hdirect hinfo hquest hslot =>
    refine h.clear slot rfl (fun frame hmem => ?_) fun _ _ => rfl
    rcases mem_cons.mp hmem with rfl | hmem
    · exact .inr trivial
    rcases mem_cons.mp hmem with rfl | hmem
    · exact .inr ⟨hinfo, h.not_inLog_clear hquest hslot⟩
    · exact .inl hmem
  | dropNoSlot hdirect hinfo hslot =>
    refine h.status rfl (fun frame hmem => ?_) fun _ _ hold => hold
    rcases mem_cons.mp hmem with rfl | hmem
    · exact .inr ⟨hinfo, hslot⟩
    · exact .inl hmem
  | @drop quest rest hdirect hcalls =>
    obtain ⟨-, hout⟩ := h.frames _ (hcalls ▸ mem_cons_self)
    refine h.status rfl (fun frame hmem => .inl (hcalls ▸ mem_cons_of_mem _ hmem)) fun other _ hold => ?_
    refine fun hnone => hold ?_
    rwa [setStatus_status, if_neg fun hsame => hout ⟨other, hsame⟩] at hnone
  | @swap slot1 slot2 h1 h2 hcalls => exact h.swap h1 h2 hcalls

theorem Logged.acts (h : Logged templates b) (hacts : Acts templates direct careful b b') : Logged templates b' := by
  induction hacts with
  | refl => exact h
  | tail _ haction ih => exact ih.action haction

end Brief

end TurtleWow.Quests

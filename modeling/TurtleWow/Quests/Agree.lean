import TurtleWow.Quests.RewardedOnce

namespace TurtleWow.Quests

open List

-- A call in progress that has taken the quest out of the log and will set its
-- status
def Frame.takesOut (quest : ℕ) : Frame → Bool
  | .reward other | .drop other => other = quest
  | _ => false

namespace Brief

variable {templates : Templates} {b b' : Brief} {quest : ℕ} {info : Quest}

def Between (b : Brief) (quest : ℕ) : Prop := ∃ frame ∈ b.calls, frame.takesOut quest = true

-- A quest with a place in the log
def Active (b : Brief) (quest : ℕ) (info : Quest) : Prop :=
  b.status quest ≠ .none ∧ (b.rewarded quest = false ∨ info.repeatable = true)

structure Agree (b : Brief) (quest : ℕ) (info : Quest) : Prop where
  active : b.InLog quest → b.Active quest info
  logged : info.auto = false → ¬ b.Between quest → b.Active quest info → b.InLog quest

theorem Agree.keep (h : Agree b quest info) (hlog : b'.InLog quest ↔ b.InLog quest)
    (hstatus : b'.status quest = b.status quest) (hflag : b'.rewarded quest = b.rewarded quest)
    (hbetween : b.Between quest → b'.Between quest) : Agree b' quest info := by
  have hactive : b'.Active quest info ↔ b.Active quest info := by rw [Active, Active, hstatus, hflag]
  refine ⟨fun hin => hactive.mpr (h.active (hlog.mp hin)), fun hauto hnot hin => ?_⟩
  exact hlog.mpr (h.logged hauto (fun hold => hnot (hbetween hold)) (hactive.mp hin))

theorem Agree.setStatus (h : Agree b quest info) (other : ℕ)
    {status : QuestStatus} (hstatus : status ≠ .none)
    (hsettled : other = quest → b.Settled quest info ∨ b.status quest ≠ .none) :
    Agree (b.setStatus other status) quest info := by
  by_cases hsame : other = quest
  · subst hsame
    have hnew : (b.setStatus other status).status other = status := (setStatus_status _ _ _ _).trans (if_pos rfl)
    refine ⟨fun hin => ⟨by rw [hnew]; exact hstatus, (h.active hin).2⟩, fun hauto hnot hactive => ?_⟩
    have hflag : b.rewarded other = false ∨ info.repeatable = true := hactive.2
    rcases hsettled rfl with (hbad | hin | ⟨hrewarded, hplain⟩) | hold
    · exact nomatch hauto.symm.trans hbad
    · exact hin
    · rcases hflag with hno | hrep
      · exact nomatch hrewarded.symm.trans hno
      · exact nomatch hplain.symm.trans hrep
    · exact h.logged hauto hnot ⟨hold, hflag⟩
  · exact h.keep Iff.rfl ((setStatus_status _ _ _ _).trans (if_neg (Ne.symm hsame))) rfl id

theorem settled_of_mayComplete (h : b.MayComplete quest info) : b.Settled quest info ∨ b.status quest ≠ .none := by
  rcases h.2 with hauto | ⟨hauto, -⟩ | hincomplete
  · exact .inl (.inl (by rw [Quest.auto, hauto, Bool.or_true]))
  · exact .inl (.inl (by rw [Quest.auto, hauto, Bool.true_or]))
  · exact .inr (hincomplete ▸ nofun)

theorem Between.of_cons {frame : Frame} {rest : List Frame} (hcalls : b.calls = frame :: rest)
    (hplain : frame.takesOut quest = false) (h : b.Between quest) : ∃ frame ∈ rest, frame.takesOut quest = true := by
  obtain ⟨other, hmem, hother⟩ := h
  rw [hcalls] at hmem
  rcases mem_cons.mp hmem with rfl | hmem
  · exact nomatch hplain.symm.trans hother
  · exact ⟨other, hmem, hother⟩

theorem takesOut_of_pending {frame : Frame} (h : frame.pending quest = false) : frame.takesOut quest = false := by
  cases frame with
  | reward other => exact h
  | drop other => exact h
  | _ => rfl

theorem Agree.leave (hout : ¬ b'.InLog quest) (hinactive : ¬ b'.Active quest info) : Agree b' quest info :=
  ⟨fun hin => absurd hin hout, fun _ _ hactive => absurd hactive hinactive⟩

theorem Agree.between (hout : ¬ b'.InLog quest) (h : b'.Between quest) : Agree b' quest info :=
  ⟨fun hin => absurd hin hout, fun _ hnot => absurd h hnot⟩

theorem inLog_setSlot_other {slot other : ℕ} (hne : quest ≠ other) (hslot : b.questAt slot ≠ quest) :
    (b.setSlot slot other).InLog quest ↔ b.InLog quest := by
  refine ⟨inLog_of_setSlot hne, fun ⟨place, hplace⟩ => ⟨place, ?_⟩⟩
  rw [setSlot_questAt, if_neg]
  · exact hplace
  · rintro rfl
    exact hslot hplace

theorem Agree.action {direct careful : Prop} (h : Agree b quest info) (hlogged : Logged templates b)
    (hinfo : templates quest = some info) (hdirect : direct) (haction : Action templates direct careful b b') :
    Agree b' quest info := by
  have hquest := ne_zero_of_info hinfo
  cases haction with
  | push frames hpush hone =>
    refine h.keep Iff.rfl rfl rfl fun ⟨frame, hmem, hframe⟩ => ⟨frame, ?_, hframe⟩
    exact mem_append_right _ hmem
  | @pop frame rest hcalls hplain =>
    exact h.keep Iff.rfl rfl rfl fun hbetween => hbetween.of_cons hcalls (takesOut_of_pending (hplain quest))
  | @complete other info' hinfo' hplain hmay =>
    refine h.setStatus other nofun fun hsame => ?_
    subst hsame
    obtain rfl := Option.some.inj (hinfo.symm.trans hinfo')
    exact hmay.elim settled_of_mayComplete fun hsettled => .inl hsettled.2
  | @completeReward other info' hinfo' hauto hmay hfree =>
    have hset : Agree (b.setStatus other .complete) quest info := by
      refine h.setStatus other nofun fun hsame => ?_
      subst hsame
      obtain rfl := Option.some.inj (hinfo.symm.trans hinfo')
      exact .inl (.inl (by rw [Quest.auto, hauto, Bool.or_true]))
    exact hset.keep Iff.rfl rfl rfl fun ⟨frame, hmem, hframe⟩ => ⟨frame, mem_append_right _ hmem, hframe⟩
  | @incomplete other info' hinfo' hmay =>
    refine h.setStatus other nofun fun hsame => ?_
    subst hsame
    obtain rfl := Option.some.inj (hinfo.symm.trans hinfo')
    exact hmay.elim (fun hin => .inl (.inr (.inl hin.1))) fun hsettled => .inl hsettled.2
  | @accept other slot info' hinfo' hslot hfree hnone hcalls hrewarded =>
    by_cases hsame : other = quest
    · subst hsame
      obtain rfl := Option.some.inj (hinfo.symm.trans hinfo')
      have hin : (b.setSlot slot other).InLog other := ⟨slot, by rw [setSlot_questAt, if_pos rfl]⟩
      refine ⟨fun _ => ⟨?_, hrewarded hdirect⟩, fun _ _ _ => hin⟩
      show Function.update b.status other .incomplete other ≠ .none
      rw [Function.update_self]
      exact nofun
    · refine h.keep (inLog_setSlot_other (Ne.symm hsame) ?_) (Function.update_of_ne (Ne.symm hsame) _ _) rfl id
      rw [hfree]
      exact hquest.symm
  | @fail other info' hinfo' hlog hplain hcalls =>
    exact h.setStatus other nofun fun hsame => .inl (.inr (.inl (hsame ▸ hlog)))
  | @remove slot other rest hcalls =>
    obtain ⟨hsome, hslot, hat, honly⟩ : FrameOk templates b (.remove slot other) :=
      hlogged.frames _ (hcalls ▸ mem_cons_self)
    by_cases hsame : other = quest
    · subst hsame
      refine Agree.leave (fun hin => ?_) fun hactive => hactive.1 ?_
      · obtain ⟨place, hplace⟩ : (b.setSlot slot 0).InLog other := hin
        rw [setSlot_questAt] at hplace
        split at hplace
        · exact hquest hplace.symm
        · next hne => exact hne (honly place hplace)
      · exact (setStatus_status _ _ _ _).trans (if_pos rfl)
    · refine h.keep (inLog_setSlot_other hquest ?_) ((setStatus_status _ _ _ _).trans (if_neg (Ne.symm hsame))) rfl
        fun hbetween => hbetween.of_cons hcalls rfl
      rcases hat with hat | hat
      · exact fun hbad => hsame (hat.symm.trans hbad)
      · exact fun hbad => hquest (hbad.symm.trans hat)
  | @rewardSlot slot other reward rest hcalls hslot =>
    by_cases hsame : other = quest
    · subst hsame
      exact Agree.between (hlogged.not_inLog_clear hquest hslot) ⟨.reward other, by simp [setSlot], decide_eq_true rfl⟩
    · refine h.keep (inLog_setSlot_other hquest fun hbad => hsame (hslot.symm.trans hbad)) rfl rfl fun hbetween => ?_
      obtain ⟨frame, hmem, hframe⟩ := hbetween.of_cons hcalls rfl
      exact ⟨frame, by simp [setSlot, hmem], hframe⟩
  | @rewardNoSlot other reward rest hcalls hslot =>
    by_cases hsame : other = quest
    · subst hsame
      exact Agree.between hslot ⟨.reward other, by simp, decide_eq_true rfl⟩
    · refine h.keep Iff.rfl rfl rfl fun hbetween => ?_
      obtain ⟨frame, hmem, hframe⟩ := hbetween.of_cons hcalls rfl
      exact ⟨frame, by simp [hmem], hframe⟩
  | @reward other info' rest hcalls hinfo' =>
    obtain ⟨-, hout⟩ : FrameOk templates b (.reward other) := hlogged.frames _ (hcalls ▸ mem_cons_self)
    by_cases hsame : other = quest
    · subst hsame
      obtain rfl := Option.some.inj (hinfo.symm.trans hinfo')
      refine Agree.leave hout fun ⟨hstatus, hflag⟩ => ?_
      rw [show _ = _ from (setStatus_status _ _ _ _).trans (if_pos rfl)] at hstatus
      rcases hflag with hflag | hrepeatable
      · have hflag : Function.update b.rewarded other true other = false := hflag
        rw [Function.update_self] at hflag
        cases hflag
      · rw [if_pos hrepeatable] at hstatus
        exact hstatus rfl
    · exact h.keep Iff.rfl ((setStatus_status _ _ _ _).trans (if_neg (Ne.symm hsame)))
        (Function.update_of_ne (Ne.symm hsame) _ _) fun hbetween =>
          hbetween.of_cons hcalls (decide_eq_false hsame)
  | @dropSlot slot other hdirect' hinfo' hother hslot =>
    by_cases hsame : other = quest
    · subst hsame
      exact Agree.between (hlogged.not_inLog_clear hquest hslot) ⟨.drop other, by simp [push], decide_eq_true rfl⟩
    · exact h.keep (inLog_setSlot_other hquest fun hbad => hsame (hslot.symm.trans hbad)) rfl rfl
        fun ⟨frame, hmem, hframe⟩ => ⟨frame, mem_append_right _ hmem, hframe⟩
  | @dropNoSlot other hdirect' hinfo' hslot =>
    by_cases hsame : other = quest
    · subst hsame
      exact Agree.between hslot ⟨.drop other, by simp [push], decide_eq_true rfl⟩
    · exact h.keep Iff.rfl rfl rfl fun ⟨frame, hmem, hframe⟩ => ⟨frame, mem_append_right _ hmem, hframe⟩
  | @drop other rest hdirect' hcalls =>
    obtain ⟨-, hout⟩ : FrameOk templates b (.drop other) := hlogged.frames _ (hcalls ▸ mem_cons_self)
    by_cases hsame : other = quest
    · subst hsame
      exact Agree.leave hout fun hactive => hactive.1 ((setStatus_status _ _ _ _).trans (if_pos rfl))
    · exact h.keep Iff.rfl ((setStatus_status _ _ _ _).trans (if_neg (Ne.symm hsame))) rfl fun hbetween =>
        hbetween.of_cons hcalls (decide_eq_false hsame)
  | @swap slot1 slot2 h1 h2 hcalls =>
    refine h.keep ⟨fun ⟨slot, hslot⟩ => ⟨_, (swapSlot_questAt b slot1 slot2 slot).symm.trans hslot⟩,
      fun ⟨slot, hslot⟩ => ?_⟩ rfl rfl id
    obtain ⟨place, rfl⟩ := (Equiv.swap slot1 slot2).surjective slot
    exact ⟨place, (swapSlot_questAt b slot1 slot2 place).trans hslot⟩

end Brief

end TurtleWow.Quests

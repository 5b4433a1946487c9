import TurtleWow.Quests.LifeCycle
import TurtleWow.Quests.Others

namespace TurtleWow.Quests

open Run List

-- m_ExclusiveQuestGroups: the quests of each exclusive group, as LoadQuests fills it
structure ExclusiveGroups (templates : Templates) where
  exclusiveGroup : ℕ → ℤ
  bounds : ℤ → List ℕ
  mem_bounds : ∀ group quest, quest ∈ bounds group ↔
    (templates quest).isSome ∧ exclusiveGroup quest = group ∧ group ≠ 0

namespace Player

section

variable {templates : Templates} (groups : ExclusiveGroups templates) (p : Player)

def satisfyQuestExclusiveGroup (quest : ℕ) : Bool :=
  if groups.exclusiveGroup quest ≤ 0 then true
  else
    (groups.bounds (groups.exclusiveGroup quest)).all fun exclude =>
      exclude = quest ||
        match p.questStatus.find exclude with
        | some data => !(data.status = .complete || data.status = .incomplete)
        | none => true

-- A quest with a status, or rewarded for good
def Held (quest : ℕ) : Prop :=
  (p.data quest).status ≠ .none ∨
    (p.data quest).rewarded = true ∧ ∃ info, templates quest = some info ∧ info.repeatable = false

structure Exclusive : Prop where
  one : ∀ first second, groups.exclusiveGroup first = groups.exclusiveGroup second → 0 < groups.exclusiveGroup first →
    (templates first).isSome → (templates second).isSome → @Held templates p first →
      @Held templates p second → first = second
  rewarded : ∀ first second info info', groups.exclusiveGroup first = groups.exclusiveGroup second →
    0 < groups.exclusiveGroup first → templates first = some info → templates second = some info' →
      info.repeatable = false → info'.repeatable = false → .rewarded first ∈ p.history → .rewarded second ∈ p.history →
        first = second

-- The quest that a step takes, completes or begins to reward
def BeginsInput (view : View) (quest : ℕ) : Input → Prop
  | .acceptQuest other | .addQuest other => other = quest ∧
      ∃ info, templates quest = some info ∧ p.canTakeQuest view quest info false = true
  | .requestReward other | .completeQuest other | .areaExploredOrEventHappens other => other = quest ∧
      p.canCompleteQuest templates view quest = true
  | .chooseReward other reward | .rewardQuest other reward => other = quest ∧
      ∃ info, templates quest = some info ∧ p.canRewardQuest templates view quest reward info = true
  | _ => False

def BeginsFrame (view : View) (quest : ℕ) : Frame → Prop
  | .completeIfCan other => other = quest ∧ p.canCompleteQuest templates view quest = true
  | _ => False

def Begins (input : View × Input) (quest : ℕ) : Prop :=
  match p.calls with
  | [] => @BeginsInput templates p input.1 quest input.2
  | frame :: _ => @BeginsFrame templates p input.1 quest frame

-- A quest of the group that SatisfyQuestExclusiveGroup does not see
def Unseen (quest : ℕ) : Prop :=
  (p.data quest).status = .failed ∨
    (p.data quest).status = .none ∧ (p.data quest).rewarded = true ∧
      (∃ info, templates quest = some info ∧ info.repeatable = false) ∨
    ∃ frame ∈ p.calls, frame.rewards quest = true

-- Whenever a quest that is not held is taken, completed or rewarded, no quest of
-- its group is unseen, and for an auto-rewarded one the group is free as well.
def ApartStep (input : View × Input) : Prop :=
  ∀ quest info, templates quest = some info → 0 < groups.exclusiveGroup quest →
    @Begins templates p input quest → ¬ @Held templates p quest →
      (info.autoRewarded = true → p.satisfyQuestExclusiveGroup groups quest = true) ∧
        ∀ other ∈ groups.bounds (groups.exclusiveGroup quest), other ≠ quest → ¬ @Unseen templates p other

-- CanTakeQuest includes SatisfyQuestExclusiveGroup.
def GroupCheckedStep (input : View × Input) : Prop :=
  p.CheckedStep templates input ∧
    ∀ quest, input.1.satisfies quest = true → p.satisfyQuestExclusiveGroup groups quest = true

end

end Player

namespace Brief

variable {templates : Templates} {b b' : Brief} {quest : ℕ}

-- A quest that is held, or will be when the calls in progress are through
def Claims (templates : Templates) (b : Brief) (quest : ℕ) : Prop :=
  b.status quest ≠ .none ∨
    b.rewarded quest = true ∧ (∃ info, templates quest = some info ∧ info.repeatable = false) ∨
    ∃ frame ∈ b.calls, frame.rewards quest = true

theorem Claims.of_spares (h : Spares quest b b') (hclaims : Claims templates b' quest) : Claims templates b quest := by
  rcases hclaims with hstatus | ⟨hrewarded, hplain⟩ | ⟨frame, hmem, hrewards⟩
  · exact .inl (h.status ▸ hstatus)
  · exact .inr (.inl ⟨h.rewarded ▸ hrewarded, hplain⟩)
  · exact .inr (.inr ⟨frame, h.calls frame hmem hrewards, hrewards⟩)

theorem Logged.claims (h : Logged templates b) (hsome : (templates quest).isSome) (hlog : b.InLog quest) :
    Claims templates b quest := by
  obtain ⟨slot, rfl⟩ := hlog
  exact .inl (h.live slot (ne_zero_of_isSome hsome)).1

end Brief

namespace Player

open Brief

section

variable {templates : Templates} {view : View} {p : Player} {quest : ℕ}

theorem claims_target {p' : Player} {target : ℕ} {checked : Prop}
    (hspares : quest ≠ target → Spares quest p.brief p'.brief)
    (hpassed : quest = target → Claims templates p.brief quest ∨ checked ∨ p'.brief = p.brief)
    (h : Claims templates p'.brief quest) : Claims templates p.brief quest ∨ target = quest ∧ checked := by
  by_cases hsame : quest = target
  · rcases hpassed hsame with hold | hchecked | hbrief
    · exact .inl hold
    · exact .inr ⟨hsame.symm, hchecked⟩
    · exact .inl (hbrief ▸ h)
  · exact .inl (h.of_spares (hspares hsame))

theorem claims_completeIfCan {target : ℕ} (h : Claims templates (p.completeIfCan templates view target).brief quest) :
    Claims templates p.brief quest ∨ target = quest ∧ p.canCompleteQuest templates view quest = true := by
  refine claims_target (fun hne => spares_completeIfCan hne) (fun hsame => .inr ?_) h
  subst hsame
  by_cases hcan : p.canCompleteQuest templates view quest = true
  · exact .inl hcan
  · exact .inr (by rw [completeIfCan, if_neg hcan])

section

variable (hlogged : Logged templates p.brief)

include hlogged

theorem claims_begin (hsome : (templates quest).isSome) {input : Input}
    (hchecked : p.CheckedInput templates view input) (h : Claims templates (p.begin templates view input).brief quest) :
    Claims templates p.brief quest ∨ @BeginsInput templates p view quest input := by
  by_cases hlog : p.brief.InLog quest
  · exact .inl (hlogged.claims hsome hlog)
  cases input with
  | acceptQuest target =>
    refine claims_target (fun hne => ?_) (fun hsame => .inr ?_) h
    · simp only [begin]
      split
      · split
        · have hpush : Spares quest p.brief (p.push [.completeIfCan target]).brief :=
            .push fun frame hmem => mem_singleton.mp hmem ▸ rfl
          exact hpush.trans (spares_addQuest hne)
        · exact .refl _ _
      · exact .refl _ _
    · subst hsame
      simp only [begin]
      split
      · next info hinfo =>
          split
          · next hchecks => exact .inl ⟨info, hinfo, hchecks.1⟩
          · exact .inr rfl
      · exact .inr rfl
  | addQuest target =>
    refine claims_target (fun hne => ?_) (fun hsame => .inr ?_) h
    · simp only [begin]
      split
      · split
        · exact spares_addQuest hne
        · exact .refl _ _
      · exact .refl _ _
    · subst hsame
      simp only [begin]
      split
      · next info hinfo => exact .inl ⟨info, hinfo, hchecked info hinfo⟩
      · exact .inr rfl
  | requestReward target => exact claims_completeIfCan h
  | areaExploredOrEventHappens target =>
    refine claims_target (fun hne => spares_areaExploredOrEventHappens hne) (fun hsame => .inr ?_) h
    subst hsame
    rcases @areaExplored_of_out templates view _ _ hlog with hbrief | hcomplete
    · exact .inr hbrief
    · by_cases hcan : p.canCompleteQuest templates view quest = true
      · exact .inl hcan
      · refine .inr ?_
        show (p.areaExploredOrEventHappens templates view quest).brief = p.brief
        rw [hcomplete, completeIfCan, if_neg hcan]
  | completeQuest target =>
    refine claims_target (fun hne => spares_completeQuest hne) (fun hsame => ?_) h
    subst hsame
    rcases hchecked with hcan | hincomplete
    · exact .inr (.inl hcan)
    · have hstatus : p.brief.status quest = .incomplete := hincomplete
      exact .inl (.inl (by simp [hstatus]))
  | chooseReward target reward =>
    refine claims_target (fun hne => ?_) (fun hsame => .inr ?_) h
    · simp only [begin]
      split
      · split
        · exact spares_rewardQuest hne reward
        · exact .refl _ _
      · exact .refl _ _
    · subst hsame
      simp only [begin]
      split
      · next info hinfo =>
          split
          · next hcan => exact .inl ⟨info, hinfo, hcan⟩
          · exact .inr rfl
      · exact .inr rfl
  | rewardQuest target reward =>
    refine claims_target (fun hne => ?_) (fun hsame => .inr (.inl ?_)) h
    · simp only [begin]
      split
      · exact spares_rewardQuest hne reward
      · exact .refl _ _
    · subst hsame
      obtain ⟨info, hinfo⟩ := Option.isSome_iff_exists.mp hsome
      exact ⟨info, hinfo, hchecked info hinfo⟩
  | questLogRemoveQuest slot => exact .inl (h.of_spares (spares_handleQuestLogRemoveQuest slot))
  | questLogSwapQuest slot1 slot2 =>
    refine .inl (h.of_spares ?_)
    simp only [begin]
    split
    · exact ⟨rfl, rfl, fun _ hmem _ => hmem⟩
    · exact .refl _ _
  | creditObjective slot objective => exact .inl (h.of_spares (spares_creditObjective hlog))
  | failQuest target => exact .inl (h.of_spares (spares_failQuest (.inr hlog)))
  | update diff => exact .inl (h.of_spares (spares_update hlog))
  | removeQuestAtSlot slot => exact .inl (h.of_spares (spares_removeQuestAtSlot slot))
  | incompleteQuest target => exact hchecked.elim
  | loseSkill skill => exact hchecked.elim
  | saveQuestStatus => exact hchecked.elim
  | loadQuestStatus order => exact hchecked.elim
  | itemAdded entry count => exact .inl (h.of_spares (spares_change (.itemAdded entry count)))
  | itemRemoved entry count => exact .inl (h.of_spares (spares_change (.itemRemoved entry count)))
  | moneyChanged count => exact .inl (h.of_spares (spares_change (.moneyChanged count)))
  | reputationChanged faction => exact .inl (h.of_spares (spares_change (.reputationChanged faction)))
  | go => exact .inl h

theorem claims_resume (hsome : (templates quest).isSome) {frame : Frame}
    {rest : List Frame} (hcalls : p.calls = frame :: rest) (hdrop : ∀ skill first, frame ≠ .dropQuests skill first)
    (hdrop' : ∀ other, frame ≠ .drop other)
    (h : Claims templates (({ p with calls := rest } : Player).resume templates view frame).brief quest) :
    Claims templates p.brief quest ∨ @BeginsFrame templates p view quest frame := by
  by_cases hlog : p.brief.InLog quest
  · exact .inl (hlogged.claims hsome hlog)
  have hpop : Spares quest p.brief ({ p with calls := rest } : Player).brief := spares_pop hcalls
  have hmem : frame ∈ p.calls := hcalls ▸ mem_cons_self
  cases frame with
  | items => exact .inl (h.of_spares hpop)
  | itemAddedQuestCheck entry count slot =>
    refine .inl (h.of_spares ?_)
    simp only [resume]
    split
    · exact (spares_next hcalls rfl).trans (spares_itemAddedQuestCheck hlog)
    · exact hpop
  | itemRemovedQuestCheck entry count slot =>
    refine .inl (h.of_spares ?_)
    simp only [resume]
    split
    · exact (spares_next hcalls rfl).trans (spares_itemRemovedQuestCheck hlog)
    · exact hpop
  | moneyChanged count slot =>
    refine .inl (h.of_spares ?_)
    simp only [resume]
    split
    · exact (spares_next hcalls rfl).trans ((checked_moneyChanged count).spares hlog)
    · exact hpop
  | reputationChanged faction slot =>
    refine .inl (h.of_spares ?_)
    simp only [resume]
    split
    · exact (spares_next hcalls rfl).trans ((checked_reputationChanged faction).spares hlog)
    · exact hpop
  | adjustQuestReqItemCount target =>
    exact .inl (h.of_spares (hpop.trans (.of_eq (brief_adjustQuestReqItemCount _ target))))
  | completeIfCan target =>
    exact (claims_completeIfCan h).imp (fun hold => hold.of_spares hpop) id
  | removeTimedQuest target => exact .inl (h.of_spares hpop)
  | remove slot target =>
    left
    by_cases hsame : quest = target
    · subst hsame
      simp only [resume] at h
      rw [remove, brief_record, brief_setQuestSlot, brief_setQuestStatus hsome] at h
      rcases h with hstatus | hrewarded | ⟨other, hother, hrewards⟩
      · exact absurd (Function.update_self _ _ _) hstatus
      · exact .inr (.inl hrewarded)
      · exact .inr (.inr ⟨other, hpop.calls other hother hrewards, hrewards⟩)
    · exact h.of_spares (hpop.trans (spares_remove hsame))
  | rewardSlot target reward =>
    left
    by_cases hsame : quest = target
    · exact .inr (.inr ⟨_, hmem, decide_eq_true hsame.symm⟩)
    · exact h.of_spares (hpop.trans (spares_rewardSlot hsame))
  | reward target =>
    left
    by_cases hsame : quest = target
    · exact .inr (.inr ⟨_, hmem, decide_eq_true hsame.symm⟩)
    · exact h.of_spares (hpop.trans (spares_reward hsame))
  | dropQuests skill first => exact absurd rfl (hdrop skill first)
  | drop target => exact absurd rfl (hdrop' target)

theorem claims_step (hsome : (templates quest).isSome) {input : View × Input}
    (hchecked : p.CheckedStep templates input) (h : Claims templates (p.step templates input).brief quest) :
    Claims templates p.brief quest ∨ @Begins templates p input quest := by
  rw [CheckedStep] at hchecked
  rw [Begins]
  rw [step] at h
  cases hcalls : p.calls with
  | nil =>
    rw [hcalls] at hchecked h
    exact claims_begin hlogged hsome hchecked h
  | cons frame rest =>
    rw [hcalls] at hchecked h
    cases frame with
    | items =>
      dsimp only at h
      split at h
      · exact .inl (h.of_spares (spares_change _))
      · exact .inl (h.of_spares (spares_change _))
      · exact .inl (h.of_spares (spares_change _))
      · exact .inl (h.of_spares (spares_change _))
      · exact .inl (h.of_spares (spares_pop hcalls))
    | dropQuests skill first => exact hchecked.elim
    | drop target => exact hchecked.elim
    | _ => exact claims_resume hlogged hsome hcalls (by simp) (by simp) h

end

end

section

variable {templates : Templates} {groups : ExclusiveGroups templates} {view : View} {p : Player} {quest other : ℕ}
  {info : Quest}

theorem satisfies_of_canTakeQuest {skip : Bool} (h : p.canTakeQuest view quest info skip = true) :
    view.satisfies quest = true := by
  simp only [canTakeQuest, Bool.and_eq_true] at h
  exact h.1.2

theorem satisfies_of_canCompleteQuest (hnone : (p.data quest).status = .none)
    (h : p.canCompleteQuest templates view quest = true) :
    ∃ info, templates quest = some info ∧ (info.autoRewarded = true ∨ view.satisfies quest = true) := by
  simp only [canCompleteQuest, data_status, hnone] at h
  by_cases hzero : quest = 0
  · exact absurd h (by simp [hzero])
  rw [if_neg hzero, if_neg (by simp)] at h
  split at h
  · cases h
  · next info hinfo =>
      refine ⟨info, hinfo, ?_⟩
      split at h
      · next hauto => exact .inl hauto
      split at h
      · next htake =>
          rw [Bool.and_eq_true] at htake
          exact .inr (satisfies_of_canTakeQuest htake.2)
      · rw [if_pos (by simp)] at h
        cases h

theorem satisfies_of_canRewardQuest {reward : ℕ} (hnone : (p.data quest).status = .none)
    (h : p.canRewardQuest templates view quest reward info = true) : view.satisfies quest = true := by
  simp only [canRewardQuest, Bool.and_eq_true] at h
  have htake := h.1.1.1.1.2
  split at htake
  · exact satisfies_of_canTakeQuest htake
  · rw [decide_eq_true_eq, getQuestStatus, data_status, hnone] at htake
    split at htake <;> cases htake

theorem not_held_of_not_claims (h : ¬ Claims templates p.brief quest) : ¬ @Held templates p quest :=
  fun hheld => h (hheld.imp id .inl)

-- Each way to begin a quest looks at its group, or the condition does.
theorem satisfies_of_begins {input : View × Input} (hchecked : p.GroupCheckedStep groups input)
    (hapart : p.ApartStep groups input) (hinfo : templates quest = some info)
    (hgroup : 0 < groups.exclusiveGroup quest) (hbegins : @Begins templates p input quest)
    (hclaims : ¬ Claims templates p.brief quest) : p.satisfyQuestExclusiveGroup groups quest = true := by
  have hnone : (p.data quest).status = .none := by
    by_contra hstatus
    exact hclaims (.inl hstatus)
  have hauto := (hapart quest info hinfo hgroup hbegins (not_held_of_not_claims hclaims)).1
  have hcomplete : p.canCompleteQuest templates input.1 quest = true →
      p.satisfyQuestExclusiveGroup groups quest = true := by
    intro hcan
    obtain ⟨info', hinfo', hor⟩ := satisfies_of_canCompleteQuest hnone hcan
    rw [← Option.some.inj (hinfo.symm.trans hinfo')] at hor
    exact hor.elim hauto (hchecked.2 quest)
  have htake : (∃ info, templates quest = some info ∧ p.canTakeQuest input.1 quest info false = true) →
      p.satisfyQuestExclusiveGroup groups quest = true :=
    fun ⟨_, _, h⟩ => hchecked.2 quest (satisfies_of_canTakeQuest h)
  have hreward : ∀ reward, (∃ info, templates quest = some info ∧
      p.canRewardQuest templates input.1 quest reward info = true) → p.satisfyQuestExclusiveGroup groups quest = true :=
    fun _ ⟨_, _, h⟩ => hchecked.2 quest (satisfies_of_canRewardQuest hnone h)
  rw [Begins] at hbegins
  split at hbegins
  · cases hinput : input.2 <;> rw [hinput] at hbegins
    case acceptQuest => exact htake hbegins.2
    case addQuest => exact htake hbegins.2
    case requestReward => exact hcomplete hbegins.2
    case completeQuest => exact hcomplete hbegins.2
    case areaExploredOrEventHappens => exact hcomplete hbegins.2
    case chooseReward other reward => exact hreward reward hbegins.2
    case rewardQuest other reward => exact hreward reward hbegins.2
    all_goals exact hbegins.elim
  · next frame rest hcalls =>
      cases frame
      case completeIfCan => exact hcomplete hbegins.2
      all_goals exact hbegins.elim

theorem begins_unique {input : View × Input} (h : @Begins templates p input quest)
    (h' : @Begins templates p input other) : quest = other := by
  rw [Begins] at h h'
  cases hcalls : p.calls with
  | nil =>
    rw [hcalls] at h h'
    cases hinput : input.2 <;> rw [hinput] at h h'
    case acceptQuest => exact h.1.symm.trans h'.1
    case addQuest => exact h.1.symm.trans h'.1
    case requestReward => exact h.1.symm.trans h'.1
    case completeQuest => exact h.1.symm.trans h'.1
    case areaExploredOrEventHappens => exact h.1.symm.trans h'.1
    case chooseReward => exact h.1.symm.trans h'.1
    case rewardQuest => exact h.1.symm.trans h'.1
    all_goals exact h.elim
  | cons frame rest =>
    rw [hcalls] at h h'
    cases frame
    case completeIfCan => exact h.1.symm.trans h'.1
    all_goals exact h.elim

theorem unseen_of_claims (hsatisfies : p.satisfyQuestExclusiveGroup groups quest = true)
    (hgroup : 0 < groups.exclusiveGroup quest) (hmem : other ∈ groups.bounds (groups.exclusiveGroup quest))
    (hne : other ≠ quest) (h : Claims templates p.brief other) : @Unseen templates p other := by
  rw [satisfyQuestExclusiveGroup, if_neg (by omega), all_eq_true] at hsatisfies
  have hother := hsatisfies other hmem
  rw [Bool.or_eq_true, decide_eq_true_eq] at hother
  have hfree := hother.resolve_left hne
  have hstatus : (p.data other).status ≠ .complete ∧ (p.data other).status ≠ .incomplete := by
    rw [data]
    cases hfind : p.questStatus.find other with
    | none => exact ⟨by simp, by simp⟩
    | some data =>
      rw [hfind] at hfree
      simpa using hfree
  rcases h with hheld | ⟨hrewarded, hplain⟩ | hframe
  · have hheld : (p.data other).status ≠ .none := hheld
    left
    cases hcase : (p.data other).status with
    | none => exact absurd hcase hheld
    | complete => exact absurd hcase hstatus.1
    | incomplete => exact absurd hcase hstatus.2
    | failed => rfl
  · cases hcase : (p.data other).status with
    | none => exact .inr (.inl ⟨hcase, hrewarded, hplain⟩)
    | complete => exact absurd hcase hstatus.1
    | incomplete => exact absurd hcase hstatus.2
    | failed => exact .inl hcase
  · exact .inr (.inr hframe)

end

end Player

namespace Brief

variable {templates : Templates} {b b' : Brief}

-- A quest that was rewarded has its flag.
def Flagged (b : Brief) : Prop := ∀ quest, .rewarded quest ∈ b.history → b.rewarded quest = true

theorem Flagged.keep (h : Flagged b) (events : List Event) (hhistory : b'.history = b.history ++ events)
    (hevents : ∀ quest, .rewarded quest ∉ events) (hflag : b'.rewarded = b.rewarded) : Flagged b' := by
  intro quest hmem
  rw [hhistory, mem_append] at hmem
  rw [hflag]
  exact h quest (hmem.resolve_right (hevents quest))

theorem Flagged.same (h : Flagged b) (hhistory : b'.history = b.history) (hflag : b'.rewarded = b.rewarded) :
    Flagged b' :=
  h.keep [] (hhistory.trans (append_nil _).symm) (fun _ => not_mem_nil) hflag

theorem Flagged.action {direct careful : Prop} (h : Flagged b) (haction : Action templates direct careful b b') :
    Flagged b' := by
  have hstatus : ∀ quest status, Flagged (b.setStatus quest status) := fun quest status =>
    h.keep [.status quest status] rfl (by simp) rfl
  cases haction with
  | push frames hpush hone => exact h.same rfl rfl
  | pop hcalls hplain => exact h.same rfl rfl
  | complete hinfo hplain hmay => exact hstatus _ _
  | completeReward hinfo hauto hmay hfree => exact (hstatus _ _).same rfl rfl
  | incomplete hinfo hmay => exact hstatus _ _
  | @accept quest slot info hinfo hslot hfree hnone hcalls hrewarded => exact h.keep [.accepted quest] rfl (by simp) rfl
  | fail hinfo hlog hplain hcalls => exact hstatus _ _
  | @remove slot quest rest hcalls =>
    exact h.keep [.status quest .none, .removed quest] (append_assoc _ _ _) (by simp) rfl
  | rewardSlot hcalls hslot => exact h.same rfl rfl
  | rewardNoSlot hcalls hslot => exact h.same rfl rfl
  | @reward quest info rest hcalls hinfo =>
    intro other hmem
    show Function.update b.rewarded quest true other = true
    rw [Function.update_apply]
    split
    · rfl
    · next hne =>
        refine h other ?_
        have hmem : .rewarded other ∈ b.history ++ [.rewarded quest] ++ [.status quest _] := hmem
        simpa [hne] using hmem
  | dropSlot hdirect hinfo hquest hslot => exact h.same rfl rfl
  | dropNoSlot hdirect hinfo hslot => exact h.same rfl rfl
  | @drop quest rest hdirect hcalls => exact h.keep [.status quest .none] rfl (by simp) rfl
  | swap h1 h2 hcalls => exact h.same rfl rfl

theorem Flagged.acts {direct careful : Prop} (h : Flagged b) (hacts : Acts templates direct careful b b') : Flagged b' := by
  induction hacts with
  | refl => exact h
  | tail _ haction ih => exact ih.action haction

end Brief

namespace Player

open Brief

variable {templates : Templates} {groups : ExclusiveGroups templates} {p : Player}

structure Separate (groups : ExclusiveGroups templates) (p : Player) : Prop where
  logged : Logged templates p.brief
  flagged : Flagged p.brief
  one : ∀ first second, groups.exclusiveGroup first = groups.exclusiveGroup second → 0 < groups.exclusiveGroup first →
    (templates first).isSome → (templates second).isSome → Claims templates p.brief first →
      Claims templates p.brief second → first = second

theorem Separate.begins (h : p.Separate groups) {input : View × Input} (hchecked : p.GroupCheckedStep groups input)
    (hapart : p.ApartStep groups input) {first second : ℕ}
    (hsame : groups.exclusiveGroup first = groups.exclusiveGroup second) (hgroup : 0 < groups.exclusiveGroup first)
    (hfirst : (templates first).isSome) (hsecond : (templates second).isSome)
    (hbegins : @Begins templates p input first) (hclaims : Claims templates p.brief second) :
    first = second := by
  by_cases hold : Claims templates p.brief first
  · exact h.one first second hsame hgroup hfirst hsecond hold hclaims
  · by_contra hne
    obtain ⟨info, hinfo⟩ := Option.isSome_iff_exists.mp hfirst
    have hmem : second ∈ groups.bounds (groups.exclusiveGroup first) :=
      (groups.mem_bounds _ _).mpr ⟨hsecond, hsame.symm, by omega⟩
    have hsatisfies := satisfies_of_begins hchecked hapart hinfo hgroup hbegins hold
    exact (hapart first info hinfo hgroup hbegins (not_held_of_not_claims hold)).2 second hmem (Ne.symm hne)
      (unseen_of_claims hsatisfies hgroup hmem (Ne.symm hne) hclaims)

theorem Separate.step (h : p.Separate groups) {input : View × Input} (hchecked : p.GroupCheckedStep groups input)
    (hapart : p.ApartStep groups input) : (p.step templates input).Separate groups where
  logged := h.logged.acts (acts_step h.logged (stepOk_of_careful hchecked.1 False.elim))
  flagged := h.flagged.acts (acts_step h.logged (stepOk_of_careful hchecked.1 False.elim))
  one first second hsame hgroup hfirst hsecond hone hother := by
    rcases claims_step h.logged hfirst hchecked.1 hone with hold | hbegins
    · rcases claims_step h.logged hsecond hchecked.1 hother with hold' | hbegins'
      · exact h.one first second hsame hgroup hfirst hsecond hold hold'
      · exact (h.begins hchecked hapart hsame.symm (hsame ▸ hgroup) hsecond hfirst hbegins' hold).symm
    · rcases claims_step h.logged hsecond hchecked.1 hother with hold' | hbegins'
      · exact h.begins hchecked hapart hsame hgroup hfirst hsecond hbegins hold'
      · exact begins_unique hbegins hbegins'

theorem separate_initial (groups : ExclusiveGroups templates) : initial.Separate groups where
  logged := (steady_initial templates).logged
  flagged _ hmem := absurd hmem not_mem_nil
  one first second _ _ _ _ hone := by
    rcases hone with hstatus | ⟨hrewarded, -⟩ | ⟨frame, hmem, -⟩
    · exact absurd rfl hstatus
    · cases hrewarded
    · cases hmem

theorem exclusive_of_separate (h : p.Separate groups) : p.Exclusive groups where
  one first second hsame hgroup hfirst hsecond hone hother :=
    h.one first second hsame hgroup hfirst hsecond (hone.imp id .inl) (hother.imp id .inl)
  rewarded first second info info' hsame hgroup hinfo hinfo' hplain hplain' hmem hmem' :=
    h.one first second hsame hgroup (Option.isSome_of_eq_some hinfo) (Option.isSome_of_eq_some hinfo')
      (.inr (.inl ⟨h.flagged first hmem, info, hinfo, hplain⟩))
      (.inr (.inl ⟨h.flagged second hmem', info', hinfo', hplain'⟩))

theorem exclusive_quests_stay_exclusive {inputs : List (View × Input)}
    (hchecked : Guarded (Player.step templates) (GroupCheckedStep groups) initial inputs)
    (hapart : Guarded (Player.step templates) (ApartStep groups) initial inputs) :
    (run (Player.step templates) initial inputs).Exclusive groups :=
  exclusive_of_separate (run_invariant (Player.step templates) _ (Separate groups)
    (fun _ _ h hok => h.step hok.1 hok.2) (separate_initial groups) (hchecked.and _ hapart))

-- Two alternatives: a timed parcel and a letter
def letter : Quest := { parcel with timed := false, deliver := false, limitTime := 0 }

def alternatives : Templates :=
  ⟨fun quest => if quest = 1 then some parcel else if quest = 2 then some letter else none, rfl⟩

def alternativeGroups : ExclusiveGroups alternatives where
  exclusiveGroup quest := if quest = 1 ∨ quest = 2 then 7 else 0
  bounds group := if group = 7 then [1, 2] else []
  mem_bounds group quest := by
    by_cases hone : quest = 1
    · subst hone
      by_cases hgroup : group = 7
      · subst hgroup
        decide
      · simp [hgroup, Ne.symm hgroup]
    by_cases htwo : quest = 2
    · subst htwo
      by_cases hgroup : group = 7
      · subst hgroup
        decide
      · simp [hgroup, Ne.symm hgroup]
    · by_cases hgroup : group = 7
      · simp [hgroup, hone, htwo]
      · simp [hgroup, hone, htwo, alternatives]

def offering (quest : ℕ) : View := { willing 0 with satisfies := fun other => other = quest }

theorem exclusive_quests_stay_exclusive_letter :
    (run (Player.step alternatives) initial [(offering 2, .acceptQuest 2), (offering 2, .go)]).Exclusive
      alternativeGroups := by
  have hsatisfies : ∀ {p : Player}, p.satisfyQuestExclusiveGroup alternativeGroups 2 = true →
      ∀ quest, (offering 2).satisfies quest = true → p.satisfyQuestExclusiveGroup alternativeGroups quest = true :=
    fun h quest hquest => of_decide_eq_true hquest ▸ h
  refine exclusive_quests_stay_exclusive
    ⟨⟨trivial, hsatisfies rfl⟩, ⟨trivial, hsatisfies rfl⟩, trivial⟩ ⟨?_, ?_, trivial⟩
  · intro quest info _ _ hbegins _
    obtain rfl : 2 = quest := hbegins.1
    refine ⟨fun _ => rfl, fun other _ _ hunseen => ?_⟩
    rcases hunseen with hfailed | ⟨-, hrewarded, -⟩ | ⟨frame, hmem, -⟩
    · cases hfailed
    · cases hrewarded
    · cases hmem
  · intro quest info _ _ hbegins _
    exact hbegins.elim

-- The parcel fails, and the letter is taken while the parcel is in the log.
def bothTaken : List (View × Input) :=
  [(offering 1, .acceptQuest 1), (offering 1, .go), (offering 1, .go), (offering 1, .go), (offering 1, .update 60000),
    (offering 2, .acceptQuest 2)]

theorem failed_alternative_is_overlooked :
    Guarded (Player.step alternatives) (GroupCheckedStep alternativeGroups) initial bothTaken ∧
      ¬ (run (Player.step alternatives) initial bothTaken).Exclusive alternativeGroups := by
  have hsatisfies : ∀ {p : Player} {chosen : ℕ}, p.satisfyQuestExclusiveGroup alternativeGroups chosen = true →
      ∀ quest, (offering chosen).satisfies quest = true → p.satisfyQuestExclusiveGroup alternativeGroups quest = true :=
    fun h quest hquest => of_decide_eq_true hquest ▸ h
  refine ⟨⟨⟨trivial, hsatisfies rfl⟩, ⟨trivial, hsatisfies rfl⟩, ⟨trivial, hsatisfies rfl⟩, ⟨trivial, hsatisfies rfl⟩,
    ⟨trivial, hsatisfies rfl⟩, ⟨trivial, hsatisfies rfl⟩, trivial⟩, fun h => ?_⟩
  have hparcel : ((run (Player.step alternatives) initial bothTaken).data 1).status ≠ .none := by decide
  have hletter : ((run (Player.step alternatives) initial bothTaken).data 2).status ≠ .none := by decide
  have hsame := h.one 1 2 rfl (by decide) rfl rfl (.inl hparcel) (.inl hletter)
  omega

end Player

end TurtleWow.Quests

import TurtleWow.Quests.Acts
import TurtleWow.Quests.Watched

namespace TurtleWow.Quests

open Run List

-- The steps of the machine as actions of the brief

namespace Player

open Brief

variable {templates : Templates} {view : View} {direct careful : Prop} {p : Player} {quest : ℕ} {info : Quest}

section

variable (templates : Templates)

def UpdatesPlain (diff : ℕ) (p : Player) (quest : ℕ) : Prop :=
  (p.data quest).timer ≤ diff → ∀ info ∈ templates quest,
    ¬ (info.explorationOrEvent = true ∧ (p.data quest).status = .complete) → p.FailsPlain templates quest

-- The count of an item of a failed quest does not fall.
def KeepsFailed (view : View) (p : Player) (entry count slot : ℕ) : Prop :=
  ∀ info ∈ templates (p.log slot).questId, info.deliver = true → ∀ j ∈ itemObjective info entry,
    countAfterLoss view info (p.data (p.log slot).questId) entry count j ≠ info.reqItemCount j →
      (p.data (p.log slot).questId).status ≠ .failed

-- A complete quest at a slot of the log is completed quietly, if `wanted` holds
-- of it.
def CompletesQuietlyAt (view : View) (p : Player) (slot : ℕ) (wanted : Quest → Prop) : Prop :=
  (p.data (p.log slot).questId).status = .incomplete → ∀ info ∈ templates (p.log slot).questId, wanted info →
    p.CompletesQuietly templates view (p.log slot).questId

def FrameStepOk (direct careful : Prop) (view : View) (p : Player) : Frame → Prop
  | .itemAddedQuestCheck entry _ slot => careful → p.CompletesQuietlyAt templates view slot fun info =>
    info.deliver = true ∧ (itemObjective info entry).isSome = true
  | .itemRemovedQuestCheck entry count slot => careful → p.KeepsFailed templates view entry count slot
  | .moneyChanged count slot => careful → p.CompletesQuietlyAt templates view slot fun info =>
    info.rewOrReqMoney < 0 ∧ -info.rewOrReqMoney ≤ count
  | .reputationChanged faction slot => careful → p.CompletesQuietlyAt templates view slot fun info =>
    info.repObjectiveFaction = faction ∧ info.repObjectiveValue ≤ view.reputation faction
  | .completeIfCan quest => careful → p.CompletesQuietly templates view quest
  | .dropQuests _ _ | .drop _ => direct
  | _ => True

def InputOk (direct careful : Prop) (view : View) (p : Player) : Input → Prop
  | .acceptQuest quest => direct → ∀ info ∈ templates quest, p.canTakeQuest view quest info false = true →
      p.canAddQuest view quest = true → (p.data quest).rewarded = false ∨ info.repeatable = true
  | .failQuest quest => careful → p.FailsPlain templates quest
  | .update diff => Guarded (fun p quest => p.updateTimedQuest templates view diff quest)
      (fun p quest => careful → p.UpdatesPlain templates diff quest) p p.timedquests
  | .addQuest quest => ∀ info ∈ templates quest, p.canAddQuest view quest = true → (p.data quest).status = .none ∧
      (direct → (p.data quest).rewarded = false ∨ info.repeatable = true)
  | .completeQuest quest => ∀ info ∈ templates quest, p.brief.MayComplete quest info ∨ direct ∧
      (info.autoRewarded = false → p.brief.Settled quest info)
  | .incompleteQuest quest => ∀ info ∈ templates quest,
      p.brief.InLog quest ∧ (careful → p.brief.status quest ≠ .failed) ∨ direct ∧ p.brief.Settled quest info
  | .rewardQuest quest _ => ∀ info ∈ templates quest, direct ∨ p.brief.MayReward quest info
  | .loseSkill _ => direct
  | .saveQuestStatus | .loadQuestStatus _ => False
  | _ => True

def StepOk (direct careful : Prop) (p : Player) (input : View × Input) : Prop :=
  match p.calls with
  | [] => p.InputOk templates direct careful input.1 input.2
  | frame :: _ => p.FrameStepOk templates direct careful input.1 frame

end

theorem acts_same {p' : Player} (h : p'.brief = p.brief) : Acts templates direct careful p.brief p'.brief := by
  rw [h]

theorem brief_adjustQuestReqItemCount (p : Player) (quest : ℕ) :
    (p.adjustQuestReqItemCount templates view quest).brief = p.brief := by
  rw [adjustQuestReqItemCount]
  split
  · rfl
  · next info hinfo =>
      split
      · generalize List.range questObjectivesCount = objectives
        induction objectives generalizing p with
        | nil => rfl
        | cons i rest ih =>
          refine (ih _).trans ?_
          dsimp only
          split
          · exact brief_touched rfl rfl
          · rfl
      · rfl

variable {frame : Frame}

theorem acts_pop {rest : List Frame} (hcalls : p.calls = frame :: rest)
    (hplain : ∀ quest, frame.pending quest = false) :
    Acts templates direct careful p.brief ({ p with calls := rest } : Player).brief :=
  .single (.pop hcalls hplain)

theorem acts_next {next : Frame} {rest : List Frame} (hcalls : p.calls = frame :: rest)
    (hplain : ∀ quest, frame.pending quest = false) (hnext : ∀ quest, next.pending quest = false) :
    Acts templates direct careful p.brief (({ p with calls := rest } : Player).push [next]).brief := by
  refine (acts_pop hcalls hplain).trans (acts_push fun frame hmem => ?_)
  rw [mem_singleton.mp hmem]
  exact hnext

theorem completesQuietly_next {next : Frame} {rest : List Frame} (hcalls : p.calls = frame :: rest)
    (hnext : ∀ quest, next.pending quest = false) (h : p.CompletesQuietly templates view quest) :
    (({ p with calls := rest } : Player).push [next]).CompletesQuietly templates view quest := by
  intro info hinfo hauto hcan other hmem
  rcases mem_cons.mp hmem with rfl | hmem
  · exact hnext quest
  · exact h info hinfo hauto hcan other (hcalls ▸ mem_cons_of_mem _ hmem)

theorem frameOk_head (h : Logged templates p.brief) {rest : List Frame}
    (hcalls : p.calls = frame :: rest) : FrameOk templates p.brief frame :=
  h.frames frame (show frame ∈ p.calls from hcalls ▸ mem_cons_self)

theorem brief_rewardSlot (p : Player) (quest reward : ℕ) : (p.rewardSlot templates quest reward).brief =
    (if p.findQuestSlot quest < maxQuestLogSize then p.brief.setSlot (p.findQuestSlot quest) 0 else p.brief).push
      [.items, .reward quest, .items] := by
  rw [rewardSlot]
  have hslot : (if p.findQuestSlot quest < maxQuestLogSize then p.setQuestSlot (p.findQuestSlot quest) 0 0 else p).brief =
      if p.findQuestSlot quest < maxQuestLogSize then p.brief.setSlot (p.findQuestSlot quest) 0 else p.brief := by
    split
    · exact brief_setQuestSlot _ _ _ _
    · rfl
  rw [← hslot]
  generalize (if p.findQuestSlot quest < maxQuestLogSize then p.setQuestSlot (p.findQuestSlot quest) 0 0 else p) = p'
  rw [brief_push]
  exact congrArg (Brief.push · _) (brief_setData rfl rfl)

theorem acts_rewardSlot (h : Logged templates p.brief) {reward : ℕ} {rest : List Frame}
    (hcalls : p.calls = .rewardSlot quest reward :: rest) :
    Acts templates direct careful p.brief (({ p with calls := rest } : Player).rewardSlot templates quest reward).brief := by
  have hsome : (templates quest).isSome := frameOk_head h hcalls
  rw [brief_rewardSlot]
  split
  · next hslot => exact .single (.rewardSlot hcalls (findQuestSlot_spec hslot))
  · next hslot =>
      exact .single (.rewardNoSlot hcalls (not_inLog_of_findQuestSlot h.tail (ne_zero_of_isSome hsome) hslot))

theorem brief_flag (p : Player) (quest : ℕ) : (p.setData quest { p.data quest with rewarded := true }).brief =
    { p.brief with rewarded := Function.update p.brief.rewarded quest true } := by
  refine Brief.ext rfl (funext fun other => ?_) (funext fun other => ?_) rfl rfl
  · show ((p.setData quest _).data other).status = (p.data other).status
    rw [data_setData]
    split
    · next hsame => rw [hsame]
    · rfl
  · show ((p.setData quest _).data other).rewarded = Function.update p.brief.rewarded quest true other
    rw [data_setData, Function.update_apply]
    split <;> rfl

theorem brief_reward (hinfo : templates quest = some info) : (p.reward templates quest).brief =
    (({ p.brief with rewarded := Function.update p.brief.rewarded quest true } : Brief).record
      (.rewarded quest)).setStatus quest (if info.repeatable then .none else .complete) := by
  rw [reward, hinfo]
  rw [brief_setQuestStatus (Option.isSome_of_eq_some hinfo), brief_record, brief_flag]

theorem acts_reward (h : Logged templates p.brief) {rest : List Frame} (hcalls : p.calls = .reward quest :: rest) :
    Acts templates direct careful p.brief (({ p with calls := rest } : Player).reward templates quest).brief := by
  obtain ⟨hsome, -⟩ : FrameOk templates p.brief (.reward quest) := frameOk_head h hcalls
  obtain ⟨info, hinfo⟩ := Option.isSome_iff_exists.mp hsome
  rw [brief_reward hinfo]
  exact .single (.reward hcalls hinfo)

theorem acts_remove (h : Logged templates p.brief) {slot : ℕ} {rest : List Frame}
    (hcalls : p.calls = .remove slot quest :: rest) :
    Acts templates direct careful p.brief (({ p with calls := rest } : Player).remove templates slot quest).brief := by
  obtain ⟨hsome, -⟩ : FrameOk templates p.brief (.remove slot quest) := frameOk_head h hcalls
  rw [remove, brief_record, brief_setQuestSlot, brief_setQuestStatus hsome]
  exact .single (.remove hcalls)

theorem brief_drop (p : Player) (quest : ℕ) :
    (p.drop templates quest).brief = (p.setQuestStatus templates quest .none).brief := brief_setData rfl rfl

theorem acts_drop (hdirect : direct) (h : Logged templates p.brief) {rest : List Frame}
    (hcalls : p.calls = .drop quest :: rest) :
    Acts templates direct careful p.brief (({ p with calls := rest } : Player).drop templates quest).brief := by
  obtain ⟨hsome, -⟩ : FrameOk templates p.brief (.drop quest) := frameOk_head h hcalls
  rw [brief_drop, brief_setQuestStatus hsome]
  exact .single (.drop hdirect hcalls)

theorem acts_dropOne (hdirect : direct) (htail : ∀ slot, maxQuestLogSize ≤ slot → p.brief.questAt slot = 0)
    (hinfo : templates quest = some info) :
    Acts templates direct careful p.brief (if p.findQuestSlot quest < maxQuestLogSize then
      (p.setQuestSlot (p.findQuestSlot quest) 0 0).push [.items, .drop quest] else p.push [.drop quest]).brief := by
  have hsome := Option.isSome_of_eq_some hinfo
  split
  · next hslot =>
      rw [brief_push, brief_setQuestSlot]
      exact .single (.dropSlot hdirect hsome (ne_zero_of_info hinfo) (findQuestSlot_spec hslot))
  · next hslot =>
      rw [brief_push]
      exact .single (.dropNoSlot hdirect hsome (not_inLog_of_findQuestSlot htail (ne_zero_of_info hinfo) hslot))

theorem acts_dropQuests (hdirect : direct) (h : Logged templates p.brief) {skill first : ℕ} {rest : List Frame}
    (hcalls : p.calls = .dropQuests skill first :: rest) :
    Acts templates direct careful p.brief (({ p with calls := rest } : Player).dropQuests templates skill first).brief := by
  rw [dropQuests]
  split
  · exact acts_pop hcalls fun _ => rfl
  · next quest hquest =>
      refine .trans (@acts_next _ _ _ _ _ (.dropQuests skill (quest + 1)) _ hcalls (fun _ => rfl) fun _ => rfl) ?_
      split
      · exact .refl
      · next info hinfo =>
          split
          · exact acts_dropOne hdirect h.tail hinfo
          · exact .refl

theorem calls_setQuestStatus (p : Player) (quest : ℕ) (status : QuestStatus) :
    (p.setQuestStatus templates quest status).calls = p.calls := by
  rw [setQuestStatus]
  split <;> rfl

def Unrewarding (p : Player) : Prop := ∀ frame ∈ p.calls, ∀ quest, frame.rewards quest = false

section

variable (h : p.Unrewarding)

include h

theorem Unrewarding.push {frames : List Frame}
    (hframes : ∀ frame ∈ frames, ∀ quest, frame.rewards quest = false) : (p.push frames).Unrewarding :=
  fun frame hmem => (mem_append.mp hmem).elim (hframes frame) (h frame)

theorem Unrewarding.removeQuestAtSlot (slot : ℕ) :
    (p.removeQuestAtSlot templates view slot).Unrewarding := by
  rw [Player.removeQuestAtSlot]
  split
  · dsimp only
    split
    · exact h
    split
    · refine h.push fun frame hmem other => ?_
      rcases mem_append.mp hmem with hplain | hlast
      · exact rewards_of_pending (plain_append plain_items plain_removeTimed frame hplain other)
      · simp only [mem_cons, not_mem_nil, or_false] at hlast
        rcases hlast with rfl | rfl <;> rfl
    · exact h
  · exact h

theorem Unrewarding.failQuest (quest : ℕ) : (p.failQuest templates view quest).Unrewarding := by
  rw [Player.failQuest]
  split
  · exact h
  · dsimp only
    split
    · exact h.removeQuestAtSlot _
    · have hset : (((p.setQuestSlotTimer (p.findQuestSlot quest) 1).setQuestSlotState (p.findQuestSlot quest) false
          true).setQuestStatus templates quest .failed).Unrewarding := by
        rw [Unrewarding, calls_setQuestStatus]
        exact h
      split <;> split <;> assumption

theorem Unrewarding.updateTimedQuest (diff quest : ℕ) :
    (p.updateTimedQuest templates view diff quest).Unrewarding := by
  rw [Player.updateTimedQuest]
  split
  · split
    · exact h
    · split
      · exact h
      · exact h.failQuest quest
  · exact h

theorem acts_updateTimedQuest {diff : ℕ} (hok : careful → p.UpdatesPlain templates diff quest) :
    Acts templates direct careful p.brief (p.updateTimedQuest templates view diff quest).brief := by
  rw [updateTimedQuest]
  split
  · next htimer =>
      split
      · exact .refl
      · next info hinfo =>
          split
          · exact .refl
          · next hfails =>
              refine acts_failQuest h fun hcareful => hok hcareful htimer info hinfo ?_
              simpa using hfails
  · exact acts_same (brief_touched rfl rfl)

theorem acts_update {diff : ℕ} (hok : Guarded (fun p quest => p.updateTimedQuest templates view diff quest)
      (fun p quest => careful → p.UpdatesPlain templates diff quest) p p.timedquests) :
    Acts templates direct careful p.brief (p.update templates view diff).brief :=
  run_rel _ _ Unrewarding (fun p p' => Acts templates direct careful p.brief p'.brief) (fun _ => .refl)
    (fun _ _ _ => .trans) (fun _ quest h hok => ⟨h.updateTimedQuest diff quest, acts_updateTimedQuest h hok⟩) h hok

end

theorem acts_resume (h : Logged templates p.brief) {rest : List Frame} (hcalls : p.calls = frame :: rest)
    (hok : p.FrameStepOk templates direct careful view frame) :
    Acts templates direct careful p.brief (({ p with calls := rest } : Player).resume templates view frame).brief := by
  cases frame with
  | items => exact acts_pop hcalls fun _ => rfl
  | itemAddedQuestCheck entry count slot =>
    simp only [resume]
    split
    · refine (acts_next hcalls (fun _ => rfl) fun _ => rfl).trans (acts_itemAddedQuestCheck ?_)
      exact fun hcareful hstatus info hinfo hdeliver hobjective => completesQuietly_next hcalls (fun _ => rfl)
        (hok hcareful hstatus info hinfo ⟨hdeliver, hobjective⟩)
    · exact acts_pop hcalls fun _ => rfl
  | itemRemovedQuestCheck entry count slot =>
    simp only [resume]
    split
    · exact (acts_next hcalls (fun _ => rfl) fun _ => rfl).trans (acts_itemRemovedQuestCheck hok)
    · exact acts_pop hcalls fun _ => rfl
  | moneyChanged count slot =>
    simp only [resume]
    split
    · refine (acts_next hcalls (fun _ => rfl) fun _ => rfl).trans ((checked_moneyChanged count).acts ?_)
      exact fun hcareful hstatus info hinfo hreached => completesQuietly_next hcalls (fun _ => rfl)
        (hok hcareful hstatus info hinfo hreached)
    · exact acts_pop hcalls fun _ => rfl
  | reputationChanged faction slot =>
    simp only [resume]
    split
    · refine (acts_next hcalls (fun _ => rfl) fun _ => rfl).trans ((checked_reputationChanged faction).acts ?_)
      exact fun hcareful hstatus info hinfo hreached => completesQuietly_next hcalls (fun _ => rfl)
        (hok hcareful hstatus info hinfo hreached)
    · exact acts_pop hcalls fun _ => rfl
  | adjustQuestReqItemCount quest =>
    exact (acts_pop hcalls fun _ => rfl).trans (acts_same (brief_adjustQuestReqItemCount _ quest))
  | completeIfCan quest =>
    refine (acts_pop hcalls fun _ => rfl).trans (acts_completeIfCan fun hcareful => ?_)
    intro info hinfo hauto hcan frame hmem
    exact hok hcareful info hinfo hauto hcan frame (hcalls ▸ mem_cons_of_mem _ hmem)
  | removeTimedQuest quest => exact acts_pop hcalls fun _ => rfl
  | remove slot quest => exact acts_remove h hcalls
  | rewardSlot quest reward => exact acts_rewardSlot h hcalls
  | reward quest => exact acts_reward h hcalls
  | dropQuests skill first => exact acts_dropQuests hok h hcalls
  | drop quest => exact acts_drop hok h hcalls

theorem acts_change (input : Input) : Acts templates direct careful p.brief (p.change input).brief := by
  cases input with
  | itemAdded entry count => exact acts_push fun frame hmem => mem_singleton.mp hmem ▸ fun _ => rfl
  | itemRemoved entry count => exact acts_push fun frame hmem => mem_singleton.mp hmem ▸ fun _ => rfl
  | moneyChanged count => exact acts_push fun frame hmem => mem_singleton.mp hmem ▸ fun _ => rfl
  | reputationChanged faction => exact acts_push fun frame hmem => mem_singleton.mp hmem ▸ fun _ => rfl
  | _ => exact .refl

theorem acts_swapQuestSlot {slot1 slot2 : ℕ} (h1 : slot1 < maxQuestLogSize) (h2 : slot2 < maxQuestLogSize)
    (hcalls : p.calls = []) : Acts templates direct careful p.brief (p.swapQuestSlot slot1 slot2).brief := by
  have hswap : (p.swapQuestSlot slot1 slot2).brief = p.brief.swapSlot slot1 slot2 := by
    refine Brief.ext (funext fun slot => ?_) rfl rfl rfl rfl
    show ((p.swapQuestSlot slot1 slot2).log slot).questId = _
    rw [swapQuestSlot, swapSlot]
    dsimp only
    split
    · rfl
    · split <;> rfl
  rw [hswap]
  exact .single (.swap h1 h2 hcalls)

theorem acts_begin (hcalls : p.calls = []) {input : Input}
    (hok : p.InputOk templates direct careful view input) :
    Acts templates direct careful p.brief (p.begin templates view input).brief := by
  have hidle : ∀ frame ∈ p.calls, ∀ quest, frame.pending quest = false := by rw [hcalls]; exact nofun
  cases input with
  | acceptQuest quest =>
    simp only [begin]
    split
    · next info hinfo =>
        split
        · next hchecks =>
            have hnone := status_of_canTakeQuest hchecks.1
            refine (@acts_push _ _ _ _ [.completeIfCan quest] fun frame hmem => ?_).trans
              (acts_addQuest hinfo hchecks.2 hnone ?_ fun hdirect => hok hdirect info hinfo hchecks.1 hchecks.2)
            · exact mem_singleton.mp hmem ▸ fun _ => rfl
            · intro frame hmem
              rcases mem_cons.mp hmem with rfl | hmem
              · exact fun _ => rfl
              · exact hidle frame hmem
        · exact .refl
    · exact .refl
  | requestReward quest => exact acts_completeIfCan fun _ => completesQuietly_of_nil hcalls
  | chooseReward quest reward =>
    simp only [begin]
    split
    · next info hinfo =>
        split
        · next hcan => exact acts_rewardQuest hinfo (.inr ⟨hcalls, mayReward_of_canRewardQuest hinfo hcan⟩)
        · exact .refl
    · exact .refl
  | questLogRemoveQuest slot => exact acts_handleQuestLogRemoveQuest hcalls
  | questLogSwapQuest slot1 slot2 =>
    simp only [begin]
    split
    · next hslots => exact acts_swapQuestSlot hslots.2.1 hslots.2.2 hcalls
    · exact .refl
  | areaExploredOrEventHappens quest => exact acts_areaExploredOrEventHappens hcalls
  | creditObjective slot objective => exact acts_creditObjective hcalls
  | failQuest quest => exact acts_failQuest (by rw [hcalls]; exact nofun) hok
  | update diff => exact acts_update (by rw [Unrewarding, hcalls]; exact nofun) hok
  | addQuest quest =>
    simp only [begin]
    split
    · next info hinfo =>
        split
        · next hadd =>
            obtain ⟨hnone, hrewarded⟩ := hok info hinfo hadd
            exact acts_addQuest hinfo hadd hnone hidle hrewarded
        · exact .refl
    · exact .refl
  | removeQuestAtSlot slot => exact acts_removeQuestAtSlot fun _ => .inl hcalls
  | completeQuest quest => exact acts_completeQuest hok fun _ _ _ _ => by rw [hcalls]; exact nofun
  | incompleteQuest quest => exact acts_incompleteQuest hok
  | rewardQuest quest reward =>
    simp only [begin]
    split
    · next hsome =>
        obtain ⟨info, hinfo⟩ := Option.isSome_iff_exists.mp hsome
        exact acts_rewardQuest hinfo ((hok info hinfo).imp id fun hmay => ⟨hcalls, hmay⟩)
    · exact .refl
  | loseSkill skill => exact acts_push fun frame hmem => mem_singleton.mp hmem ▸ fun _ => rfl
  | saveQuestStatus => exact hok.elim
  | loadQuestStatus order => exact hok.elim
  | itemAdded entry count => exact acts_change (.itemAdded entry count)
  | itemRemoved entry count => exact acts_change (.itemRemoved entry count)
  | moneyChanged count => exact acts_change (.moneyChanged count)
  | reputationChanged faction => exact acts_change (.reputationChanged faction)
  | go => exact .refl

theorem acts_step (h : Logged templates p.brief) {input : View × Input}
    (hok : p.StepOk templates direct careful input) :
    Acts templates direct careful p.brief (p.step templates input).brief := by
  rw [StepOk] at hok
  rw [step]
  cases hcalls : p.calls with
  | nil =>
    rw [hcalls] at hok
    exact acts_begin hcalls hok
  | cons frame rest =>
    rw [hcalls] at hok
    cases frame with
    | items =>
      dsimp only
      split
      · exact acts_change _
      · exact acts_change _
      · exact acts_change _
      · exact acts_change _
      · exact acts_pop hcalls fun _ => rfl
    | _ => exact acts_resume h hcalls hok

end Player

end TurtleWow.Quests

import Mathlib.Data.List.Nodup
import TurtleWow.Quests.LifeCycle
import TurtleWow.Quests.Saved

namespace TurtleWow.Quests

open Run List

namespace Player

open Brief QuestStatusData

variable {templates : Templates} {view : View} {p loaded : Player} {quest : ℕ} {info : Quest} {quests : List ℕ}

theorem activeRow_iff {row : QuestRow} (hinfo : templates quest = some info) (hrow : p.questRows.find quest = some row) :
    p.activeRow templates quest = true ↔ row.status ≠ .none ∧ (row.rewarded = false ∨ info.repeatable = true) := by
  rw [activeRow, hinfo, hrow]
  dsimp only
  rw [QuestStatusData.active, Bool.and_eq_true, decide_eq_true_iff, Bool.or_eq_true, Bool.not_eq_true']
  rfl

theorem of_activeRow (h : p.activeRow templates quest = true) :
    ∃ info row, templates quest = some info ∧ p.questRows.find quest = some row := by
  rw [activeRow] at h
  split at h
  · next info row hinfo hrow => exact ⟨info, row, hinfo, hrow⟩
  · cases h

theorem mem_activeQuests (hperm : quests.Perm p.questRows.keys) :
    quest ∈ p.activeQuests templates quests ↔ p.activeRow templates quest = true := by
  rw [activeQuests, mem_filter]
  refine and_iff_right_of_imp fun h => ?_
  obtain ⟨info, row, -, hrow⟩ := of_activeRow h
  exact hperm.mem_iff.mpr (OrderedMap.mem_keys.mpr (by simp [hrow]))

theorem exists_getD_iff {list : List ℕ} (hquest : quest ≠ 0) : (∃ slot, list.getD slot 0 = quest) ↔ quest ∈ list := by
  constructor
  · rintro ⟨slot, hslot⟩
    by_cases hless : slot < list.length
    · rw [getD_eq_getElem _ _ hless] at hslot
      exact hslot ▸ getElem_mem hless
    · rw [getD_eq_default _ _ (not_lt.mp hless)] at hslot
      exact absurd hslot.symm hquest
  · intro hmem
    obtain ⟨slot, hless, hslot⟩ := getElem_of_mem hmem
    exact ⟨slot, by rw [getD_eq_getElem _ _ hless, hslot]⟩

theorem length_of_getD {list : List ℕ} {slot : ℕ} (h : list.getD slot 0 ≠ 0) : slot < list.length := by
  by_contra hless
  exact h (getD_eq_default _ _ (not_lt.mp hless))

section

variable (h : LoadedAll templates p loaded quests)

include h

theorem LoadedAll.inLog_iff (hperm : quests.Perm p.questRows.keys)
    (hquest : quest ≠ 0) : loaded.brief.InLog quest ↔ p.activeRow templates quest = true := by
  rw [← mem_activeQuests hperm, ← exists_getD_iff hquest]
  exact exists_congr fun slot => by rw [← h.log slot]; rfl

theorem LoadedAll.data (hsome : (templates quest).isSome) :
    (p.questRows.find quest = none ∧ loaded.data quest = {}) ∨
      ∃ row timer, p.questRows.find quest = some row ∧ loaded.data quest = row.data timer := by
  cases hrow : p.questRows.find quest with
  | none => exact .inl ⟨rfl, by rw [Player.data, h.absent quest hrow]; rfl⟩
  | some row =>
    obtain ⟨timer, hfound⟩ := h.found quest hsome row hrow
    exact .inr ⟨row, timer, rfl, by rw [Player.data, hfound]; rfl⟩

theorem LoadedAll.active_iff (hinfo : templates quest = some info) :
    loaded.brief.Active quest info ↔ p.activeRow templates quest = true := by
  show (loaded.data quest).status ≠ .none ∧ ((loaded.data quest).rewarded = false ∨ info.repeatable = true) ↔ _
  rcases h.data (Option.isSome_of_eq_some hinfo) with ⟨hrow, hdata⟩ | ⟨row, timer, hrow, hdata⟩
  · rw [hdata, activeRow, hinfo, hrow]
    exact iff_of_false (fun hactive => hactive.1 rfl) (by simp)
  · rw [activeRow_iff hinfo hrow, hdata]
    rfl

theorem LoadedAll.sane (hperm : quests.Perm p.questRows.keys)
    (hfits : p.Fits templates) (hcalls : p.calls = []) : loaded.Sane templates := by
  have hlength : (p.activeQuests templates quests).length ≤ maxQuestLogSize := by
    rw [activeQuests, (hperm.filter _).length_eq]
    exact hfits
  have hnodup : (p.activeQuests templates quests).Nodup := (hperm.nodup_iff.mpr OrderedMap.nodup_keys).filter _
  have hat : ∀ slot, loaded.brief.questAt slot = (p.activeQuests templates quests).getD slot 0 := h.log
  have hidle : loaded.brief.calls = [] := h.calls.trans hcalls
  refine ⟨⟨fun slot hslot => ?_, fun slot other hslot hsame => ?_, fun slot hslot => ?_, by simp [hidle]⟩,
    fun quest info hinfo => ?_, fun quest hsome => ?_⟩
  · rw [hat, getD_eq_default _ _ (hlength.trans hslot)]
  · rw [hat] at hslot hsame
    rw [hat] at hsame
    have hfirst := length_of_getD hslot
    have hsecond := length_of_getD (hsame ▸ hslot)
    rw [getD_eq_getElem _ _ hfirst, getD_eq_getElem _ _ hsecond] at hsame
    exact hnodup.getElem_inj_iff.mp hsame
  · have hin : p.activeRow templates (loaded.brief.questAt slot) = true := (h.inLog_iff hperm hslot).mp ⟨slot, rfl⟩
    obtain ⟨info, row, hinfo, hrow⟩ := of_activeRow hin
    exact ⟨((h.active_iff hinfo).mpr hin).1, Option.isSome_of_eq_some hinfo⟩
  · have hiff : loaded.brief.InLog quest ↔ loaded.brief.Active quest info :=
      (h.inLog_iff hperm (ne_zero_of_info hinfo)).trans (h.active_iff hinfo).symm
    exact ⟨hiff.mp, fun _ _ => hiff.mpr⟩
  · rw [h.rows]
    rcases h.data hsome with ⟨hrow, hdata⟩ | ⟨row, timer, hrow, hdata⟩
    · rw [hdata]
      exact hrow
    · rw [hdata, hrow]
      exact ⟨row, rfl, rfl, rfl, rfl, rfl, rfl⟩

end

theorem saveQuestStatus_frame (p : Player) (now : ℕ) :
    (p.saveQuestStatus now).log = p.log ∧ (p.saveQuestStatus now).calls = p.calls := by
  refine run_invariant (fun (p : Player) (entry : ℕ × QuestStatusData) => p.saveQuest now entry.1 entry.2) (fun _ _ => True)
    (fun saved => saved.log = p.log ∧ saved.calls = p.calls) (fun saved entry h _ => ?_) ⟨rfl, rfl⟩
    (guarded_of_forall _ _ (fun _ _ => trivial) _ p.questStatus.entries)
  rw [saveQuest]
  split
  · exact h
  · exact h
  · split <;> exact h
  · exact h

theorem data_of_known {data : QuestStatusData} {row : Option QuestRow} (h : p.known quest = (some data, row)) :
    p.data quest = data ∧ p.questRows.find quest = row := by
  rw [known, Prod.mk.injEq] at h
  exact ⟨by rw [Player.data, h.1]; rfl, h.2⟩

theorem data_of_unknown {row : Option QuestRow} (h : p.known quest = (none, row)) :
    p.data quest = {} ∧ p.questRows.find quest = row := by
  rw [known, Prod.mk.injEq] at h
  exact ⟨by rw [Player.data, h.1]; rfl, h.2⟩

theorem saved_quest (h : p.Recorded templates) (hsome : (templates quest).isSome) (now : ℕ) :
    ((p.saveQuestStatus now).data quest = {} ∧ (p.saveQuestStatus now).questRows.find quest = none ∧
        (p.data quest).status = .none ∧ ((p.data quest).uState = .deleted ∨ p.data quest = {})) ∨
      ∃ row, (p.saveQuestStatus now).data quest = { p.data quest with uState := .unchanged } ∧
        (p.saveQuestStatus now).questRows.find quest = some row ∧ row.Matches (p.data quest) := by
  rcases settled_save h hsome now with ⟨hknown, hstatus, hdropped⟩ | ⟨row, hknown, hmatches⟩
  · obtain ⟨hdata, hrow⟩ := data_of_unknown hknown
    exact .inl ⟨hdata, hrow, hstatus, hdropped⟩
  · obtain ⟨hdata, hrow⟩ := data_of_known hknown
    exact .inr ⟨row, hdata, hrow, hmatches⟩

theorem saved_active (h : p.Recorded templates) (hinfo : templates quest = some info) (now : ℕ) :
    (p.saveQuestStatus now).brief.Active quest info ↔ p.brief.Active quest info := by
  show ((p.saveQuestStatus now).data quest).status ≠ .none ∧ (((p.saveQuestStatus now).data quest).rewarded = false ∨ _) ↔
    (p.data quest).status ≠ .none ∧ ((p.data quest).rewarded = false ∨ _)
  rcases saved_quest h (Option.isSome_of_eq_some hinfo) now with ⟨hdata, -, hstatus, -⟩ | ⟨row, hdata, -, -⟩
  · rw [hdata]
    exact iff_of_false (fun hactive => hactive.1 rfl) fun hactive => hactive.1 hstatus
  · rw [hdata]

theorem Sane.save (h : p.Sane templates) (now : ℕ) : (p.saveQuestStatus now).Sane templates := by
  obtain ⟨hlog, hcalls⟩ := saveQuestStatus_frame p now
  have hat : (p.saveQuestStatus now).brief.questAt = p.brief.questAt := by
    funext slot
    exact congrArg QuestSlot.questId (congrFun hlog slot)
  have hframes : ∀ frame ∈ (p.saveQuestStatus now).brief.calls, frame ∈ p.brief.calls ∨ FrameOk templates p.brief frame :=
    fun frame hmem => .inl ((congrArg (frame ∈ ·) hcalls).mp hmem)
  have hlogged : Logged templates (p.saveQuestStatus now).brief := by
    refine h.logged.status hat hframes fun slot hslot hstatus => ?_
    rcases saved_quest h.recorded (h.logged.live slot hslot).2 now with ⟨-, -, hnone, -⟩ | ⟨row, hdata, -, -⟩
    · exact absurd hnone hstatus
    · show ((p.saveQuestStatus now).data (p.brief.questAt slot)).status ≠ .none
      rw [hdata]
      exact hstatus
  refine ⟨hlogged, fun quest info hinfo => ?_, fun quest hsome => ?_⟩
  · have hin : (p.saveQuestStatus now).brief.InLog quest ↔ p.brief.InLog quest := by rw [InLog, InLog, hat]
    have hactive := saved_active h.recorded hinfo now
    have hagree := h.agree quest info hinfo
    refine ⟨fun hlog => hactive.mpr (hagree.active (hin.mp hlog)), fun hauto hnot hact => ?_⟩
    refine hin.mpr (hagree.logged hauto (fun ⟨frame, hmem, hframe⟩ => hnot ⟨frame, ?_, hframe⟩) (hactive.mp hact))
    exact (congrArg (frame ∈ ·) hcalls).mpr hmem
  · rcases saved_quest h.recorded hsome now with ⟨hdata, hrow, -, -⟩ | ⟨row, hdata, hrow, hmatches⟩
    · rw [hdata, hrow]
      exact rfl
    · rw [hdata, hrow]
      exact ⟨row, rfl, hmatches.status, hmatches.rewarded, hmatches.explored, hmatches.mobcount, hmatches.itemcount⟩

-- Every quest with a place in the log is in it, and nothing is left of a quest that
-- was dropped with its skill.
structure Whole (templates : Templates) (p : Player) : Prop where
  auto : ∀ quest info, templates quest = some info → info.auto = true → p.brief.Active quest info → p.brief.InLog quest
  dropped : ∀ quest, (p.data quest).uState = .deleted → (p.data quest).rewarded = false ∧
    (p.data quest).explored = false ∧ (p.data quest).creatureOrGOcount = (fun _ => 0) ∧
      (p.data quest).itemcount = fun _ => 0

theorem inLog_iff_active (h : p.Sane templates) (hwhole : p.Whole templates) (hcalls : p.calls = [])
    (hinfo : templates quest = some info) : p.brief.InLog quest ↔ p.brief.Active quest info := by
  refine ⟨(h.agree quest info hinfo).active, fun hactive => ?_⟩
  cases hauto : info.auto with
  | true => exact hwhole.auto quest info hinfo hauto hactive
  | false =>
    refine (h.agree quest info hinfo).logged hauto (fun ⟨frame, hmem, _⟩ => ?_) hactive
    exact absurd ((congrArg (frame ∈ ·) hcalls).mp hmem) not_mem_nil

theorem activeRow_save (h : p.Sane templates) (hinfo : templates quest = some info) (now : ℕ) :
    (p.saveQuestStatus now).activeRow templates quest = true ↔ p.brief.Active quest info := by
  rcases saved_quest h.recorded (Option.isSome_of_eq_some hinfo) now with ⟨-, hrow, hstatus, -⟩ | ⟨row, -, hrow, hmatches⟩
  · rw [activeRow, hinfo, hrow]
    exact iff_of_false (by simp) fun hactive => hactive.1 hstatus
  · rw [activeRow_iff hinfo hrow, hmatches.status, hmatches.rewarded]
    rfl

theorem fits_save (h : p.Sane templates) (hwhole : p.Whole templates) (hcalls : p.calls = []) (now : ℕ) :
    (p.saveQuestStatus now).Fits templates := by
  have hnodup := (OrderedMap.nodup_keys (m := (p.saveQuestStatus now).questRows)).filter
    ((p.saveQuestStatus now).activeRow templates)
  have hsub : (p.saveQuestStatus now).activeQuests templates (p.saveQuestStatus now).questRows.keys ⊆
      (List.range maxQuestLogSize).map fun slot => (p.log slot).questId := by
    intro quest hmem
    have hactive := (mem_activeQuests (.refl _)).mp hmem
    obtain ⟨info, row, hinfo, -⟩ := of_activeRow hactive
    obtain ⟨slot, hslot⟩ := (inLog_iff_active h hwhole hcalls hinfo).mpr ((activeRow_save h hinfo now).mp hactive)
    refine mem_map.mpr ⟨slot, mem_range.mpr ?_, hslot⟩
    by_contra hbeyond
    exact ne_zero_of_info hinfo (hslot.symm.trans (h.logged.tail slot (not_lt.mp hbeyond)))
  have hlength := (hnodup.subperm hsub).length_le
  rwa [length_map, length_range] at hlength

-- A load after a save gives the player back.
structure Reproduced (old new : QuestStatusData) : Prop where
  status : new.status = old.status
  rewarded : new.rewarded = old.rewarded
  explored : new.explored = old.explored
  mobcount : new.creatureOrGOcount = old.creatureOrGOcount
  itemcount : new.itemcount = old.itemcount

structure Reproduces (templates : Templates) (p loaded : Player) : Prop where
  data : ∀ quest, (templates quest).isSome → Reproduced (p.data quest) (loaded.data quest)
  log : ∀ quest, (templates quest).isSome →
    ((∃ slot, (loaded.log slot).questId = quest) ↔ ∃ slot, (p.log slot).questId = quest)

theorem reproduced_dropped (hwhole : p.Whole templates) (hstatus : (p.data quest).status = .none)
    (hdropped : (p.data quest).uState = .deleted ∨ p.data quest = {}) : Reproduced (p.data quest) {} := by
  rcases hdropped with hdeleted | hempty
  · obtain ⟨hrewarded, hexplored, hmob, hitem⟩ := hwhole.dropped quest hdeleted
    exact ⟨hstatus.symm, hrewarded.symm, hexplored.symm, hmob.symm, hitem.symm⟩
  · rw [hempty]
    exact ⟨rfl, rfl, rfl, rfl, rfl⟩

theorem Sane.reproduces (h : p.Sane templates) (hwhole : p.Whole templates) (hcalls : p.calls = []) (now later : ℕ)
    (order : List ℕ) : Reproduces templates p ((p.saveQuestStatus now).loadQuestStatus templates later order) := by
  have hloaded := loadedAll (fits_save h hwhole hcalls now) later order
  refine ⟨fun quest hsome => ?_, fun quest hsome => ?_⟩
  · rcases saved_quest h.recorded hsome now with ⟨-, hrow, hstatus, hdropped⟩ | ⟨row, -, hrow, hmatches⟩
    · rcases hloaded.data hsome with ⟨-, hdata⟩ | ⟨row, timer, hrow', -⟩
      · rw [hdata]
        exact reproduced_dropped hwhole hstatus hdropped
      · exact nomatch hrow.symm.trans hrow'
    · rcases hloaded.data hsome with ⟨hnone, -⟩ | ⟨row', timer, hrow', hdata⟩
      · exact nomatch hrow.symm.trans hnone
      · rw [hdata, ← Option.some.inj (hrow.symm.trans hrow')]
        exact ⟨hmatches.status, hmatches.rewarded, hmatches.explored, hmatches.mobcount, hmatches.itemcount⟩
  · obtain ⟨info, hinfo⟩ := Option.isSome_iff_exists.mp hsome
    have hnew := hloaded.inLog_iff (loadOrder_perm _ order) (ne_zero_of_info hinfo)
    exact hnew.trans ((activeRow_save h hinfo now).trans (inLog_iff_active h hwhole hcalls hinfo).symm)

-- The condition on a step: a quest is accepted only when it has no status and is
-- not rewarded for good; outside the log only a quest that has no place there is
-- completed; a dropped quest without a row is not marked as changed; and what is
-- loaded fits into the log.
def AgreeInput (templates : Templates) (view : View) (p : Player) : Input → Prop
  | .saveQuestStatus => True
  | .loadQuestStatus _ => p.Fits templates
  | input => p.DirectInput templates view input

def AgreeStep (templates : Templates) (p : Player) (input : View × Input) : Prop :=
  match p.calls with
  | [] => p.AgreeInput templates input.1 input.2
  | frame :: _ => p.DirectFrame templates input.1 frame

theorem Sane.agreeStep (h : p.Sane templates) {input : View × Input} (hok : p.AgreeStep templates input) :
    (p.step templates input).Sane templates := by
  rw [AgreeStep] at hok
  cases hcalls : p.calls with
  | nil =>
    rw [hcalls] at hok
    obtain ⟨view, input⟩ := input
    have hbegin : p.step templates (view, input) = p.begin templates view input := by rw [Player.step, hcalls]
    have hsession : p.DirectInput templates view input → (p.step templates (view, input)).Sane templates :=
      fun hdirect => h.step (by rw [DirectStep, hcalls]; exact hdirect)
    cases input with
    | saveQuestStatus =>
      rw [hbegin]
      exact h.save view.now
    | loadQuestStatus order =>
      rw [hbegin]
      exact (loadedAll hok view.now order).sane (loadOrder_perm p order) hok hcalls
    | _ => exact hsession hok
  | cons frame rest =>
    rw [hcalls] at hok
    refine h.step ?_
    rw [DirectStep, hcalls]
    exact hok

theorem sane_initial (templates : Templates) : initial.Sane templates where
  logged := ⟨fun _ _ => rfl, fun _ _ h => absurd rfl h, fun _ h => absurd rfl h, nofun⟩
  agree quest info hinfo := by
    refine ⟨fun ⟨_, hslot⟩ => absurd hslot.symm (ne_zero_of_info hinfo), fun _ _ hactive => absurd rfl hactive.1⟩
  recorded _ _ := rfl

-- A quest that must be accepted is in the log if it has a status and is not
-- rewarded for good.
structure LogAgrees (templates : Templates) (p : Player) : Prop where
  once : ∀ slot other, (p.log slot).questId ≠ 0 → (p.log slot).questId = (p.log other).questId → slot = other
  agrees : ∀ quest info, templates quest = some info → info.auto = false →
    (∀ frame ∈ p.calls, frame.takesOut quest = false) →
      ((∃ slot, (p.log slot).questId = quest) ↔
        (p.data quest).status ≠ .none ∧ ¬ ((p.data quest).rewarded = true ∧ info.repeatable = false))

theorem Sane.logAgrees (h : p.Sane templates) : p.LogAgrees templates where
  once slot other := h.logged.unique slot other
  agrees quest info hinfo hauto hcalls := by
    have hagree := h.agree quest info hinfo
    have hnot : ¬ p.brief.Between quest := fun ⟨frame, hmem, hframe⟩ =>
      nomatch (hcalls frame hmem).symm.trans hframe
    have hactive : p.brief.Active quest info ↔
        (p.data quest).status ≠ .none ∧ ¬ ((p.data quest).rewarded = true ∧ info.repeatable = false) := by
      refine and_congr_right fun _ => ?_
      show (p.data quest).rewarded = false ∨ info.repeatable = true ↔ _
      cases (p.data quest).rewarded <;> cases info.repeatable <;> simp
    rw [← hactive]
    exact ⟨hagree.active, hagree.logged hauto hnot⟩

theorem quest_log_agrees {templates : Templates} {inputs : List (View × Input)}
    (hok : Guarded (Player.step templates) (AgreeStep templates) initial inputs) :
    let p := run (Player.step templates) initial inputs
    p.LogAgrees templates ∧ (p.calls = [] → p.Whole templates → ∀ now later order,
      Reproduces templates p ((p.saveQuestStatus now).loadQuestStatus templates later order)) := by
  have hsane := run_invariant (Player.step templates) (AgreeStep templates) (fun p => p.Sane templates)
    (fun _ _ h hok => h.agreeStep hok) (sane_initial templates) hok
  exact ⟨hsane.logAgrees, fun hcalls hwhole now later order => hsane.reproduces hwhole hcalls now later order⟩

def savedParcel : List (View × Input) :=
  [(willing 1, .acceptQuest 1), (willing 1, .go), (willing 1, .go), (willing 1, .go), (willing 1, .saveQuestStatus),
    (willing 1, .loadQuestStatus [1])]

theorem quest_log_agrees_parcel :
    let p := run (Player.step parcels) initial savedParcel
    p.LogAgrees parcels ∧ (p.calls = [] → p.Whole parcels → ∀ now later order,
      Reproduces parcels p ((p.saveQuestStatus now).loadQuestStatus parcels later order)) :=
  quest_log_agrees ⟨fun _ _ _ _ => ⟨.inl rfl, nofun⟩, trivial, nofun, fun _ => nofun, trivial, Nat.le_of_ble_eq_true rfl,
    trivial⟩

-- A quest of a skill is dropped with the skill and accepted again before a save: its
-- row does not exist, and the update of it saves nothing.
def skilled : Templates :=
  ⟨fun quest => if quest = 1 then some { parcel with timed := false, requiredSkill := 5 } else none, rfl⟩

def relearned : List (View × Input) :=
  [(willing 1, .acceptQuest 1), (willing 1, .go), (willing 1, .go), (willing 1, .go), (willing 1, .loseSkill 5),
    (willing 1, .go), (willing 1, .go), (willing 1, .go), (willing 1, .go), (willing 1, .acceptQuest 1),
    (willing 1, .go), (willing 1, .go), (willing 1, .go)]

theorem relearned_quest_is_lost :
    let p := run (Player.step skilled) initial relearned
    p.calls = [] ∧ ¬ ∀ now later order,
      Reproduces skilled p ((p.saveQuestStatus now).loadQuestStatus skilled later order) := by
  intro p
  refine ⟨by decide, fun h => ?_⟩
  exact absurd ((h 0 0 []).data 1 rfl).status (by decide)

end Player

end TurtleWow.Quests

import Mathlib.Data.List.GetD
import Mathlib.Data.List.Perm.Subperm
import TurtleWow.Quests.Persisted

namespace TurtleWow.Quests

open Run List OrderedMap

namespace Player

open Brief QuestStatusData

variable {templates : Templates} {view : View} {p : Player} {quest : ℕ} {info : Quest}

-- What is known of a quest: its entry and its row
def known (p : Player) (quest : ℕ) : Option QuestStatusData × Option QuestRow :=
  (p.questStatus.find quest, p.questRows.find quest)

-- What a save makes of them
def savedAs (now : ℕ) (old : Option QuestStatusData × Option QuestRow) (data : QuestStatusData) :
    Option QuestStatusData × Option QuestRow :=
  match data.uState with
  | .deleted => (none, none)
  | .new => (some { data with uState := .unchanged }, some (data.row now))
  | .changed => (some { data with uState := .unchanged }, if old.2.isSome then some (data.row now) else old.2)
  | .unchanged => (some { data with uState := .unchanged }, old.2)

theorem known_saveQuest (p : Player) (now : ℕ) (entry : ℕ × QuestStatusData) :
    (p.saveQuest now entry.1 entry.2).known entry.1 = savedAs now (p.known entry.1) entry.2 := by
  obtain ⟨quest, data⟩ := entry
  cases hstate : data.uState with
  | deleted => simp only [saveQuest, savedAs, hstate, known, find_erase, if_true]
  | new => simp only [saveQuest, savedAs, hstate, known, find_insert, if_true]
  | unchanged => simp only [saveQuest, savedAs, hstate, known, find_insert, if_true]
  | changed =>
    by_cases hrow : (p.questRows.find quest).isSome = true
    · have hknown : (p.known quest).2.isSome = true := hrow
      simp only [saveQuest, savedAs, hstate, if_pos hrow, if_pos hknown]
      simp only [known, find_insert, if_true]
    · have hknown : ¬ (p.known quest).2.isSome = true := hrow
      simp only [saveQuest, savedAs, hstate, if_neg hrow, if_neg hknown]
      simp only [known, find_insert, if_true]

theorem known_saveQuest_other (p : Player) (now : ℕ) (entry : ℕ × QuestStatusData) (quest : ℕ) (hne : quest ≠ entry.1) :
    (p.saveQuest now entry.1 entry.2).known quest = p.known quest := by
  rw [saveQuest]
  dsimp only [known]
  split
  · simp only [find_erase, if_neg hne]
  · simp only [find_insert, if_neg hne]
  · split
    · simp only [find_insert, if_neg hne]
    · simp only [find_insert, if_neg hne]
  · simp only [find_insert, if_neg hne]

theorem known_saveQuestStatus (p : Player) (now quest : ℕ) :
    (p.saveQuestStatus now).known quest =
      ((p.questStatus.find quest).map (savedAs now (p.known quest))).getD (p.known quest) :=
  foldl_entries known (fun p entry => p.saveQuest now entry.1 entry.2) (savedAs now)
    (fun p entry => known_saveQuest p now entry) (fun p entry quest hne => known_saveQuest_other p now entry quest hne)
    p.questStatus p quest

theorem matches_row (data : QuestStatusData) (now : ℕ) : (data.row now).Matches data := ⟨rfl, rfl, rfl, rfl, rfl⟩

theorem settled_save (h : p.Recorded templates) (hsome : (templates quest).isSome) (now : ℕ) :
    (p.saveQuestStatus now).known quest = (none, none) ∧ (p.data quest).status = .none ∧
        ((p.data quest).uState = .deleted ∨ p.data quest = {}) ∨
      ∃ row, (p.saveQuestStatus now).known quest = (some { p.data quest with uState := .unchanged }, some row) ∧
        row.Matches (p.data quest) := by
  have hrecorded := h quest hsome
  rw [known_saveQuestStatus]
  cases hfind : p.questStatus.find quest with
  | none =>
    have hdata : p.data quest = {} := by rw [data, hfind]; rfl
    rw [hdata] at hrecorded ⊢
    refine .inl ⟨?_, rfl, .inr rfl⟩
    show p.known quest = (none, none)
    rw [known, hfind, show p.questRows.find quest = none from hrecorded]
  | some data =>
    have hdata : p.data quest = data := by rw [Player.data, hfind]; rfl
    rw [hdata] at hrecorded ⊢
    rw [QuestStatusData.Recorded] at hrecorded
    rw [Option.map_some, Option.getD_some, savedAs]
    cases hstate : data.uState with
    | deleted =>
      rw [hstate] at hrecorded
      exact .inl ⟨rfl, hrecorded, .inl rfl⟩
    | new => exact .inr ⟨data.row now, rfl, matches_row data now⟩
    | changed =>
      rw [hstate] at hrecorded
      refine .inr ⟨data.row now, ?_, matches_row data now⟩
      rw [if_pos (show (p.known quest).2.isSome = true from hrecorded)]
    | unchanged =>
      rw [hstate] at hrecorded
      obtain ⟨found, hrow, hfound⟩ := hrecorded
      exact .inr ⟨found, by rw [known, hrow], hfound⟩

def activeRow (templates : Templates) (p : Player) (quest : ℕ) : Bool :=
  match templates quest, p.questRows.find quest with
  | some info, some row => (row.data 0).active info
  | _, _ => false

structure LoadedQuest (state result : Player × ℕ) (quest : ℕ) (row : QuestRow) (active : Bool) : Prop where
  data : ∃ timer, result.1.questStatus = state.1.questStatus.insert quest (row.data timer)
  rows : result.1.questRows = state.1.questRows
  calls : result.1.calls = state.1.calls
  logged : state.2 < maxQuestLogSize → active = true → result.2 = state.2 + 1 ∧
    ∀ slot, (result.1.log slot).questId = if slot = state.2 then quest else (state.1.log slot).questId
  idle : active = false → result.2 = state.2 ∧ result.1.log = state.1.log

theorem questId_enterLog (p : Player) (place quest timer : ℕ) (row : QuestRow) (slot : ℕ) :
    ((p.enterLog place quest timer row).log slot).questId = if slot = place then quest else (p.log slot).questId := by
  have hbrief : (p.enterLog place quest timer row).brief = p.brief.setSlot place quest := by
    rw [enterLog, brief_setQuestSlotState, brief_setQuestSlot]
  exact (congrFun (congrArg Brief.questAt hbrief) slot).trans (setSlot_questAt _ _ _ _)

theorem timed_fields (p : Player) (quest : ℕ) (timed : Bool) :
    let base := if timed = true then p.addTimedQuest quest else p
    base.questStatus = p.questStatus ∧ base.questRows = p.questRows ∧ base.calls = p.calls ∧ base.log = p.log := by
  cases timed <;> exact ⟨rfl, rfl, rfl, rfl⟩

theorem loadQuest_spec (now : ℕ) (state : Player × ℕ) {row : QuestRow} (hinfo : templates quest = some info) :
    LoadedQuest state (loadQuest templates now state quest row) quest row ((row.data 0).active info) := by
  rw [loadQuest, hinfo]
  dsimp only
  generalize loadsTimed templates state.1 quest row info = timed
  generalize (if timed = true then if row.timer ≤ now then 1 else (row.timer - now) * inMilliseconds else 0) = timer
  obtain ⟨hstatus, hrows, hcalls, hlog⟩ := timed_fields state.1 quest timed
  generalize (if timed = true then state.1.addTimedQuest quest else state.1) = base at hstatus hrows hcalls hlog ⊢
  have hdata : (base.setData quest (row.data timer)).questStatus = state.1.questStatus.insert quest (row.data timer) :=
    congrArg (OrderedMap.insert · quest (row.data timer)) hstatus
  split
  · next h =>
      refine ⟨⟨timer, hdata⟩, hrows, hcalls, fun _ _ => ⟨rfl, fun slot => ?_⟩, fun hidle => ?_⟩
      · rw [questId_enterLog, ← hlog]
        rfl
      · exact nomatch hidle.symm.trans h.2
  · next h =>
      refine ⟨⟨timer, hdata⟩, hrows, hcalls, fun hfull hactive => absurd ⟨hfull, hactive⟩ h, fun _ => ⟨rfl, hlog⟩⟩

def activeQuests (templates : Templates) (p : Player) (quests : List ℕ) : List ℕ := quests.filter (p.activeRow templates)

-- What has been loaded of some quests
structure Loaded (templates : Templates) (p : Player) (quests : List ℕ) (state : Player × ℕ) : Prop where
  place : state.2 = (p.activeQuests templates quests).length
  log : ∀ slot, slot < state.2 → (state.1.log slot).questId = (p.activeQuests templates quests).getD slot 0
  found : ∀ quest, (templates quest).isSome → quest ∈ quests → ∀ row, p.questRows.find quest = some row →
    ∃ timer, state.1.questStatus.find quest = some (row.data timer)
  absent : ∀ quest, (quest ∈ quests → p.questRows.find quest = none) → state.1.questStatus.find quest = none
  rows : state.1.questRows = p.questRows
  calls : state.1.calls = p.calls

theorem Loaded.nil (p : Player) :
    Loaded templates p [] (({ p with questStatus := OrderedMap.empty, timedquests := [] } : Player), 0) :=
  ⟨rfl, nofun, nofun, fun _ _ => rfl, rfl, rfl⟩

variable {quests : List ℕ}

theorem activeQuests_concat_idle (h : p.activeRow templates quest = false) :
    p.activeQuests templates (quests ++ [quest]) = p.activeQuests templates quests := by
  rw [activeQuests, filter_append, filter_cons_of_neg (Bool.eq_false_iff.mp h), filter_nil, append_nil]
  rfl

theorem activeQuests_concat_active (h : p.activeRow templates quest = true) :
    p.activeQuests templates (quests ++ [quest]) = p.activeQuests templates quests ++ [quest] := by
  rw [activeQuests, filter_append, filter_cons_of_pos h, filter_nil]
  rfl

theorem Loaded.skip {state : Player × ℕ} (h : Loaded templates p quests state)
    (hidle : p.activeRow templates quest = false) (hno : templates quest = none ∨ p.questRows.find quest = none) :
    Loaded templates p (quests ++ [quest]) state where
  place := by rw [activeQuests_concat_idle hidle, h.place]
  log slot hslot := by rw [activeQuests_concat_idle hidle, h.log slot hslot]
  found other hsome hmem row hrow := by
    rcases mem_append.mp hmem with hold | hlast
    · exact h.found other hsome hold row hrow
    · rw [mem_singleton.mp hlast] at hsome hrow
      rcases hno with hnone | hnone
      · exact nomatch hnone ▸ hsome
      · exact nomatch hnone.symm.trans hrow
  absent other hother := h.absent other fun hmem => hother (mem_append_left _ hmem)
  rows := h.rows
  calls := h.calls

theorem Loaded.enter {state result : Player × ℕ} {row : QuestRow} (h : Loaded templates p quests state)
    (hspec : LoadedQuest state result quest row ((row.data 0).active info)) (hinfo : templates quest = some info)
    (hrow : p.questRows.find quest = some row)
    (hfits : (p.activeQuests templates (quests ++ [quest])).length ≤ maxQuestLogSize) :
    Loaded templates p (quests ++ [quest]) result := by
  have hactive : p.activeRow templates quest = (row.data 0).active info := by rw [activeRow, hinfo, hrow]
  obtain ⟨timer, hdata⟩ := hspec.data
  have hfind : ∀ other, result.1.questStatus.find other =
      if other = quest then some (row.data timer) else state.1.questStatus.find other := fun other => by
    rw [hdata, find_insert]
  have hlog : result.2 = (p.activeQuests templates (quests ++ [quest])).length ∧
      ∀ slot, slot < result.2 → (result.1.log slot).questId = (p.activeQuests templates (quests ++ [quest])).getD slot 0 := by
    cases hcase : p.activeRow templates quest with
    | false =>
      obtain ⟨hplace, hsame⟩ := hspec.idle (hactive.symm.trans hcase)
      rw [activeQuests_concat_idle hcase, hplace, hsame]
      exact ⟨h.place, h.log⟩
    | true =>
      rw [activeQuests_concat_active hcase] at hfits ⊢
      rw [length_append, length_singleton, ← h.place] at hfits ⊢
      obtain ⟨hplace, hslots⟩ := hspec.logged hfits (hactive.symm.trans hcase)
      refine ⟨hplace, fun slot hslot => ?_⟩
      rw [hslots]
      split
      · next hsame => rw [hsame, h.place, getD_append_right _ _ _ _ (le_refl _), Nat.sub_self]; rfl
      · next hne =>
          have hless : slot < state.2 := by omega
          rw [h.log slot hless, getD_append _ _ _ _ (h.place ▸ hless)]
  refine ⟨hlog.1, hlog.2, fun other hsome hmem row' hrow' => ?_, fun other hother => ?_, hspec.rows.trans h.rows,
    hspec.calls.trans h.calls⟩
  · rw [hfind]
    split
    · next hsame =>
        rw [hsame, hrow] at hrow'
        exact ⟨timer, by rw [Option.some.inj hrow']⟩
    · next hne =>
        have hold := (mem_append.mp hmem).resolve_right fun hlast => hne (mem_singleton.mp hlast)
        exact h.found other hsome hold row' hrow'
  · rw [hfind, if_neg]
    · exact h.absent other fun hmem => hother (mem_append_left _ hmem)
    · rintro rfl
      exact nomatch hrow.symm.trans (hother (by simp))

theorem Loaded.concat {state : Player × ℕ} (h : Loaded templates p quests state) (now : ℕ)
    (hfits : (p.activeQuests templates (quests ++ [quest])).length ≤ maxQuestLogSize) :
    Loaded templates p (quests ++ [quest]) (p.loadRow templates now state quest) := by
  rw [loadRow]
  cases hrow : p.questRows.find quest with
  | none => exact h.skip (by rw [activeRow, hrow]; split <;> trivial) (.inr hrow)
  | some row =>
    dsimp only
    cases hinfo : templates quest with
    | none =>
      rw [loadQuest, hinfo]
      exact h.skip (by rw [activeRow, hinfo]) (.inl hinfo)
    | some info => exact h.enter (loadQuest_spec now state hinfo) hinfo hrow hfits

theorem Loaded.fold (now : ℕ) (hnodup : quests.Nodup)
    (hfits : (p.activeQuests templates quests).length ≤ maxQuestLogSize) :
    Loaded templates p quests (quests.foldl (p.loadRow templates now)
      (({ p with questStatus := OrderedMap.empty, timedquests := [] } : Player), 0)) := by
  induction quests using List.reverseRecOn with
  | nil => exact Loaded.nil p
  | append_singleton before quest ih =>
    rw [foldl_concat]
    have hshort : (p.activeQuests templates before).length ≤ maxQuestLogSize := by
      refine le_trans ?_ hfits
      rw [activeQuests, activeQuests, filter_append, length_append]
      exact Nat.le_add_right _ _
    exact (ih (nodup_append.mp hnodup).1 hshort).concat now hfits

-- The rows of the log fit into it.
def Fits (templates : Templates) (p : Player) : Prop :=
  (p.activeQuests templates p.questRows.keys).length ≤ maxQuestLogSize

theorem loadOrder_perm (p : Player) (order : List ℕ) : (p.loadOrder order).Perm p.questRows.keys := by
  rw [loadOrder]
  split
  · next hperm => exact hperm
  · exact .refl _

structure LoadedAll (templates : Templates) (p loaded : Player) (quests : List ℕ) : Prop where
  found : ∀ quest, (templates quest).isSome → ∀ row, p.questRows.find quest = some row →
    ∃ timer, loaded.questStatus.find quest = some (row.data timer)
  absent : ∀ quest, p.questRows.find quest = none → loaded.questStatus.find quest = none
  log : ∀ slot, (loaded.log slot).questId = (p.activeQuests templates quests).getD slot 0
  rows : loaded.questRows = p.questRows
  calls : loaded.calls = p.calls

theorem loadedAll (hfits : p.Fits templates) (now : ℕ) (order : List ℕ) :
    LoadedAll templates p (p.loadQuestStatus templates now order) (p.loadOrder order) := by
  have hperm := loadOrder_perm p order
  have hfits' : (p.activeQuests templates (p.loadOrder order)).length ≤ maxQuestLogSize := by
    rw [activeQuests, (hperm.filter _).length_eq]
    exact hfits
  have h := Loaded.fold now (hperm.nodup_iff.mpr nodup_keys) hfits'
  rw [loadQuestStatus]
  generalize (p.loadOrder order).foldl (p.loadRow templates now)
    (({ p with questStatus := OrderedMap.empty, timedquests := [] } : Player), 0) = state at h
  refine ⟨fun quest hsome row hrow => ?_, fun quest hnone => h.absent quest fun _ => hnone, fun slot => ?_, h.rows, h.calls⟩
  · refine h.found quest hsome (hperm.mem_iff.mpr (mem_keys.mpr ?_)) row hrow
    rw [hrow]
    exact nofun
  · dsimp only
    split
    · next hslot =>
        rw [getD_eq_default _ _ (h.place ▸ hslot)]
    · next hslot => exact h.log slot (not_le.mp hslot)

end Player

end TurtleWow.Quests

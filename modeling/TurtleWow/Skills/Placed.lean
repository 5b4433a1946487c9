import TurtleWow.Skills.Player

namespace TurtleWow.Skills

open Run Function OrderedMap

-- Every live skill has a position of its own, the other positions are empty, and the
-- save state says what the rows hold.

namespace Player

variable {p q : Player} {t : Tables} {id other pos : Nat} {status found : SkillStatusData}

def RowRight (p : Player) (id : Nat) : Prop :=
  match p.skillStatus.find id with
  | none => p.characterSkills.find id = none
  | some status =>
    match status.uState with
    | .unchanged => p.characterSkills.find id = some (p.skillValue status.pos)
    | .new => p.characterSkills.find id = none
    | .changed => p.characterSkills.find id ≠ none
    | .deleted => p.characterSkills.find id ≠ none

structure Placed (p : Player) : Prop where
  live : ∀ id status, p.live id = some status →
    id ≠ 0 ∧ status.pos < playerMaxSkills ∧ (p.skillIndex status.pos).1 = id
  free : ∀ pos, (∀ id status, p.live id = some status → status.pos ≠ pos) →
    p.skillIndex pos = (0, 0) ∧ p.skillValue pos = (0, 0) ∧ p.skillBonus pos = (0, 0)
  rows : ∀ id, p.RowRight id

theorem live_eq_some : p.live id = some status ↔ p.skillStatus.find id = some status ∧ status.uState ≠ .deleted := by
  unfold Player.live
  rw [Option.filter_eq_some_iff, decide_eq_true_eq]

theorem live_insert (hstatus : q.skillStatus = p.skillStatus.insert id status) :
    q.live other = if other = id then (if status.uState = .deleted then none else some status) else p.live other := by
  unfold Player.live
  rw [hstatus, find_insert]
  split
  · by_cases hdeleted : status.uState = .deleted
    · rw [if_pos hdeleted]
      simp [Option.filter, hdeleted]
    · rw [if_neg hdeleted]
      simp [Option.filter, hdeleted]
  · rfl

theorem live_erase (hstatus : q.skillStatus = p.skillStatus.erase id) :
    q.live other = if other = id then none else p.live other := by
  unfold Player.live
  rw [hstatus, find_erase]
  split
  · rfl
  · rfl

theorem live_congr (hstatus : q.skillStatus = p.skillStatus) : q.live id = p.live id := by
  unfold Player.live
  rw [hstatus]

theorem rowRight_congr (hstatus : q.skillStatus.find id = p.skillStatus.find id)
    (hrows : q.characterSkills.find id = p.characterSkills.find id)
    (hvalue : ∀ status, p.live id = some status → q.skillValue status.pos = p.skillValue status.pos)
    (h : p.RowRight id) : q.RowRight id := by
  unfold RowRight at h ⊢
  rw [hstatus, hrows]
  cases hfind : p.skillStatus.find id with
  | none =>
    rw [hfind] at h
    exact h
  | some status =>
    rw [hfind] at h
    dsimp only at h ⊢
    cases hstate : status.uState with
    | unchanged =>
      rw [hstate] at h
      rw [hvalue status (live_eq_some.mpr ⟨hfind, by rw [hstate]; nofun⟩)]
      exact h
    | changed => rw [hstate] at h; exact h
    | new => rw [hstate] at h; exact h
    | deleted => rw [hstate] at h; exact h

theorem Placed.pos_ne (h : Placed p) (hstatus : p.live id = some status) (hother : p.live other = some found)
    (hne : other ≠ id) : found.pos ≠ status.pos := by
  intro hpos
  have hindex := (h.live other found hother).2.2
  rw [hpos, (h.live id status hstatus).2.2] at hindex
  exact hne hindex.symm

theorem markChanged_pos (status : SkillStatusData) : (markChanged status).pos = status.pos := by
  unfold markChanged
  split
  · rfl
  · rfl

theorem markChanged_live (hstate : status.uState ≠ .deleted) : (markChanged status).uState ≠ .deleted := by
  unfold markChanged
  split
  · nofun
  · exact hstate

theorem Placed.congr (h : Placed p) (hstatus : q.skillStatus = p.skillStatus) (hindex : q.skillIndex = p.skillIndex)
    (hvalue : q.skillValue = p.skillValue) (hrows : q.characterSkills = p.characterSkills)
    (hbonus : ∀ pos, (∀ id status, p.live id = some status → status.pos ≠ pos) → q.skillBonus pos = p.skillBonus pos) :
    Placed q where
  live id status hlive := by
    rw [hindex]
    exact h.live id status ((live_congr hstatus).symm.trans hlive)
  free pos hpos := by
    have hfree : ∀ id status, p.live id = some status → status.pos ≠ pos :=
      fun id status hlive => hpos id status ((live_congr hstatus).trans hlive)
    rw [hindex, hvalue, hbonus pos hfree]
    exact h.free pos hfree
  rows id := rowRight_congr (by rw [hstatus]) (by rw [hrows]) (fun _ _ => by rw [hvalue]) (h.rows id)

theorem Placed.modifySkillBonus (h : Placed p) (id : Nat) (diff : Int) (permanent : Bool) :
    Placed (p.modifySkillBonus id diff permanent) := by
  unfold Player.modifySkillBonus
  split
  · exact h
  · split
    · exact h
    · next status hlive =>
        refine h.congr rfl rfl rfl rfl fun pos hpos => ?_
        exact update_of_ne (Ne.symm (hpos id status hlive)) _ _

theorem markChanged_row (hrow : p.RowRight id) (hfind : p.skillStatus.find id = some status)
    (hstatus : q.skillStatus.find id = some (markChanged status))
    (hrows : q.characterSkills.find id = p.characterSkills.find id) : q.RowRight id := by
  unfold RowRight at hrow ⊢
  rw [hfind] at hrow
  rw [hstatus, hrows]
  unfold markChanged
  dsimp only at hrow ⊢
  cases hstate : status.uState with
  | unchanged =>
    rw [hstate] at hrow
    rw [if_pos (by nofun)]
    dsimp only at hrow ⊢
    rw [hrow]
    nofun
  | changed => rw [hstate] at hrow; rw [if_pos (by nofun)]; exact hrow
  | new =>
    rw [hstate] at hrow
    rw [if_neg (by simp), hstate]
    exact hrow
  | deleted => rw [hstate] at hrow; rw [if_pos (by nofun)]; exact hrow

theorem Placed.setValue (h : Placed p) (hlive : p.live id = some status) (value max : Nat) :
    Placed (p.setValue id status value max) := by
  obtain ⟨hfind, hstate⟩ := live_eq_some.mp hlive
  have hnow : ∀ other, (p.setValue id status value max).live other =
      if other = id then some (markChanged status) else p.live other := by
    intro other
    rw [live_insert (p := p) (q := p.setValue id status value max) rfl, if_neg (markChanged_live hstate)]
  refine ⟨fun other found hfound => ?_, fun pos hpos => ?_, fun other => ?_⟩
  · rw [hnow] at hfound
    split at hfound
    · next hother =>
        cases hfound
        rw [markChanged_pos, hother]
        exact h.live id status hlive
    · exact h.live other found hfound
  · have hid := hpos id (markChanged status) ((hnow id).trans (if_pos rfl))
    rw [markChanged_pos] at hid
    have hfree : ∀ other found, p.live other = some found → found.pos ≠ pos := by
      intro other found hfound
      by_cases hother : other = id
      · subst hother
        obtain rfl := Option.some.inj (hlive.symm.trans hfound)
        exact hid
      · exact hpos other found ((hnow other).trans ((if_neg hother).trans hfound))
    obtain ⟨hindex, hvalue, hbonus⟩ := h.free pos hfree
    exact ⟨hindex, (update_of_ne (Ne.symm hid) _ _).trans hvalue, hbonus⟩
  · by_cases hother : other = id
    · subst hother
      exact markChanged_row (h.rows other) hfind ((find_insert _).trans (if_pos rfl)) rfl
    · refine rowRight_congr ((find_insert _).trans (if_neg hother)) rfl (fun found hfound => ?_) (h.rows other)
      exact update_of_ne (h.pos_ne hlive hfound hother) _ _

theorem Placed.setStep (h : Placed p) (hlive : p.live id = some status) (step : Nat) :
    Placed { p with skillIndex := Function.update p.skillIndex status.pos (id, step) } where
  live other found hfound := by
    obtain ⟨hzero, hpos, hindex⟩ := h.live other found hfound
    refine ⟨hzero, hpos, ?_⟩
    by_cases hother : other = id
    · subst hother
      obtain rfl := Option.some.inj (hlive.symm.trans hfound)
      change (Function.update p.skillIndex status.pos (other, step) status.pos).1 = other
      rw [update_self]
    · exact (congrArg Prod.fst (update_of_ne (h.pos_ne hlive hfound hother) _ _)).trans hindex
  free pos hpos := by
    obtain ⟨hindex, hvalue, hbonus⟩ := h.free pos hpos
    exact ⟨(update_of_ne (Ne.symm (hpos id status hlive)) _ _).trans hindex, hvalue, hbonus⟩
  rows other := rowRight_congr rfl rfl (fun _ _ => rfl) (h.rows other)

theorem live_removeStatus (p : Player) (id : Nat) (status : SkillStatusData) :
    ((p.clearFields status.pos).removeStatus id status).live other = if other = id then none else p.live other := by
  by_cases hnew : status.uState = .new
  · have hstatus : ((p.clearFields status.pos).removeStatus id status).skillStatus = p.skillStatus.erase id :=
      if_neg (not_not.mpr hnew)
    rw [live_erase hstatus]
  · have hstatus : ((p.clearFields status.pos).removeStatus id status).skillStatus =
        p.skillStatus.insert id { status with uState := .deleted } := if_pos hnew
    rw [live_insert hstatus, if_pos rfl]

theorem Placed.remove (h : Placed p) (hlive : p.live id = some status) :
    Placed ((p.clearFields status.pos).removeStatus id status) := by
  have hnow : ∀ other, ((p.clearFields status.pos).removeStatus id status).live other =
      if other = id then none else p.live other := fun other => live_removeStatus p id status
  obtain ⟨hfind, hstate⟩ := live_eq_some.mp hlive
  refine ⟨fun other found hfound => ?_, fun pos hpos => ?_, fun other => ?_⟩
  · rw [hnow] at hfound
    split at hfound
    · cases hfound
    · next hother =>
        obtain ⟨hzero, hpos, hindex⟩ := h.live other found hfound
        exact ⟨hzero, hpos,
          (congrArg Prod.fst (update_of_ne (h.pos_ne hlive hfound hother) _ _)).trans hindex⟩
  · by_cases hpos' : pos = status.pos
    · subst hpos'
      exact ⟨update_self _ _ _, update_self _ _ _, update_self _ _ _⟩
    · obtain ⟨hindex, hvalue, hbonus⟩ := h.free pos fun other found hfound => by
        by_cases hother : other = id
        · subst hother
          obtain rfl := Option.some.inj (hlive.symm.trans hfound)
          exact Ne.symm hpos'
        · exact hpos other found ((hnow other).trans ((if_neg hother).trans hfound))
      exact ⟨(update_of_ne hpos' _ _).trans hindex, (update_of_ne hpos' _ _).trans hvalue,
        (update_of_ne hpos' _ _).trans hbonus⟩
  · by_cases hother : other = id
    · subst hother
      have hrow := h.rows other
      unfold RowRight at hrow ⊢
      rw [hfind] at hrow
      dsimp only at hrow
      by_cases hnew : status.uState = .new
      · have hstatus : ((p.clearFields status.pos).removeStatus other status).skillStatus.find other = none := by
          refine (congrArg (fun m => OrderedMap.find m other) (if_neg (not_not.mpr hnew))).trans ?_
          exact (find_erase).trans (if_pos rfl)
        rw [hnew] at hrow
        rw [hstatus]
        exact hrow
      · have hstatus : ((p.clearFields status.pos).removeStatus other status).skillStatus.find other =
            some { status with uState := .deleted } := by
          refine (congrArg (fun m => OrderedMap.find m other) (if_pos hnew)).trans ?_
          exact (find_insert _).trans (if_pos rfl)
        rw [hstatus]
        change p.characterSkills.find other ≠ none
        cases hcase : status.uState with
        | unchanged =>
          rw [hcase] at hrow
          rw [hrow]
          nofun
        | changed => rw [hcase] at hrow; exact hrow
        | new => exact absurd hcase hnew
        | deleted => exact absurd hcase hstate
    · refine rowRight_congr (p := p) ?_ rfl (fun found hfound => ?_) (h.rows other)
      · unfold removeStatus
        split
        · rw [find_insert, if_neg hother]
          rfl
        · rw [find_erase, if_neg hother]
          rfl
      · exact update_of_ne (h.pos_ne hlive hfound hother) _ _

theorem live_addFields (id other pos currVal maxVal step : Nat) :
    (p.addFields id pos currVal maxVal step).live other =
      if other = id then some ⟨pos, if (p.skillStatus.find id).isSome then .changed else .new⟩ else p.live other := by
  rw [live_insert (p := p) (q := p.addFields id pos currVal maxVal step) rfl]
  split
  · split
    · rfl
    · rfl
  · rfl

theorem Placed.add (h : Placed p) (hid : id ≠ 0) (hlive : p.live id = none) (hpos : pos < playerMaxSkills)
    (hempty : p.skillIndex pos = (0, 0)) (currVal maxVal step : Nat) :
    Placed (p.addFields id pos currVal maxVal step) := by
  have hunused : ∀ other found, p.live other = some found → found.pos ≠ pos := by
    intro other found hfound heq
    obtain ⟨hzero, -, hindex⟩ := h.live other found hfound
    rw [heq, hempty] at hindex
    exact hzero hindex.symm
  have hnow := fun other => live_addFields (p := p) id other pos currVal maxVal step
  refine ⟨fun other found hfound => ?_, fun pos' hpos' => ?_, fun other => ?_⟩
  · rw [hnow] at hfound
    split at hfound
    · next hother =>
        cases hfound
        refine ⟨hother ▸ hid, hpos, ?_⟩
        change (Function.update p.skillIndex pos (id, step) pos).1 = other
        rw [update_self, hother]
    · obtain ⟨hzero, hlt, hindex⟩ := h.live other found hfound
      exact ⟨hzero, hlt, (congrArg Prod.fst (update_of_ne (hunused other found hfound) _ _)).trans hindex⟩
  · have hne : pos' ≠ pos := Ne.symm (hpos' id _ ((hnow id).trans (if_pos rfl)))
    obtain ⟨hindex, hvalue, hbonus⟩ := h.free pos' fun other found hfound => by
      by_cases hother : other = id
      · rw [hother, hlive] at hfound
        cases hfound
      · exact hpos' other found ((hnow other).trans ((if_neg hother).trans hfound))
    exact ⟨(update_of_ne hne _ _).trans hindex, (update_of_ne hne _ _).trans hvalue,
      (update_of_ne hne _ _).trans hbonus⟩
  · by_cases hother : other = id
    · subst hother
      have hrow := h.rows other
      have hstatus : (p.addFields other pos currVal maxVal step).skillStatus.find other =
          some ⟨pos, if (p.skillStatus.find other).isSome then .changed else .new⟩ :=
        (find_insert _).trans (if_pos rfl)
      unfold RowRight at hrow ⊢
      rw [hstatus]
      cases hfind : p.skillStatus.find other with
      | none =>
        rw [hfind] at hrow
        exact hrow
      | some old =>
        have hold : old.uState = .deleted := by
          by_contra hstate
          rw [live_eq_some.mpr ⟨hfind, hstate⟩] at hlive
          cases hlive
        rw [hfind] at hrow
        dsimp only at hrow
        rw [hold] at hrow
        exact hrow
    · refine rowRight_congr ((find_insert _).trans (if_neg hother)) rfl (fun found hfound => ?_) (h.rows other)
      exact update_of_ne (hunused other found hfound) _ _

theorem Placed.applyModSkill (h : Placed p) (id : Nat) (apply : Bool) : Placed (p.applyModSkill id apply) := by
  unfold Player.applyModSkill
  generalize p.modSkill = auras
  induction auras generalizing p with
  | nil => exact h
  | cons aura rest ih =>
    refine ih ?_
    dsimp only
    by_cases haura : aura.1 = id
    · rw [if_pos haura]
      exact h.modifySkillBonus _ _ _
    · rw [if_neg haura]
      exact h

theorem modifySkillBonus_frame (p : Player) (id : Nat) (diff : Int) (permanent : Bool) :
    ∃ bonus, p.modifySkillBonus id diff permanent = { p with skillBonus := bonus } := by
  unfold Player.modifySkillBonus
  split
  · exact ⟨p.skillBonus, rfl⟩
  · split
    · exact ⟨p.skillBonus, rfl⟩
    · exact ⟨_, rfl⟩

theorem applyModSkill_frame (p : Player) (id : Nat) (apply : Bool) :
    ∃ bonus, p.applyModSkill id apply = { p with skillBonus := bonus } := by
  unfold Player.applyModSkill
  suffices h : ∀ (auras : List (Nat × Int × Bool)) (p : Player), ∃ bonus,
      auras.foldl (fun p aura =>
        if aura.1 = id then p.modifySkillBonus id (if apply then aura.2.1 else -aura.2.1) aura.2.2 else p) p =
        { p with skillBonus := bonus } from h p.modSkill p
  intro auras
  induction auras with
  | nil => exact fun p => ⟨p.skillBonus, rfl⟩
  | cons aura rest ih =>
    intro p
    rw [List.foldl_cons]
    by_cases haura : aura.1 = id
    · obtain ⟨bonus, hbonus⟩ := modifySkillBonus_frame p id (if apply then aura.2.1 else -aura.2.1) aura.2.2
      rw [if_pos haura, hbonus]
      exact ih _
    · rw [if_neg haura]
      exact ih p

theorem Placed.setSkillFields (h : Placed p) (t : Tables) (id currVal maxVal step : Nat) :
    Placed (setSkillFields t p id currVal maxVal step).1 := by
  unfold Player.setSkillFields
  split
  · exact h
  · next hid =>
      cases hlive : p.live id with
      | some status =>
        dsimp only
        split
        · split
          · exact (h.setStep hlive step).setValue hlive currVal maxVal
          · exact h.setValue hlive currVal maxVal
        · obtain ⟨bonus, hbonus⟩ := applyModSkill_frame p id false
          have happlied := h.applyModSkill id false
          rw [hbonus] at happlied ⊢
          exact happlied.remove hlive
      | none =>
        dsimp only
        split
        · split
          · exact h
          · next i hi =>
              split
              · exact h
              · have hempty : p.skillIndex i = (0, 0) := by simpa using List.find?_some hi
                have hlt : i < playerMaxSkills := List.mem_range.mp (List.mem_of_find?_eq_some hi)
                exact (h.add hid hlive hlt hempty currVal maxVal step).applyModSkill id true
        · exact h

end Player

end TurtleWow.Skills

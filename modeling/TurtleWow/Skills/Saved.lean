import TurtleWow.Skills.Nested

namespace TurtleWow.Skills

open Run OrderedMap

-- The other operations on skills, the save, and all runs

namespace Player

variable {p q : Player} {t : Tables} {ok : Nat → Nat → Nat → Prop} {id other : Nat} {status : SkillStatusData}

def NoWrap (p : Player) (id step : Nat) : Prop :=
  ∀ status, p.live id = some status → (p.skillValue status.pos).1 + step < 2 ^ 32

-- UpdateSkillsForLevel sets the maximum and leaves the value.
def raisesMax (t : Tables) (id max : Nat) : Bool :=
  match t.skillLine id, t.skillRaceClassInfo id with
  | some category, some rcInfo =>
    getSkillRangeType category rcInfo = .level && max ≠ 1 &&
      !(t.alwaysMaxSkillForLevel || rcInfo.flags &&& skillFlagAlwaysMaxValue ≠ 0) && max ≠ t.configMaxSkillValue
  | _, _ => false

def Fits (t : Tables) (limit id value max : Nat) : Prop := raisesMax t id max = true → value ≤ limit

section Operations

theorem Placed.updateSkill (h : Placed p) (id step : Nat) : Placed (p.updateSkill id step) := by
  unfold Player.updateSkill
  split
  · exact h
  · split
    · exact h
    · next status hlive =>
        dsimp only
        split
        · exact h
        · exact h.setValue hlive _ _

theorem Valued.updateSkill_positive (h : Valued Positive p) (hplaced : Placed p) {step : Nat} (hwrap : p.NoWrap id step) :
    Valued Positive (p.updateSkill id step) := by
  unfold Player.updateSkill
  split
  · exact h
  · split
    · exact h
    · next status hlive =>
        obtain ⟨hpos, -, hmax⟩ := h id status hlive
        have hfits := hwrap status hlive
        dsimp only
        split
        · exact h
        · next hless =>
            rw [not_or, not_or] at hless
            refine h.setValue hplaced hlive ⟨?_, u16_lt _, hmax⟩
            rw [Nat.mod_eq_of_lt hfits, u16_eq ((min_le_right _ _).trans_lt hmax)]
            omega

theorem Valued.updateSkill_capped (h : Valued Capped p) (hplaced : Placed p) (id step : Nat) :
    Valued Capped (p.updateSkill id step) := by
  unfold Player.updateSkill
  split
  · exact h
  · split
    · exact h
    · next status hlive =>
        obtain ⟨-, hmax⟩ := h id status hlive
        dsimp only
        split
        · exact h
        · refine h.setValue hplaced hlive ⟨?_, hmax⟩
          rw [u16_eq ((min_le_right _ _).trans_lt hmax)]
          exact min_le_right _ _

theorem updateSkillForLevel_cases (t : Tables) (p : Player) (id : Nat) :
    p.updateSkillForLevel t id = p ∨
    ∃ status, p.live id = some status ∧
      (p.updateSkillForLevel t id = p.setValue id status p.getSkillMaxForLevel p.getSkillMaxForLevel ∨
        raisesMax t id (p.skillValue status.pos).2 = true ∧
          p.updateSkillForLevel t id = p.setValue id status (p.skillValue status.pos).1 p.getSkillMaxForLevel) := by
  unfold updateSkillForLevel
  split
  · next status category rcInfo hlive hline hinfo =>
      dsimp only
      split
      · exact .inl rfl
      · next hlevel =>
          rw [not_or, not_not] at hlevel
          split
          · exact .inr ⟨status, hlive, .inl rfl⟩
          · next halways =>
              split
              · next hconfig =>
                  refine .inr ⟨status, hlive, .inr ⟨?_, rfl⟩⟩
                  unfold raisesMax
                  rw [hline, hinfo]
                  simp only [Bool.and_eq_true, Bool.not_eq_true', decide_eq_true_eq]
                  exact ⟨⟨⟨hlevel.1, hlevel.2⟩, by simpa using halways⟩, hconfig⟩
              · exact .inl rfl
  · exact .inl rfl

theorem Placed.updateSkillsForLevel (h : Placed p) (t : Tables) : Placed (p.updateSkillsForLevel t) := by
  refine foldl_keeps (P := Placed) (f := updateSkillForLevel t) (fun p id h => ?_) _ h
  rcases updateSkillForLevel_cases t p id with heq | ⟨status, hlive, heq | ⟨-, heq⟩⟩
  · rw [heq]
    exact h
  · rw [heq]
    exact h.setValue hlive _ _
  · rw [heq]
    exact h.setValue hlive _ _

theorem Valued.updateSkillsForLevel_positive (h : Valued Positive p) (hplaced : Placed p) (t : Tables) :
    Valued Positive (p.updateSkillsForLevel t) := by
  refine (foldl_keeps (P := fun p => Placed p ∧ Valued Positive p) (f := updateSkillForLevel t) (fun p id h => ?_) _
    ⟨hplaced, h⟩).2
  obtain ⟨hlow, hhigh⟩ := getSkillMaxForLevel_bounds p
  rcases updateSkillForLevel_cases t p id with heq | ⟨status, hlive, heq | ⟨-, heq⟩⟩
  · rw [heq]
    exact h
  · rw [heq]
    refine ⟨h.1.setValue hlive _ _, h.2.setValue h.1 hlive ⟨?_, u16_lt _, hhigh⟩⟩
    rw [u16_eq hhigh]
    omega
  · rw [heq]
    obtain ⟨hpos, hlt, -⟩ := h.2 id status hlive
    refine ⟨h.1.setValue hlive _ _, h.2.setValue h.1 hlive ⟨?_, u16_lt _, hhigh⟩⟩
    rw [u16_eq hlt]
    exact hpos

theorem Valued.updateSkillsForLevel_capped (h : Valued Capped p) (hplaced : Placed p)
    (hfits : Valued (Fits t p.getSkillMaxForLevel) p) : Valued Capped (p.updateSkillsForLevel t) := by
  refine (foldl_keeps (P := fun q => Placed q ∧ Valued Capped q ∧ Valued (Fits t q.getSkillMaxForLevel) q)
    (f := updateSkillForLevel t) (fun p id h => ?_) _ ⟨hplaced, h, hfits⟩).2.1
  obtain ⟨hplaced, hcapped, hfits⟩ := h
  obtain ⟨-, hhigh⟩ := getSkillMaxForLevel_bounds p
  rcases updateSkillForLevel_cases t p id with heq | ⟨status, hlive, heq | ⟨hraises, heq⟩⟩
  · rw [heq]
    exact ⟨hplaced, hcapped, hfits⟩
  · rw [heq]
    have hsame := u16_eq hhigh
    exact ⟨hplaced.setValue hlive _ _, hcapped.setValue hplaced hlive ⟨hsame.le, hhigh⟩,
      hfits.setValue hplaced hlive fun _ => hsame.le⟩
  · rw [heq]
    obtain ⟨hvalue, hmax⟩ := hcapped id status hlive
    have hle := hfits id status hlive hraises
    have hsame := u16_eq (hvalue.trans_lt hmax)
    refine ⟨hplaced.setValue hlive _ _, hcapped.setValue hplaced hlive ⟨?_, hhigh⟩, hfits.setValue hplaced hlive fun _ => ?_⟩
    · rw [hsame]
      exact hle
    · rw [hsame]
      exact hle

theorem updateSkillToMax_cases (t : Tables) (p : Player) (id : Nat) :
    p.updateSkillToMax t id = p ∨
    ∃ status, p.live id = some status ∧ 1 < (p.skillValue status.pos).2 ∧
      p.updateSkillToMax t id = p.setValue id status (p.skillValue status.pos).2 (p.skillValue status.pos).2 := by
  unfold updateSkillToMax
  split
  · exact .inl rfl
  · next status hlive =>
      split
      · exact .inl rfl
      · split
        · next hmax => exact .inr ⟨status, hlive, hmax, rfl⟩
        · exact .inl rfl

theorem Placed.updateSkillsToMax (h : Placed p) (t : Tables) : Placed (p.updateSkillsToMaxSkillsForLevel t) := by
  refine foldl_keeps (P := Placed) (f := updateSkillToMax t) (fun p id h => ?_) _ h
  rcases updateSkillToMax_cases t p id with heq | ⟨status, hlive, -, heq⟩
  · rw [heq]
    exact h
  · rw [heq]
    exact h.setValue hlive _ _

theorem Valued.updateSkillsToMax (h : Valued ok p) (hplaced : Placed p) (t : Tables)
    (hok : ∀ id value max, ok id value max → 1 < max → ok id (u16 max) max) :
    Valued ok (p.updateSkillsToMaxSkillsForLevel t) := by
  refine (foldl_keeps (P := fun p => Placed p ∧ Valued ok p) (f := updateSkillToMax t) (fun p id h => ?_) _
    ⟨hplaced, h⟩).2
  rcases updateSkillToMax_cases t p id with heq | ⟨status, hlive, hmax, heq⟩
  · rw [heq]
    exact h
  · rw [heq]
    exact ⟨h.1.setValue hlive _ _, h.2.setValue h.1 hlive (hok id _ _ (h.2 id status hlive) hmax)⟩

end Operations

-- The save changes neither a position nor a field.

def place (p : Player) (id : Nat) : Option Nat := (p.live id).map SkillStatusData.pos

theorem place_eq_some {pos : Nat} : p.place id = some pos ↔ ∃ status, p.live id = some status ∧ status.pos = pos :=
  Option.map_eq_some_iff

theorem Placed.of_places (h : Placed p) (hplaces : ∀ id, q.place id = p.place id) (hindex : q.skillIndex = p.skillIndex)
    (hvalue : q.skillValue = p.skillValue) (hbonus : q.skillBonus = p.skillBonus) (hrows : ∀ id, q.RowRight id) :
    Placed q where
  live id status hlive := by
    obtain ⟨found, hfound, hpos⟩ := place_eq_some.mp ((hplaces id).symm.trans (place_eq_some.mpr ⟨status, hlive, rfl⟩))
    rw [hindex, ← hpos]
    exact h.live id found hfound
  free pos hpos := by
    rw [hindex, hvalue, hbonus]
    refine h.free pos fun id status hlive heq => ?_
    obtain ⟨found, hfound, hfpos⟩ := place_eq_some.mp ((hplaces id).trans (place_eq_some.mpr ⟨status, hlive, heq⟩))
    exact hpos id found hfound hfpos
  rows := hrows

theorem Valued.of_places (h : Valued ok p) (hplaces : ∀ id, q.place id = p.place id) (hvalue : q.skillValue = p.skillValue) :
    Valued ok q := by
  intro id status hlive
  obtain ⟨found, hfound, hpos⟩ := place_eq_some.mp ((hplaces id).symm.trans (place_eq_some.mpr ⟨status, hlive, rfl⟩))
  rw [hvalue, ← hpos]
  exact h id found hfound

structure Kept (p q : Player) : Prop where
  places : ∀ id, q.place id = p.place id
  index : q.skillIndex = p.skillIndex
  value : q.skillValue = p.skillValue
  bonus : q.skillBonus = p.skillBonus

theorem place_insert (hfind : p.skillStatus.find id = some status) (hstate : status.uState ≠ .deleted)
    (hstatus : q.skillStatus = p.skillStatus.insert id { status with uState := .unchanged }) (other : Nat) :
    q.place other = p.place other := by
  unfold place
  rw [live_insert hstatus, if_neg (show SkillUpdateState.unchanged ≠ .deleted by nofun)]
  split
  · next hother =>
      rw [hother, live_eq_some.mpr ⟨hfind, hstate⟩]
      rfl
  · rfl

theorem saveSkill_kept (p : Player) (id : Nat) : Kept p (p.saveSkill id) := by
  unfold saveSkill
  cases hfind : p.skillStatus.find id with
  | none => exact ⟨fun _ => rfl, rfl, rfl, rfl⟩
  | some status =>
    dsimp only
    cases hstate : status.uState with
    | unchanged => exact ⟨fun _ => rfl, rfl, rfl, rfl⟩
    | deleted =>
      refine ⟨fun other => ?_, rfl, rfl, rfl⟩
      unfold place
      rw [live_erase rfl]
      split
      · next hother =>
          rw [hother]
          unfold Player.live
          rw [hfind]
          simp [Option.filter, hstate]
      · rfl
    | new => exact ⟨place_insert hfind (by rw [hstate]; nofun) rfl, rfl, rfl, rfl⟩
    | changed => exact ⟨place_insert hfind (by rw [hstate]; nofun) rfl, rfl, rfl, rfl⟩

theorem rowRight_unchanged (hstatus : p.skillStatus.find id = some { status with uState := .unchanged })
    (hrow : p.characterSkills.find id = some (p.skillValue status.pos)) : p.RowRight id := by
  unfold RowRight
  rw [hstatus]
  exact hrow

theorem saveSkill_rows (h : ∀ id, p.RowRight id) (id other : Nat) : (p.saveSkill id).RowRight other := by
  have hrow := h id
  unfold saveSkill
  cases hfind : p.skillStatus.find id with
  | none => exact h other
  | some status =>
    unfold RowRight at hrow
    rw [hfind] at hrow
    dsimp only at hrow ⊢
    cases hstate : status.uState with
    | unchanged => exact h other
    | deleted =>
      by_cases hother : other = id
      · subst hother
        unfold RowRight
        rw [find_erase, if_pos rfl]
        exact find_erase.trans (if_pos rfl)
      · exact rowRight_congr (p := p) (find_erase.trans (if_neg hother))
          (find_erase.trans (if_neg hother)) (fun _ _ => rfl) (h other)
    | new =>
      rw [hstate] at hrow
      dsimp only at hrow ⊢
      rw [if_pos hrow]
      by_cases hother : other = id
      · subst hother
        exact rowRight_unchanged ((find_insert _).trans (if_pos rfl))
          ((find_insert _).trans (if_pos rfl))
      · exact rowRight_congr (p := p) ((find_insert _).trans (if_neg hother))
          ((find_insert _).trans (if_neg hother)) (fun _ _ => rfl) (h other)
    | changed =>
      rw [hstate] at hrow
      dsimp only at hrow ⊢
      rw [if_neg hrow]
      by_cases hother : other = id
      · subst hother
        exact rowRight_unchanged ((find_insert _).trans (if_pos rfl))
          ((find_insert _).trans (if_pos rfl))
      · exact rowRight_congr (p := p) ((find_insert _).trans (if_neg hother))
          ((find_insert _).trans (if_neg hother)) (fun _ _ => rfl) (h other)

def Clean (p : Player) (id : Nat) : Prop := ∀ status, p.skillStatus.find id = some status → status.uState = .unchanged

theorem saveSkill_find (p : Player) (hother : other ≠ id) :
    (p.saveSkill id).skillStatus.find other = p.skillStatus.find other := by
  unfold saveSkill
  split
  · rfl
  · dsimp only
    split
    · rfl
    · exact find_erase.trans (if_neg hother)
    · exact (find_insert _).trans (if_neg hother)
    · exact (find_insert _).trans (if_neg hother)

theorem clean_saveSkill (p : Player) (id : Nat) : (p.saveSkill id).Clean id := by
  unfold saveSkill
  cases hfind : p.skillStatus.find id with
  | none =>
    intro status hstatus
    rw [hfind] at hstatus
    cases hstatus
  | some status =>
    intro found hfound
    dsimp only at hfound
    cases hstate : status.uState with
    | unchanged =>
      rw [hstate] at hfound
      rw [← Option.some.inj (hfind.symm.trans hfound)]
      exact hstate
    | deleted =>
      rw [hstate] at hfound
      rw [find_erase, if_pos rfl] at hfound
      cases hfound
    | new =>
      rw [hstate] at hfound
      rw [find_insert, if_pos rfl] at hfound
      rw [← Option.some.inj hfound]
    | changed =>
      rw [hstate] at hfound
      rw [find_insert, if_pos rfl] at hfound
      rw [← Option.some.inj hfound]

theorem Clean.saveSkill (h : p.Clean other) (id : Nat) : (p.saveSkill id).Clean other := by
  by_cases hother : other = id
  · subst hother
    exact clean_saveSkill p other
  · unfold Clean
    rw [saveSkill_find p hother]
    exact h

theorem saveSkills_kept (h : ∀ id, p.RowRight id) :
    Kept p (p.skillStatus.keys.foldl saveSkill p) ∧ ∀ id, (p.skillStatus.keys.foldl saveSkill p).RowRight id := by
  refine foldl_keeps (P := fun q => Kept p q ∧ ∀ id, q.RowRight id) (f := saveSkill) (fun q id h => ?_) _
    ⟨⟨fun _ => rfl, rfl, rfl, rfl⟩, h⟩
  have hkept := saveSkill_kept q id
  exact ⟨⟨fun other => (hkept.places other).trans (h.1.places other), hkept.index.trans h.1.index,
    hkept.value.trans h.1.value, hkept.bonus.trans h.1.bonus⟩, saveSkill_rows h.2 id⟩

theorem saveSkills_clean (p : Player) (id : Nat) : (p.skillStatus.keys.foldl saveSkill p).Clean id := by
  by_cases hmem : id ∈ p.skillStatus.keys
  · exact run_reaches saveSkill (fun _ _ => True) (fun _ other => other = id) (fun _ => True) (fun q => q.Clean id)
      (fun _ _ _ _ => trivial) (fun q other _ _ hmark => hmark ▸ clean_saveSkill q other)
      (fun _ other _ _ hkeep => hkeep.saveSkill other) trivial
      (guarded_of_forall _ _ (fun _ _ => trivial) _ _) (.inr (sometime_of_mem _ (by rfl) _ hmem))
  · have hnone : p.Clean id := by
      intro status hstatus
      rw [mem_keys, hstatus] at hmem
      exact absurd nofun hmem
    exact foldl_keeps (P := fun q => q.Clean id) (f := saveSkill) (fun _ other h => h.saveSkill other) _ hnone

theorem saveForgotten_frame (p : Player) (entries : List (Nat × Nat)) :
    ∃ rows, entries.foldl saveForgotten p = { p with characterForgottenSkills := rows } := by
  induction entries generalizing p with
  | nil => exact ⟨p.characterForgottenSkills, rfl⟩
  | cons entry rest ih =>
    rw [List.foldl_cons]
    unfold saveForgotten
    split
    · exact ih _
    · exact ih p

theorem saveSkills_eq (p : Player) :
    ∃ rows, p.saveSkills = { p.skillStatus.keys.foldl saveSkill p with characterForgottenSkills := rows } :=
  saveForgotten_frame _ _

theorem Placed.saveSkills (h : Placed p) : Placed p.saveSkills := by
  obtain ⟨hkept, hrows⟩ := saveSkills_kept h.rows
  obtain ⟨rows, heq⟩ := saveSkills_eq p
  rw [heq]
  exact (h.of_places hkept.places hkept.index hkept.value hkept.bonus hrows).congr rfl rfl rfl rfl fun _ _ => rfl

theorem Valued.saveSkills (h : Valued ok p) (hplaced : Placed p) : Valued ok p.saveSkills := by
  obtain ⟨hkept, -⟩ := saveSkills_kept hplaced.rows
  obtain ⟨rows, heq⟩ := saveSkills_eq p
  rw [heq]
  exact (h.of_places hkept.places hkept.value).congr rfl rfl

theorem saveSkills_rows (h : Placed p) (id : Nat) (value : Nat × Nat) :
    p.saveSkills.characterSkills.find id = some value ↔
      ∃ status, p.live id = some status ∧ p.skillValue status.pos = value := by
  obtain ⟨hkept, hrows⟩ := saveSkills_kept h.rows
  obtain ⟨rows, heq⟩ := saveSkills_eq p
  have hclean := saveSkills_clean p id
  have hrow := hrows id
  have hplace := hkept.places id
  rw [heq]
  generalize p.skillStatus.keys.foldl saveSkill p = saved at hkept hclean hrow hplace
  unfold RowRight at hrow
  unfold place Player.live at hplace
  cases hfind : saved.skillStatus.find id with
  | none =>
    rw [hfind] at hrow hplace
    rw [hrow]
    refine iff_of_false nofun fun ⟨status, hlive, _⟩ => ?_
    change none = (p.live id).map _ at hplace
    rw [hlive] at hplace
    cases hplace
  | some status =>
    have hstate := hclean status hfind
    rw [hfind] at hrow hplace
    dsimp only at hrow
    rw [hstate] at hrow
    rw [hrow, hkept.value]
    have hsome : p.place id = some status.pos := by
      refine hplace.symm.trans ?_
      simp [Option.filter, hstate]
    obtain ⟨found, hfound, hpos⟩ := place_eq_some.mp hsome
    rw [hfound, ← hpos]
    constructor
    · intro hvalue
      exact ⟨found, rfl, Option.some.inj hvalue⟩
    · rintro ⟨other, hother, hvalue⟩
      rw [Option.some.inj hother, hvalue]

-- No step of UpdateSkill passes 2 ^ 32.
def NoWrapStep (p : Player) : Step → Prop
  | .updateSkill id step => p.NoWrap id step
  | _ => True

-- SetSkill from outside is asked for no more than its maximum, and UpdateSkillsForLevel
-- sets no maximum below a value.
def CappedStep (t : Tables) (p : Player) : Step → Prop
  | .setSkill _ _ currVal maxVal _ _ => currVal ≤ maxVal ∧ maxVal < 2 ^ 16
  | .updateSkillsForLevel => Valued (Fits t p.getSkillMaxForLevel) p
  | _ => True

theorem Placed.step (h : Placed p) (t : Tables) (input : Step) : Placed (p.step t input) := by
  cases input with
  | setSkill depth id currVal maxVal step spellCalls =>
    exact (closed_placed t).setSkill depth _ _ _ _ _ ((closed_placed t).calls p _ h) trivial
  | trained depth trained spellCalls =>
    exact (closed_placed t).updateSpellTrainedSkills ((closed_placed t).setSkill depth)
      ((closed_placed t).calls p _ h) depth trained
  | updateSkill id step => exact h.updateSkill id step
  | updateSkillsForLevel => exact h.updateSkillsForLevel t
  | updateSkillsToMaxSkillsForLevel => exact h.updateSkillsToMax t
  | modifySkillBonus id diff permanent => exact h.modifySkillBonus id diff permanent
  | modSkill auras => exact h.congr rfl rfl rfl rfl fun _ _ => rfl
  | level level => exact h.congr rfl rfl rfl rfl fun _ _ => rfl
  | saveSkills => exact h.saveSkills

theorem Valued.step_positive (h : Valued Positive p) (hplaced : Placed p) (t : Tables) {input : Step}
    (hwrap : p.NoWrapStep input) : Valued Positive (p.step t input) := by
  have hclosed := closed_positive t
  cases input with
  | setSkill depth id currVal maxVal step spellCalls =>
    exact (hclosed.setSkill depth _ _ _ _ _ (hclosed.calls p spellCalls ⟨hplaced, h⟩) trivial).2
  | trained depth trained spellCalls =>
    exact (hclosed.updateSpellTrainedSkills (hclosed.setSkill depth) (hclosed.calls p spellCalls ⟨hplaced, h⟩) depth
      trained).2
  | updateSkill id step => exact h.updateSkill_positive hplaced hwrap
  | updateSkillsForLevel => exact h.updateSkillsForLevel_positive hplaced t
  | updateSkillsToMaxSkillsForLevel =>
    refine h.updateSkillsToMax hplaced t fun id value max hok hmax => ⟨?_, u16_lt _, hok.2.2⟩
    rw [u16_eq hok.2.2]
    omega
  | modifySkillBonus id diff permanent => exact h.modifySkillBonus id diff permanent
  | modSkill auras => exact h.congr rfl rfl
  | level level => exact h.congr rfl rfl
  | saveSkills => exact h.saveSkills hplaced

theorem Valued.step_capped (h : Valued Capped p) (hplaced : Placed p) (hsane : Sane t) {input : Step}
    (hcapped : p.CappedStep t input) : Valued Capped (p.step t input) := by
  have hclosed := closed_capped hsane
  cases input with
  | setSkill depth id currVal maxVal step spellCalls =>
    exact (hclosed.setSkill depth _ _ _ _ _ (hclosed.calls p spellCalls ⟨hplaced, h⟩) hcapped).2
  | trained depth trained spellCalls =>
    exact (hclosed.updateSpellTrainedSkills (hclosed.setSkill depth) (hclosed.calls p spellCalls ⟨hplaced, h⟩) depth
      trained).2
  | updateSkill id step => exact h.updateSkill_capped hplaced id step
  | updateSkillsForLevel => exact h.updateSkillsForLevel_capped hplaced hcapped
  | updateSkillsToMaxSkillsForLevel =>
    exact h.updateSkillsToMax hplaced t fun id value max hok _ => ⟨(u16_eq hok.2).le, hok.2⟩
  | modifySkillBonus id diff permanent => exact h.modifySkillBonus id diff permanent
  | modSkill auras => exact h.congr rfl rfl
  | level level => exact h.congr rfl rfl
  | saveSkills => exact h.saveSkills hplaced

theorem placed_initial : Placed initial where
  live _ _ hlive := nomatch hlive
  free _ _ := ⟨rfl, rfl, rfl⟩
  rows _ := rfl

theorem run_placed (t : Tables) (inputs : List Step) : Placed (run (step t) initial inputs) :=
  run_invariant (step t) (fun _ _ => True) Placed (fun _ input h _ => h.step t input) placed_initial
    (guarded_of_forall _ _ (fun _ _ => trivial) _ _)

theorem run_positive (t : Tables) {inputs : List Step} (hok : Guarded (step t) NoWrapStep initial inputs) :
    Valued Positive (run (step t) initial inputs) :=
  (run_invariant (step t) NoWrapStep (fun p => Placed p ∧ Valued Positive p)
    (fun _ input h hok => ⟨h.1.step t input, h.2.step_positive h.1 t hok⟩) ⟨placed_initial, nofun⟩ hok).2

theorem run_capped (hsane : Sane t) {inputs : List Step} (hok : Guarded (step t) (CappedStep t) initial inputs) :
    Valued Capped (run (step t) initial inputs) :=
  (run_invariant (step t) (CappedStep t) (fun p => Placed p ∧ Valued Capped p)
    (fun _ input h hok => ⟨h.1.step t input, h.2.step_capped h.1 hsane hok⟩) ⟨placed_initial, nofun⟩ hok).2

theorem skill_slots (t : Tables) (inputs : List Step) :
    let p := run (step t) initial inputs
    (∀ id status, p.live id = some status →
      id ≠ 0 ∧ status.pos < playerMaxSkills ∧ (p.skillIndex status.pos).1 = id) ∧
    (∀ id other status found, p.live id = some status → p.live other = some found → other ≠ id →
      found.pos ≠ status.pos) ∧
    (∀ pos, (∀ id status, p.live id = some status → status.pos ≠ pos) →
      p.skillIndex pos = (0, 0) ∧ p.skillValue pos = (0, 0) ∧ p.skillBonus pos = (0, 0)) ∧
    (Guarded (step t) NoWrapStep initial inputs →
      ∀ id status, p.live id = some status → 0 < (p.skillValue status.pos).1) ∧
    (Sane t → Guarded (step t) (CappedStep t) initial inputs →
      ∀ id status, p.live id = some status → (p.skillValue status.pos).1 ≤ (p.skillValue status.pos).2) ∧
    ∀ id value, p.saveSkills.characterSkills.find id = some value ↔
      ∃ status, p.live id = some status ∧ p.skillValue status.pos = value := by
  have h := run_placed t inputs
  refine ⟨h.live, fun _ _ _ _ hlive hother hne => h.pos_ne hlive hother hne, h.free, fun hok id status hlive => ?_,
    fun hsane hok id status hlive => ?_, saveSkills_rows h⟩
  · exact (run_positive t hok id status hlive).1
  · exact (run_capped hsane hok id status hlive).1

-- SetSkill stores a value above the maximum it is given.
theorem value_above_max :
    let t : Tables := ⟨fun _ => some skillCategoryWeapon, fun _ => none, fun _ => [], fun _ => [], fun _ => none,
      fun _ => [], fun _ => 0, fun _ => 0, 0, 0, false, 300⟩
    let p := run (step t) initial [.setSkill 1 43 2 1 0 []]
    ¬ ∀ id status, p.live id = some status →
      1 ≤ (p.skillValue status.pos).1 ∧ (p.skillValue status.pos).1 ≤ (p.skillValue status.pos).2 := by
  intro t p h
  exact absurd (h 43 ⟨0, .new⟩ (by decide)).2 (by decide)

end Player

end TurtleWow.Skills

import TurtleWow.Reputation.ReputationMgr

namespace TurtleWow.Reputation

-- The state of one faction: what the setters and the loading of a row make of its
-- flags, bit by bit. Bit 0 is visible, 1 at war, 2 hidden, 3 invisible, 4 peace,
-- 5 inactive.

theorem visible_eq : FACTION_FLAG_VISIBLE = BitVec.twoPow 32 0 := by decide

theorem atWar_eq : FACTION_FLAG_AT_WAR = BitVec.twoPow 32 1 := by decide

theorem hidden_eq : FACTION_FLAG_HIDDEN = BitVec.twoPow 32 2 := by decide

theorem invisible_eq : FACTION_FLAG_INVISIBLE_FORCED = BitVec.twoPow 32 3 := by decide

theorem peace_eq : FACTION_FLAG_PEACE_FORCED = BitVec.twoPow 32 4 := by decide

theorem inactive_eq : FACTION_FLAG_INACTIVE = BitVec.twoPow 32 5 := by decide

def locked (flags : FactionFlags) : Bool := Flags.bit flags 3 || Flags.bit flags 2

section

variable (flags : FactionFlags)

@[simp] theorem has_visible : Flags.has flags FACTION_FLAG_VISIBLE = Flags.bit flags 0 := by
  rw [visible_eq, Flags.has_twoPow flags (by decide)]

@[simp] theorem has_atWar : Flags.has flags FACTION_FLAG_AT_WAR = Flags.bit flags 1 := by
  rw [atWar_eq, Flags.has_twoPow flags (by decide)]

@[simp] theorem has_peace : Flags.has flags FACTION_FLAG_PEACE_FORCED = Flags.bit flags 4 := by
  rw [peace_eq, Flags.has_twoPow flags (by decide)]

@[simp] theorem has_inactive : Flags.has flags FACTION_FLAG_INACTIVE = Flags.bit flags 5 := by
  rw [inactive_eq, Flags.has_twoPow flags (by decide)]

@[simp] theorem has_locked : Flags.has flags (FACTION_FLAG_INVISIBLE_FORCED ||| FACTION_FLAG_HIDDEN) = locked flags := by
  rw [Flags.has_or, invisible_eq, hidden_eq, Flags.has_twoPow flags (by decide), Flags.has_twoPow flags (by decide), locked]

end

namespace FactionState

variable (faction : FactionState)

-- War cannot be declared: peace is forced, and the faction is not hated.
def peaceful : Bool := faction.has FACTION_FLAG_PEACE_FORCED && decide (reputationToRank faction.standing > REP_HATED)

theorem peaceful_congr {faction other : FactionState} (hflags : Flags.bit faction.flags 4 = Flags.bit other.flags 4)
    (hstanding : faction.standing = other.standing) : faction.peaceful = other.peaceful := by
  unfold peaceful has
  rw [has_peace, has_peace, hflags, hstanding]

theorem bit_setVisible (j : Nat) :
    Flags.bit faction.setVisible.flags j =
      if j = 0 then Flags.bit faction.flags 0 || !locked faction.flags else Flags.bit faction.flags j := by
  unfold setVisible has
  rw [has_locked, has_visible, visible_eq]
  by_cases hj : j = 0
  · subst hj
    cases locked faction.flags <;> cases hvisible : Flags.bit faction.flags 0 <;> simp [hvisible, Flags.bit_set]
  · rw [if_neg hj]
    cases locked faction.flags <;> cases Flags.bit faction.flags 0 <;> simp [hj, Flags.bit_set]

theorem bit_setAtWar (on : Bool) (j : Nat) :
    Flags.bit (faction.setAtWar on).1.flags j =
      if j = 1 then on && (Flags.bit faction.flags 1 || !faction.peaceful) else Flags.bit faction.flags j := by
  unfold setAtWar
  rw [Bool.and_assoc, ← peaceful, has, has_atWar, atWar_eq]
  by_cases hj : j = 1
  · subst hj
    cases on <;> cases hwar : Flags.bit faction.flags 1 <;> cases faction.peaceful <;>
      simp [hwar, Flags.bit_set, Flags.bit_clear]
  · rw [if_neg hj]
    cases on <;> cases Flags.bit faction.flags 1 <;> cases faction.peaceful <;> simp [hj, Flags.bit_set, Flags.bit_clear]

theorem bit_setInactive (on : Bool) (j : Nat) :
    Flags.bit (faction.setInactive on).flags j =
      if j = 5 then on && (Flags.bit faction.flags 5 || !locked faction.flags && Flags.bit faction.flags 0)
      else Flags.bit faction.flags j := by
  unfold setInactive has
  rw [has_locked, has_visible, has_inactive, inactive_eq]
  by_cases hj : j = 5
  · subst hj
    cases on <;> cases hinactive : Flags.bit faction.flags 5 <;> cases locked faction.flags <;>
      cases Flags.bit faction.flags 0 <;> simp [hinactive, Flags.bit_set, Flags.bit_clear]
  · rw [if_neg hj]
    cases on <;> cases Flags.bit faction.flags 5 <;> cases locked faction.flags <;>
      cases Flags.bit faction.flags 0 <;> simp [hj, Flags.bit_set, Flags.bit_clear]

@[simp] theorem standing_setVisible : faction.setVisible.standing = faction.standing := by
  unfold setVisible
  split
  · rfl
  · split <;> rfl

@[simp] theorem standing_setAtWar (on : Bool) : (faction.setAtWar on).1.standing = faction.standing := by
  unfold setAtWar
  split
  · rfl
  · split
    · rfl
    · split <;> rfl

@[simp] theorem standing_setInactive (on : Bool) : (faction.setInactive on).standing = faction.standing := by
  unfold setInactive
  split
  · rfl
  · split
    · rfl
    · split <;> rfl

end FactionState

-- What the setters leave of the default flags
structure Within (default flags : FactionFlags) : Prop where
  kept : ∀ j, j ≠ 0 → j ≠ 1 → j ≠ 5 → Flags.bit flags j = Flags.bit default j
  visible : Flags.bit default 0 = true → Flags.bit flags 0 = true
  shown : Flags.bit flags 0 = true → Flags.bit default 0 = true ∨ locked default = false
  inactive : Flags.bit flags 5 = true →
    Flags.bit default 5 = true ∨ locked default = false ∧ Flags.bit flags 0 = true

theorem Within.refl (default : FactionFlags) : Within default default :=
  ⟨fun _ _ _ _ => rfl, id, .inl, .inl⟩

section

variable {default flags : FactionFlags}

theorem Within.locked (h : Within default flags) : locked flags = locked default := by
  unfold Reputation.locked
  rw [h.kept 3 (by decide) (by decide) (by decide), h.kept 2 (by decide) (by decide) (by decide)]

-- What is visible can be made visible again, and inactive again what is inactive.

theorem Within.shown_eq (h : Within default flags) :
    (Flags.bit default 0 || Flags.bit flags 0 && !Reputation.locked default) = Flags.bit flags 0 := by
  cases hshown : Flags.bit flags 0 with
  | false =>
    cases hdefault : Flags.bit default 0 with
    | false => rfl
    | true => exact absurd (h.visible hdefault) (Bool.eq_false_iff.mp hshown)
  | true => rcases h.shown hshown with hdefault | hunlocked <;> simp [*]

theorem Within.inactive_eq (h : Within default flags) :
    (Flags.bit default 5 || Flags.bit flags 5 && (!Reputation.locked default && (Flags.bit default 0 || Flags.bit flags 0))) =
      (Flags.bit default 5 || Flags.bit flags 5) := by
  cases hinactive : Flags.bit flags 5 with
  | false => rfl
  | true => rcases h.inactive hinactive with hdefault | ⟨hunlocked, hshown⟩ <;> simp [*]

end

-- A state that setters have changed is saved.
structure Moved (before after : FactionState) : Prop where
  id : after.id = before.id
  saved : after = before ∨ after.needSave = true
  within : ∀ default, Within default before.flags → Within default after.flags

namespace Moved

variable {first second third : FactionState}

theorem refl (faction : FactionState) : Moved faction faction := ⟨rfl, .inl rfl, fun _ h => h⟩

theorem trans (h : Moved first second) (h' : Moved second third) : Moved first third := by
  refine ⟨h'.id.trans h.id, ?_, fun default hwithin => h'.within default (h.within default hwithin)⟩
  rcases h'.saved with rfl | hsaved
  · exact h.saved
  · exact .inr hsaved

theorem needSave (h : Moved first second) (hfirst : first.needSave = true) : second.needSave = true := by
  rcases h.saved with rfl | hsaved
  · exact hfirst
  · exact hsaved

end Moved

namespace FactionState

variable (faction : FactionState)

theorem moved_setStanding (standing : Int) : Moved faction { faction with standing := standing, needSave := true } :=
  ⟨rfl, .inr rfl, fun _ h => h⟩

theorem moved_setVisible : Moved faction faction.setVisible := by
  refine ⟨?_, ?_, fun default h => ?_⟩
  · unfold setVisible
    split
    · rfl
    · split <;> rfl
  · unfold setVisible
    split
    · exact .inl rfl
    · split
      · exact .inl rfl
      · exact .inr rfl
  · refine ⟨fun j hvisible hwar hinactive => ?_, fun hdefault => ?_, fun hshown => ?_, fun hinactive => ?_⟩
    · rw [bit_setVisible, if_neg hvisible, h.kept j hvisible hwar hinactive]
    · rw [bit_setVisible, if_pos rfl, h.visible hdefault, Bool.true_or]
    · rw [bit_setVisible, if_pos rfl, Bool.or_eq_true, Bool.not_eq_true', h.locked] at hshown
      exact hshown.elim h.shown .inr
    · rw [bit_setVisible, if_neg (by decide)] at hinactive
      refine (h.inactive hinactive).imp_right fun hunlocked => ⟨hunlocked.1, ?_⟩
      rw [bit_setVisible, if_pos rfl, hunlocked.2, Bool.true_or]

theorem moved_setAtWar (on : Bool) : Moved faction (faction.setAtWar on).1 := by
  refine ⟨?_, ?_, fun default h => ?_⟩
  · unfold setAtWar
    split
    · rfl
    · split
      · rfl
      · split <;> rfl
  · unfold setAtWar
    split
    · exact .inl rfl
    · split
      · exact .inl rfl
      · split <;> exact .inr rfl
  · have hbit (j : Nat) (hj : j ≠ 1) : Flags.bit (faction.setAtWar on).1.flags j = Flags.bit faction.flags j := by
      rw [bit_setAtWar, if_neg hj]
    refine ⟨fun j hvisible hwar hinactive => ?_, ?_, ?_, ?_⟩
    · rw [hbit j hwar, h.kept j hvisible hwar hinactive]
    · rw [hbit 0 (by decide)]
      exact h.visible
    · rw [hbit 0 (by decide)]
      exact h.shown
    · rw [hbit 5 (by decide), hbit 0 (by decide)]
      exact h.inactive

theorem moved_setAtWarById (on : Bool) : Moved faction (faction.setAtWarById on).1 := by
  unfold setAtWarById
  split
  · exact .refl faction
  · exact faction.moved_setAtWar on

theorem moved_setInactive (on : Bool) : Moved faction (faction.setInactive on) := by
  refine ⟨?_, ?_, fun default h => ?_⟩
  · unfold setInactive
    split
    · rfl
    · split
      · rfl
      · split <;> rfl
  · unfold setInactive
    split
    · exact .inl rfl
    · split
      · exact .inl rfl
      · split <;> exact .inr rfl
  · have hbit (j : Nat) (hj : j ≠ 5) : Flags.bit (faction.setInactive on).flags j = Flags.bit faction.flags j := by
      rw [bit_setInactive, if_neg hj]
    refine ⟨fun j hvisible hwar hinactive => ?_, ?_, ?_, fun hinactive => ?_⟩
    · rw [hbit j hinactive, h.kept j hvisible hwar hinactive]
    · rw [hbit 0 (by decide)]
      exact h.visible
    · rw [hbit 0 (by decide)]
      exact h.shown
    · rw [bit_setInactive, if_pos rfl, Bool.and_eq_true, Bool.or_eq_true, Bool.and_eq_true, Bool.not_eq_true', h.locked]
        at hinactive
      rw [hbit 0 (by decide)]
      exact hinactive.2.elim h.inactive .inr

theorem moved_setOne (t : Tables) (e : FactionEntry) (hook : Int → Int) (standing : Int) (incremental noBase : Bool) :
    Moved faction (faction.setOne t e hook standing incremental noBase).1 := by
  unfold setOne
  dsimp only
  generalize clamp _ = reached
  have hvisible (standing : Int) : Moved faction (setVisible { faction with standing := standing, needSave := true }) :=
    (faction.moved_setStanding standing).trans (moved_setVisible _)
  split
  · split
    · exact (hvisible _).trans (moved_setAtWar _ _)
    · split
      · exact (hvisible _).trans (moved_setAtWarById _ _)
      · exact hvisible _
  · exact hvisible _

section

variable (row : Row)

theorem moved_restoreShown : Moved { faction with standing := row.standing } (faction.restoreShown row) := by
  have hvisible : Moved { faction with standing := row.standing }
      (if Flags.has row.flags FACTION_FLAG_VISIBLE then setVisible { faction with standing := row.standing }
        else { faction with standing := row.standing }) := by
    split
    · exact moved_setVisible _
    · exact .refl _
  unfold restoreShown
  dsimp only
  split
  · exact hvisible.trans (moved_setInactive _ true)
  · exact hvisible

theorem moved_restoreAtWar : Moved faction (faction.restoreAtWar row) := by
  unfold restoreAtWar
  split
  · exact faction.moved_setAtWar true
  · split
    · exact faction.moved_setAtWar false
    · exact .refl _

@[simp] theorem standing_restoreShown : (faction.restoreShown row).standing = row.standing := by
  unfold restoreShown
  split <;> split <;> simp

@[simp] theorem standing_restoreAtWar : (faction.restoreAtWar row).standing = faction.standing := by
  unfold restoreAtWar
  split
  · simp
  · split <;> simp

theorem bit_restoreShown (j : Nat) : Flags.bit (faction.restoreShown row).flags j =
      if j = 0 then Flags.bit faction.flags 0 || Flags.bit row.flags 0 && !locked faction.flags
      else if j = 5 then Flags.bit faction.flags 5 || Flags.bit row.flags 5 &&
        (!locked faction.flags && (Flags.bit faction.flags 0 || Flags.bit row.flags 0))
      else Flags.bit faction.flags j := by
  have hlocked (f : FactionState) : locked f.setVisible.flags = locked f.flags := by
    simp [locked, bit_setVisible]
  unfold restoreShown
  rw [has_visible, has_inactive]
  by_cases hfive : j = 5
  · subst hfive
    cases Flags.bit row.flags 5 with
    | false => cases Flags.bit row.flags 0 <;> simp [bit_setVisible]
    | true =>
      cases Flags.bit row.flags 0 with
      | false => simp [bit_setInactive]
      | true =>
        simp only [if_true, bit_setInactive, bit_setVisible, hlocked]
        cases locked faction.flags <;> simp
  · by_cases hzero : j = 0
    · subst hzero
      cases Flags.bit row.flags 0 <;> cases Flags.bit row.flags 5 <;> simp [bit_setVisible, bit_setInactive]
    · cases Flags.bit row.flags 0 <;> cases Flags.bit row.flags 5 <;>
        simp [hfive, hzero, bit_setVisible, bit_setInactive]

theorem bit_restoreAtWar (j : Nat) : Flags.bit (faction.restoreAtWar row).flags j =
      if j = 1 then
        if Flags.bit row.flags 1 then Flags.bit faction.flags 1 || !faction.peaceful
        else !Flags.bit faction.flags 0 && Flags.bit faction.flags 1
      else Flags.bit faction.flags j := by
  unfold restoreAtWar has
  rw [has_atWar, has_visible]
  by_cases hj : j = 1
  · subst hj
    cases Flags.bit row.flags 1 <;> cases hvisible : Flags.bit faction.flags 0 <;> simp [bit_setAtWar]
  · cases Flags.bit row.flags 1 <;> cases hvisible : Flags.bit faction.flags 0 <;> simp [bit_setAtWar, hj]

end

end FactionState

end TurtleWow.Reputation

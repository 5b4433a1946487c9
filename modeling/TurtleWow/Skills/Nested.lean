import Mathlib.Order.MinMax
import TurtleWow.Skills.Placed

namespace TurtleWow.Skills

open Function

-- The rule for the nested calls: what SetSkill keeps up to its calls of spells, and what
-- these change besides, is kept by every nesting of SetSkill and the spells.

namespace Player

-- `ok` is what every SetSkill call satisfies, of its value and maximum.
structure Closed (t : Tables) (P : Player → Prop) (ok : Nat → Nat → Prop) : Prop where
  fields : ∀ p id currVal maxVal step, P p → ok currVal maxVal →
    P (setSkillFields t p (u16 id) (u16 currVal) (u16 maxVal) (u16 step)).1
  bonus : ∀ p id diff permanent, P p → P (p.modifySkillBonus id diff permanent)
  calls : ∀ p calls, P p → P { p with spellCalls := calls }
  forgotten : ∀ p forgotten, P p → P { p with forgottenSkills := forgotten }
  zero : ok 0 0
  language : ok 300 300
  mono : ok 1 1
  level : ∀ p skill category rcInfo, P p → ok (newSkillValue t p skill category rcInfo) p.getSkillMaxForLevel
  learn : ∀ p spellId node, P p → t.spellLearnSkill spellId = some node →
    ok (max node.value (p.getSkillValuePure node.skill))
      (max (if node.maxvalue = 0 then p.getSkillMaxForLevel else node.maxvalue) (p.getSkillMaxPure node.skill))
  lower : ∀ p spellId node, P p → t.spellLearnSkill spellId = some node →
    ok (min node.value (p.getSkillValuePure node.skill))
      (min (if node.maxvalue = 0 then p.getSkillMaxForLevel else node.maxvalue) (p.getSkillMaxPure node.skill))

variable {t : Tables} {P : Player → Prop} {ok : Nat → Nat → Prop} {p : Player}

theorem foldl_keeps {α : Type*} {f : Player → α → Player} (hf : ∀ p a, P p → P (f p a)) (list : List α) (h : P p) :
    P (list.foldl f p) := by
  induction list generalizing p with
  | nil => exact h
  | cons a rest ih => exact ih (hf p a h)

theorem searchPrevSkill_mem {chain prevSpell : Nat} {node : SpellLearnSkillNode}
    (h : searchPrevSkill t chain prevSpell = some node) : ∃ spellId, t.spellLearnSkill spellId = some node := by
  induction chain generalizing prevSpell with
  | zero => cases h
  | succ chain ih =>
    unfold searchPrevSkill at h
    split at h
    · cases h
    · dsimp only at h
      split at h
      · next found hfound =>
          cases h
          exact ⟨_, hfound⟩
      · exact ih h

namespace Closed

section

variable {set : Player → Nat → Nat → Nat → Nat → Player}

section

variable (h : Closed t P ok)

include h

theorem applyBonuses (hp : P p) (spellId : Nat) (apply : Bool) : P (applyBonuses t p spellId apply) :=
  foldl_keeps (fun p bonus hp => by
    by_cases hhas : p.hasSkill bonus.1 = true
    · rw [if_pos hhas]
      exact h.bonus _ _ _ _ hp
    · rw [if_neg hhas]
      exact hp) _ hp

section

variable (hset : ∀ p id currVal maxVal step, P p → ok currVal maxVal → P (set p id currVal maxVal step))

include hset

theorem updateLearnedSkill (hp : P p) {spellId : Nat} {node : SpellLearnSkillNode}
    (hnode : t.spellLearnSkill spellId = some node) (chain : Nat) (apply : Bool) :
    P (updateLearnedSkill t set chain p spellId apply node) := by
  unfold Player.updateLearnedSkill
  cases apply with
  | true => exact hset _ _ _ _ _ hp (h.learn p spellId node hp hnode)
  | false =>
    rw [if_neg Bool.false_ne_true]
    dsimp only
    split
    · exact hset _ _ _ _ _ hp h.zero
    · split
      · exact hset _ _ _ _ _ hp h.zero
      · next prev hprev =>
          obtain ⟨other, hother⟩ : ∃ other, t.spellLearnSkill other = some prev := by
            rcases Option.or_eq_some_iff.mp hprev with hprev | ⟨-, hprev⟩
            · exact ⟨_, hprev⟩
            · exact searchPrevSkill_mem hprev
          exact hset _ _ _ _ _ hp (h.lower p other prev hp hother)

theorem learnAbilitySkill (hp : P p) (ability : SkillLineAbility) (category : Nat) :
    P (learnAbilitySkill t set p ability category) := by
  unfold Player.learnAbilitySkill
  dsimp only
  split
  · exact hp
  · split
    · exact hp
    · next rcInfo _ =>
        split
        · split
          · exact hset _ _ _ _ _ hp h.language
          · exact hset _ _ _ _ _ hp (h.level p _ _ _ hp)
          · exact hset _ _ _ _ _ hp h.mono
          · exact hp
        · exact hp

theorem forgetAbilitySkill (hp : P p) (ability : SkillLineAbility) (category : Nat) (hardReset : Bool) :
    P (forgetAbilitySkill t set p ability category hardReset) := by
  have hremembered : P (p.rememberSkill (u16 ability.skillId) category) := by
    unfold rememberSkill
    split
    · exact h.forgotten _ _ hp
    · exact hp
  unfold Player.forgetAbilitySkill
  split
  · split
    · exact hp
    · exact hset _ _ _ _ _ hremembered h.zero
  · exact hp

theorem updateSpellTrainedSkills (hp : P p) (chain : Nat) (trained : Trained) :
    P (updateSpellTrainedSkills t set chain p trained) := by
  have hbonuses := h.applyBonuses hp trained.spellId trained.apply
  unfold Player.updateSpellTrainedSkills
  generalize Player.applyBonuses t p trained.spellId trained.apply = p at hbonuses ⊢
  split
  · next node hnode => exact h.updateLearnedSkill hset hbonuses hnode chain trained.apply
  · refine foldl_keeps (fun p ability hp => ?_) _ hbonuses
    split
    · exact hp
    · split
      · exact h.learnAbilitySkill hset hp ability _
      · exact h.forgetAbilitySkill hset hp ability _ _

theorem spellCall (hp : P p) (chain : Nat) : P (spellCall t set chain p) := by
  unfold Player.spellCall
  split
  · exact hp
  · next trained rest _ =>
      exact foldl_keeps (P := P) (f := Player.updateSpellTrainedSkills t set chain)
        (fun p trained hp => h.updateSpellTrainedSkills hset hp chain trained) trained (h.calls p rest hp)

theorem updateSkillTrainedSpells (hp : P p) (chain id currVal : Nat) :
    P (updateSkillTrainedSpells t set chain p id currVal) := by
  refine foldl_keeps (fun p ability hp => ?_) _ hp
  split
  · exact h.spellCall hset hp chain
  · split
    · exact hp
    · split
      · exact hp
      · split
        · exact hp
        · exact h.spellCall hset hp chain

end

end

end

theorem setSkill (h : Closed t P ok) (depth : Nat) :
    ∀ p id currVal maxVal step, P p → ok currVal maxVal → P (setSkill t depth p id currVal maxVal step) := by
  induction depth with
  | zero => exact fun p _ _ _ _ hp _ => hp
  | succ depth ih =>
    intro p id currVal maxVal step hp hok
    have hfields := h.fields p id currVal maxVal step hp hok
    unfold Player.setSkill
    split
    · next p' heq =>
        rw [heq] at hfields
        exact hfields
    · next p' value heq =>
        rw [heq] at hfields
        exact h.updateSkillTrainedSpells ih hfields depth _ _

end Closed

end Player

open Run

namespace Player

variable {p : Player} {t : Tables} {ok : Nat → Nat → Nat → Prop} {id other pos : Nat} {status found : SkillStatusData}

-- A property of every live skill with its value and its maximum
def Valued (ok : Nat → Nat → Nat → Prop) (p : Player) : Prop :=
  ∀ id status, p.live id = some status → ok id (p.skillValue status.pos).1 (p.skillValue status.pos).2

section

variable (h : Valued ok p)

include h

theorem Valued.congr {q : Player} (hstatus : q.skillStatus = p.skillStatus)
    (hvalue : q.skillValue = p.skillValue) : Valued ok q := by
  intro id status hlive
  rw [hvalue]
  exact h id status ((live_congr hstatus).symm.trans hlive)

theorem Valued.modifySkillBonus (id : Nat) (diff : Int) (permanent : Bool) :
    Valued ok (p.modifySkillBonus id diff permanent) := by
  obtain ⟨bonus, hbonus⟩ := modifySkillBonus_frame p id diff permanent
  rw [hbonus]
  exact h.congr rfl rfl

theorem Valued.applyModSkill (id : Nat) (apply : Bool) : Valued ok (p.applyModSkill id apply) := by
  obtain ⟨bonus, hbonus⟩ := applyModSkill_frame p id apply
  rw [hbonus]
  exact h.congr rfl rfl

theorem Valued.setValue (hplaced : Placed p) (hlive : p.live id = some status) {value max : Nat}
    (hok : ok id (u16 value) max) : Valued ok (p.setValue id status value max) := by
  intro other found hfound
  rw [live_insert (p := p) (q := p.setValue id status value max) rfl,
    if_neg (markChanged_live (live_eq_some.mp hlive).2)] at hfound
  change ok other (Function.update p.skillValue status.pos (u16 value, max) found.pos).1
    (Function.update p.skillValue status.pos (u16 value, max) found.pos).2
  split at hfound
  · next hother =>
      cases hfound
      rw [markChanged_pos, update_self, hother]
      exact hok
  · next hother =>
      rw [update_of_ne (hplaced.pos_ne hlive hfound hother)]
      exact h other found hfound

theorem Valued.remove (hplaced : Placed p) (hlive : p.live id = some status) :
    Valued ok ((p.clearFields status.pos).removeStatus id status) := by
  intro other found hfound
  rw [live_removeStatus] at hfound
  split at hfound
  · cases hfound
  · next hother =>
      change ok other (Function.update p.skillValue status.pos (0, 0) found.pos).1
        (Function.update p.skillValue status.pos (0, 0) found.pos).2
      rw [update_of_ne (hplaced.pos_ne hlive hfound hother)]
      exact h other found hfound

theorem Valued.add (hplaced : Placed p) (hempty : p.skillIndex pos = (0, 0)) {currVal maxVal : Nat}
    (hok : ok id currVal maxVal) (step : Nat) : Valued ok (p.addFields id pos currVal maxVal step) := by
  intro other found hfound
  change ok other (Function.update p.skillValue pos (currVal, maxVal) found.pos).1
    (Function.update p.skillValue pos (currVal, maxVal) found.pos).2
  rw [live_addFields] at hfound
  split at hfound
  · next hother =>
      cases hfound
      rw [update_self, hother]
      exact hok
  · have hne : found.pos ≠ pos := by
      intro heq
      obtain ⟨hzero, -, hindex⟩ := hplaced.live other found hfound
      rw [heq, hempty] at hindex
      exact hzero hindex.symm
    rw [update_of_ne hne]
    exact h other found hfound

theorem Valued.setSkillFields (hplaced : Placed p) (t : Tables) (id : Nat) {currVal maxVal : Nat}
    (hlt : currVal < 2 ^ 16) (hok : currVal ≠ 0 → ok id currVal maxVal) (step : Nat) :
    Valued ok (setSkillFields t p id currVal maxVal step).1 := by
  unfold Player.setSkillFields
  split
  · exact h
  · cases hlive : p.live id with
    | some status =>
      dsimp only
      split
      · next hvalue =>
          have hok' : ok id (u16 currVal) maxVal := by
            rw [u16, Nat.mod_eq_of_lt hlt]
            exact hok hvalue
          split
          · have hset : Valued ok { p with skillIndex := Function.update p.skillIndex status.pos (id, step) } :=
              h.congr rfl rfl
            exact hset.setValue (hplaced.setStep hlive step) hlive hok'
          · exact h.setValue hplaced hlive hok'
      · obtain ⟨bonus, hbonus⟩ := applyModSkill_frame p id false
        have happlied := h.applyModSkill id false
        have hplaced' := hplaced.applyModSkill id false
        rw [hbonus] at happlied hplaced' ⊢
        exact happlied.remove hplaced' hlive
    | none =>
      dsimp only
      split
      · next hvalue =>
          split
          · exact h
          · next i hi =>
              split
              · exact h
              · have hempty : p.skillIndex i = (0, 0) := by simpa using List.find?_some hi
                exact (h.add hplaced hempty (hok hvalue) step).applyModSkill id true
      · exact h

end

def Positive (_ value max : Nat) : Prop := 0 < value ∧ value < 2 ^ 16 ∧ max < 2 ^ 16

def Capped (_ value max : Nat) : Prop := value ≤ max ∧ max < 2 ^ 16

theorem u16_lt (n : Nat) : u16 n < 2 ^ 16 := Nat.mod_lt _ (by decide)

theorem u16_eq {n : Nat} (h : n < 2 ^ 16) : u16 n = n := Nat.mod_eq_of_lt h

theorem closed_placed (t : Tables) : Closed t Placed fun _ _ => True where
  fields _ _ _ _ _ h _ := h.setSkillFields t _ _ _ _
  bonus _ _ _ _ h := h.modifySkillBonus _ _ _
  calls _ _ h := h.congr rfl rfl rfl rfl fun _ _ => rfl
  forgotten _ _ h := h.congr rfl rfl rfl rfl fun _ _ => rfl
  zero := trivial
  language := trivial
  mono := trivial
  level _ _ _ _ _ := trivial
  learn _ _ _ _ _ := trivial
  lower _ _ _ _ _ := trivial

theorem closed_positive (t : Tables) : Closed t (fun p => Placed p ∧ Valued Positive p) fun _ _ => True where
  fields _ _ _ _ _ h _ :=
    ⟨h.1.setSkillFields t _ _ _ _,
      h.2.setSkillFields h.1 t _ (u16_lt _) (fun hne => ⟨Nat.pos_of_ne_zero hne, u16_lt _, u16_lt _⟩) _⟩
  bonus _ _ _ _ h := ⟨h.1.modifySkillBonus _ _ _, h.2.modifySkillBonus _ _ _⟩
  calls _ _ h := ⟨h.1.congr rfl rfl rfl rfl fun _ _ => rfl, h.2.congr rfl rfl⟩
  forgotten _ _ h := ⟨h.1.congr rfl rfl rfl rfl fun _ _ => rfl, h.2.congr rfl rfl⟩
  zero := trivial
  language := trivial
  mono := trivial
  level _ _ _ _ _ := trivial
  learn _ _ _ _ _ := trivial
  lower _ _ _ _ _ := trivial

-- What a spell teaches is not above its maximum, which is 5 at least where it depends on
-- the level.
def Sane (t : Tables) : Prop :=
  ∀ spellId node, t.spellLearnSkill spellId = some node →
    node.maxvalue < 2 ^ 16 ∧ node.value ≤ if node.maxvalue = 0 then 5 else node.maxvalue

theorem getSkillMaxForLevel_bounds (p : Player) : 5 ≤ p.getSkillMaxForLevel ∧ p.getSkillMaxForLevel < 2 ^ 16 := by
  obtain ⟨hpos, hle⟩ := p.level.2
  rw [getSkillMaxForLevel, u16, Nat.mod_eq_of_lt (by omega)]
  omega

theorem newSkillValue_le (t : Tables) (p : Player) (skill category : Nat) (rcInfo : SkillRaceClassInfo) :
    newSkillValue t p skill category rcInfo ≤ p.getSkillMaxForLevel := by
  have hbounds := getSkillMaxForLevel_bounds p
  unfold newSkillValue
  generalize hvalue : (if (t.alwaysMaxSkillForLevel || rcInfo.flags &&& skillFlagAlwaysMaxValue ≠ 0) = true then
    p.getSkillMaxForLevel else 1) = value
  have hle : value ≤ p.getSkillMaxForLevel := by
    rw [← hvalue]
    split
    · exact le_rfl
    · omega
  split
  · split
    · exact hle
    · split
      · assumption
      · exact hle
  · exact hle

theorem Valued.pure_le (h : Valued Capped p) (id : Nat) :
    p.getSkillValuePure id ≤ p.getSkillMaxPure id ∧ p.getSkillMaxPure id < 2 ^ 16 := by
  unfold getSkillValuePure getSkillMaxPure
  split
  · exact ⟨le_rfl, by decide⟩
  · cases hlive : p.live id with
    | none => exact ⟨le_rfl, Nat.two_pow_pos 16⟩
    | some status => exact h id status hlive

theorem node_bounds (hsane : Sane t) {spellId : Nat} {node : SpellLearnSkillNode}
    (hnode : t.spellLearnSkill spellId = some node) (p : Player) :
    node.value ≤ (if node.maxvalue = 0 then p.getSkillMaxForLevel else node.maxvalue) ∧
      (if node.maxvalue = 0 then p.getSkillMaxForLevel else node.maxvalue) < 2 ^ 16 := by
  obtain ⟨hmax, hvalue⟩ := hsane spellId node hnode
  have hbounds := getSkillMaxForLevel_bounds p
  split at hvalue
  · next hzero =>
      rw [if_pos hzero]
      omega
  · next hzero =>
      rw [if_neg hzero]
      omega

theorem closed_capped (hsane : Sane t) :
    Closed t (fun p => Placed p ∧ Valued Capped p) fun currVal maxVal => currVal ≤ maxVal ∧ maxVal < 2 ^ 16 where
  fields p id currVal maxVal step h hok := by
    refine ⟨h.1.setSkillFields t _ _ _ _, h.2.setSkillFields h.1 t _ (u16_lt _) (fun _ => ⟨?_, u16_lt _⟩) _⟩
    rw [u16_eq hok.2, u16_eq (hok.1.trans_lt hok.2)]
    exact hok.1
  bonus _ _ _ _ h := ⟨h.1.modifySkillBonus _ _ _, h.2.modifySkillBonus _ _ _⟩
  calls _ _ h := ⟨h.1.congr rfl rfl rfl rfl fun _ _ => rfl, h.2.congr rfl rfl⟩
  forgotten _ _ h := ⟨h.1.congr rfl rfl rfl rfl fun _ _ => rfl, h.2.congr rfl rfl⟩
  zero := ⟨le_rfl, by decide⟩
  language := ⟨le_rfl, by decide⟩
  mono := ⟨le_rfl, by decide⟩
  level p skill category rcInfo _ := ⟨newSkillValue_le t p skill category rcInfo, (getSkillMaxForLevel_bounds p).2⟩
  learn p spellId node h hnode := by
    obtain ⟨hnodele, hnodelt⟩ := node_bounds hsane hnode p
    obtain ⟨hpure, hpurelt⟩ := h.2.pure_le node.skill
    exact ⟨max_le_max hnodele hpure, max_lt hnodelt hpurelt⟩
  lower p spellId node h hnode := by
    obtain ⟨hnodele, hnodelt⟩ := node_bounds hsane hnode p
    obtain ⟨hpure, -⟩ := h.2.pure_le node.skill
    exact ⟨min_le_min hnodele hpure, (min_le_left _ _).trans_lt hnodelt⟩

end Player

end TurtleWow.Skills

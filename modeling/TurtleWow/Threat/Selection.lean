import TurtleWow.Threat.Bookkeeping
import Mathlib.Tactic.Linarith

namespace TurtleWow.Threat

open List

-- Selection of the victim. The scan stops at the first reference it can judge,
-- so it relies on the order of the container, and on having met a current
-- victim that has become unusable.

namespace ThreatManager

variable (m : ThreatManager)

def usable (view : View) (ref : Nat) : Prop :=
  view.validAttackTarget (m.targetOf ref) = true ∧ view.lowPriority (m.targetOf ref) = false

structure SelectsRight (view : View) : Prop where
  keeps : ∀ victim, m.currentVictim = some victim → (m.getHostileTarget view).currentVictim = some victim →
    ∀ ref ∈ m.onlineList, m.usable view ref → ¬13 / 10 * m.threatOf victim < m.threatOf ref ∧
      ¬(11 / 10 * m.threatOf victim < m.threatOf ref ∧ view.reachesInMelee (m.targetOf ref) = true)
  picks : (∀ victim, m.currentVictim = some victim → ¬m.usable view victim) → (∃ ref ∈ m.onlineList, m.usable view ref) →
    ∃ ref ∈ m.onlineList, (m.getHostileTarget view).currentVictim = some ref ∧ m.usable view ref ∧
      ∀ other ∈ m.onlineList, m.usable view other → m.threatOf other ≤ m.threatOf ref

def Ordered : Prop :=
  m.onlineList.Pairwise fun ref other => m.currentVictim = some other ∨ m.threatOf other ≤ m.threatOf ref

-- The first usable reference before a current victim that is not.
def firstBefore (view : View) (victim : Nat) : Option Nat :=
  (m.sort.onlineList.takeWhile fun ref => ref ≠ victim).find? fun ref => !m.passesOver view false ref

def Judges (view : View) : Prop :=
  (m.dirty = true ∨ m.Ordered) ∧ ∀ victim, m.currentVictim = some victim → m.passesOver view false victim = true →
    ∀ ref, m.firstBefore view victim = some ref → m.outweighs view ref victim = true

variable {m : ThreatManager} {view : View}

theorem usable_iff {ref : Nat} : m.usable view ref ↔ m.passesOver view false ref = false := by
  simp [usable, passesOver]

theorem outweighs_iff {ref victim : Nat} : m.outweighs view ref victim = true ↔
    13 / 10 * m.threatOf victim < m.threatOf ref ∨
      (11 / 10 * m.threatOf victim < m.threatOf ref ∧ view.reachesInMelee (m.targetOf ref) = true) := by
  simp [outweighs]

theorem not_outweighs {ref victim : Nat} (hvictim : 0 ≤ m.threatOf victim)
    (hle : m.threatOf ref ≤ 11 / 10 * m.threatOf victim) : m.outweighs view ref victim = false := by
  rw [← Bool.not_eq_true, outweighs_iff]
  rintro (hmore | ⟨hmore, _⟩)
  · linarith
  · linarith

section

variable {ref : Nat} (rest : List Nat) (harea : view.outOfThreatArea (m.targetOf ref) = false)

include harea

theorem attempt_over (hover : m.passesOver view false ref = true) (currentVictim : Option Nat) :
    m.attempt view false (ref :: rest) currentVictim =
      m.attempt view false rest (if currentVictim = some ref then none else currentVictim) := by
  rw [attempt.eq_def]
  simp only [harea, hover, if_neg Bool.false_ne_true, if_pos]

theorem attempt_any (hover : m.passesOver view false ref = false) :
    m.attempt view false (ref :: rest) none = .found ref := by
  rw [attempt, if_neg (by simp [harea]), if_neg (by simp [hover])]

theorem attempt_better (hover : m.passesOver view false ref = false) {victim : Nat}
    (hkeep : ¬(victim = ref ∨ m.threatOf ref ≤ 11 / 10 * m.threatOf victim)) :
    m.attempt view false (ref :: rest) (some victim) =
      if m.outweighs view ref victim then .found ref else m.attempt view false rest (some victim) := by
  rw [attempt, if_neg (by simp [harea]), if_neg (by simp [hover])]
  simp only [if_neg hkeep]

end

-- The most hated usable reference of a list is found.
def FindsMost (m : ThreatManager) (view : View) (list : List Nat) (result : Attempt) : Prop :=
  ∃ ref ∈ list, result = .found ref ∧ m.passesOver view false ref = false ∧
    ∀ other ∈ list, m.passesOver view false other = false → m.threatOf other ≤ m.threatOf ref

theorem exists_usable_tail {ref : Nat} {rest : List Nat} (hover : m.passesOver view false ref = true)
    (husable : ∃ other ∈ ref :: rest, m.passesOver view false other = false) :
    ∃ other ∈ rest, m.passesOver view false other = false := by
  obtain ⟨other, hmem, hother⟩ := husable
  refine ⟨other, (mem_cons.mp hmem).resolve_left ?_, hother⟩
  rintro rfl
  rw [hover] at hother
  cases hother

theorem FindsMost.over {ref : Nat} {rest : List Nat} {result : Attempt} (hover : m.passesOver view false ref = true)
    (h : FindsMost m view rest result) : FindsMost m view (ref :: rest) result := by
  obtain ⟨found, hmem, hfound, hthis, hmost⟩ := h
  refine ⟨found, mem_cons_of_mem _ hmem, hfound, hthis, fun other hother hthat => ?_⟩
  rcases mem_cons.mp hother with rfl | hother
  · rw [hover] at hthat
    cases hthat
  · exact hmost other hother hthat

theorem findsMost_head {ref : Nat} {rest : List Nat} (hover : m.passesOver view false ref = false)
    (hbelow : ∀ other ∈ rest, m.passesOver view false other = true ∨ m.threatOf other ≤ m.threatOf ref) :
    FindsMost m view (ref :: rest) (.found ref) := by
  refine ⟨ref, mem_cons_self, rfl, hover, fun other hother hthat => ?_⟩
  rcases mem_cons.mp hother with rfl | hother
  · exact le_refl _
  · exact (hbelow other hother).resolve_left (by simp [hthat])

section

variable {list : List Nat} (harea : ∀ ref ∈ list, view.outOfThreatArea (m.targetOf ref) = false)

include harea

theorem attempt_none (husable : ∃ ref ∈ list, m.passesOver view false ref = false)
    (hsorted : list.Pairwise fun ref other => m.passesOver view false other = true ∨
      m.threatOf other ≤ m.threatOf ref) : FindsMost m view list (m.attempt view false list none) := by
  induction list with
  | nil => simp at husable
  | cons ref rest ih =>
    obtain ⟨hbelow, hsorted⟩ := pairwise_cons.mp hsorted
    have hhead := harea ref mem_cons_self
    have htail := fun other hother => harea other (mem_cons_of_mem _ hother)
    cases hover : m.passesOver view false ref with
    | true =>
      rw [attempt_over rest hhead hover, if_neg (by simp)]
      exact (ih htail (exists_usable_tail hover husable) hsorted).over hover
    | false =>
      rw [attempt_any rest hhead hover]
      exact findsMost_head hover hbelow

theorem attempt_unusable {victim : Nat} (hvictim : 0 ≤ m.threatOf victim)
    (hbad : m.passesOver view false victim = true) (husable : ∃ ref ∈ list, m.passesOver view false ref = false)
    (hsorted : list.Pairwise fun ref other => m.passesOver view false other = true ∨
      m.threatOf other ≤ m.threatOf ref)
    (hfirst : ∀ ref, ((list.takeWhile fun ref => ref ≠ victim).find? fun ref => !m.passesOver view false ref) =
      some ref → m.outweighs view ref victim = true) :
    FindsMost m view list (m.attempt view false list (some victim)) := by
  induction list with
  | nil => simp at husable
  | cons ref rest ih =>
    have hsorted' := pairwise_cons.mp hsorted
    have hhead := harea ref mem_cons_self
    have htail := fun other hother => harea other (mem_cons_of_mem _ hother)
    cases hover : m.passesOver view false ref with
    | true =>
      have hrest := exists_usable_tail hover husable
      rw [attempt_over rest hhead hover]
      by_cases hsame : victim = ref
      · rw [if_pos (congrArg some hsame)]
        exact (attempt_none htail hrest hsorted'.2).over hover
      · rw [if_neg fun heq => hsame (Option.some.inj heq)]
        refine (ih htail hrest hsorted'.2 fun other hother => hfirst other ?_).over hover
        simpa [Ne.symm hsame, hover] using hother
    | false =>
      have hne : ref ≠ victim := by
        rintro rfl
        rw [hover] at hbad
        cases hbad
      have hmore : m.outweighs view ref victim = true := hfirst ref (by simp [hne, hover])
      have hkeep : ¬(victim = ref ∨ m.threatOf ref ≤ 11 / 10 * m.threatOf victim) := by
        rintro (heq | hle)
        · exact hne heq.symm
        · rw [not_outweighs hvictim hle] at hmore
          cases hmore
      rw [attempt_better rest hhead hover hkeep, if_pos hmore]
      exact findsMost_head hover hsorted'.1

-- Unless it finds another one, an attempt leaves no usable reference that
-- outweighs the victim.
theorem attempt_keeps {victim : Nat} (hmem : victim ∈ list) (hvictim : 0 ≤ m.threatOf victim)
    (hsorted : list.Pairwise fun ref other => other = victim ∨ m.threatOf other ≤ m.threatOf ref)
    (hkeeps : ∀ ref, m.attempt view false list (some victim) = .found ref → ref = victim) :
    ∀ ref ∈ list, m.passesOver view false ref = false → m.outweighs view ref victim = false := by
  induction list with
  | nil => simp
  | cons ref rest ih =>
    obtain ⟨hbelow, hsorted⟩ := pairwise_cons.mp hsorted
    have hhead := harea ref mem_cons_self
    have htail := fun other hother => harea other (mem_cons_of_mem _ hother)
    have hself : m.outweighs view victim victim = false := not_outweighs hvictim (by linarith)
    have hlow : ∀ bound, m.threatOf bound ≤ 11 / 10 * m.threatOf victim →
        (∀ other ∈ rest, other = victim ∨ m.threatOf other ≤ m.threatOf bound) →
        ∀ other ∈ rest, m.outweighs view other victim = false := by
      intro bound hbound hothers other hother
      rcases hothers other hother with rfl | hle
      · exact hself
      · exact not_outweighs hvictim (hle.trans hbound)
    by_cases hsame : victim = ref
    · subst hsame
      intro other hother hthat
      rcases mem_cons.mp hother with rfl | hother
      · exact hself
      · exact hlow victim (by linarith) hbelow other hother
    have hrest : victim ∈ rest := (mem_cons.mp hmem).resolve_left hsame
    have hgo : m.attempt view false (ref :: rest) (some victim) = m.attempt view false rest (some victim) →
        ∀ other ∈ rest, m.passesOver view false other = false → m.outweighs view other victim = false :=
      fun heq => ih htail hrest hsorted fun found hfound => hkeeps found (heq.trans hfound)
    cases hover : m.passesOver view false ref with
    | true =>
      have heq := attempt_over rest hhead hover (some victim)
      rw [if_neg (fun heq => hsame (Option.some.inj heq))] at heq
      intro other hother hthat
      rcases mem_cons.mp hother with rfl | hother
      · rw [hover] at hthat
        cases hthat
      · exact hgo heq other hother hthat
    | false =>
      by_cases hle : m.threatOf ref ≤ 11 / 10 * m.threatOf victim
      · intro other hother _
        rcases mem_cons.mp hother with rfl | hother
        · exact not_outweighs hvictim hle
        · exact hlow ref hle hbelow other hother
      · have heq := attempt_better rest hhead hover (not_or.mpr ⟨hsame, hle⟩)
        cases hmore : m.outweighs view ref victim with
        | true =>
          rw [hmore, if_pos rfl] at heq
          exact absurd (hkeeps ref heq).symm hsame
        | false =>
          rw [hmore, if_neg Bool.false_ne_true] at heq
          intro other hother hthat
          rcases mem_cons.mp hother with rfl | hother
          · exact hmore
          · exact hgo heq other hother hthat

end

instance : Std.Total m.moreThreat := ⟨fun _ _ => le_total _ _⟩

instance : IsTrans Nat m.moreThreat := ⟨fun _ _ _ hone htwo => le_trans htwo hone⟩

theorem sort_eq : ∃ list, m.sort = { m with onlineList := list, dirty := false } ∧ list.Perm m.onlineList ∧
    (m.dirty = true ∨ m.Ordered →
      list.Pairwise fun ref other => m.currentVictim = some other ∨ m.threatOf other ≤ m.threatOf ref) := by
  unfold sort
  by_cases hsort : m.dirty = true ∧ 1 < m.onlineList.length
  · rw [if_pos hsort]
    refine ⟨_, rfl, perm_insertionSort _ _, fun _ => ?_⟩
    exact (pairwise_insertionSort m.moreThreat m.onlineList).imp fun hmore => .inr hmore
  · rw [if_neg hsort]
    refine ⟨m.onlineList, rfl, List.Perm.refl _, ?_⟩
    rintro (hdirty | hordered)
    · have hshort : m.onlineList.length ≤ 1 := by
        by_contra hlong
        exact hsort ⟨hdirty, by omega⟩
      generalize m.onlineList = list at hshort ⊢
      rcases list with _ | ⟨ref, _ | ⟨other, rest⟩⟩
      · exact List.Pairwise.nil
      · exact pairwise_singleton _ _
      · simp at hshort
    · exact hordered

theorem attempt_congr {n : ThreatManager} (hthreat : n.threatOf = m.threatOf) (htarget : n.targetOf = m.targetOf)
    (allow : Bool) (list : List Nat) (currentVictim : Option Nat) :
    n.attempt view allow list currentVictim = m.attempt view allow list currentVictim := by
  induction list generalizing currentVictim with
  | nil => rfl
  | cons ref rest ih =>
    rw [attempt.eq_def, attempt.eq_def]
    simp only [passesOver, outweighs, hthreat, htarget, ih]
    cases currentVictim with
    | none => rfl
    | some victim => rfl

theorem getHostileTarget_found {ref : Nat} {list : List Nat} (hsort : m.sort = { m with onlineList := list, dirty := false })
    (hfound : m.attempt view false list m.currentVictim = .found ref) :
    (m.getHostileTarget view).currentVictim = some ref := by
  have hattempt (allow : Bool) (list : List Nat) (currentVictim : Option Nat) :
      m.sort.attempt view allow list currentVictim = m.attempt view allow list currentVictim :=
    attempt_congr (by rw [hsort]; rfl) (by rw [hsort]; rfl) allow list currentVictim
  show m.sort.selectNextVictim view = some ref
  rw [selectNextVictim, hattempt, hsort]
  simp only [hfound]

theorem Kept.selectsRight (h : m.Kept) (hnonneg : ∀ ref ∈ m.onlineList, 0 ≤ m.threatOf ref)
    (harea : ∀ ref ∈ m.onlineList, view.outOfThreatArea (m.targetOf ref) = false) (hjudges : m.Judges view) :
    m.SelectsRight view := by
  obtain ⟨hordered, hfirst⟩ := hjudges
  obtain ⟨list, hsort, hperm, hsorted⟩ := sort_eq (m := m)
  have hsorted := hsorted hordered
  have harea : ∀ ref ∈ list, view.outOfThreatArea (m.targetOf ref) = false := fun ref hmem =>
    harea ref (hperm.mem_iff.mp hmem)
  constructor
  · intro victim hcurrent hkeeps ref hmem husable
    have hvictim : victim ∈ m.onlineList := h.victim victim hcurrent
    have hkept := attempt_keeps harea (hperm.mem_iff.mpr hvictim) (hnonneg victim hvictim)
      (hsorted.imp fun hpair => hpair.imp_left fun heq => Option.some.inj (heq.symm.trans hcurrent)) ?_ ref
      (hperm.mem_iff.mpr hmem) (usable_iff.mp husable)
    · rw [← Bool.not_eq_true, outweighs_iff, not_or] at hkept
      exact hkept
    · intro found hfound
      rw [← hcurrent] at hfound
      have hselected := getHostileTarget_found hsort hfound
      rw [hkeeps] at hselected
      exact (Option.some.inj hselected).symm
  · intro hunusable hsome
    have husable : ∃ ref ∈ list, m.passesOver view false ref = false := by
      obtain ⟨ref, hmem, husable⟩ := hsome
      exact ⟨ref, hperm.mem_iff.mpr hmem, usable_iff.mp husable⟩
    have hbelow : list.Pairwise fun ref other => m.passesOver view false other = true ∨
        m.threatOf other ≤ m.threatOf ref := by
      refine hsorted.imp fun {ref other} hpair => hpair.imp_left fun hcurrent => ?_
      rw [← Bool.not_eq_false, ← usable_iff]
      exact hunusable other hcurrent
    have hmost : FindsMost m view list (m.attempt view false list m.currentVictim) := by
      cases hcurrent : m.currentVictim with
      | none => exact attempt_none harea husable hbelow
      | some victim =>
        have hbad : m.passesOver view false victim = true := by
          rw [← Bool.not_eq_false, ← usable_iff]
          exact hunusable victim hcurrent
        refine attempt_unusable harea (hnonneg victim (h.victim victim hcurrent)) hbad husable hbelow ?_
        intro ref hfound
        refine hfirst victim hcurrent hbad ref ?_
        rw [firstBefore, hsort]
        exact hfound
    obtain ⟨ref, hmem, hfound, hover, hmost⟩ := hmost
    exact ⟨ref, hperm.mem_iff.mp hmem, getHostileTarget_found hsort hfound, usable_iff.mpr hover,
      fun other hother husable => hmost other (hperm.mem_iff.mpr hother) (usable_iff.mp husable)⟩

theorem selectsRight_run (owner : Nat) (messages : List Message) (view : View)
    (hnonneg : ∀ ref ∈ (Run.run receive (new owner) messages).onlineList,
      0 ≤ (Run.run receive (new owner) messages).threatOf ref)
    (harea : ∀ ref ∈ (Run.run receive (new owner) messages).onlineList,
      view.outOfThreatArea ((Run.run receive (new owner) messages).targetOf ref) = false)
    (hjudges : (Run.run receive (new owner) messages).Judges view) :
    (Run.run receive (new owner) messages).SelectsRight view :=
  (kept_run owner messages).selectsRight hnonneg harea hjudges

def sampleView : View :=
  { ownerAlive := true, ownerControlled := false, alive := fun _ => true, inMap := fun _ => true,
    present := fun _ => true, gameMaster := fun _ => false, taxiFlying := fun _ => false,
    unitOwner := fun _ => none, depth := fun _ => 0, depth_lt := fun _ _ h => (Option.some_ne_none _ h.symm).elim,
    totemTransfer := fun _ => none, calcThreat := fun _ threat => threat, outOfThreatArea := fun _ => false,
    validAttackTarget := fun _ => true, lowPriority := fun _ => false, reachesInMelee := fun _ => true }

def sampleFight : List Message :=
  [⟨sampleView, .addThreatDirectly 1 100⟩, ⟨sampleView, .addThreatDirectly 3 50⟩,
    ⟨sampleView, .addThreatDirectly 2 10⟩, ⟨sampleView, .getHostileTarget⟩]

instance (m : ThreatManager) : Decidable m.Ordered :=
  inferInstanceAs (Decidable (m.onlineList.Pairwise fun ref other =>
    m.currentVictim = some other ∨ m.threatOf other ≤ m.threatOf ref))

theorem selectsRight_run_fight :
    (Run.run receive (new 7) (sampleFight ++ [⟨sampleView, .addThreatDirectly 2 100⟩])).SelectsRight sampleView := by
  refine selectsRight_run 7 _ sampleView (by decide +kernel) (by decide +kernel) ⟨.inl (by decide +kernel), ?_⟩
  intro victim _ hbad
  simp [passesOver, sampleView] at hbad

-- The attacker turns to the third while the first loses all its threat: the
-- order is stale and nothing marks it, so the scan ends at the first and the
-- second is not seen.
theorem not_selectsRight_run : ¬∀ (owner : Nat) (messages : List Message) (view : View),
    (∀ ref ∈ (Run.run receive (new owner) messages).onlineList,
      0 ≤ (Run.run receive (new owner) messages).threatOf ref) →
    (∀ ref ∈ (Run.run receive (new owner) messages).onlineList,
      view.outOfThreatArea ((Run.run receive (new owner) messages).targetOf ref) = false) →
    (Run.run receive (new owner) messages).SelectsRight view := by
  intro h
  have hselects := h 7 (sampleFight ++ [⟨sampleView, .setCurrentVictimIfCan 2⟩,
    ⟨sampleView, .modifyThreatPercent 1 (-100)⟩]) sampleView (by decide +kernel) (by decide +kernel)
  have hless := (hselects.keeps 2 (by decide +kernel) (by decide +kernel) 1 (by decide +kernel)
    ⟨rfl, rfl⟩).1
  revert hless
  decide +kernel

end ThreatManager

end TurtleWow.Threat

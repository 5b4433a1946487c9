import TurtleWow.MeetingStone.Queue
import TurtleWow.Lib.Lists
import Mathlib.Logic.Function.Basic

namespace TurtleWow.MeetingStone

open List Function

-- Which classes a full group ends up with.

def slotsFor : ClassRoles → Nat
  | .tank => 1
  | .healer => 1
  | .dps => getMaximumDPSSlots

section

variable (classOf : Nat → Classes)

def ableTo (guid : Nat) (role : ClassRoles) : Prop :=
  (calculateRoles (classOf guid)).has role = true

-- The members' classes can be given different slots of one tank, one healer and
-- three damage dealers.
def Assignable (slots : List Nat) : Prop :=
  ∃ roleOf : Nat → ClassRoles, (∀ guid ∈ slots, ableTo classOf guid (roleOf guid)) ∧
    ∀ role, (slots.countP fun guid => roleOf guid = role) ≤ slotsFor role

def Complete (slots : List Nat) : Prop :=
  ∃ roleOf : Nat → ClassRoles, (∀ guid ∈ slots, ableTo classOf guid (roleOf guid)) ∧
    ∀ role, (slots.countP fun guid => roleOf guid = role) = slotsFor role

end

theorem length_eq_counts (roleOf : Nat → ClassRoles) (slots : List Nat) :
    slots.length = (slots.countP fun guid => roleOf guid = .tank) +
      (slots.countP fun guid => roleOf guid = .healer) + slots.countP fun guid => roleOf guid = .dps := by
  induction slots with
  | nil => rfl
  | cons guid rest ih =>
    simp only [length_cons, countP_cons]
    cases hrole : roleOf guid <;> simp <;> omega

section

variable {classOf : Nat → Classes} {slots : List Nat} {guid : Nat} {role : ClassRoles}

theorem Assignable.complete (h : Assignable classOf slots) (hfull : maxGroupSize ≤ slots.length) :
    Complete classOf slots := by
  obtain ⟨roleOf, hable, hroom⟩ := h
  have htank : _ ≤ 1 := hroom .tank
  have hhealer : _ ≤ 1 := hroom .healer
  have hdps : _ ≤ 3 := hroom .dps
  have hlength := length_eq_counts roleOf slots
  unfold maxGroupSize at hfull
  refine ⟨roleOf, hable, fun role => ?_⟩
  cases role with
  | tank =>
    show _ = 1
    omega
  | healer =>
    show _ = 1
    omega
  | dps =>
    show _ = 3
    omega

theorem Assignable.sublist {fewer : List Nat} (h : Assignable classOf slots) (hfewer : fewer.Sublist slots) :
    Assignable classOf fewer := by
  obtain ⟨roleOf, hable, hroom⟩ := h
  exact ⟨roleOf, fun guid hguid => hable guid (hfewer.subset hguid),
    fun role => Nat.le_trans hfewer.countP_le (hroom role)⟩

theorem ableTo.dps (h : ableTo classOf guid role) : ableTo classOf guid .dps := by
  unfold ableTo at *
  generalize classOf guid = playerClass at *
  cases playerClass <;> cases role <;> first | rfl | cases h

theorem Assignable.dps (h : Assignable classOf slots) (hguid : guid ∈ slots) : ableTo classOf guid .dps := by
  obtain ⟨roleOf, hable, -⟩ := h
  exact (hable guid hguid).dps

end

def Needs.taken (needs : Needs) : ClassRoles → Nat
  | .tank => (!needs.availableRoles.tank).toNat
  | .healer => (!needs.availableRoles.healer).toNat
  | .dps => needs.dpsCount

-- The roles that members have been given account for what the group still needs.
structure Placed (classOf : Nat → Classes) (placed : Nat → Option ClassRoles) (slots : List Nat) (needs : Needs) :
    Prop where
  able : ∀ guid role, placed guid = some role → ableTo classOf guid role
  inside : ∀ guid, placed guid ≠ none → guid ∈ slots
  counts : ∀ role, (slots.countP fun guid => placed guid = some role) = needs.taken role
  room : needs.dpsCount ≤ getMaximumDPSSlots
  dps : needs.availableRoles.dps = true → needs.dpsCount < getMaximumDPSSlots

section

variable {classOf : Nat → Classes} {placed : Nat → Option ClassRoles} {slots : List Nat} {needs : Needs} {guid : Nat}
  {role : ClassRoles}

theorem Needs.taken_fill (havailable : needs.availableRoles.has role = true)
    (hdps : needs.availableRoles.dps = true → needs.dpsCount < getMaximumDPSSlots) (other : ClassRoles) :
    (needs.fill role).taken other = needs.taken other + if other = role then 1 else 0 := by
  cases role with
  | tank =>
    have hopen : needs.availableRoles.tank = true := havailable
    cases other <;> simp [Needs.fill, Needs.taken, RoleMask.clear, hopen]
  | healer =>
    have hopen : needs.availableRoles.healer = true := havailable
    cases other <;> simp [Needs.fill, Needs.taken, RoleMask.clear, hopen]
  | dps =>
    have hless := hdps havailable
    unfold Needs.fill
    rw [if_pos hless]
    split_ifs <;> cases other <;> simp_all [Needs.taken, RoleMask.clear]

theorem Needs.room_fill (havailable : needs.availableRoles.has role = true)
    (hroom : needs.dpsCount ≤ getMaximumDPSSlots)
    (hdps : needs.availableRoles.dps = true → needs.dpsCount < getMaximumDPSSlots) :
    (needs.fill role).dpsCount ≤ getMaximumDPSSlots ∧
      ((needs.fill role).availableRoles.dps = true → (needs.fill role).dpsCount < getMaximumDPSSlots) := by
  cases role with
  | tank => exact ⟨hroom, hdps⟩
  | healer => exact ⟨hroom, hdps⟩
  | dps =>
    have hless := hdps havailable
    unfold Needs.fill
    rw [if_pos hless]
    split_ifs with hlast
    · exact ⟨hless, fun hopen => (by cases hopen)⟩
    · exact ⟨hless, fun _ => Nat.lt_of_not_le hlast⟩

theorem Placed.fill (h : Placed classOf placed slots needs) (hnodup : slots.Nodup) (hguid : guid ∈ slots)
    (hnone : placed guid = none) (hable : ableTo classOf guid role) (havailable : needs.availableRoles.has role = true) :
    Placed classOf (Function.update placed guid (some role)) slots (needs.fill role) := by
  have hself : Function.update placed guid (some role) guid = some role := update_self _ _ _
  have hothers : ∀ other, other ≠ guid → Function.update placed guid (some role) other = placed other :=
    fun other hne => update_of_ne hne _ _
  obtain ⟨hroom, hdps⟩ := Needs.room_fill havailable h.room h.dps
  refine ⟨fun other given hgiven => ?_, fun other hgiven => ?_, fun other => ?_, hroom, hdps⟩
  · by_cases hsame : other = guid
    · subst hsame
      rw [hself] at hgiven
      exact Option.some.inj hgiven ▸ hable
    · rw [hothers other hsame] at hgiven
      exact h.able other given hgiven
  · by_cases hsame : other = guid
    · exact hsame ▸ hguid
    · rw [hothers other hsame] at hgiven
      exact h.inside other hgiven
  · rw [Needs.taken_fill havailable h.dps, ← h.counts other]
    by_cases hrole : other = role
    · rw [if_pos hrole]
      refine Lists.countP_flip hnodup hguid ?_ ?_ fun member _ hne => ?_
      · simp [hnone]
      · simp [hrole]
      · simp only [hothers member hne]
    · rw [if_neg hrole]
      refine countP_congr fun member _ => ?_
      by_cases hsame : member = guid
      · subst hsame
        simp [hnone, Ne.symm hrole]
      · simp only [hothers member hsame]

theorem Placed.concat (h : Placed classOf placed slots needs) (hguid : guid ∉ slots) :
    Placed classOf placed (slots ++ [guid]) needs := by
  have hnone : placed guid = none := by
    by_contra hgiven
    exact hguid (h.inside guid hgiven)
  refine ⟨h.able, fun other hgiven => mem_append_left _ (h.inside other hgiven), fun role => ?_, h.room, h.dps⟩
  rw [countP_append, h.counts role]
  simp [hnone]

-- Every member has been given a role, or the damage dealers' are the only ones left.
structure Settled (classOf : Nat → Classes) (slots : List Nat) (needs : Needs) : Prop where
  placed : ∃ placed, Placed classOf placed slots needs ∧ ((∀ guid ∈ slots, placed guid ≠ none) ∨
    (needs.availableRoles.tank = false ∧ needs.availableRoles.healer = false))
  dps : ∀ guid ∈ slots, ableTo classOf guid .dps

theorem Settled.assignable (h : Settled classOf slots needs) (hlength : slots.length ≤ maxGroupSize) :
    Assignable classOf slots := by
  obtain ⟨⟨placed, hplaced, hsettled⟩, hdps⟩ := h
  have htank : (slots.countP fun guid => placed guid = some .tank) = (!needs.availableRoles.tank).toNat :=
    hplaced.counts .tank
  have hhealer : (slots.countP fun guid => placed guid = some .healer) = (!needs.availableRoles.healer).toNat :=
    hplaced.counts .healer
  have hdealers : (slots.countP fun guid => placed guid = some .dps) = needs.dpsCount := hplaced.counts .dps
  have hroom : needs.dpsCount ≤ 3 := hplaced.room
  have hasTank : (slots.countP fun guid => (placed guid).getD .dps = .tank) =
      slots.countP fun guid => placed guid = some .tank :=
    countP_congr fun guid _ => by cases hgiven : placed guid <;> simp
  have hasHealer : (slots.countP fun guid => (placed guid).getD .dps = .healer) =
      slots.countP fun guid => placed guid = some .healer :=
    countP_congr fun guid _ => by cases hgiven : placed guid <;> simp
  have hcounts := length_eq_counts (fun guid => (placed guid).getD .dps) slots
  unfold maxGroupSize at hlength
  refine ⟨fun guid => (placed guid).getD .dps, fun guid hguid => ?_, fun role => ?_⟩
  · show ableTo classOf guid ((placed guid).getD .dps)
    cases hgiven : placed guid with
    | none => exact hdps guid hguid
    | some role => exact hplaced.able guid role hgiven
  · cases role with
    | tank =>
      show _ ≤ 1
      rw [hasTank, htank]
      exact Bool.toNat_le _
    | healer =>
      show _ ≤ 1
      rw [hasHealer, hhealer]
      exact Bool.toNat_le _
    | dps =>
      show (slots.countP fun guid => (placed guid).getD .dps = .dps) ≤ 3
      rcases hsettled with hall | ⟨hnoTank, hnoHealer⟩
      · have hasDps : (slots.countP fun guid => (placed guid).getD .dps = .dps) =
            slots.countP fun guid => placed guid = some .dps :=
          countP_congr fun guid hguid => by
            obtain ⟨role, hrole⟩ := Option.ne_none_iff_exists'.mp (hall guid hguid)
            simp [hrole]
        omega
      · rw [hnoTank] at htank
        rw [hnoHealer] at hhealer
        simp only [Bool.not_false, Bool.toNat_true] at htank hhealer
        omega

theorem Settled.join (h : Settled classOf slots needs) (hnodup : slots.Nodup) (hguid : guid ∉ slots)
    (hable : ableTo classOf guid role) (havailable : needs.availableRoles.has role = true) :
    Settled classOf (slots ++ [guid]) (needs.fill role) := by
  obtain ⟨⟨placed, hplaced, hsettled⟩, hdps⟩ := h
  have hnone : placed guid = none := by
    by_contra hgiven
    exact hguid (hplaced.inside guid hgiven)
  refine ⟨⟨Function.update placed guid (some role), ?_, ?_⟩, fun other hother => ?_⟩
  · exact (hplaced.concat hguid).fill (Lists.nodup_concat hnodup hguid)
      (mem_append_right _ (mem_singleton_self _)) hnone hable havailable
  · rcases hsettled with hall | ⟨hnoTank, hnoHealer⟩
    · refine .inl fun other hother => ?_
      by_cases hsame : other = guid
      · subst hsame
        rw [update_self]
        exact Option.some_ne_none _
      · rw [update_of_ne hsame]
        exact hall other ((mem_append.mp hother).resolve_right fun hlast =>
          hsame (mem_singleton.mp hlast))
    · refine .inr ?_
      cases role with
      | tank => exact ⟨rfl, hnoHealer⟩
      | healer => exact ⟨hnoTank, rfl⟩
      | dps =>
        unfold Needs.fill
        split_ifs <;> exact ⟨hnoTank, hnoHealer⟩
  · rcases mem_append.mp hother with hold | hnew
    · exact hdps other hold
    · rw [mem_singleton.mp hnew]
      exact hable.dps

end

-- The party's roles are given out so that every member has one, or that neither
-- the tank's nor the healer's is left.
def Places (classOf : Nat → Classes) (slots : List Nat) : Prop :=
  (∀ guid ∈ slots, guid ∈ (calculateLFGRoles classOf slots).processed) ∨
    ((calculateLFGRoles classOf slots).needs.availableRoles.tank = false ∧
      (calculateLFGRoles classOf slots).needs.availableRoles.healer = false)

section

variable {classOf : Nat → Classes} {slots : List Nat} {guid : Nat}

variable (classOf slots) in
theorem grantRole_cases (roster : Roster) (guid : Nat) (roles : List ClassRoles) :
    grantRole classOf slots roster guid roles = roster ∨ ∃ role, ableTo classOf guid role ∧
      roster.needs.availableRoles.has role = true ∧ grantRole classOf slots roster guid roles =
        { needs := roster.needs.fill role, processed := roster.processed ++ [guid] } := by
  induction roles with
  | nil => exact .inl rfl
  | cons role rest ih =>
    unfold grantRole
    by_cases hfits : ((calculateRoles (classOf guid)).has role && roster.needs.availableRoles.has role) = true
    · rw [if_pos hfits]
      rw [Bool.and_eq_true] at hfits
      unfold fillPremadeLFG
      by_cases hrank : outranked classOf slots roster guid role = true
      · rw [if_pos hrank]
        exact ih
      · rw [if_neg hrank]
        exact .inr ⟨role, hfits.1, hfits.2, rfl⟩
    · rw [if_neg hfits]
      exact ih

-- The roster while the members are gone through.
variable (classOf) in
theorem exists_placed (hnodup : slots.Nodup) : ∃ placed, Placed classOf placed slots (calculateLFGRoles classOf slots).needs ∧
    ∀ guid, guid ∈ (calculateLFGRoles classOf slots).processed → placed guid ≠ none := by
  have hfold : ∀ (rest past : List Nat) (roster : Roster) (placed : Nat → Option ClassRoles), slots = past ++ rest →
      Placed classOf placed slots roster.needs → (∀ guid, guid ∈ roster.processed ↔ placed guid ≠ none) →
      (∀ guid ∈ roster.processed, guid ∈ past) → ∃ placed,
        Placed classOf placed slots
          (rest.foldl (fun roster guid => grantRole classOf slots roster guid potentialRoles) roster).needs ∧
        ∀ guid, guid ∈ (rest.foldl (fun roster guid => grantRole classOf slots roster guid potentialRoles) roster).processed →
          placed guid ≠ none := by
    intro rest
    induction rest with
    | nil => exact fun past roster placed _ hplaced hprocessed _ => ⟨placed, hplaced, fun guid => (hprocessed guid).mp⟩
    | cons guid rest ih =>
      intro past roster placed hslots hplaced hprocessed hpast
      have hsplit : slots = (past ++ [guid]) ++ rest := by
        rw [hslots, append_assoc]
        rfl
      have hnew : guid ∉ past := by
        rw [hslots, nodup_append] at hnodup
        exact fun hmem => hnodup.2.2 guid hmem guid mem_cons_self rfl
      rw [foldl_cons]
      rcases grantRole_cases classOf slots roster guid potentialRoles with
        hsame | ⟨role, hable, havailable, hgranted⟩
      · rw [hsame]
        exact ih _ _ placed hsplit hplaced hprocessed fun other hother => mem_append_left _ (hpast other hother)
      · rw [hgranted]
        have hnone : placed guid = none := by
          by_contra hgiven
          exact hnew (hpast guid ((hprocessed guid).mpr hgiven))
        have hguid : guid ∈ slots := by
          rw [hslots]
          exact mem_append_right _ mem_cons_self
        refine ih _ _ _ hsplit (hplaced.fill hnodup hguid hnone hable havailable) (fun other => ?_) fun other hother => ?_
        · rw [mem_append, mem_singleton]
          by_cases hsame : other = guid
          · subst hsame
            simp
          · rw [update_of_ne hsame, hprocessed other]
            simp [hsame]
        · rcases mem_append.mp hother with hold | hlast
          · exact mem_append_left _ (hpast other hold)
          · exact mem_append_right _ hlast
  refine hfold slots [] Roster.start (fun _ => none) rfl ⟨?_, ?_, ?_, ?_, ?_⟩ ?_ ?_
  · exact fun guid role hgiven => by cases hgiven
  · exact fun guid hgiven => absurd rfl hgiven
  · intro role
    cases role <;> simp [Roster.start, Needs.taken]
  · exact Nat.zero_le _
  · exact fun _ => by decide
  · exact fun guid => ⟨fun hmem => (by cases hmem), fun hgiven => absurd rfl hgiven⟩
  · exact fun guid hmem => by cases hmem

theorem Places.settled (h : Places classOf slots) (hnodup : slots.Nodup) (hassignable : Assignable classOf slots) :
    Settled classOf slots (calculateLFGRoles classOf slots).needs := by
  obtain ⟨placed, hplaced, hprocessed⟩ := exists_placed classOf hnodup
  exact ⟨⟨placed, hplaced, h.imp_left fun hall guid hguid => hprocessed guid (hall guid hguid)⟩,
    fun guid hguid => hassignable.dps hguid⟩

end

end TurtleWow.MeetingStone

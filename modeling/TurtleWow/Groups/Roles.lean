import TurtleWow.Groups.Sound

namespace TurtleWow.Groups

open List

-- The main tank and the main assistant of a raid, empty where the guid is 0.

structure Raid where
  world : World
  mainTankGuid : Nat
  mainAssistantGuid : Nat

namespace Raid

section

variable (r : Raid)

-- `_setMainAssistant` with the empty guid, as the other setter calls it
def clearMainAssistant : Raid := { r with mainAssistantGuid := 0 }

-- `_setMainTank` with the empty guid
def clearMainTank : Raid := { r with mainTankGuid := 0 }

-- _setMainTank; `none` where it returns false.
def assignMainTank (guid : Nat) : Option Raid :=
  if r.mainTankGuid = guid then none
  else if guid ≠ 0 then
    if !r.world.group.isMember guid then none
    else
      let r := if r.mainAssistantGuid = guid then r.clearMainAssistant else r
      some { r with mainTankGuid := guid }
  else some { r with mainTankGuid := guid }

-- _setMainAssistant; `none` where it returns false.
def assignMainAssistant (guid : Nat) : Option Raid :=
  if r.mainAssistantGuid = guid then none
  else if guid ≠ 0 then
    if !r.world.group.isMember guid then none
    else
      let r := if r.mainTankGuid = guid then r.clearMainTank else r
      some { r with mainAssistantGuid := guid }
  else some { r with mainAssistantGuid := guid }

def setMainTank (guid : Nat) : Raid :=
  if !r.world.group.isRaidGroup then r else (r.assignMainTank guid).getD r

def setMainAssistant (guid : Nat) : Raid :=
  if !r.world.group.isRaidGroup then r else (r.assignMainAssistant guid).getD r

def addMember (guid : Nat) : Raid := { r with world := r.world.addMember guid }

def removeMember (guid : Nat) : Raid := { r with world := r.world.removeMember guid }

inductive Op
  | setMainTank (guid : Nat)
  | setMainAssistant (guid : Nat)
  | addMember (guid : Nat)
  | removeMember (guid : Nat)

def step : Op → Raid
  | .setMainTank guid => r.setMainTank guid
  | .setMainAssistant guid => r.setMainAssistant guid
  | .addMember guid => r.addMember guid
  | .removeMember guid => r.removeMember guid

end

structure RolesHeld (r : Raid) : Prop where
  tank : r.mainTankGuid = 0 ∨ r.world.group.isMember r.mainTankGuid
  assistant : r.mainAssistantGuid = 0 ∨ r.world.group.isMember r.mainAssistantGuid
  apart : r.mainTankGuid ≠ 0 → r.mainTankGuid ≠ r.mainAssistantGuid

def HoldsRole (r : Raid) (guid : Nat) : Prop :=
  guid ≠ 0 ∧ (guid = r.mainTankGuid ∨ guid = r.mainAssistantGuid)

-- Who is removed has no role, or a second slot; and a group that this
-- disbands has no roles.
def Spares (r : Raid) : Op → Prop
  | .removeMember guid =>
    if r.world.group.getMembersMinCount < r.world.group.getMembersCount then
      r.HoldsRole guid → 2 ≤ r.world.group.guids.count guid
    else r.mainTankGuid = 0 ∧ r.mainAssistantGuid = 0
  | _ => True

end Raid

section

variable {g : Group} {guid other : Nat}

theorem Group.isMember_iff : g.isMember guid ↔ guid ∈ g.guids := by
  rw [Group.isMember, Group.getMemberSlot, List.find?_isSome, Group.guids, mem_map]
  simp

theorem guids_eraseSlot : (g.eraseSlot guid).guids = g.guids.erase guid := by
  unfold Group.eraseSlot
  split
  · rename_i hnone
    refine (erase_of_not_mem fun hmem => ?_).symm
    obtain ⟨slot, hslot⟩ := Group.getMemberSlot_of_mem hmem
    rw [hnone] at hslot
    cases hslot
  · rw [Group.guids, Group.guids, erase_eq_eraseP, eraseP_map]
    refine congrArg _ (congrArg (List.eraseP · _) (funext fun slot => ?_))
    exact ((beq_eq_decide guid slot.guid).trans (decide_eq_decide.mpr eq_comm)).symm

theorem mem_erase_self : guid ∈ g.guids.erase guid ↔ 2 ≤ g.guids.count guid := by
  rw [← count_pos_iff, count_erase_self]
  omega

end

section

variable {w : World} {guid : Nat}

theorem guids_setLeader : (w.setLeader guid).group.guids = w.group.guids := by
  unfold World.setLeader
  split <;> rfl

theorem guids_chooseLeader {offline : Bool} : (w.chooseLeader offline).group.guids = w.group.guids := by
  unfold World.chooseLeader
  split
  · rfl
  · dsimp only
    split_ifs <;> first | rfl | exact guids_setLeader

theorem guids_removeMember :
    (w.removeMember guid).group.guids =
      if w.group.getMembersMinCount < w.group.getMembersCount then w.group.guids.erase guid else [] := by
  unfold World.removeMember
  split
  · unfold World.dropMember
    dsimp only
    split
    · rw [guids_chooseLeader]
      exact guids_eraseSlot
    · exact guids_eraseSlot
  · rfl

theorem mem_guids_addMember {other : Nat} (h : other ∈ w.group.guids) : other ∈ (w.addMember guid).group.guids := by
  unfold World.addMember
  split
  · exact h
  · split_ifs
    · exact h
    · exact h
    · rw [Group.guids, Group.appendSlot, map_append]
      exact mem_append_left _ h

end

namespace Raid

variable {r : Raid} {guid : Nat}

theorem rolesHeld_setMainTank (h : r.RolesHeld) : (r.setMainTank guid).RolesHeld := by
  unfold setMainTank
  split
  · exact h
  unfold assignMainTank
  split_ifs with hsame hguid hmember hclear
  · exact h
  · exact h
  · have hmember : r.world.group.isMember guid := by simpa using hmember
    exact ⟨.inr hmember, .inl rfl, fun _ => hguid⟩
  · exact ⟨.inr (by simpa using hmember), h.assistant, fun _ => Ne.symm hclear⟩
  · exact ⟨.inl (not_not.mp hguid), h.assistant, fun hne => absurd (not_not.mp hguid) hne⟩

theorem rolesHeld_setMainAssistant (h : r.RolesHeld) : (r.setMainAssistant guid).RolesHeld := by
  unfold setMainAssistant
  split
  · exact h
  unfold assignMainAssistant
  split_ifs with hsame hguid hmember hclear
  · exact h
  · exact h
  · have hmember : r.world.group.isMember guid := by simpa using hmember
    exact ⟨.inl rfl, .inr hmember, fun hne => absurd rfl hne⟩
  · exact ⟨h.tank, .inr (by simpa using hmember), fun _ => hclear⟩
  · exact ⟨h.tank, .inl (not_not.mp hguid), fun hne heq => hne (heq.trans (not_not.mp hguid))⟩

theorem rolesHeld_addMember (h : r.RolesHeld) : (r.addMember guid).RolesHeld := by
  have hkeep : ∀ role, role = 0 ∨ r.world.group.isMember role → role = 0 ∨ (r.addMember guid).world.group.isMember role := by
    intro role hrole
    refine hrole.imp_right fun hmember => ?_
    exact Group.isMember_iff.mpr (mem_guids_addMember (Group.isMember_iff.mp hmember))
  exact ⟨hkeep _ h.tank, hkeep _ h.assistant, h.apart⟩

theorem stays_iff {role : Nat} (h : role = 0 ∨ r.world.group.isMember role)
    (hcount : r.world.group.getMembersMinCount < r.world.group.getMembersCount) :
    (role = 0 ∨ (r.removeMember guid).world.group.isMember role) ↔
      (guid ≠ 0 → guid = role → 2 ≤ r.world.group.guids.count guid) := by
  rw [removeMember, Group.isMember_iff, guids_removeMember, if_pos hcount]
  rw [Group.isMember_iff] at h
  by_cases heq : guid = role
  · subst heq
    rw [mem_erase_self]
    tauto
  · refine iff_of_true ?_ fun _ h' => absurd h' heq
    exact h.imp_right (mem_erase_of_ne (Ne.symm heq)).mpr

theorem rolesHeld_removeMember (h : r.RolesHeld) : (r.removeMember guid).RolesHeld ↔ r.Spares (.removeMember guid) := by
  have hroles : (r.removeMember guid).RolesHeld ↔
      (r.mainTankGuid = 0 ∨ (r.removeMember guid).world.group.isMember r.mainTankGuid) ∧
        (r.mainAssistantGuid = 0 ∨ (r.removeMember guid).world.group.isMember r.mainAssistantGuid) :=
    ⟨fun hr => ⟨hr.tank, hr.assistant⟩, fun hr => ⟨hr.1, hr.2, h.apart⟩⟩
  rw [hroles, Spares]
  split
  · rename_i hcount
    rw [stays_iff h.tank hcount, stays_iff h.assistant hcount, HoldsRole]
    tauto
  · rename_i hcount
    rw [removeMember, Group.isMember_iff, Group.isMember_iff, guids_removeMember, if_neg hcount]
    simp

theorem rolesHeld_step (h : r.RolesHeld) (op : Op) : (r.step op).RolesHeld ↔ r.Spares op := by
  cases op with
  | setMainTank guid => exact iff_of_true (rolesHeld_setMainTank h) trivial
  | setMainAssistant guid => exact iff_of_true (rolesHeld_setMainAssistant h) trivial
  | addMember guid => exact iff_of_true (rolesHeld_addMember h) trivial
  | removeMember guid => exact rolesHeld_removeMember h

-- Over whole runs: the roles stay with members exactly when every removal
-- spares them.
theorem rolesHeld_run (h : r.RolesHeld) (ops : List Op) :
    (∀ before, before <+: ops → (Run.run step r before).RolesHeld) ↔ Run.Guarded step Spares r ops :=
  Run.prefixes_iff_guarded step (fun _ _ => True) Spares (fun _ => True) RolesHeld (fun _ _ _ _ => trivial)
    (fun _ op _ hgood _ => rolesHeld_step hgood op) trivial h (Run.guarded_of_forall step _ (fun _ _ => trivial) r ops)

def trio : Raid where
  world :=
    { group :=
        { id := 1, bgGroup := false, leaderGuid := 1, groupType := .raid,
          memberSlots := [⟨1, 0, false⟩, ⟨2, 0, false⟩, ⟨3, 0, false⟩],
          subGroupsCounts := some fun subgroup => if subgroup = 0 then 3 else 0 },
      players := fun _ => none }
  mainTankGuid := 0
  mainAssistantGuid := 0

theorem rolesHeld_trio : trio.RolesHeld := ⟨.inl rfl, .inl rfl, fun h => absurd rfl h⟩

theorem rolesHeld_run_trio :
    (∀ before, before <+: [.setMainTank 2, .removeMember 3] → (Run.run step trio before).RolesHeld) ↔
      Run.Guarded step Spares trio [.setMainTank 2, .removeMember 3] :=
  rolesHeld_run rolesHeld_trio _

-- The main tank leaves.
theorem not_rolesHeld_run :
    ¬∀ (r : Raid) (ops : List Op), r.RolesHeld → (Run.run step r ops).RolesHeld := by
  intro h
  have htank := (h trio [.setMainTank 2, .removeMember 2] rolesHeld_trio).tank
  rcases htank with hzero | hmember
  · exact absurd hzero (by decide)
  · exact absurd hmember (by decide)

end Raid

end TurtleWow.Groups

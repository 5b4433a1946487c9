import TurtleWow.Groups.Sound
import TurtleWow.Lib.Chain
import TurtleWow.Looting.State

namespace TurtleWow.Groups

open List

open TurtleWow.Looting (LootMethod)

structure LootGroup where
  group : Group
  lootMethod : LootMethod
  looterGuid : Nat

namespace LootGroup

-- The iterator of _getMemberCSlot, `end` where there is no such slot
def memberCSlot (g : LootGroup) (guid : Nat) : Nat := g.group.memberSlots.findIdx fun slot => slot.guid = guid

def findNear (near : Nat → Bool) (slots : List MemberSlot) : Option Nat :=
  (slots.find? fun slot => near slot.guid).map fun slot => slot.guid

-- `near` are the players that are found and within loot distance of the
-- object. The flag says whether an update is sent.
def updateLooterGuid (g : LootGroup) (near : Nat → Bool) (ifneed : Bool) : LootGroup × Bool :=
  if g.lootMethod = .masterLoot ∨ g.lootMethod = .freeForAll then (g, false)
  else
    let current := g.memberCSlot g.looterGuid
    if current < g.group.memberSlots.length ∧ ifneed ∧ near g.looterGuid then (g, false)
    else
      let itr := if current < g.group.memberSlots.length then current + 1 else current
      -- search next after current, then from start
      let newLooter := (findNear near (g.group.memberSlots.drop itr)).or (findNear near (g.group.memberSlots.take itr))
      match newLooter with
      | some guid => if g.looterGuid ≠ guid then ({ g with looterGuid := guid }, true) else (g, false)
      | none => ({ g with looterGuid := 0 }, true)

def turns (g : LootGroup) : List (Nat → Bool) → List Nat
  | [] => []
  | near :: rest =>
    let next := (g.updateLooterGuid near false).1
    next.looterGuid :: next.turns rest

variable {g : LootGroup} {near : Nat → Bool}

theorem findNear_eq (slots : List MemberSlot) : findNear near slots = (slots.map fun slot => slot.guid).find? near := by
  rw [findNear, List.find?_map]
  rfl

theorem memberCSlot_eq (guid : Nat) : g.memberCSlot guid = g.group.guids.idxOf guid := by
  rw [memberCSlot, Group.guids, List.idxOf, findIdx_map]
  refine congrArg (List.findIdx · _) (funext fun slot => ?_)
  exact (beq_eq_decide slot.guid guid).symm

theorem updateLooterGuid_group (g : LootGroup) (near : Nat → Bool) (ifneed : Bool) :
    (g.updateLooterGuid near ifneed).1.group = g.group ∧ (g.updateLooterGuid near ifneed).1.lootMethod = g.lootMethod := by
  unfold updateLooterGuid
  split
  · exact ⟨rfl, rfl⟩
  dsimp only
  split
  · exact ⟨rfl, rfl⟩
  split
  · split <;> exact ⟨rfl, rfl⟩
  · exact ⟨rfl, rfl⟩

theorem scans_eq (looter : Nat) :
    (let current := g.memberCSlot looter
     let itr := if current < g.group.memberSlots.length then current + 1 else current
     (findNear near (g.group.memberSlots.drop itr)).or (findNear near (g.group.memberSlots.take itr))) =
      (Cycle.after g.group.guids looter).find? near := by
  have hlength : g.group.memberSlots.length = g.group.guids.length := (length_map _).symm
  dsimp only
  rw [memberCSlot_eq, hlength, findNear_eq, findNear_eq, map_drop, map_take]
  change ((g.group.guids.drop _).find? near).or ((g.group.guids.take _).find? near) = _
  rw [← List.find?_append]
  by_cases hmem : looter ∈ g.group.guids
  · have hlt := idxOf_lt_length_iff.mpr hmem
    rw [if_pos hlt, Cycle.after, if_pos hmem, rotate_eq_drop_append_take hlt]
  · rw [if_neg (fun hlt => hmem (idxOf_lt_length_iff.mp hlt)), Cycle.after, if_neg hmem,
      idxOf_eq_length hmem, drop_length, take_length, nil_append]

theorem updateLooterGuid_looterGuid (near : Nat → Bool) (hmaster : g.lootMethod ≠ .masterLoot) (hfree : g.lootMethod ≠ .freeForAll) :
    (g.updateLooterGuid near false).1.looterGuid = ((Cycle.after g.group.guids g.looterGuid).find? near).getD 0 := by
  rw [← scans_eq, updateLooterGuid, if_neg (by simp [hmaster, hfree])]
  dsimp only
  rw [if_neg (by simp)]
  split
  · rename_i guid hfound
    rw [hfound]
    split
    · rfl
    · rename_i hsame
      exact not_not.mp hsame
  · rename_i hnone
    rw [hnone]
    rfl

theorem turns_ring (hmaster : g.lootMethod ≠ .masterLoot) (hfree : g.lootMethod ≠ .freeForAll)
    (hdistinct : g.group.guids.Nodup) {ring : List Nat} {j : Nat} (hj : ring[j]? = some g.looterGuid)
    {views : List (Nat → Bool)} (hviews : ∀ near ∈ views, g.group.guids.filter near = ring) :
    g.turns views = Cycle.lap ring (j + 1) views.length := by
  induction views generalizing g j with
  | nil => rfl
  | cons near rest ih =>
    obtain ⟨hnear, hrest⟩ := forall_mem_cons.mp hviews
    have hlooter := updateLooterGuid_looterGuid near hmaster hfree
    obtain ⟨hgroup, hmethod⟩ := updateLooterGuid_group g near false
    subst hnear
    have hpos : 0 < (g.group.guids.filter near).length := Nat.zero_lt_of_lt (List.getElem?_eq_some_iff.mp hj).1
    obtain ⟨next, hnext⟩ : ∃ next, (g.group.guids.filter near)[(j + 1) % (g.group.guids.filter near).length]? = some next :=
      ⟨_, List.getElem?_eq_getElem (Nat.mod_lt _ hpos)⟩
    rw [Cycle.find?_after_ring hdistinct hj, hnext] at hlooter
    rw [turns, length_cons, Cycle.lap_succ hnext]
    refine congrArg₂ _ hlooter ?_
    rw [ih (by rwa [hmethod]) (by rwa [hmethod]) (by rwa [hgroup]) (hnext.trans (congrArg some hlooter.symm))
      (by rwa [hgroup])]
    rw [← Cycle.lap_mod, Nat.mod_add_mod, Cycle.lap_mod]

theorem turns_cons_ring (hmaster : g.lootMethod ≠ .masterLoot) (hfree : g.lootMethod ≠ .freeForAll)
    (hdistinct : g.group.guids.Nodup) {ring : List Nat} (hring : ring ≠ []) {views : List (Nat → Bool)}
    (hviews : ∀ near ∈ views, g.group.guids.filter near = ring) :
    ∃ start, g.turns views = Cycle.lap ring start views.length := by
  cases views with
  | nil => exact ⟨0, rfl⟩
  | cons near rest =>
    obtain ⟨hnear, hrest⟩ := forall_mem_cons.mp hviews
    subst hnear
    obtain ⟨j, hj, hfound⟩ := Cycle.find?_after_mem hring g.looterGuid
    have hlooter := updateLooterGuid_looterGuid near hmaster hfree
    obtain ⟨hgroup, hmethod⟩ := updateLooterGuid_group g near false
    rw [hfound, List.getElem?_eq_getElem hj] at hlooter
    have hnext : (g.group.guids.filter near)[j]? = some (g.updateLooterGuid near false).1.looterGuid := by
      rw [hlooter]
      exact List.getElem?_eq_getElem hj
    refine ⟨j, ?_⟩
    rw [turns, length_cons, Cycle.lap_succ (by rwa [Nat.mod_eq_of_lt hj]),
      turns_ring (by rwa [hmethod]) (by rwa [hmethod]) (by rwa [hgroup]) hnext (by rwa [hgroup])]

-- Each update goes to the first in range after the current looter, around the
-- members; so nobody in range gets two turns more than another.
theorem updateLooterGuid_fair (g : LootGroup) (hmaster : g.lootMethod ≠ .masterLoot)
    (hfree : g.lootMethod ≠ .freeForAll) :
    (∀ near : Nat → Bool,
      let looter := (g.updateLooterGuid near false).1.looterGuid
      looter = ((Cycle.after g.group.guids g.looterGuid).find? near).getD 0 ∧
      ((∃ guid ∈ g.group.guids, near guid) → looter ∈ g.group.guids ∧ near looter) ∧
      ((∀ guid ∈ g.group.guids, ¬near guid) → looter = 0)) ∧
    (g.group.guids.Nodup →
      (∀ near : Nat → Bool, g.looterGuid ∈ g.group.guids →
        (g.updateLooterGuid near false).1.looterGuid = g.looterGuid →
        ∀ guid ∈ g.group.guids, near guid → guid = g.looterGuid) ∧
      ∀ (views : List (Nat → Bool)) (ring : List Nat), ring ≠ [] →
        (∀ near ∈ views, g.group.guids.filter near = ring) →
        ∀ guid ∈ ring, ∀ other ∈ ring, (g.turns views).count guid ≤ (g.turns views).count other + 1) := by
  refine ⟨fun near => ?_, fun hdistinct => ⟨fun near hlooter hsame guid hguid hnear => ?_, ?_⟩⟩
  · have hlooter := updateLooterGuid_looterGuid near hmaster hfree
    refine ⟨hlooter, fun hsome => ?_, fun hnone => ?_⟩
    · obtain ⟨guid, hguid, hnear⟩ := hsome
      obtain ⟨found, hfound⟩ := Option.isSome_iff_exists.mp
        (List.find?_isSome.mpr ⟨guid, Cycle.mem_after (a := g.looterGuid).mpr hguid, hnear⟩)
      rw [hlooter, hfound]
      exact ⟨Cycle.mem_after.mp (List.mem_of_find?_eq_some hfound), List.find?_some hfound⟩
    · rw [hlooter, List.find?_eq_none.mpr fun guid hguid => hnone guid (Cycle.mem_after.mp hguid)]
      rfl
  · rw [updateLooterGuid_looterGuid near hmaster hfree] at hsame
    cases hfound : (Cycle.after g.group.guids g.looterGuid).find? near with
    | none => exact absurd hnear (List.find?_eq_none.mp hfound guid (Cycle.mem_after.mpr hguid))
    | some found =>
      rw [hfound] at hsame
      rw [show found = g.looterGuid from hsame] at hfound
      exact Cycle.alone_of_find?_after hdistinct hlooter hfound guid hguid hnear
  · intro views ring hring hviews guid hguid other hother
    obtain ⟨start, hturns⟩ := turns_cons_ring hmaster hfree hdistinct hring hviews
    rw [hturns]
    cases views with
    | nil => exact Nat.zero_le _
    | cons near rest =>
      have hnodup : ring.Nodup := (hviews near List.mem_cons_self) ▸ hdistinct.filter near
      exact Cycle.count_lap_le hnodup hguid hother _ _

def threeLooters : LootGroup where
  group :=
    { id := 1, bgGroup := false, leaderGuid := 1, groupType := .normal, subGroupsCounts := none,
      memberSlots := [⟨1, 0, false⟩, ⟨2, 0, false⟩, ⟨3, 0, false⟩] }
  lootMethod := .groupLoot
  looterGuid := 2

theorem updateLooterGuid_fair_three :
    (threeLooters.turns (List.replicate 3 fun guid => guid ≠ 2)).count 3 ≤
      (threeLooters.turns (List.replicate 3 fun guid => guid ≠ 2)).count 1 + 1 :=
  ((updateLooterGuid_fair threeLooters (by decide) (by decide)).2 (by decide)).2 _ [1, 3] (by decide)
    (fun near hnear => List.eq_of_mem_replicate hnear ▸ rfl) 3 (by decide) 1 (by decide)

end LootGroup

end TurtleWow.Groups

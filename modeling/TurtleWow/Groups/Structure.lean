import TurtleWow.Groups.Members

namespace TurtleWow.Groups

open List Function

-- The slots of a group, and the counters of a raid that are kept beside them.

theorem map_setSlotGroup (guid subgroup : Nat) (slots : List MemberSlot) :
    (setSlotGroup guid subgroup slots).map (fun slot => slot.guid) = slots.map fun slot => slot.guid :=
  Lists.map_updateFirst (f := fun slot => { slot with group := subgroup }) _ (fun _ => rfl) slots

theorem map_setSlotAssistant {α : Type} (key : MemberSlot → α)
    (hkey : ∀ slot state, key { slot with assistant := state } = key slot) (guid : Nat) (state : Bool)
    (slots : List MemberSlot) : (setSlotAssistant guid state slots).map key = slots.map key := by
  unfold setSlotAssistant updateSlot
  exact Lists.map_updateFirst key (fun slot => hkey slot state) slots

def membersIn (slots : List MemberSlot) (subgroup : Nat) : Nat :=
  slots.countP fun slot => slot.group = subgroup

structure Counted (slots : List MemberSlot) (counts : Nat → Nat) : Prop where
  groups : ∀ slot ∈ slots, slot.group < maxRaidSubgroups
  exact : ∀ subgroup < maxRaidSubgroups, counts subgroup = membersIn slots subgroup
  room : ∀ subgroup < maxRaidSubgroups, counts subgroup ≤ maxGroupSize

section

variable {slots : List MemberSlot} {counts : Nat → Nat} {guid subgroup : Nat} {slot : MemberSlot}

theorem membersIn_setSlotGroup (hslot : slots.find? (fun slot => slot.guid = guid) = some slot)
    (subgroup i : Nat) :
    membersIn (setSlotGroup guid subgroup slots) i + (if slot.group = i then 1 else 0) =
      membersIn slots i + if subgroup = i then 1 else 0 := by
  have hupdate := Lists.countP_updateFirst (f := fun slot => { slot with group := subgroup })
    (fun slot => decide (slot.group = i)) hslot
  simpa [membersIn, setSlotGroup, updateSlot] using hupdate

theorem membersIn_append (slots : List MemberSlot) (guid subgroup i : Nat) :
    membersIn (slots ++ [{ guid := guid, group := subgroup, assistant := false }]) i =
      membersIn slots i + if subgroup = i then 1 else 0 := by
  unfold membersIn
  rw [countP_append]
  simp [countP_cons]

theorem membersIn_erase (hslot : slots.find? (fun slot => slot.guid = guid) = some slot) (i : Nat) :
    membersIn (slots.eraseP fun slot => slot.guid = guid) i + (if slot.group = i then 1 else 0) =
      membersIn slots i := by
  have herase := Lists.countP_eraseP (fun slot => decide (slot.group = i)) hslot
  simpa [membersIn] using herase

theorem increase_eq (h : counts subgroup < maxGroupSize) (i : Nat) :
    Group.increase counts subgroup i = counts i + if subgroup = i then 1 else 0 := by
  unfold Group.increase Word.u8
  by_cases hi : subgroup = i
  · subst hi
    have hlt : counts subgroup < 5 := h
    rw [update_self, if_pos rfl]
    omega
  · rw [update_of_ne (Ne.symm hi), if_neg hi, Nat.add_zero]

variable (counts subgroup) in
theorem decrease_eq (hpos : 0 < counts subgroup) (hle : counts subgroup < 256) (i : Nat) :
    Group.decrease counts subgroup i + (if subgroup = i then 1 else 0) = counts i := by
  unfold Group.decrease Word.u8
  by_cases hi : subgroup = i
  · subst hi
    rw [update_self, if_pos rfl]
    omega
  · rw [update_of_ne (Ne.symm hi), if_neg hi, Nat.add_zero]

theorem membersIn_pos (hslot : slot ∈ slots) : 0 < membersIn slots slot.group :=
  countP_pos_iff.mpr ⟨slot, hslot, by simp⟩

section

variable (h : Counted slots counts)

include h

theorem Counted.move (hslot : slots.find? (fun slot => slot.guid = guid) = some slot)
    (hsub : subgroup < maxRaidSubgroups) (hroom : counts subgroup < maxGroupSize) (hne : slot.group ≠ subgroup) :
    Counted (setSlotGroup guid subgroup slots)
      (Group.decrease (Group.increase counts subgroup) slot.group) := by
  have hmem := mem_of_find?_eq_some hslot
  have hprev := h.groups slot hmem
  have hincrease := increase_eq hroom
  have hsame : Group.increase counts subgroup slot.group = membersIn slots slot.group := by
    rw [hincrease, if_neg (Ne.symm hne), Nat.add_zero, h.exact _ hprev]
  have hpos := membersIn_pos hmem
  have hle : counts slot.group ≤ 5 := h.room _ hprev
  rw [h.exact _ hprev] at hle
  have hdecrease := decrease_eq (Group.increase counts subgroup) slot.group
    (by omega) (by omega)
  have hcount := membersIn_setSlotGroup hslot subgroup
  refine ⟨?_, ?_, ?_⟩
  · intro other hother
    rcases Lists.mem_updateFirst hother with hold | ⟨old, -, -, rfl⟩
    · exact h.groups other hold
    · exact hsub
  · intro i hi
    have := h.exact i hi
    have := hincrease i
    have := hdecrease i
    have := hcount i
    omega
  · intro i hi
    have hi' := h.room i hi
    have := hincrease i
    have := hdecrease i
    by_cases heq : subgroup = i
    · subst heq
      rw [if_pos rfl] at *
      omega
    · rw [if_neg heq] at *
      omega

theorem Counted.append (guid : Nat) (hsub : subgroup < maxRaidSubgroups) (hroom : counts subgroup < maxGroupSize) :
    Counted (slots ++ [{ guid := guid, group := subgroup, assistant := false }])
      (Group.increase counts subgroup) := by
  have hincrease := increase_eq hroom
  refine ⟨?_, ?_, ?_⟩
  · intro slot hslot
    rcases mem_append.mp hslot with hold | hnew
    · exact h.groups slot hold
    · rw [mem_singleton.mp hnew]
      exact hsub
  · intro i hi
    rw [hincrease, membersIn_append, h.exact i hi]
  · intro i hi
    have hle := h.room i hi
    rw [hincrease]
    split_ifs with heq
    · subst heq
      exact hroom
    · exact hle

theorem Counted.erase (hslot : slots.find? (fun slot => slot.guid = guid) = some slot) :
    Counted (slots.eraseP fun slot => slot.guid = guid) (Group.decrease counts slot.group) := by
  have hmem := mem_of_find?_eq_some hslot
  have hprev := h.groups slot hmem
  have hpos := membersIn_pos hmem
  have hle := h.room _ hprev
  rw [← h.exact _ hprev] at hpos
  have hdecrease := decrease_eq _ _ hpos (Nat.lt_of_le_of_lt hle (by decide))
  refine ⟨fun other hother => h.groups other (mem_of_mem_eraseP hother), ?_, ?_⟩
  · intro i hi
    have := h.exact i hi
    have := hdecrease i
    have := membersIn_erase hslot i
    omega
  · intro i hi
    have := h.room i hi
    have := hdecrease i
    omega

theorem Counted.exchange {swapGuid : Nat} {swapSlot : MemberSlot}
    (hslot : slots.find? (fun slot => slot.guid = guid) = some slot)
    (hswap : slots.find? (fun slot => slot.guid = swapGuid) = some swapSlot) (hne : swapGuid ≠ guid) :
    Counted (setSlotGroup guid swapSlot.group (setSlotGroup swapGuid slot.group slots)) counts := by
  have hslot' : (setSlotGroup swapGuid slot.group slots).find? (fun slot => slot.guid = guid) = some slot := by
    refine (Lists.find_updateFirst_of_not fun other hother => ?_).trans hslot
    have hother : other.guid = swapGuid := by simpa using hother
    simp [hother, hne]
  have hfirst := membersIn_setSlotGroup hswap slot.group
  have hsecond := membersIn_setSlotGroup hslot' swapSlot.group
  refine ⟨?_, ?_, h.room⟩
  · intro other hother
    rcases Lists.mem_updateFirst hother with hother | ⟨-, -, -, rfl⟩
    · rcases Lists.mem_updateFirst hother with hother | ⟨-, -, -, rfl⟩
      · exact h.groups other hother
      · exact h.groups slot (mem_of_find?_eq_some hslot)
    · exact h.groups swapSlot (mem_of_find?_eq_some hswap)
  · intro i hi
    have := h.exact i hi
    have := hfirst i
    have := hsecond i
    omega

end

theorem foldl_increase (slots : List MemberSlot) (counts : Nat → Nat) (subgroup : Nat)
    (h : counts subgroup + membersIn slots subgroup < 256) :
    slots.foldl (fun counts slot => Group.increase counts slot.group) counts subgroup =
      counts subgroup + membersIn slots subgroup := by
  induction slots generalizing counts with
  | nil => rfl
  | cons head rest ih =>
    have hcons : membersIn (head :: rest) subgroup =
        membersIn rest subgroup + if head.group = subgroup then 1 else 0 := by
      simp [membersIn, countP_cons]
    have hhead : Group.increase counts head.group subgroup =
        counts subgroup + if head.group = subgroup then 1 else 0 := by
      unfold Group.increase
      by_cases heq : head.group = subgroup
      · rw [hcons, if_pos heq] at h
        subst heq
        rw [update_self, if_pos rfl, Word.u8_of_lt (by omega)]
      · rw [update_of_ne (Ne.symm heq), if_neg heq, Nat.add_zero]
    rw [foldl_cons, ih _ (by rw [hhead]; omega), hhead, hcons]
    omega

end

end TurtleWow.Groups

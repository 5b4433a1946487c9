import TurtleWow.Groups.Structure

namespace TurtleWow.Groups

open List

-- The structure of a group: distinct members within the size of its type, a
-- leader among them, and in a raid counters that match.

def Group.guids (g : Group) : List Nat := g.memberSlots.map fun slot => slot.guid

structure Shape (g : Group) : Prop where
  distinct : g.guids.Nodup
  nonzero : ∀ slot ∈ g.memberSlots, slot.guid ≠ 0
  party : g.groupType = .normal → g.memberSlots.length ≤ maxGroupSize ∧ g.bgGroup = false ∧
    g.subGroupsCounts = none ∧ ∀ slot ∈ g.memberSlots, slot.group = 0
  raid : g.groupType = .raid → g.memberSlots.length ≤ maxRaidSize ∧
    ∃ counts, g.subGroupsCounts = some counts ∧ Counted g.memberSlots counts

structure Sound (g : Group) : Prop extends Shape g where
  leader : g.leaderGuid ∈ g.guids

section

variable {g : Group} {guid subgroup : Nat} {slot : MemberSlot}

theorem Group.getMemberSlot_some (h : g.getMemberSlot guid = some slot) :
    slot ∈ g.memberSlots ∧ slot.guid = guid :=
  ⟨mem_of_find?_eq_some h, by simpa using List.find?_some h⟩

theorem Group.getMemberSlot_of_mem (h : guid ∈ g.guids) : ∃ slot, g.getMemberSlot guid = some slot := by
  obtain ⟨slot, hslot, heq⟩ := mem_map.mp h
  refine Option.isSome_iff_exists.mp ?_
  rw [Group.getMemberSlot, List.find?_isSome]
  exact ⟨slot, hslot, by simpa using heq⟩

theorem Group.getMemberGroup_some (h : g.getMemberSlot guid = some slot) : g.getMemberGroup guid = slot.group := by
  unfold Group.getMemberGroup
  rw [h]

theorem Group.type_cases (g : Group) : g.groupType = .normal ∨ g.groupType = .raid := by
  cases g.groupType with
  | normal => exact .inl rfl
  | raid => exact .inr rfl

theorem Shape.lead (h : Shape g) (guid : Nat) : Shape (g.lead guid) :=
  ⟨h.distinct, h.nonzero, h.party, h.raid⟩

theorem Shape.raid_of_isRaidGroup (h : Shape g) (hraid : g.isRaidGroup = true) :
    g.groupType = .raid ∧ g.memberSlots.length ≤ maxRaidSize ∧
      ∃ counts, g.subGroupsCounts = some counts ∧ Counted g.memberSlots counts := by
  have htype : g.groupType = .raid := by simpa [Group.isRaidGroup] using hraid
  exact ⟨htype, h.raid htype⟩

theorem Shape.rewrite (h : Shape g) {slots : List MemberSlot} {counts : Option (Nat → Nat)}
    (hraid : g.groupType = .raid) (hguids : slots.map (fun slot => slot.guid) = g.guids)
    (hcounted : ∃ c, counts = some c ∧ Counted slots c) :
    Shape { g with memberSlots := slots, subGroupsCounts := counts } := by
  have hlength : slots.length = g.memberSlots.length := by
    have hlen := congrArg List.length hguids
    simpa [Group.guids] using hlen
  refine ⟨?_, ?_, ?_, ?_⟩
  · show (slots.map fun slot => slot.guid).Nodup
    rw [hguids]
    exact h.distinct
  · intro slot hslot
    have hmem : slot.guid ∈ g.guids := hguids ▸ mem_map_of_mem hslot
    obtain ⟨old, hold, heq⟩ := mem_map.mp hmem
    rw [← heq]
    exact h.nonzero old hold
  · intro hnormal
    have hnormal : g.groupType = .normal := hnormal
    rw [hraid] at hnormal
    cases hnormal
  · intro _
    refine ⟨?_, hcounted⟩
    show slots.length ≤ maxRaidSize
    rw [hlength]
    exact (h.raid hraid).1

theorem Sound.rewrite (h : Sound g) {slots : List MemberSlot} {counts : Option (Nat → Nat)}
    (hraid : g.groupType = .raid) (hguids : slots.map (fun slot => slot.guid) = g.guids)
    (hcounted : ∃ c, counts = some c ∧ Counted slots c) :
    Sound { g with memberSlots := slots, subGroupsCounts := counts } := by
  refine ⟨h.toShape.rewrite hraid hguids hcounted, ?_⟩
  show g.leaderGuid ∈ slots.map fun slot => slot.guid
  rw [hguids]
  exact h.leader

theorem Group.freeSubGroup_room (h : g.freeSubGroup = some subgroup) :
    (g.subGroupsCounts = none ∧ subgroup = 0) ∨
      ∃ counts, g.subGroupsCounts = some counts ∧ subgroup < maxRaidSubgroups ∧ counts subgroup < maxGroupSize := by
  unfold Group.freeSubGroup at h
  split at h
  · rename_i hnone
    exact .inl ⟨hnone, (Option.some.inj h).symm⟩
  · rename_i counts hcounts
    refine .inr ⟨counts, hcounts, ?_, ?_⟩
    · simpa using mem_of_find?_eq_some h
    · simpa using List.find?_some h

theorem Shape.appendSlot (h : Shape g) (hguid : guid ∉ g.guids) (hne : guid ≠ 0) (hfull : g.isFull = false)
    (hfree : g.freeSubGroup = some subgroup) : Shape (g.appendSlot guid subgroup) := by
  have hguids : (g.appendSlot guid subgroup).guids = g.guids ++ [guid] := map_append
  refine ⟨?_, ?_, ?_, ?_⟩
  · rw [hguids]
    exact Lists.nodup_concat h.distinct hguid
  · intro slot hslot
    rcases mem_append.mp hslot with hold | hnew
    · exact h.nonzero slot hold
    · rw [mem_singleton.mp hnew]
      exact hne
  · intro hnormal
    have hnormal : g.groupType = .normal := hnormal
    obtain ⟨-, hbg, hnone, hzero⟩ := h.party hnormal
    have hsub : subgroup = 0 := by
      rcases Group.freeSubGroup_room hfree with ⟨-, hsub⟩ | ⟨counts, hsome, -⟩
      · exact hsub
      · rw [hnone] at hsome
        cases hsome
    refine ⟨?_, hbg, ?_, ?_⟩
    · simp only [Group.isFull, hnormal, if_true, Group.getMembersCount] at hfull
      show (g.memberSlots ++ [_]).length ≤ maxGroupSize
      rw [length_append]
      exact Nat.lt_of_not_le (of_decide_eq_false hfull)
    · show g.subGroupsCounts.map _ = none
      rw [hnone]
      rfl
    · intro slot hslot
      rcases mem_append.mp hslot with hold | hnew
      · exact hzero slot hold
      · rw [mem_singleton.mp hnew]
        exact hsub
  · intro hraid
    have hraid : g.groupType = .raid := hraid
    obtain ⟨-, counts, hcounts, hcounted⟩ := h.raid hraid
    obtain ⟨hsub, hroom⟩ : subgroup < maxRaidSubgroups ∧ counts subgroup < maxGroupSize := by
      rcases Group.freeSubGroup_room hfree with ⟨hnone, -⟩ | ⟨counts', hsome, hsub, hroom⟩
      · rw [hnone] at hcounts
        cases hcounts
      · rw [hcounts, Option.some.injEq] at hsome
        subst hsome
        exact ⟨hsub, hroom⟩
    refine ⟨?_, Group.increase counts subgroup, ?_, hcounted.append guid hsub hroom⟩
    · simp only [Group.isFull, hraid, reduceCtorEq, if_false, Group.getMembersCount] at hfull
      show (g.memberSlots ++ [_]).length ≤ maxRaidSize
      rw [length_append]
      exact Nat.lt_of_not_le (of_decide_eq_false hfull)
    · show g.subGroupsCounts.map _ = _
      rw [hcounts]
      rfl

theorem Shape.eraseSlot (h : Shape g) (guid : Nat) : Shape (g.eraseSlot guid) := by
  unfold Group.eraseSlot
  split
  · exact h
  · rename_i slot hslot
    have hsub := eraseP_sublist (p := fun slot : MemberSlot => decide (slot.guid = guid)) (l := g.memberSlots)
    refine ⟨h.distinct.sublist (hsub.map _), fun other hother => h.nonzero other (hsub.mem hother), ?_, ?_⟩
    · intro hnormal
      obtain ⟨hsize, hbg, hnone, hzero⟩ := h.party hnormal
      refine ⟨Nat.le_trans hsub.length_le hsize, hbg, ?_, fun other hother => hzero other (hsub.mem hother)⟩
      show g.subGroupsCounts.map _ = none
      rw [hnone]
      rfl
    · intro hraid
      obtain ⟨hsize, counts, hcounts, hcounted⟩ := h.raid hraid
      refine ⟨Nat.le_trans hsub.length_le hsize, Group.decrease counts slot.group, ?_, hcounted.erase hslot⟩
      show g.subGroupsCounts.map _ = _
      rw [hcounts]
      rfl

theorem mem_guids_eraseSlot {other : Nat} (h : other ∈ g.guids) (hne : other ≠ guid) :
    other ∈ (g.eraseSlot guid).guids := by
  unfold Group.eraseSlot
  split
  · exact h
  · obtain ⟨slot, hslot, rfl⟩ := mem_map.mp h
    refine mem_map_of_mem ((mem_eraseP_of_neg ?_).mpr hslot)
    simpa using hne

theorem length_eraseSlot (g : Group) (guid : Nat) :
    g.memberSlots.length ≤ (g.eraseSlot guid).memberSlots.length + 1 := by
  unfold Group.eraseSlot
  split
  · exact Nat.le_succ _
  · rename_i slot hslot
    obtain ⟨hmem, hguid⟩ := Group.getMemberSlot_some hslot
    have hlength := length_eraseP_of_mem (p := fun slot : MemberSlot => decide (slot.guid = guid)) hmem
      (by simpa using hguid)
    show _ ≤ (g.memberSlots.eraseP _).length + 1
    rw [hlength]
    exact Nat.le_of_eq (Nat.succ_pred_eq_of_pos (length_pos_of_mem hmem)).symm

theorem Shape.initRaid (h : Shape g) : Shape ({ g with groupType := .raid }).initRaidSubGroupsCounter := by
  have hcounts : ∀ subgroup, membersIn g.memberSlots subgroup < 256 := by
    intro subgroup
    have hlength : g.memberSlots.length ≤ 40 := by
      rcases g.type_cases with hnormal | hraid
      · exact Nat.le_trans (h.party hnormal).1 (by decide)
      · exact (h.raid hraid).1
    exact Nat.lt_of_le_of_lt (countP_le_length) (by omega)
  refine ⟨h.distinct, h.nonzero, ?_, fun _ => ?_⟩
  · intro hnormal
    cases hnormal
  have hexact : ∀ subgroup, g.memberSlots.foldl (fun counts slot => Group.increase counts slot.group)
      (fun _ => 0) subgroup = membersIn g.memberSlots subgroup := fun subgroup => by
    rw [foldl_increase _ _ _ (by rw [Nat.zero_add]; exact hcounts subgroup), Nat.zero_add]
  rcases g.type_cases with hnormal | hraid
  · obtain ⟨hsize, -, -, hzero⟩ := h.party hnormal
    refine ⟨Nat.le_trans hsize (by decide), _, rfl, ?_, fun subgroup _ => hexact subgroup, ?_⟩
    · intro slot hslot
      rw [hzero slot hslot]
      decide
    · intro subgroup _
      rw [hexact]
      exact Nat.le_trans countP_le_length hsize
  · obtain ⟨hsize, counts, -, hcounted⟩ := h.raid hraid
    refine ⟨hsize, _, rfl, hcounted.groups, fun subgroup _ => hexact subgroup, ?_⟩
    intro subgroup hsub
    rw [hexact, ← hcounted.exact subgroup hsub]
    exact hcounted.room subgroup hsub

end

section

variable {w : World} {guid subgroup : Nat}

theorem Shape.addMember (h : Shape w.group) (hguid : guid ∉ w.group.guids) :
    (w.addMember guid).group = w.group ∨
      ∃ subgroup, (w.addMember guid).group = w.group.appendSlot guid subgroup ∧
        Shape (w.group.appendSlot guid subgroup) := by
  unfold World.addMember
  split
  · exact .inl rfl
  · rename_i subgroup hfree
    split_ifs with hfull hzero
    · exact .inl rfl
    · exact .inl rfl
    · exact .inr ⟨subgroup, rfl, h.appendSlot hguid hzero (by simpa using hfull) hfree⟩

theorem Sound.addMember (h : Sound w.group) (hguid : guid ∉ w.group.guids) : Sound (w.addMember guid).group := by
  rcases h.toShape.addMember hguid with heq | ⟨subgroup, heq, hshape⟩
  · rw [heq]
    exact h
  · rw [heq]
    refine ⟨hshape, ?_⟩
    have hguids : (w.group.appendSlot guid subgroup).guids = w.group.guids ++ [guid] := map_append
    rw [hguids]
    exact mem_append_left _ h.leader

theorem setLeader_cases (w : World) (guid : Nat) :
    (guid ∈ w.group.guids ∧ (w.setLeader guid).group = w.group.lead guid) ∨
      (guid ∉ w.group.guids ∧ (w.setLeader guid).group = w.group) := by
  unfold World.setLeader
  split
  · rename_i hnone
    refine .inr ⟨fun hmem => ?_, rfl⟩
    obtain ⟨slot, hslot⟩ := Group.getMemberSlot_of_mem hmem
    rw [hnone] at hslot
    cases hslot
  · rename_i slot hslot
    obtain ⟨hmem, hguid⟩ := Group.getMemberSlot_some hslot
    refine .inl ⟨hguid ▸ mem_map_of_mem hmem, ?_⟩
    rw [hguid]

theorem Sound.setLeader (h : Sound w.group) (guid : Nat) : Sound (w.setLeader guid).group := by
  rcases setLeader_cases w guid with ⟨hmem, heq⟩ | ⟨-, heq⟩
  · rw [heq]
    exact ⟨h.toShape.lead guid, hmem⟩
  · rw [heq]
    exact h

theorem candidates_mem (first : Nat) (slots : List MemberSlot)
    (hslots : ∀ slot ∈ slots, slot.guid ∈ w.group.guids) (hfirst : first = 0 ∨ first ∈ w.group.guids) :
    ((w.candidates first slots).1 = 0 ∨ (w.candidates first slots).1 ∈ w.group.guids) ∧
      ((w.candidates first slots).2 = 0 ∨ (w.candidates first slots).2 ∈ w.group.guids) := by
  induction slots generalizing first with
  | nil => exact ⟨hfirst, .inl rfl⟩
  | cons slot rest ih =>
    have hrest : ∀ slot ∈ rest, slot.guid ∈ w.group.guids := fun slot hslot =>
      hslots slot (mem_cons_of_mem _ hslot)
    have hslot := hslots slot mem_cons_self
    unfold World.candidates
    split
    · exact ih _ hrest hfirst
    split
    · exact ih _ hrest hfirst
    split_ifs
    · exact ih _ hrest hfirst
    · exact ih _ hrest (.inr hslot)
    · exact ih _ hrest hfirst
    · exact ⟨hfirst, .inr hslot⟩

-- After a choice the leader is a member, whoever it was before; an offline
-- leader may also stay.
theorem chooseLeader_cases (offline : Bool)
    (hcount : w.group.getMembersMinCount ≤ w.group.getMembersCount) :
    (∃ guid ∈ w.group.guids, (w.chooseLeader offline).group = w.group.lead guid) ∨
      (offline = true ∧ (w.chooseLeader offline).group = w.group) := by
  obtain ⟨hfirst, hchosen⟩ := candidates_mem (w := w) 0 w.group.memberSlots
    (fun slot hslot => mem_map_of_mem hslot) (.inl rfl)
  have hset : ∀ guid ∈ w.group.guids,
      ∃ other ∈ w.group.guids, (w.setLeader guid).group = w.group.lead other := by
    intro guid hguid
    rcases setLeader_cases w guid with ⟨-, heq⟩ | ⟨hnone, -⟩
    · exact ⟨guid, hguid, heq⟩
    · exact absurd hguid hnone
  unfold World.chooseLeader
  rw [if_neg (Nat.not_lt_of_le hcount)]
  dsimp only
  have hbest : (if (w.candidates 0 w.group.memberSlots).2 = 0 then (w.candidates 0 w.group.memberSlots).1
        else (w.candidates 0 w.group.memberSlots).2) = 0 ∨
      (if (w.candidates 0 w.group.memberSlots).2 = 0 then (w.candidates 0 w.group.memberSlots).1
        else (w.candidates 0 w.group.memberSlots).2) ∈ w.group.guids := by
    split_ifs with hzero
    · exact hfirst
    · exact .inr (hchosen.resolve_left hzero)
  generalize (if (w.candidates 0 w.group.memberSlots).2 = 0 then (w.candidates 0 w.group.memberSlots).1
    else (w.candidates 0 w.group.memberSlots).2) = chosen at hbest ⊢
  split_ifs with hstay hzero
  · exact .inr ⟨hstay.1, rfl⟩
  · refine .inl ?_
    have hpos : 0 < w.group.memberSlots.length := by
      refine Nat.lt_of_lt_of_le ?_ hcount
      unfold Group.getMembersMinCount
      split_ifs <;> decide
    obtain ⟨slot, rest, hslots⟩ := exists_cons_of_length_pos hpos
    have hmem : slot.guid ∈ w.group.guids := by
      refine mem_map_of_mem ?_
      rw [hslots]
      exact mem_cons_self
    have hhead : w.group.memberSlots.head? = some slot := by rw [hslots]; rfl
    simp only [hhead]
    exact hset slot.guid hmem
  · exact .inl (hset chosen (hbest.resolve_left hzero))

theorem Sound.chooseLeader (h : Sound w.group) (offline : Bool) : Sound (w.chooseLeader offline).group := by
  by_cases hcount : w.group.getMembersMinCount ≤ w.group.getMembersCount
  · rcases chooseLeader_cases offline hcount with ⟨guid, hguid, heq⟩ | ⟨-, heq⟩
    · rw [heq]
      exact ⟨h.toShape.lead guid, hguid⟩
    · rw [heq]
      exact h
  · unfold World.chooseLeader
    rw [if_pos (Nat.lt_of_not_le hcount)]
    exact h

theorem Sound.dropMember (h : Sound w.group)
    (hcount : w.group.getMembersMinCount < w.group.getMembersCount) : Sound (w.dropMember guid).group := by
  have hshape := h.toShape.eraseSlot guid
  have hleader : (w.group.eraseSlot guid).leaderGuid = w.group.leaderGuid := by
    unfold Group.eraseSlot
    split <;> rfl
  have hmin : (w.group.eraseSlot guid).getMembersMinCount = w.group.getMembersMinCount := by
    unfold Group.eraseSlot
    split <;> rfl
  have hlength := length_eraseSlot w.group guid
  unfold World.dropMember
  dsimp only
  split_ifs with hremoved
  · generalize hv : ({ w.updateFound guid w.unlinkMember with group := w.group.eraseSlot guid } : World) = v
    have hgroup : v.group = w.group.eraseSlot guid := by rw [← hv]
    have henough : v.group.getMembersMinCount ≤ v.group.getMembersCount := by
      rw [hgroup, hmin]
      unfold Group.getMembersCount at hcount ⊢
      omega
    rcases chooseLeader_cases false henough with ⟨other, hother, heq⟩ | ⟨hfalse, -⟩
    · rw [heq]
      refine ⟨Shape.lead ?_ other, hother⟩
      rw [hgroup]
      exact hshape
    · cases hfalse
  · refine ⟨hshape, ?_⟩
    rw [hleader] at hremoved
    show (w.group.eraseSlot guid).leaderGuid ∈ (w.group.eraseSlot guid).guids
    rw [hleader]
    exact mem_guids_eraseSlot h.leader hremoved

-- A move is stale when it reads the member's old subgroup from a reference
-- that does not know it.
def StaleMove (w : World) (guid subgroup : Nat) : Prop :=
  w.group.isRaidGroup = true ∧ subgroup < maxRaidSubgroups ∧ w.group.subGroupFull subgroup = false ∧
    w.group.getMemberGroup guid < maxRaidSubgroups ∧ w.group.getMemberGroup guid ≠ subgroup ∧
    ∃ p ∈ w.getPlayer guid, w.isCurrent p = false ∧ p.originalGroup.subGroup ≠ w.group.getMemberGroup guid

theorem Sound.moveSlot (h : Sound w.group) {slot : MemberSlot} (hraid : w.group.isRaidGroup = true)
    (hslot : w.group.getMemberSlot guid = some slot) (hsub : subgroup < maxRaidSubgroups)
    (hroom : w.group.subGroupFull subgroup = false) (hne : slot.group ≠ subgroup) :
    ∃ group, w.group.setMembersGroup guid subgroup = some group ∧
      Sound (group.subGroupCounterDecrease slot.group) := by
  obtain ⟨htype, -, counts, hcounts, hcounted⟩ := h.toShape.raid_of_isRaidGroup hraid
  have hlt : counts subgroup < maxGroupSize := by
    unfold Group.subGroupFull at hroom
    rw [hcounts] at hroom
    exact Nat.lt_of_not_le (of_decide_eq_false hroom)
  refine ⟨_, by unfold Group.setMembersGroup; rw [hslot], ?_⟩
  refine h.rewrite htype (map_setSlotGroup guid subgroup _) ⟨_, ?_, hcounted.move hslot hsub hlt hne⟩
  show (w.group.subGroupsCounts.map _).map _ = _
  rw [hcounts]
  rfl

theorem setMembersGroup_none {g : Group} (hslot : g.getMemberSlot guid = none) :
    g.setMembersGroup guid subgroup = none := by
  unfold Group.setMembersGroup
  rw [hslot]

theorem Sound.changeMembersGroup (h : Sound w.group) (hok : ¬StaleMove w guid subgroup) :
    Sound (w.changeMembersGroup guid subgroup).group := by
  unfold World.changeMembersGroup
  by_cases hguard : !w.group.isRaidGroup ∨ maxRaidSubgroups ≤ subgroup
  · rw [if_pos hguard]
    exact h
  by_cases hfull : w.group.subGroupFull subgroup = true
  · rw [if_neg hguard, if_pos hfull]
    exact h
  rw [if_neg hguard, if_neg hfull]
  simp only [Bool.not_eq_true', not_or, Bool.not_eq_false, Nat.not_le] at hguard
  obtain ⟨hraid, hsub⟩ := hguard
  have hroom : w.group.subGroupFull subgroup = false := by simpa using hfull
  cases hp : w.getPlayer guid with
  | none =>
    by_cases hsame : w.group.getMemberGroup guid = subgroup
    · rw [if_pos hsame]
      exact h
    rw [if_neg hsame]
    cases hslot : w.group.getMemberSlot guid with
    | none =>
      rw [setMembersGroup_none hslot]
      exact h
    | some slot =>
      rw [Group.getMemberGroup_some hslot] at hsame ⊢
      obtain ⟨group, hgroup, hsound⟩ := h.moveSlot hraid hslot hsub hroom hsame
      rw [hgroup]
      exact hsound
  | some p =>
    dsimp only
    unfold World.changePlayersGroup
    by_cases hprev : w.group.getMemberGroup guid = subgroup ∨ maxRaidSubgroups ≤ w.group.getMemberGroup guid
    · rw [if_pos hprev]
      exact h
    rw [if_neg hprev, if_neg hfull]
    simp only [not_or, Nat.not_le] at hprev
    obtain ⟨hne, hlt⟩ := hprev
    cases hslot : w.group.getMemberSlot guid with
    | none =>
      rw [setMembersGroup_none hslot]
      exact h
    | some slot =>
      have hold : (if w.isCurrent p then w.group.getMemberGroup guid else p.originalGroup.subGroup) =
          slot.group := by
        rw [← Group.getMemberGroup_some hslot]
        by_cases hcurrent : w.isCurrent p = true
        · rw [if_pos hcurrent]
        · rw [if_neg hcurrent]
          by_contra hstale
          exact hok ⟨hraid, hsub, hroom, hlt, hne, p, hp, by simpa using hcurrent, hstale⟩
      obtain ⟨group, hgroup, hsound⟩ :=
        h.moveSlot hraid hslot hsub hroom (Group.getMemberGroup_some hslot ▸ hne)
      rw [hgroup]
      rw [hold]
      exact hsound

theorem Sound.swapMembersGroup (h : Sound w.group) (swapGuid : Nat) :
    Sound (w.swapMembersGroup guid swapGuid).group := by
  unfold World.swapMembersGroup
  split_ifs with hguard
  · exact h
  have hraid : w.group.isRaidGroup = true := by simpa using hguard
  obtain ⟨htype, -, counts, hcounts, hcounted⟩ := h.toShape.raid_of_isRaidGroup hraid
  dsimp only
  split_ifs with hsame
  · exact h
  simp only [not_or] at hsame
  split
  · exact h
  · rename_i group hgroup
    unfold Group.exchangeSlots at hgroup
    split at hgroup
    · rename_i slot swapSlot hslot hswap
      have hne : swapGuid ≠ guid := by
        rintro rfl
        exact hsame.1 rfl
      rw [Option.some.injEq] at hgroup
      rw [← hgroup]
      refine h.rewrite htype ?_ ⟨counts, hcounts, hcounted.exchange hslot hswap hne⟩
      rw [map_setSlotGroup, map_setSlotGroup]
      rfl
    · cases hgroup

theorem Sound.setAssistant (h : Sound w.group) (state : Bool) : Sound (w.setAssistant guid state).group := by
  unfold World.setAssistant
  split_ifs with hguard
  · exact h
  have hraid : w.group.isRaidGroup = true := by simpa using hguard
  obtain ⟨htype, -, counts, hcounts, hcounted⟩ := h.toShape.raid_of_isRaidGroup hraid
  have hgroups : (setSlotAssistant guid state w.group.memberSlots).map (fun slot => slot.group) =
      w.group.memberSlots.map fun slot => slot.group := map_setSlotAssistant _ (fun _ _ => rfl) guid state _
  refine h.rewrite htype (map_setSlotAssistant _ (fun _ _ => rfl) guid state _) ⟨counts, hcounts, ?_, ?_, hcounted.room⟩
  · intro slot hslot
    have hmem : slot.group ∈ w.group.memberSlots.map fun slot => slot.group :=
      hgroups ▸ mem_map_of_mem hslot
    obtain ⟨old, hold, heq⟩ := mem_map.mp hmem
    rw [← heq]
    exact hcounted.groups old hold
  · intro subgroup hsub
    rw [hcounted.exact subgroup hsub]
    have hcount := congrArg (List.countP fun group => decide (group = subgroup)) hgroups
    rw [countP_map, countP_map] at hcount
    exact hcount.symm

end

-- What holds of a group from its creation until it is disbanded.
structure WellFormed (g : Group) : Prop where
  distinct : g.guids.Nodup
  leader : g.leaderGuid ∈ g.guids
  party : g.groupType = .normal → g.memberSlots.length ≤ maxGroupSize
  raid : g.groupType = .raid → g.memberSlots.length ≤ maxRaidSize ∧
    ∃ counts, g.subGroupsCounts = some counts ∧ ∀ subgroup < maxRaidSubgroups,
      counts subgroup = membersIn g.memberSlots subgroup ∧ counts subgroup ≤ maxGroupSize

theorem Sound.wellFormed {g : Group} (h : Sound g) : WellFormed g := by
  refine ⟨h.distinct, h.leader, fun hnormal => (h.party hnormal).1, fun hraid => ?_⟩
  obtain ⟨hsize, counts, hcounts, hcounted⟩ := h.raid hraid
  exact ⟨hsize, counts, hcounts, fun subgroup hsub => ⟨hcounted.exact subgroup hsub, hcounted.room subgroup hsub⟩⟩

-- Who joins is not a member yet, as the callers check.
def Joins (w : World) : Op → Prop
  | .addMember guid => guid ∉ w.group.guids
  | _ => True

-- And no move of an online member reads a stale subgroup.
def KeepsCounters (w : World) : Op → Prop
  | .addMember guid => guid ∉ w.group.guids
  | .changeMembersGroup guid subgroup => ¬StaleMove w guid subgroup
  | _ => True

instance (w : World) (op : Op) : Decidable (Joins w op) := by
  cases op with
  | addMember guid => exact inferInstanceAs (Decidable (guid ∉ w.group.guids))
  | _ => exact inferInstanceAs (Decidable True)

instance (w : World) (guid subgroup : Nat) : Decidable (StaleMove w guid subgroup) :=
  inferInstanceAs (Decidable (_ ∧ _))

instance (w : World) (op : Op) : Decidable (KeepsCounters w op) := by
  cases op with
  | addMember guid => exact inferInstanceAs (Decidable (guid ∉ w.group.guids))
  | changeMembersGroup guid subgroup => exact inferInstanceAs (Decidable (¬StaleMove w guid subgroup))
  | _ => exact inferInstanceAs (Decidable True)

theorem sound_perform {w : World} {op : Op} (h : Sound w.group) (hok : KeepsCounters w op) :
    (w.perform op).group.memberSlots = [] ∨ Sound (w.perform op).group := by
  cases op with
  | addMember guid => exact .inr (h.addMember hok)
  | removeMember guid =>
    simp only [World.perform, World.removeMember]
    split_ifs with hcount
    · exact .inr (h.dropMember hcount)
    · exact .inl rfl
  | convertToRaid => exact .inr ⟨h.toShape.initRaid, h.leader⟩
  | changeMembersGroup guid subgroup => exact .inr (h.changeMembersGroup hok)
  | swapMembersGroup guid swapGuid => exact .inr (h.swapMembersGroup swapGuid)
  | changeLeader guid => exact .inr (h.setLeader guid)
  | updateOfflineLeader =>
    simp only [World.perform, World.updateOfflineLeader]
    split_ifs
    · exact .inr h
    · exact .inr (h.chooseLeader true)
  | setAssistant guid state => exact .inr (h.setAssistant state)
  | login guid => exact .inr h
  | logout guid => exact .inr h
  | enterWorld guid => exact .inr h
  | leaveWorld guid => exact .inr h
  | joinBattleGround guid bgGroup subgroup => exact .inr h
  | leaveBattleGround guid => exact .inr h

def Group.started (g : Group) (guid : Nat) : Group :=
  let group := { g with leaderGuid := guid, groupType := if g.bgGroup then .raid else .normal }
  if group.groupType = .raid then group.initRaidSubGroupsCounter else group

theorem shape_started (id : Nat) (bgGroup : Bool) (guid : Nat) :
    Shape ((Group.new id bgGroup).started guid) ∧ ((Group.new id bgGroup).started guid).memberSlots = [] ∧
      ((Group.new id bgGroup).started guid).leaderGuid = guid := by
  have hnone : ∀ slot, slot ∉ ((Group.new id bgGroup).started guid).memberSlots := by
    intro slot hslot
    cases bgGroup <;> cases hslot
  refine ⟨⟨?_, fun slot hslot => absurd hslot (hnone slot), ?_, ?_⟩, ?_, ?_⟩
  · cases bgGroup <;> exact nodup_nil
  · intro hnormal
    cases bgGroup with
    | false => exact ⟨Nat.zero_le _, rfl, rfl, fun slot hslot => absurd hslot (hnone slot)⟩
    | true => cases hnormal
  · intro hraid
    cases bgGroup with
    | false => cases hraid
    | true =>
      refine ⟨Nat.zero_le _, fun _ => 0, rfl, fun slot hslot => absurd hslot (hnone slot), fun _ _ => rfl, ?_⟩
      exact fun _ _ => Nat.zero_le _
  · cases bgGroup <;> rfl
  · cases bgGroup <;> rfl

theorem sound_create {w : World} {id : Nat} {bgGroup : Bool} (hnew : w.group = Group.new id bgGroup)
    (guid : Nat) : (w.create guid).group.memberSlots = [] ∨ Sound (w.create guid).group := by
  obtain ⟨hshape, hslots, hleader⟩ := shape_started id bgGroup guid
  have hcreate : w.create guid = World.addMember { w with group := (Group.new id bgGroup).started guid } guid := by
    rw [← hnew]
    rfl
  generalize hv : ({ w with group := (Group.new id bgGroup).started guid } : World) = v at hcreate
  have hgroup : v.group = (Group.new id bgGroup).started guid := by rw [← hv]
  rw [← hgroup] at hshape hslots hleader
  rw [hcreate]
  have hnot : guid ∉ v.group.guids := by
    rw [Group.guids, hslots]
    exact not_mem_nil
  rcases hshape.addMember hnot with heq | ⟨subgroup, heq, happended⟩
  · rw [heq]
    exact .inl hslots
  · rw [heq]
    refine .inr ⟨happended, ?_⟩
    have hguids : (v.group.appendSlot guid subgroup).guids = v.group.guids ++ [guid] := map_append
    rw [hguids]
    show v.group.leaderGuid ∈ _
    rw [hleader]
    exact mem_append_right _ (mem_singleton_self guid)

theorem wellFormed_run {w : World} {id guid : Nat} {bgGroup : Bool} {ops : List Op}
    (hnew : w.group = Group.new id bgGroup) (hruns : Run.Guarded World.step KeepsCounters (w.create guid) ops)
    (halive : (Run.run World.step (w.create guid) ops).group.memberSlots ≠ []) :
    WellFormed (Run.run World.step (w.create guid) ops).group := by
  have hrun := Run.run_invariant World.step KeepsCounters
    (fun w => w.group.memberSlots = [] ∨ Sound w.group) ?_ (sound_create hnew guid) hruns
  · exact (hrun.resolve_left halive).wellFormed
  · intro w op hw hok
    unfold World.step
    split_ifs with hgone
    · exact hw
    · exact sound_perform (hw.resolve_left hgone) hok

def sampleWorld : World :=
  { group := .new 1 false,
    players := fun guid =>
      if 1 ≤ guid ∧ guid ≤ 3 then
        some { inWorld := true, session := true, group := .unlinked, originalGroup := .unlinked }
      else none }

def raidOps : List Op := [.addMember 2, .addMember 3, .convertToRaid, .changeMembersGroup 2 1, .removeMember 1]

theorem wellFormed_run_raid : WellFormed (Run.run World.step (sampleWorld.create 1) raidOps).group := by
  have hnew : (sampleWorld).group = Group.new 1 false := rfl
  exact wellFormed_run hnew (by decide) (by decide)

-- The raid's leader moves a member who is in a battleground, first while he
-- is on a loading screen and then again.
def moveTwice : List Op :=
  [.addMember 2, .convertToRaid, .joinBattleGround 2 7 0, .leaveWorld 2, .changeMembersGroup 2 1,
    .enterWorld 2, .changeMembersGroup 2 2]

theorem not_wellFormed_run : ¬∀ (w : World) (id guid : Nat) (bgGroup : Bool) (ops : List Op),
    w.group = Group.new id bgGroup → Run.Guarded World.step Joins (w.create guid) ops →
    (Run.run World.step (w.create guid) ops).group.memberSlots ≠ [] →
    WellFormed (Run.run World.step (w.create guid) ops).group := by
  intro h
  have hrun := h sampleWorld 1 1 false moveTwice rfl (by decide) (by decide)
  obtain ⟨-, counts, hcounts, hexact⟩ := hrun.raid (by decide)
  have hone : counts 1 = 1 := by
    have hvalue : (Run.run World.step (sampleWorld.create 1) moveTwice).group.subGroupsCounts.map (fun c => c 1) =
        some 1 := by decide
    rw [hcounts] at hvalue
    exact Option.some.inj hvalue
  have hnone : membersIn (Run.run World.step (sampleWorld.create 1) moveTwice).group.memberSlots 1 = 0 := by decide
  have hsame := (hexact 1 (by decide)).1
  rw [hone, hnone] at hsame
  cases hsame

end TurtleWow.Groups

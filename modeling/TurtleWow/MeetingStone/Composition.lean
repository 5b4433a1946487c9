import TurtleWow.MeetingStone.Joining
import TurtleWow.MeetingStone.Roles

namespace TurtleWow.MeetingStone

open List OrderedMap

-- What becomes of one group from the moment its leader queues it.

namespace LFGQueue

-- An entry of the queue has the roles of its player's class, and no group has a
-- member twice.
structure Rostered (classOf : Nat → Classes) (q : LFGQueue) : Prop extends Apart q where
  known : ∀ guid info, q.queuedPlayers.find guid = some info ∨ q.offlinePlayers.find guid = some info →
    info.roleMask = calculateRoles (classOf guid)
  distinct : ∀ id party, q.groups.find id = some party → party.memberSlots.Nodup

-- The group can be made complete, and as long as it is queued and not full its
-- entry says how.
structure Completing (classOf : Nat → Classes) (party : Party) (queued : Option GroupQueueInfo) : Prop where
  isRaid : party.isRaid = false
  assignable : Assignable classOf party.memberSlots
  settled : ∀ entry, queued = some entry → party.isFull = false →
    Settled classOf party.memberSlots { availableRoles := entry.availableRoles, dpsCount := entry.dpsCount }

-- The group may be disbanded; no other gets its id.
structure Composed (classOf : Nat → Classes) (id : Nat) (q : LFGQueue) : Prop where
  old : id < q.nextGroupId
  completing : ∀ party, q.groups.find id = some party → Completing classOf party (q.queuedGroups.find id)

-- Members leave their groups; the players of the queue are the same.
structure Shrinks (q after : LFGQueue) : Prop where
  groups : ∀ id party, after.groups.find id = some party →
    ∃ old, q.groups.find id = some old ∧ party.memberSlots.Sublist old.memberSlots
  nextGroupId : after.nextGroupId = q.nextGroupId
  queuedPlayers : after.queuedPlayers = q.queuedPlayers
  offlinePlayers : after.offlinePlayers = q.offlinePlayers

section

variable {classOf : Nat → Classes} {q after : LFGQueue} {view : View} {guid id other : Nat}
  {info : PlayerQueueInfo} {entry : GroupQueueInfo}

theorem Rostered.requeue (h : Rostered classOf q) (hrequeues : Requeues q after)
    (hplayers : ∀ guid info, after.queuedPlayers.find guid = some info ∨ after.offlinePlayers.find guid = some info →
      info.roleMask = calculateRoles (classOf guid)) : Rostered classOf after :=
  ⟨h.toApart.requeue hrequeues, hplayers, hrequeues.groups ▸ h.distinct⟩

theorem Rostered.shrink (h : Rostered classOf q) (hshrinks : Shrinks q after) : Rostered classOf after := by
  refine ⟨⟨fun id party hparty => ?_, fun guid info hinfo => ?_⟩, ?_, fun id party hparty => ?_⟩
  · obtain ⟨old, hold, -⟩ := hshrinks.groups id party hparty
    rw [hshrinks.nextGroupId]
    exact h.fresh id old hold
  · rw [hshrinks.queuedPlayers] at hinfo
    refine groupOf_none.mpr fun id party hparty hmem => ?_
    obtain ⟨old, hold, hfewer⟩ := hshrinks.groups id party hparty
    exact groupOf_none.mp (h.alone guid info hinfo) id old hold (hfewer.subset hmem)
  · rw [hshrinks.queuedPlayers, hshrinks.offlinePlayers]
    exact h.known
  · obtain ⟨old, hold, hfewer⟩ := hshrinks.groups id party hparty
    exact (h.distinct id old hold).sublist hfewer

theorem Rostered.addToQueue (h : Rostered classOf q) (leader area : Nat) :
    Rostered classOf (q.addToQueue classOf view leader area) := by
  refine h.requeue (requeues_addToQueue leader area) ?_
  unfold LFGQueue.addToQueue
  split
  · split_ifs <;> exact h.known
  · intro guid info hinfo
    rcases hinfo with hqueued | hoffline
    · replace hqueued := (find_insert _).symm.trans hqueued
      split_ifs at hqueued with hsame
      · rw [← Option.some.inj hqueued, hsame]
        rfl
      · exact h.known guid info (.inl hqueued)
    · exact h.known guid info (.inr hoffline)

theorem known_erase (h : ∀ guid info, q.queuedPlayers.find guid = some info ∨ q.offlinePlayers.find guid = some info →
    info.roleMask = calculateRoles (classOf guid)) (left : Nat) (guid : Nat) (info : PlayerQueueInfo)
    (hinfo : (q.queuedPlayers.erase left).find guid = some info ∨ q.offlinePlayers.find guid = some info) :
    info.roleMask = calculateRoles (classOf guid) := by
  refine h guid info (hinfo.imp_left fun hqueued => ?_)
  rw [find_erase] at hqueued
  split_ifs at hqueued
  exact hqueued

theorem Rostered.updatePlayer (h : Rostered classOf q) (diff guid : Nat) :
    Rostered classOf (q.updatePlayer view diff guid) := by
  refine h.requeue (requeues_updatePlayer diff guid) ?_
  unfold LFGQueue.updatePlayer
  cases hinfo : q.queuedPlayers.find guid with
  | none => exact h.known
  | some info =>
    have hknown := h.known guid info (.inl hinfo)
    split_ifs
    · intro other found hfound
      rcases hfound with hqueued | hoffline
      · replace hqueued := (find_insert _).symm.trans hqueued
        split_ifs at hqueued with hsame
        · rw [← Option.some.inj hqueued, hsame]
          exact hknown
        · exact h.known other found (.inl hqueued)
      · exact h.known other found (.inr hoffline)
    · intro other found hfound
      rcases hfound with hqueued | hoffline
      · exact h.known other found (.inl (find_of_find_erase hqueued).1)
      · replace hoffline := (find_insert _).symm.trans hoffline
        split_ifs at hoffline with hsame
        · rw [← Option.some.inj hoffline, hsame]
          exact hknown
        · exact h.known other found (.inr hoffline)

variable {party : Party}

section

variable (h : Rostered classOf q)

include h

theorem Rostered.outside (hinfo : q.queuedPlayers.find guid = some info)
    (hparty : q.groups.find id = some party) : guid ∉ party.memberSlots :=
  groupOf_none.mp (h.alone guid info hinfo) id party hparty

theorem Rostered.joinGroup (role : ClassRoles)
    (hinfo : q.queuedPlayers.find guid = some info) : Rostered classOf (q.joinGroup guid info id entry role) := by
  refine ⟨?_, ?_, ?_⟩
  · rcases joinGroup_cases id entry h.toApart role hinfo with hrequeues | ⟨party, hgrows⟩
    · exact h.toApart.requeue hrequeues
    · exact h.toApart.grow hgrows
  · unfold LFGQueue.joinGroup addMember removePlayerFromQueue
    split
    · exact known_erase h.known guid
    · split_ifs <;> exact known_erase h.known guid
  · unfold LFGQueue.joinGroup addMember removePlayerFromQueue
    cases hparty : q.groups.find id with
    | none => exact h.distinct
    | some party =>
      dsimp only
      split_ifs
      · exact h.distinct
      · intro other found hfound
        replace hfound := (find_insert _).symm.trans hfound
        split_ifs at hfound with hsame
        · rw [← Option.some.inj hfound]
          exact Lists.nodup_concat (h.distinct id party hparty) (h.outside hinfo hparty)
        · exact h.distinct other found hfound

theorem Rostered.createGroup {leader member : Nat × PlayerQueueInfo}
    (hleader : q.queuedPlayers.find leader.1 = some leader.2) (hmember : q.queuedPlayers.find member.1 = some member.2)
    (hne : member.1 ≠ leader.1) : Rostered classOf (q.createGroup classOf view leader member) := by
  refine ⟨h.toApart.grow (grows_createGroup h.toApart hleader hmember hne), ?_, ?_⟩
  · exact known_erase (q := q.removePlayerFromQueue leader.1) (known_erase h.known leader.1) member.1
  · intro other found hfound
    replace hfound := (find_insert _).symm.trans hfound
    split_ifs at hfound with hsame
    · rw [← Option.some.inj hfound]
      simpa using Ne.symm hne
    · exact h.distinct other found hfound

theorem Rostered.restoreOfflinePlayer (guid : Nat) : Rostered classOf (q.restoreOfflinePlayer guid) := by
  refine h.requeue (requeues_restoreOfflinePlayer guid) ?_
  unfold LFGQueue.restoreOfflinePlayer
  split
  · rename_i info _ hinfo
    intro other found hfound
    rcases hfound with hqueued | hoffline
    · replace hqueued := (find_insert _).symm.trans hqueued
      split_ifs at hqueued with hsame
      · rw [← Option.some.inj hqueued, hsame]
        exact h.known guid info (.inr hinfo)
      · exact h.known other found (.inl hqueued)
    · replace hoffline := find_erase.symm.trans hoffline
      split_ifs at hoffline
      exact h.known other found (.inr hoffline)
  · exact h.known

end

section

variable (h : Composed classOf id q)

include h

theorem Composed.requeue (hnext : q.nextGroupId ≤ after.nextGroupId)
    (hgroups : after.groups.find id = q.groups.find id) (hqueued : ∀ entry, after.queuedGroups.find id = some entry → ∃ old, q.queuedGroups.find id = some old ∧
      entry.availableRoles = old.availableRoles ∧ entry.dpsCount = old.dpsCount) : Composed classOf id after := by
  refine ⟨Nat.lt_of_lt_of_le h.old hnext, fun party hparty => ?_⟩
  have hcompleting := h.completing party (hgroups.symm.trans hparty)
  refine ⟨hcompleting.isRaid, hcompleting.assignable, fun entry hentry hopen => ?_⟩
  obtain ⟨old, hold, hroles, hcount⟩ := hqueued entry hentry
  rw [hroles, hcount]
  exact hcompleting.settled old hold hopen

theorem Composed.join (hr : Rostered classOf q) {role : ClassRoles}
    (hentry : q.queuedGroups.find id = some entry) (hinfo : q.queuedPlayers.find guid = some info)
    (hhas : info.roleMask.has role = true) (havailable : entry.availableRoles.has role = true) :
    Composed classOf id (q.joinGroup guid info id entry role) := by
  have hqueued : (q.queuedGroups.insert id (entry.fill role)).find id = some (entry.fill role) :=
    (find_insert _).trans (if_pos rfl)
  unfold LFGQueue.joinGroup addMember removePlayerFromQueue
  cases hparty : q.groups.find id with
  | none => exact ⟨h.old, fun party hfound => by rw [hparty] at hfound; cases hfound⟩
  | some party =>
    have hcompleting := h.completing party hparty
    dsimp only
    by_cases hfull : party.isFull = true
    · rw [if_pos hfull]
      refine ⟨h.old, fun found hfound => ?_⟩
      obtain rfl := Option.some.inj (hparty.symm.trans hfound)
      refine ⟨hcompleting.isRaid, hcompleting.assignable, fun _ _ hopen => ?_⟩
      rw [hfull] at hopen
      cases hopen
    · rw [if_neg hfull]
      have hable : ableTo classOf guid role := by
        unfold ableTo
        rw [← hr.known guid info (.inl hinfo)]
        exact hhas
      have hsettled := (hcompleting.settled entry hentry (Bool.not_eq_true _ ▸ hfull)).join
        (hr.distinct id party hparty) (hr.outside hinfo hparty) hable havailable
      have hlength : (party.memberSlots ++ [guid]).length ≤ maxGroupSize := by
        unfold Party.isFull at hfull
        rw [hcompleting.isRaid] at hfull
        simp only [Bool.false_eq_true, if_false, decide_eq_true_eq, Nat.not_le] at hfull
        rw [length_append]
        exact hfull
      refine ⟨h.old, fun found hfound => ?_⟩
      replace hfound := (find_insert _).symm.trans hfound
      rw [if_pos rfl] at hfound
      cases hfound
      refine ⟨hcompleting.isRaid, hsettled.assignable hlength, fun found hfound _ => ?_⟩
      obtain rfl := Option.some.inj (hqueued.symm.trans hfound)
      exact hsettled

theorem Composed.joinGroup (hr : Rostered classOf q) {role : ClassRoles}
    (hentry : q.queuedGroups.find other = some entry) (hinfo : q.queuedPlayers.find guid = some info)
    (hhas : info.roleMask.has role = true) (havailable : entry.availableRoles.has role = true) :
    Composed classOf id (q.joinGroup guid info other entry role) := by
  by_cases hsame : id = other
  · subst hsame
    exact h.join hr hentry hinfo hhas havailable
  have hkept : (q.queuedGroups.insert other (entry.fill role)).find id = q.queuedGroups.find id :=
    (find_insert _).trans (if_neg hsame)
  unfold LFGQueue.joinGroup addMember removePlayerFromQueue
  split
  · exact h.requeue (Nat.le_refl _) rfl fun found hfound => ⟨found, hkept ▸ hfound, rfl, rfl⟩
  · split_ifs
    · exact h.requeue (Nat.le_refl _) rfl fun found hfound => ⟨found, hkept ▸ hfound, rfl, rfl⟩
    · exact h.requeue (Nat.le_refl _) ((find_insert _).trans (if_neg hsame))
        fun found hfound => ⟨found, hkept ▸ hfound, rfl, rfl⟩

theorem Composed.createGroup (leader member : Nat × PlayerQueueInfo) :
    Composed classOf id (q.createGroup classOf view leader member) := by
  have hne : id ≠ q.nextGroupId := Nat.ne_of_lt h.old
  refine h.requeue (Nat.le_succ _) ((find_insert _).trans (if_neg hne)) fun entry hentry => ⟨entry, ?_, rfl, rfl⟩
  exact ((find_insert _).trans (if_neg hne)).symm.trans hentry

theorem Composed.removeGroup (other : Nat) : Composed classOf id (q.removeGroupFromQueue other) := by
  refine h.requeue (Nat.le_refl _) rfl fun entry hentry => ⟨entry, ?_, rfl, rfl⟩
  replace hentry := find_erase.symm.trans hentry
  split_ifs at hentry
  exact hentry

theorem Composed.waitGroup (other diff : Nat) : Composed classOf id (q.waitGroup other diff) := by
  unfold LFGQueue.waitGroup
  split
  · exact h
  · rename_i old hold
    refine h.requeue (Nat.le_refl _) rfl fun entry hentry => ?_
    replace hentry := (find_insert _).symm.trans hentry
    split_ifs at hentry with hsame
    · exact ⟨old, hsame ▸ hold, Option.some.inj hentry ▸ ⟨rfl, rfl⟩⟩
    · exact ⟨entry, hentry, rfl, rfl⟩

theorem Composed.players (hnext : after.nextGroupId = q.nextGroupId)
    (hgroups : after.groups = q.groups) (hqueued : after.queuedGroups = q.queuedGroups) : Composed classOf id after :=
  ⟨hnext ▸ h.old, by rw [hgroups, hqueued]; exact h.completing⟩

theorem Composed.updatePlayer (diff guid : Nat) :
    Composed classOf id (q.updatePlayer view diff guid) := by
  unfold LFGQueue.updatePlayer
  split
  · exact h
  · split_ifs <;> exact h.players rfl rfl rfl

end

theorem Rostered.removeGroup (h : Rostered classOf q) (id : Nat) : Rostered classOf (q.removeGroupFromQueue id) :=
  h.requeue (requeues_removeGroupFromQueue id) h.known

theorem Rostered.waitGroup (h : Rostered classOf q) (id diff : Nat) : Rostered classOf (q.waitGroup id diff) := by
  refine h.requeue (requeues_waitGroup id diff) ?_
  unfold LFGQueue.waitGroup
  split <;> exact h.known

theorem Rostered.filled (h : Rostered classOf q) (diff : Nat) : Rostered classOf (q.filled view diff) :=
  filled_invariant (Rostered classOf) (fun _ guid h => h.updatePlayer diff guid)
    (fun _ _ _ _ _ role h _ hinfo _ _ _ _ _ => h.joinGroup role hinfo) (fun _ id h _ => h.removeGroup id)
    (fun _ id h => h.waitGroup id diff) h

theorem Composed.filled (h : Composed classOf id q) (hr : Rostered classOf q) (diff : Nat) :
    Composed classOf id (q.filled view diff) :=
  (filled_invariant (fun q => Rostered classOf q ∧ Composed classOf id q)
    (fun _ guid h => ⟨h.1.updatePlayer diff guid, h.2.updatePlayer diff guid⟩)
    (fun _ _ _ _ _ role h hentry hinfo _ _ _ hhas havailable =>
      ⟨h.1.joinGroup role hinfo, h.2.joinGroup h.1 hentry hinfo hhas havailable⟩)
    (fun _ other h _ => ⟨h.1.removeGroup other, h.2.removeGroup other⟩)
    (fun _ other h => ⟨h.1.waitGroup other diff, h.2.waitGroup other diff⟩) ⟨hr, h⟩).2

theorem Rostered.receive (h : Rostered classOf q) (m : Message) : Rostered classOf (q.receive classOf m) := by
  unfold LFGQueue.receive
  split
  · exact h.addToQueue _ _
  · rename_i diff _
    have hfilled : Rostered classOf (q.filled m.view diff) := h.filled diff
    show Rostered classOf ((q.filled m.view diff).formGroup classOf m.view)
    unfold LFGQueue.formGroup
    split
    · exact hfilled
    · rename_i leader member hfirst
      obtain ⟨hleader, hmember, hne, -⟩ := firstTwo_some hfirst
      split_ifs
      · exact hfilled.createGroup hleader hmember hne
      · exact hfilled
  · exact h.restoreOfflinePlayer _
  · rename_i guid _
    refine h.requeue (requeues_leaveQueue guid) ?_
    unfold LFGQueue.leaveQueue
    split
    · split_ifs <;> exact h.known
    · exact fun other found hfound => h.known other found (hfound.imp_left fun hqueued => (find_of_find_erase hqueued).1)

theorem shrinks_insert {fewer : Party} (hparty : q.groups.find id = some party)
    (hfewer : fewer.memberSlots.Sublist party.memberSlots) (hgroups : after.groups = q.groups.insert id fewer)
    (hnext : after.nextGroupId = q.nextGroupId) (hqueued : after.queuedPlayers = q.queuedPlayers)
    (hoffline : after.offlinePlayers = q.offlinePlayers) : Shrinks q after := by
  refine ⟨fun other found hfound => ?_, hnext, hqueued, hoffline⟩
  rw [hgroups, find_insert] at hfound
  split_ifs at hfound with hsame
  · subst hsame
    cases hfound
    exact ⟨party, hparty, hfewer⟩
  · exact ⟨found, hfound, List.Sublist.refl _⟩

theorem shrinks_removeMember (guid : Nat) : Shrinks q (q.removeMember classOf view guid) := by
  have hsame : Shrinks q q := ⟨fun _ party hparty => ⟨party, hparty, List.Sublist.refl _⟩, rfl, rfl, rfl⟩
  unfold removeMember
  split
  · exact hsame
  · rename_i id party hgroup
    obtain ⟨hparty, -⟩ := groupOf_some hgroup
    have herased : ∀ other found, (q.groups.erase id).find other = some found →
        ∃ old, q.groups.find other = some old ∧ found.memberSlots.Sublist old.memberSlots := by
      intro other found hfound
      rw [find_erase] at hfound
      split_ifs at hfound
      exact ⟨found, hfound, List.Sublist.refl _⟩
    by_cases hmany : 2 < party.memberSlots.length
    · rw [if_pos hmany]
      dsimp only
      by_cases hleader : party.leaderGuid = guid
      · rw [if_pos hleader]
        exact shrinks_insert hparty erase_sublist rfl rfl rfl rfl
      · rw [if_neg hleader]
        split_ifs
        · unfold updateGroup
          split
          · split_ifs <;> exact shrinks_insert hparty erase_sublist rfl rfl rfl rfl
          · exact shrinks_insert hparty erase_sublist rfl rfl rfl rfl
        · exact shrinks_insert hparty erase_sublist rfl rfl rfl rfl
    · rw [if_neg hmany]
      unfold disband
      split_ifs <;> exact ⟨herased, rfl, rfl, rfl⟩

theorem Rostered.receiveParty (h : Rostered classOf q) (m : PartyMessage) :
    Rostered classOf (q.receiveParty classOf m) := by
  unfold LFGQueue.receiveParty
  split
  · exact h.receive _
  · exact h.shrink (shrinks_removeMember _)
  · rename_i id guid _
    unfold LFGQueue.changeLeader
    split
    · exact h
    · rename_i party hparty
      split_ifs
      · refine h.shrink (shrinks_insert hparty ?_ rfl rfl rfl rfl)
        exact List.Sublist.refl _
      · exact h

-- The steps that give out the group's roles do so as above: its leader queues
-- it, or a member leaves it while it is queued. The roles of a group that is
-- queued for area 0 are not given out again when a member leaves.
def PlacesParty (classOf : Nat → Classes) (id : Nat) (q : LFGQueue) (m : PartyMessage) : Prop :=
  match m.op with
  | .queue (.addToQueue leader _) =>
    match q.groupOf leader with
    | none => True
    | some (group, party) =>
      group = id → party.leaderGuid = leader → party.isFull = false → Places classOf party.memberSlots
  | .removeMember guid =>
    match q.groupOf guid, q.queuedGroups.find id with
    | some (group, party), some entry =>
      group = id → party.leaderGuid ≠ guid → 2 < party.memberSlots.length →
        0 < entry.areaId ∧ Places classOf (party.memberSlots.erase guid)
    | _, _ => True
  | _ => True

theorem composed_addToQueue (hr : Rostered classOf q) {leader area : Nat}
    (hgroup : q.groupOf leader = some (id, party)) (hleader : party.leaderGuid = leader) (hraid : party.isRaid = false)
    (hassignable : Assignable classOf party.memberSlots)
    (hplaces : PlacesParty classOf id q ⟨view, .queue (.addToQueue leader area)⟩) :
    Composed classOf id (q.addToQueue classOf view leader area) := by
  obtain ⟨hparty, -⟩ := groupOf_some hgroup
  unfold PlacesParty at hplaces
  dsimp only at hplaces
  rw [hgroup] at hplaces
  unfold LFGQueue.addToQueue
  rw [hgroup]
  dsimp only
  rw [if_pos hleader]
  refine ⟨hr.fresh id party hparty, fun found hfound => ?_⟩
  obtain rfl := Option.some.inj (hparty.symm.trans hfound)
  refine ⟨hraid, hassignable, fun entry hentry hopen => ?_⟩
  obtain rfl := Option.some.inj (((find_insert _).trans (if_pos rfl)).symm.trans hentry)
  exact (hplaces rfl hleader hopen).settled (hr.distinct id party hparty) hassignable

section

variable (h : Composed classOf id q)

include h

theorem Composed.addToQueue (hr : Rostered classOf q) {leader area : Nat}
    (hplaces : PlacesParty classOf id q ⟨view, .queue (.addToQueue leader area)⟩) :
    Composed classOf id (q.addToQueue classOf view leader area) := by
  cases hgroup : q.groupOf leader with
  | none =>
    unfold LFGQueue.addToQueue
    rw [hgroup]
    exact h.players rfl rfl rfl
  | some found =>
    obtain ⟨other, party⟩ := found
    by_cases hleader : party.leaderGuid = leader
    · by_cases hsame : id = other
      · subst hsame
        obtain ⟨hparty, -⟩ := groupOf_some hgroup
        have hcompleting := h.completing party hparty
        exact composed_addToQueue hr hgroup hleader hcompleting.isRaid hcompleting.assignable hplaces
      · unfold LFGQueue.addToQueue
        rw [hgroup]
        dsimp only
        rw [if_pos hleader]
        refine h.requeue (Nat.le_refl _) rfl fun entry hentry => ⟨entry, ?_, rfl, rfl⟩
        exact ((find_insert _).trans (if_neg hsame)).symm.trans hentry
    · unfold LFGQueue.addToQueue
      rw [hgroup]
      dsimp only
      rw [if_neg hleader]
      exact h

theorem Composed.receive (hr : Rostered classOf q) {op : Op}
    (hplaces : PlacesParty classOf id q ⟨view, .queue op⟩) : Composed classOf id (q.receive classOf ⟨view, op⟩) := by
  cases op with
  | addToQueue leader area => exact h.addToQueue hr hplaces
  | update diff =>
    have hfilled : Composed classOf id (q.filled view diff) := h.filled hr diff
    show Composed classOf id ((q.filled view diff).formGroup classOf view)
    unfold LFGQueue.formGroup
    split
    · exact hfilled
    · split_ifs
      · exact hfilled.createGroup _ _
      · exact hfilled
  | restoreOfflinePlayer guid =>
    show Composed classOf id (q.restoreOfflinePlayer guid)
    unfold LFGQueue.restoreOfflinePlayer
    split
    · exact h.players rfl rfl rfl
    · exact h
  | leaveQueue guid =>
    show Composed classOf id (q.leaveQueue guid)
    unfold LFGQueue.leaveQueue
    split
    · split_ifs
      · exact h.removeGroup _
      · exact h
    · exact h.players rfl rfl rfl

theorem Composed.elsewhere (hnext : after.nextGroupId = q.nextGroupId)
    (hgroups : after.groups.find id = q.groups.find id) (hqueued : after.queuedGroups.find id = q.queuedGroups.find id) :
    Composed classOf id after :=
  h.requeue (Nat.le_of_eq hnext.symm) hgroups fun entry hentry => ⟨entry, hqueued ▸ hentry, rfl, rfl⟩

theorem Composed.disband (other : Nat) (party : Party) :
    Composed classOf id (q.disband view other party) := by
  have hdisbanded : Composed classOf id ({ q with groups := q.groups.erase other } : LFGQueue) := by
    refine ⟨h.old, fun found hfound => h.completing found ?_⟩
    replace hfound := find_erase.symm.trans hfound
    split_ifs at hfound
    exact hfound
  unfold LFGQueue.disband
  split_ifs
  · exact hdisbanded.removeGroup other
  · exact hdisbanded

theorem Composed.updateGroup (hr : Rostered classOf q)
    (hparty : q.groups.find id = some party)
    (hplaces : ∀ entry, q.queuedGroups.find id = some entry →
      0 < entry.areaId ∧ Places classOf (party.memberSlots.erase guid)) {left : LFGQueue}
    (hleft : left = { q with
      groups := q.groups.insert id { party with memberSlots := party.memberSlots.erase guid } }) :
    Composed classOf id (if left.isInLFG id then left.updateGroup classOf id else left) := by
  have hcompleting := h.completing party hparty
  have hassignable := hcompleting.assignable.sublist (erase_sublist (a := guid))
  have hnodup : (party.memberSlots.erase guid).Nodup := (hr.distinct id party hparty).sublist erase_sublist
  have hnow : left.groups.find id = some { party with memberSlots := party.memberSlots.erase guid } := by
    rw [hleft]
    exact (find_insert _).trans (if_pos rfl)
  have hqueued : left.queuedGroups.find id = q.queuedGroups.find id := by rw [hleft]
  have hnext : left.nextGroupId = q.nextGroupId := by rw [hleft]
  unfold isInLFG
  cases hentry : q.queuedGroups.find id with
  | none =>
    rw [hqueued, hentry]
    show Composed classOf id left
    refine ⟨hnext ▸ h.old, fun found hfound => ?_⟩
    obtain rfl := Option.some.inj (hnow.symm.trans hfound)
    refine ⟨hcompleting.isRaid, hassignable, fun entry hfound => ?_⟩
    rw [hqueued, hentry] at hfound
    cases hfound
  | some entry =>
    obtain ⟨harea, hplaced⟩ := hplaces entry hentry
    rw [hqueued, hentry]
    rw [if_pos (decide_eq_true harea)]
    unfold LFGQueue.updateGroup
    rw [hqueued, hentry, hnow]
    dsimp only
    split_ifs with hfull
    · refine ⟨hnext ▸ h.old, fun found hfound => ?_⟩
      obtain rfl := Option.some.inj (hnow.symm.trans hfound)
      refine ⟨hcompleting.isRaid, hassignable, fun entry _ hopen => ?_⟩
      rw [hfull] at hopen
      cases hopen
    · refine ⟨hnext ▸ h.old, fun found hfound => ?_⟩
      obtain rfl := Option.some.inj (hnow.symm.trans hfound)
      refine ⟨hcompleting.isRaid, hassignable, fun entry hentry _ => ?_⟩
      obtain rfl := Option.some.inj (((find_insert _).trans (if_pos rfl)).symm.trans hentry)
      exact hplaced.settled hnodup hassignable

theorem Composed.leaderLeaves {fewer : Party} (hparty : q.groups.find id = some party)
    (hraid : fewer.isRaid = party.isRaid) (hfewer : fewer.memberSlots.Sublist party.memberSlots) :
    Composed classOf id (({ q with groups := q.groups.insert id fewer } : LFGQueue).removeGroupFromQueue id) := by
  have hcompleting := h.completing party hparty
  refine ⟨h.old, fun found hfound => ?_⟩
  obtain rfl := Option.some.inj (((find_insert _).trans (if_pos rfl)).symm.trans hfound)
  refine ⟨hraid.trans hcompleting.isRaid, hcompleting.assignable.sublist hfewer, fun entry hentry => ?_⟩
  replace hentry := find_erase.symm.trans hentry
  rw [if_pos rfl] at hentry
  cases hentry

end

variable (classOf q) in
theorem updateGroup_elsewhere (hne : id ≠ other) : (q.updateGroup classOf other).nextGroupId = q.nextGroupId ∧
    (q.updateGroup classOf other).groups = q.groups ∧
      (q.updateGroup classOf other).queuedGroups.find id = q.queuedGroups.find id := by
  unfold updateGroup
  split
  · split_ifs
    · exact ⟨rfl, rfl, rfl⟩
    · exact ⟨rfl, rfl, (find_insert _).trans (if_neg hne)⟩
  · exact ⟨rfl, rfl, rfl⟩

theorem Composed.removeMember (h : Composed classOf id q) (hr : Rostered classOf q)
    (hplaces : PlacesParty classOf id q ⟨view, .removeMember guid⟩) :
    Composed classOf id (q.removeMember classOf view guid) := by
  unfold PlacesParty at hplaces
  dsimp only at hplaces
  unfold LFGQueue.removeMember
  cases hgroup : q.groupOf guid with
  | none => exact h
  | some found =>
    obtain ⟨other, party⟩ := found
    obtain ⟨hparty, -⟩ := groupOf_some hgroup
    rw [hgroup] at hplaces
    dsimp only at hplaces ⊢
    by_cases hmany : 2 < party.memberSlots.length
    · rw [if_pos hmany]
      by_cases hleader : party.leaderGuid = guid
      · rw [if_pos hleader]
        by_cases hsame : other = id
        · subst hsame
          exact h.leaderLeaves hparty rfl erase_sublist
        · refine Composed.removeGroup ?_ other
          exact h.elsewhere rfl ((find_insert _).trans (if_neg (Ne.symm hsame))) rfl
      · rw [if_neg hleader]
        by_cases hsame : other = id
        · subst hsame
          refine h.updateGroup hr hparty (fun entry hentry => ?_) rfl
          rw [hentry] at hplaces
          exact hplaces rfl hleader hmany
        · have hinsert : ∀ fewer : Party, (q.groups.insert other fewer).find id = q.groups.find id :=
            fun fewer => (find_insert _).trans (if_neg (Ne.symm hsame))
          split_ifs
          · obtain ⟨hnext, hgroups, hqueued⟩ := updateGroup_elsewhere classOf
              { q with groups := q.groups.insert other { party with memberSlots := party.memberSlots.erase guid } }
              (Ne.symm hsame)
            exact h.elsewhere hnext (by rw [hgroups]; exact hinsert _) hqueued
          · exact h.elsewhere rfl (hinsert _) rfl
    · rw [if_neg hmany]
      exact h.disband other party

theorem Composed.changeLeader (h : Composed classOf id q) (other guid : Nat) : Composed classOf id (q.changeLeader other guid) := by
  unfold LFGQueue.changeLeader
  split
  · exact h
  · rename_i party hparty
    split_ifs
    · by_cases hsame : id = other
      · subst hsame
        refine ⟨h.old, fun found hfound => ?_⟩
        obtain rfl := Option.some.inj (((find_insert _).trans (if_pos rfl)).symm.trans hfound)
        have hcompleting := h.completing party hparty
        exact ⟨hcompleting.isRaid, hcompleting.assignable, hcompleting.settled⟩
      · exact h.elsewhere rfl ((find_insert _).trans (if_neg hsame)) rfl
    · exact h

theorem Composed.receiveParty (h : Composed classOf id q) (hr : Rostered classOf q) {m : PartyMessage}
    (hplaces : PlacesParty classOf id q m) : Composed classOf id (q.receiveParty classOf m) := by
  obtain ⟨view, op⟩ := m
  cases op with
  | queue op => exact h.receive hr hplaces
  | removeMember guid => exact h.removeMember hr hplaces
  | changeLeader other guid => exact h.changeLeader other guid

end

theorem complete_run (classOf : Nat → Classes) {start : LFGQueue} (hstart : start.Rostered classOf)
    {before after : List PartyMessage} {view : View} {leader area id : Nat} {party : Party}
    (hgroup : (Run.run (receiveParty classOf) start before).groupOf leader = some (id, party))
    (hleader : party.leaderGuid = leader) (hraid : party.isRaid = false)
    (hassignable : Assignable classOf party.memberSlots)
    (hruns : Run.Guarded (receiveParty classOf) (PlacesParty classOf id) (Run.run (receiveParty classOf) start before)
      (⟨view, .queue (.addToQueue leader area)⟩ :: after)) {full : Party}
    (hparty : (Run.run (receiveParty classOf) start
      (before ++ ⟨view, .queue (.addToQueue leader area)⟩ :: after)).groups.find id = some full)
    (hfull : full.isFull = true) : Complete classOf full.memberSlots := by
  have hrostered : Rostered classOf (Run.run (receiveParty classOf) start before) :=
    Run.run_invariant (receiveParty classOf) (fun _ _ => True) (Rostered classOf)
      (fun _ m h _ => h.receiveParty m) hstart (Run.guarded_of_forall _ _ (fun _ _ => trivial) _ _)
  rw [Run.run_append, Run.run_cons] at hparty
  rw [Run.guarded_cons] at hruns
  obtain ⟨hplaces, hruns⟩ := hruns
  have hqueued := composed_addToQueue hrostered hgroup hleader hraid hassignable hplaces
  obtain ⟨-, hcomposed⟩ := Run.run_invariant (receiveParty classOf) (PlacesParty classOf id)
    (fun q => Rostered classOf q ∧ Composed classOf id q)
    (fun _ m h hplaces => ⟨h.1.receiveParty m, h.2.receiveParty h.1 hplaces⟩)
    ⟨hrostered.receiveParty ⟨view, .queue (.addToQueue leader area)⟩, hqueued⟩ hruns
  have hcompleting := hcomposed.completing full hparty
  refine hcompleting.assignable.complete ?_
  unfold Party.isFull at hfull
  rw [hcompleting.isRaid] at hfull
  exact of_decide_eq_true hfull

instance (classOf : Nat → Classes) (slots : List Nat) : Decidable (Places classOf slots) :=
  inferInstanceAs (Decidable (_ ∨ _))

instance (classOf : Nat → Classes) (id : Nat) (q : LFGQueue) (m : PartyMessage) : Decidable (PlacesParty classOf id q m) := by
  unfold PlacesParty
  split
  · split <;> exact inferInstance
  · split <;> exact inferInstance
  · exact inferInstance

-- Players 1, 2 and 3 are a party, 4 and 5 queue for area 209; then the party
-- does.
def partyOfThree : LFGQueue :=
  { empty with
    groups := OrderedMap.empty.insert 1 { leaderGuid := 1, memberSlots := [1, 2, 3], isRaid := false }, nextGroupId := 2 }

theorem rostered_partyOfThree (classOf : Nat → Classes) : partyOfThree.Rostered classOf := by
  have hfind : ∀ id party, partyOfThree.groups.find id = some party → id = 1 ∧ party.memberSlots = [1, 2, 3] := by
    intro id party hparty
    replace hparty := (find_insert _).symm.trans hparty
    split_ifs at hparty with hsame
    · exact ⟨hsame, by rw [← Option.some.inj hparty]⟩
    · cases hparty
  refine ⟨⟨fun id party hparty => ?_, fun _ _ hinfo => by cases hinfo⟩, fun _ _ hinfo => ?_, fun id party hparty => ?_⟩
  · rw [(hfind id party hparty).1]
    decide
  · rcases hinfo with hqueued | hoffline
    · cases hqueued
    · cases hoffline
  · rw [(hfind id party hparty).2]
    decide

-- What happens to a party of these classes; players 4 and 5 are rogues.
def classesOf (second : Classes) (guid : Nat) : Classes :=
  if guid = 1 then .warrior else if guid = 2 then second else if guid = 3 then .mage else .rogue

def online : View :=
  { team := fun _ => 469, isHardcore := fun _ => false, inWorld := fun _ => true, assistant := fun _ => false }

def loneRogues : List PartyMessage := [⟨online, .queue (.addToQueue 4 209)⟩, ⟨online, .queue (.addToQueue 5 209)⟩]

def partyQueues : List PartyMessage := [⟨online, .queue (.addToQueue 1 209)⟩, ⟨online, .queue (.update 100)⟩]

theorem complete_run_three : Complete (classesOf .priest) [1, 2, 3, 4, 5] := by
  have hgroup : (Run.run (receiveParty (classesOf .priest)) partyOfThree loneRogues).groupOf 1 =
      some (1, { leaderGuid := 1, memberSlots := [1, 2, 3], isRaid := false }) := by decide +kernel
  have hassignable : Assignable (classesOf .priest) [1, 2, 3] := by
    refine ⟨fun guid => if guid = 1 then .tank else if guid = 2 then .healer else .dps, ?_, fun role => ?_⟩
    · unfold ableTo
      decide
    · cases role <;> decide
  have hruns : Run.Guarded (receiveParty (classesOf .priest)) (PlacesParty (classesOf .priest) 1)
      (Run.run (receiveParty (classesOf .priest)) partyOfThree loneRogues) partyQueues := by decide +kernel
  have hparty : (Run.run (receiveParty (classesOf .priest)) partyOfThree (loneRogues ++ partyQueues)).groups.find 1 =
      some { leaderGuid := 1, memberSlots := [1, 2, 3, 4, 5], isRaid := false } := by decide +kernel
  exact complete_run _ (rostered_partyOfThree _) hgroup rfl rfl hassignable hruns hparty rfl

-- With two warriors the second is given no role: the mage comes before him. The
-- group is then filled with damage dealers and has nobody to heal.
theorem not_complete_run : ¬∀ (classOf : Nat → Classes) (start : LFGQueue), start.Rostered classOf →
    ∀ (before after : List PartyMessage) (view : View) (leader area id : Nat) (party : Party),
      (Run.run (receiveParty classOf) start before).groupOf leader = some (id, party) → party.leaderGuid = leader →
      party.isRaid = false → Assignable classOf party.memberSlots → ∀ full,
      (Run.run (receiveParty classOf) start
        (before ++ ⟨view, .queue (.addToQueue leader area)⟩ :: after)).groups.find id = some full →
      full.isFull = true → Complete classOf full.memberSlots := by
  intro h
  have hgroup : (Run.run (receiveParty (classesOf .warrior)) partyOfThree loneRogues).groupOf 1 =
      some (1, { leaderGuid := 1, memberSlots := [1, 2, 3], isRaid := false }) := by decide +kernel
  have hassignable : Assignable (classesOf .warrior) [1, 2, 3] := by
    refine ⟨fun guid => if guid = 1 then .tank else .dps, ?_, fun role => ?_⟩
    · unfold ableTo
      decide
    · cases role <;> decide
  have hparty : (Run.run (receiveParty (classesOf .warrior)) partyOfThree (loneRogues ++ partyQueues)).groups.find 1 =
      some { leaderGuid := 1, memberSlots := [1, 2, 3, 4, 5], isRaid := false } := by decide +kernel
  obtain ⟨roleOf, hable, hcounts⟩ := h _ _ (rostered_partyOfThree _) loneRogues [⟨online, .queue (.update 100)⟩] online
    1 209 1 _ hgroup rfl rfl hassignable _ hparty rfl
  have hhealer : 0 < [1, 2, 3, 4, 5].countP fun guid => roleOf guid = .healer := by
    rw [hcounts .healer]
    decide
  obtain ⟨guid, hguid, hheals⟩ := List.countP_pos_iff.mp hhealer
  have hnobody : ∀ guid ∈ [1, 2, 3, 4, 5], (calculateRoles (classesOf .warrior guid)).has .healer = false := by decide
  have hheal := hable guid hguid
  rw [of_decide_eq_true hheals] at hheal
  unfold ableTo at hheal
  rw [hnobody guid hguid] at hheal
  cases hheal

end LFGQueue

end TurtleWow.MeetingStone

import TurtleWow.MeetingStone.Queue
import TurtleWow.Lib.Lists

namespace TurtleWow.MeetingStone

open List OrderedMap

-- Who is put into a group by an update: a player of the queue, whose entry
-- agrees with the group's, and each once.

namespace LFGQueue

section

variable {classOf : Nat → Classes} {q after : LFGQueue} {view : View} {guid id : Nat} {info : PlayerQueueInfo}
  {entry : GroupQueueInfo}

theorem groupOf_none : q.groupOf guid = none ↔
    ∀ id party, q.groups.find id = some party → guid ∉ party.memberSlots := by
  unfold groupOf
  rw [List.find?_eq_none]
  constructor
  · intro h id party hparty hmem
    exact h (id, party) (mem_of_find hparty) (contains_iff_mem.mpr hmem)
  · rintro h ⟨id, party⟩ hentry hmem
    exact h id party (find_of_mem hentry) (contains_iff_mem.mp hmem)

theorem groupOf_some {party : Party} (h : q.groupOf guid = some (id, party)) :
    q.groups.find id = some party ∧ guid ∈ party.memberSlots := by
  have hcontains := List.find?_some h
  exact ⟨find_of_mem (mem_of_find?_eq_some h), contains_iff_mem.mp hcontains⟩

theorem findGroup_some (h : q.findGroup guid id = some after) : ∃ entry info role,
    q.queuedGroups.find id = some entry ∧ q.queuedPlayers.find guid = some info ∧
      info.team = entry.team ∧ info.areaId = entry.areaId ∧ info.isHardcore = entry.isHardcore ∧
      info.roleMask.has role = true ∧ entry.availableRoles.has role = true ∧
      after = q.joinGroup guid info id entry role := by
  unfold findGroup at h
  split at h
  · rename_i entry info hentry hinfo
    split_ifs at h with hcompatible
    suffices hrole : ∀ roles, q.findRole guid id info entry roles = some after → ∃ role,
        info.roleMask.has role = true ∧ entry.availableRoles.has role = true ∧
          after = q.joinGroup guid info id entry role by
      obtain ⟨role, hhas, hneeds, hafter⟩ := hrole _ h
      exact ⟨entry, info, role, hentry, hinfo, hcompatible.1, hcompatible.2.1, hcompatible.2.2, hhas, hneeds, hafter⟩
    intro roles
    induction roles with
    | nil => exact fun h => by cases h
    | cons role rest ih =>
      intro h
      unfold findRole at h
      by_cases hfits : (info.roleMask.has role && entry.availableRoles.has role) = true
      · rw [if_pos hfits] at h
        cases hfound : q.findRoleToGroup guid id role with
        | none =>
          rw [hfound] at h
          exact ih h
        | some joined =>
          rw [hfound] at h
          cases h
          rw [Bool.and_eq_true] at hfits
          refine ⟨role, hfits.1, hfits.2, ?_⟩
          unfold findRoleToGroup at hfound
          rw [hentry, hinfo] at hfound
          dsimp only at hfound
          split_ifs at hfound
          exact (Option.some.inj hfound).symm
      · rw [if_neg hfits] at h
        exact ih h
  · cases h

theorem filled_invariant {diff : Nat} (invariant : LFGQueue → Prop)
    (hplayer : ∀ q guid, invariant q → invariant (updatePlayer view diff q guid))
    (hjoin : ∀ q guid id entry info role, invariant q → q.queuedGroups.find id = some entry →
      q.queuedPlayers.find guid = some info → info.team = entry.team → info.areaId = entry.areaId →
      info.isHardcore = entry.isHardcore → info.roleMask.has role = true → entry.availableRoles.has role = true →
      invariant (q.joinGroup guid info id entry role))
    (hremove : ∀ q id, invariant q → (q.groups.find id = none ∨ q.isFull id = true) →
      invariant (q.removeGroupFromQueue id))
    (hwait : ∀ q id, invariant q → invariant (q.waitGroup id diff)) (h : invariant q) :
    invariant (q.filled view diff) := by
  have hplayers : ∀ (guids : List Nat) q, invariant q → invariant (guids.foldl (updatePlayer view diff) q) := by
    intro guids
    induction guids with
    | nil => exact fun q h => h
    | cons guid rest ih => exact fun q h => ih _ (hplayer q guid h)
  have hfill : ∀ id guids q, invariant q → invariant (fillGroup id guids q) := by
    intro id guids
    induction guids with
    | nil => exact fun q h => h
    | cons guid rest ih =>
      intro q h
      unfold fillGroup
      split
      · exact ih q h
      · rename_i joined hfound
        obtain ⟨entry, info, role, hentry, hinfo, hteam, harea, hhardcore, hhas, hneeds, rfl⟩ := findGroup_some hfound
        have hjoined := hjoin q guid id entry info role h hentry hinfo hteam harea hhardcore hhas hneeds
        split_ifs
        · exact hjoined
        · exact ih _ hjoined
  have hgroups : ∀ ids q, invariant q → invariant (fillGroups diff ids q) := by
    intro ids
    induction ids with
    | nil => exact fun q h => h
    | cons id rest ih =>
      intro q h
      unfold fillGroups
      split
      · rename_i hnone
        exact ih _ (hremove q id h (.inl hnone))
      · rename_i party hparty
        by_cases hfull : party.isFull = true
        · rw [if_pos hfull]
          refine hremove q id h (.inr ?_)
          unfold isFull
          rw [hparty]
          exact hfull
        · rw [if_neg hfull]
          dsimp only
          have hfilled := hfill id q.queuedPlayers.keys q h
          split_ifs with hnow
          · exact hremove _ id hfilled (.inr hnow)
          · exact ih _ (hwait _ id hfilled)
  exact hgroups _ _ (hplayers _ q h)

theorem firstTwo_some {leader member : Nat × PlayerQueueInfo} (h : q.firstTwo = some (leader, member)) :
    q.queuedPlayers.find leader.1 = some leader.2 ∧ q.queuedPlayers.find member.1 = some member.2 ∧
      member.1 ≠ leader.1 ∧ member.2.areaId = leader.2.areaId ∧ member.2.team = leader.2.team := by
  unfold firstTwo at h
  split_ifs at h
  split at h
  · cases h
  · rename_i first rest hentries
    dsimp only at h
    split_ifs at h
    split at h
    · cases h
    · rename_i second others harea
      obtain ⟨rfl, rfl⟩ := Prod.mk.inj (Option.some.inj h)
      have hmem : second ∈ q.findInArea first.2.areaId first.2.team first.1 := by
        rw [harea]
        exact mem_cons_self
      unfold findInArea at hmem
      obtain ⟨hqueued, hfits⟩ := mem_filter.mp hmem
      simp only [Bool.and_eq_true, decide_eq_true_eq] at hfits
      refine ⟨find_of_mem ?_, find_of_mem hqueued, hfits.1.1, hfits.1.2, hfits.2⟩
      rw [hentries]
      exact mem_cons_self

end

end LFGQueue

-- The player queued for the group's area and has its team and hardcore status.
def Join.Agrees (join : Join) : Prop :=
  join.info.areaId = join.entry.areaId ∧ join.info.team = join.entry.team ∧
    join.info.isHardcore = join.entry.isHardcore

namespace LFGQueue

-- What the meeting stones owe the groups of `start`.
structure Compatible (start q : LFGQueue) : Prop where
  members : ∀ id party, q.groups.find id = some party → ∀ guid ∈ party.memberSlots,
    (∃ old, start.groups.find id = some old ∧ guid ∈ old.memberSlots) ∨
      ∃ join ∈ q.joins, join.player = guid ∧ join.group = id ∧ join.Agrees
  once : (q.joins.map Join.player).Nodup
  away : ∀ join ∈ q.joins, q.queuedPlayers.find join.player = none

-- Group ids are new, and a player of the queue has no group.
structure Apart (q : LFGQueue) : Prop where
  fresh : ∀ id party, q.groups.find id = some party → id < q.nextGroupId
  alone : ∀ guid info, q.queuedPlayers.find guid = some info → q.groupOf guid = none

-- What the meeting stones owe, for any property of the joins.
structure Sound (ok : Join → Prop) (start q : LFGQueue) : Prop extends Apart q where
  members : ∀ id party, q.groups.find id = some party → ∀ guid ∈ party.memberSlots,
    (∃ old, start.groups.find id = some old ∧ guid ∈ old.memberSlots) ∨
      ∃ join ∈ q.joins, join.player = guid ∧ join.group = id ∧ ok join
  joined : ∀ join ∈ q.joins, q.groupOf join.player ≠ none
  once : (q.joins.map Join.player).Nodup

-- The groups are as they were, and nobody is new in the queue but players
-- without one.
structure Requeues (q after : LFGQueue) : Prop where
  groups : after.groups = q.groups
  nextGroupId : after.nextGroupId = q.nextGroupId
  joins : after.joins = q.joins
  players : ∀ guid info, after.queuedPlayers.find guid = some info →
    (∃ old, q.queuedPlayers.find guid = some old) ∨ q.groupOf guid = none

-- Players of the queue are put into one group.
structure Grows (q after : LFGQueue) (id : Nat) (party : Party) (news : List Join) : Prop where
  groups : after.groups = q.groups.insert id party
  fresh : id < after.nextGroupId
  nextGroupId : q.nextGroupId ≤ after.nextGroupId
  joins : after.joins = news ++ q.joins
  kept : ∀ old, q.groups.find id = some old → ∀ guid ∈ old.memberSlots, guid ∈ party.memberSlots
  slots : ∀ guid ∈ party.memberSlots, (∃ old, q.groups.find id = some old ∧ guid ∈ old.memberSlots) ∨
    ∃ join ∈ news, join.player = guid
  grouped : ∀ join ∈ news, join.group = id ∧ join.player ∈ party.memberSlots ∧
    ∃ info, q.queuedPlayers.find join.player = some info
  distinct : (news.map Join.player).Nodup
  queue : ∀ guid info, after.queuedPlayers.find guid = some info →
    (∃ old, q.queuedPlayers.find guid = some old) ∧ ∀ join ∈ news, join.player ≠ guid

section

variable {classOf : Nat → Classes} {ok : Join → Prop} {start q after : LFGQueue} {view : View} {guid id : Nat}
  {info : PlayerQueueInfo} {entry : GroupQueueInfo} {party : Party} {news : List Join}

theorem Sound.compatible (h : Sound Join.Agrees start q) : Compatible start q := by
  refine ⟨h.members, h.once, fun join hjoin => ?_⟩
  by_contra hqueued
  obtain ⟨info, hinfo⟩ := Option.ne_none_iff_exists'.mp hqueued
  exact h.joined join hjoin (h.alone _ info hinfo)

theorem groupOf_of_groups (hgroups : after.groups = q.groups) (guid : Nat) : after.groupOf guid = q.groupOf guid := by
  unfold groupOf
  rw [hgroups]

theorem Apart.requeue (h : Apart q) (hrequeues : Requeues q after) : Apart after := by
  refine ⟨?_, fun guid info hinfo => ?_⟩
  · rw [hrequeues.groups, hrequeues.nextGroupId]
    exact h.fresh
  · rw [groupOf_of_groups hrequeues.groups]
    rcases hrequeues.players guid info hinfo with ⟨old, hold⟩ | hnone
    · exact h.alone guid old hold
    · exact hnone

theorem Sound.requeue (h : Sound ok start q) (hrequeues : Requeues q after) : Sound ok start after := by
  refine ⟨h.toApart.requeue hrequeues, ?_, ?_, ?_⟩
  · rw [hrequeues.groups, hrequeues.joins]
    exact h.members
  · rw [hrequeues.joins]
    intro join hjoin
    rw [groupOf_of_groups hrequeues.groups]
    exact h.joined join hjoin
  · rw [hrequeues.joins]
    exact h.once

theorem Grows.find (hgrows : Grows q after id party news) (other : Nat) :
    after.groups.find other = if other = id then some party else q.groups.find other := by
  rw [hgrows.groups]
  exact find_insert party

theorem Apart.grow (h : Apart q) (hgrows : Grows q after id party news) : Apart after := by
  refine ⟨fun other found hfound => ?_, fun guid info hinfo => ?_⟩
  · rw [hgrows.find] at hfound
    split_ifs at hfound with hsame
    · exact hsame ▸ hgrows.fresh
    · exact Nat.lt_of_lt_of_le (h.fresh other found hfound) hgrows.nextGroupId
  · obtain ⟨⟨old, hold⟩, hothers⟩ := hgrows.queue guid info hinfo
    have halone := groupOf_none.mp (h.alone guid old hold)
    refine groupOf_none.mpr fun other found hfound hmem => ?_
    rw [hgrows.find] at hfound
    split_ifs at hfound with hsame
    · cases hfound
      rcases hgrows.slots guid hmem with ⟨earlier, hearlier, hin⟩ | ⟨join, hjoin, hplayer⟩
      · exact halone id earlier hearlier hin
      · exact hothers join hjoin hplayer
    · exact halone other found hfound hmem

theorem Sound.grow (h : Sound ok start q) (hgrows : Grows q after id party news) (hok : ∀ join ∈ news, ok join) :
    Sound ok start after := by
  refine ⟨h.toApart.grow hgrows, fun other found hfound guid hguid => ?_, fun join hjoin => ?_, ?_⟩
  · rw [hgrows.joins]
    rw [hgrows.find] at hfound
    have hearlier : ∀ old, q.groups.find other = some old → guid ∈ old.memberSlots →
        (∃ old, start.groups.find other = some old ∧ guid ∈ old.memberSlots) ∨
          ∃ join ∈ news ++ q.joins, join.player = guid ∧ join.group = other ∧ ok join := by
      intro old hold hin
      rcases h.members other old hold guid hin with hstart | ⟨join, hjoin, hjoined⟩
      · exact .inl hstart
      · exact .inr ⟨join, mem_append_right _ hjoin, hjoined⟩
    split_ifs at hfound with hsame
    · subst hsame
      cases hfound
      rcases hgrows.slots guid hguid with ⟨old, hold, hin⟩ | ⟨join, hjoin, hplayer⟩
      · exact hearlier old hold hin
      · exact .inr ⟨join, mem_append_left _ hjoin, hplayer, (hgrows.grouped join hjoin).1, hok join hjoin⟩
    · exact hearlier found hfound hguid
  · rw [hgrows.joins] at hjoin
    intro hnone
    have houtside := groupOf_none.mp hnone
    have hnow : after.groups.find id = some party := (hgrows.find id).trans (if_pos rfl)
    rcases mem_append.mp hjoin with hnew | hold
    · exact houtside id party hnow (hgrows.grouped join hnew).2.1
    · refine h.joined join hold (groupOf_none.mpr fun other found hfound hmem => ?_)
      by_cases hsame : other = id
      · subst hsame
        exact houtside other party hnow (hgrows.kept found hfound _ hmem)
      · exact houtside other found ((hgrows.find other).trans (if_neg hsame ▸ hfound)) hmem
  · rw [hgrows.joins, map_append]
    refine nodup_append.mpr ⟨hgrows.distinct, h.once, ?_⟩
    rintro player hnew other hold rfl
    obtain ⟨new, hmem, rfl⟩ := mem_map.mp hnew
    obtain ⟨old, hold, hsame⟩ := mem_map.mp hold
    obtain ⟨-, -, info, hinfo⟩ := hgrows.grouped new hmem
    refine h.joined old hold ?_
    rw [hsame]
    exact h.alone new.player info hinfo

theorem Requeues.refl (q : LFGQueue) : Requeues q q := ⟨rfl, rfl, rfl, fun _ info hinfo => .inl ⟨info, hinfo⟩⟩

theorem requeues_of_find (hgroups : after.groups = q.groups) (hnext : after.nextGroupId = q.nextGroupId)
    (hjoins : after.joins = q.joins)
    (hplayers : ∀ guid info, after.queuedPlayers.find guid = some info → q.queuedPlayers.find guid = some info) :
    Requeues q after := ⟨hgroups, hnext, hjoins, fun guid info hinfo => .inl ⟨info, hplayers guid info hinfo⟩⟩

theorem find_of_find_erase {guid other : Nat} (h : (q.queuedPlayers.erase guid).find other = some info) :
    q.queuedPlayers.find other = some info ∧ guid ≠ other := by
  rw [find_erase] at h
  split_ifs at h with hsame
  exact ⟨h, Ne.symm hsame⟩

theorem requeues_addToQueue (leader area : Nat) : Requeues q (q.addToQueue classOf view leader area) := by
  unfold addToQueue
  split
  · split_ifs
    · exact requeues_of_find rfl rfl rfl fun _ _ hinfo => hinfo
    · exact .refl q
  · rename_i hnone
    refine ⟨rfl, rfl, rfl, fun guid info hinfo => ?_⟩
    replace hinfo := (find_insert _).symm.trans hinfo
    split_ifs at hinfo with hsame
    · exact .inr (hsame ▸ hnone)
    · exact .inl ⟨info, hinfo⟩

theorem requeues_updatePlayer (diff guid : Nat) : Requeues q (q.updatePlayer view diff guid) := by
  unfold updatePlayer
  split
  · exact .refl q
  · rename_i info hinfo
    split_ifs
    · refine ⟨rfl, rfl, rfl, fun other found hfound => ?_⟩
      replace hfound := (find_insert _).symm.trans hfound
      split_ifs at hfound with hsame
      · exact .inl ⟨info, hsame ▸ hinfo⟩
      · exact .inl ⟨found, hfound⟩
    · exact requeues_of_find rfl rfl rfl fun other found hfound => (find_of_find_erase hfound).1

theorem requeues_removePlayerFromQueue (guid : Nat) : Requeues q (q.removePlayerFromQueue guid) :=
  requeues_of_find rfl rfl rfl fun _ _ hfound => (find_of_find_erase hfound).1

theorem requeues_removeGroupFromQueue (id : Nat) : Requeues q (q.removeGroupFromQueue id) :=
  requeues_of_find rfl rfl rfl fun _ _ hinfo => hinfo

theorem requeues_waitGroup (id diff : Nat) : Requeues q (q.waitGroup id diff) := by
  unfold waitGroup
  split
  · exact .refl q
  · exact requeues_of_find rfl rfl rfl fun _ _ hinfo => hinfo

theorem requeues_restoreOfflinePlayer (guid : Nat) : Requeues q (q.restoreOfflinePlayer guid) := by
  unfold restoreOfflinePlayer
  split
  · rename_i info hnone _
    refine ⟨rfl, rfl, rfl, fun other found hfound => ?_⟩
    replace hfound := (find_insert _).symm.trans hfound
    split_ifs at hfound with hsame
    · exact .inr (hsame ▸ hnone)
    · exact .inl ⟨found, hfound⟩
  · exact .refl q

theorem requeues_leaveQueue (guid : Nat) : Requeues q (q.leaveQueue guid) := by
  unfold leaveQueue
  split
  · split_ifs
    · exact requeues_removeGroupFromQueue _
    · exact .refl q
  · exact requeues_removePlayerFromQueue guid

variable (id entry) in
theorem joinGroup_cases (h : Apart q) (role : ClassRoles) (hinfo : q.queuedPlayers.find guid = some info) :
    Requeues q (q.joinGroup guid info id entry role) ∨ ∃ party, Grows q (q.joinGroup guid info id entry role) id party
      [{ player := guid, info := info, group := id, entry := entry }] := by
  unfold joinGroup addMember removePlayerFromQueue
  cases hparty : q.groups.find id with
  | none => exact .inl (requeues_of_find rfl rfl rfl fun _ _ hfound => (find_of_find_erase hfound).1)
  | some party =>
    dsimp only
    by_cases hfull : party.isFull = true
    · rw [if_pos hfull]
      exact .inl (requeues_of_find rfl rfl rfl fun _ _ hfound => (find_of_find_erase hfound).1)
    · rw [if_neg hfull]
      refine .inr ⟨{ party with memberSlots := party.memberSlots ++ [guid] }, rfl, h.fresh id party hparty,
        Nat.le_refl _, rfl, ?_, ?_, ?_, nodup_singleton _, ?_⟩
      · intro old hold other hother
        rw [hparty] at hold
        cases hold
        exact mem_append_left _ hother
      · intro other hother
        rcases mem_append.mp hother with hold | hnew
        · exact .inl ⟨party, hparty, hold⟩
        · exact .inr ⟨_, mem_singleton_self _, (mem_singleton.mp hnew).symm⟩
      · intro join hjoin
        rw [mem_singleton.mp hjoin]
        exact ⟨rfl, mem_append_right _ (mem_singleton_self _), info, hinfo⟩
      · intro other found hfound
        refine ⟨⟨found, (find_of_find_erase hfound).1⟩, fun join hjoin => ?_⟩
        rw [mem_singleton.mp hjoin]
        exact (find_of_find_erase hfound).2

-- The two joins of a new group.
def pairJoins (classOf : Nat → Classes) (view : View) (q : LFGQueue) (leader member : Nat × PlayerQueueInfo) : List Join :=
  let entry := queuedGroup classOf view leader.1 leader.2.areaId [leader.1, member.1]
  [{ player := member.1, info := member.2, group := q.nextGroupId, entry := entry },
    { player := leader.1, info := leader.2, group := q.nextGroupId, entry := entry }]

theorem grows_createGroup (h : Apart q) {leader member : Nat × PlayerQueueInfo}
    (hleader : q.queuedPlayers.find leader.1 = some leader.2) (hmember : q.queuedPlayers.find member.1 = some member.2)
    (hne : member.1 ≠ leader.1) : Grows q (q.createGroup classOf view leader member) q.nextGroupId
      { leaderGuid := leader.1, memberSlots := [leader.1, member.1], isRaid := false }
      (pairJoins classOf view q leader member) := by
  have hpair : ∀ join ∈ pairJoins classOf view q leader member, join.group = q.nextGroupId ∧
      (join.player = member.1 ∨ join.player = leader.1) := by
    intro join hjoin
    rcases mem_cons.mp hjoin with rfl | hsecond
    · exact ⟨rfl, .inl rfl⟩
    · rw [mem_singleton.mp hsecond]
      exact ⟨rfl, .inr rfl⟩
  refine ⟨rfl, Nat.lt_succ_self _, Nat.le_succ _, rfl, ?_, ?_, ?_, ?_, ?_⟩
  · intro old hold
    exact absurd (h.fresh _ old hold) (Nat.lt_irrefl _)
  · intro guid hguid
    rcases mem_cons.mp hguid with rfl | hsecond
    · exact .inr ⟨_, mem_cons_of_mem _ (mem_singleton_self _), rfl⟩
    · exact .inr ⟨_, mem_cons_self, (mem_singleton.mp hsecond).symm⟩
  · intro join hjoin
    refine ⟨(hpair join hjoin).1, ?_⟩
    rcases (hpair join hjoin).2 with hplayer | hplayer
    · rw [hplayer]
      exact ⟨mem_cons_of_mem _ (mem_singleton_self _), member.2, hmember⟩
    · rw [hplayer]
      exact ⟨mem_cons_self, leader.2, hleader⟩
  · simp [pairJoins, hne]
  · intro guid info hinfo
    replace hinfo := find_erase.symm.trans hinfo
    split_ifs at hinfo with hsecond
    obtain ⟨hfound, hfirst⟩ := find_of_find_erase hinfo
    refine ⟨⟨info, hfound⟩, fun join hjoin => ?_⟩
    rcases (hpair join hjoin).2 with hplayer | hplayer
    · rw [hplayer]
      exact Ne.symm hsecond
    · rw [hplayer]
      exact hfirst

-- The pair that an update would make a group of: the leader is still what he
-- queued as, and the member has his hardcore status.
def FormsAlike (view : View) (q : LFGQueue) : Prop :=
  match q.firstTwo with
  | none => True
  | some (leader, member) =>
    view.inWorld leader.1 = true ∧ view.inWorld member.1 = true →
      (leader.2.team = view.team leader.1 ∧ leader.2.isHardcore = view.isHardcore leader.1) ∧
        member.2.isHardcore = leader.2.isHardcore

-- What an update of this queue does to a property of joins: the two of a new
-- group have it.
def PairOk (classOf : Nat → Classes) (ok : Join → Prop) (q : LFGQueue) (m : Message) : Prop :=
  ∀ diff, m.op = .update diff → ∀ leader member, (q.filled m.view diff).firstTwo = some (leader, member) →
    m.view.inWorld leader.1 = true ∧ m.view.inWorld member.1 = true →
      ∀ join ∈ pairJoins classOf m.view (q.filled m.view diff) leader member, ok join

theorem Sound.filled (h : Sound ok start q) (hagrees : ∀ join, Join.Agrees join → ok join) (diff : Nat) :
    Sound ok start (q.filled view diff) := by
  refine filled_invariant (Sound ok start) (fun _ guid h => h.requeue (requeues_updatePlayer diff guid)) ?_
    (fun _ id h _ => h.requeue (requeues_removeGroupFromQueue id)) (fun _ id h => h.requeue (requeues_waitGroup id diff)) h
  intro q guid id entry info role h _ hinfo hteam harea hhardcore _ _
  rcases joinGroup_cases id entry h.toApart role hinfo with hrequeues | ⟨party, hgrows⟩
  · exact h.requeue hrequeues
  · refine h.grow hgrows fun join hjoin => ?_
    rw [mem_singleton.mp hjoin]
    exact hagrees _ ⟨harea, hteam, hhardcore⟩

theorem Sound.formGroup (h : Sound ok start q) (hpair : ∀ leader member, q.firstTwo = some (leader, member) →
    view.inWorld leader.1 = true ∧ view.inWorld member.1 = true →
      ∀ join ∈ pairJoins classOf view q leader member, ok join) : Sound ok start (q.formGroup classOf view) := by
  unfold LFGQueue.formGroup
  split
  · exact h
  · rename_i leader member hfirst
    split_ifs with hworld
    · obtain ⟨hleader, hmember, hne, -⟩ := firstTwo_some hfirst
      exact h.grow (grows_createGroup h.toApart hleader hmember hne) (hpair leader member hfirst hworld)
    · exact h

theorem Sound.receive (h : Sound ok start q) {m : Message} (hagrees : ∀ join, Join.Agrees join → ok join)
    (hpair : PairOk classOf ok q m) : Sound ok start (q.receive classOf m) := by
  unfold LFGQueue.receive
  split <;> rename_i hop
  · exact h.requeue (requeues_addToQueue _ _)
  · exact (h.filled hagrees _).formGroup (hpair _ hop)
  · exact h.requeue (requeues_restoreOfflinePlayer _)
  · exact h.requeue (requeues_leaveQueue _)

-- The steps whose new group is of two players alike.
def GroupsAlike (q : LFGQueue) (m : Message) : Prop :=
  match m.op with
  | .update diff => FormsAlike m.view (q.filled m.view diff)
  | _ => True

theorem pair_agrees {m : Message} (halike : GroupsAlike q m) : PairOk classOf Join.Agrees q m := by
  intro diff hop leader member hfirst hworld join hjoin
  obtain ⟨-, -, -, harea, hteam⟩ := firstTwo_some hfirst
  unfold GroupsAlike at halike
  rw [hop] at halike
  unfold FormsAlike at halike
  dsimp only at halike
  rw [hfirst] at halike
  obtain ⟨⟨hkeptTeam, hkeptStatus⟩, hstatus⟩ := halike hworld
  rcases mem_cons.mp hjoin with rfl | hsecond
  · exact ⟨harea, hteam.trans hkeptTeam, hstatus.trans hkeptStatus⟩
  · rw [mem_singleton.mp hsecond]
    exact ⟨rfl, hkeptTeam, hkeptStatus⟩

end

-- Any players in the queue and any groups, none of which has a queued player.
structure Opening (q : LFGQueue) : Prop extends Apart q where
  unjoined : q.joins = []

theorem Opening.sound {start : LFGQueue} (h : start.Opening) (ok : Join → Prop) : Sound ok start start := by
  refine ⟨h.toApart, fun id party hparty guid hguid => .inl ⟨party, hparty, hguid⟩, ?_, ?_⟩
  · rw [h.unjoined]
    exact fun join hjoin => by cases hjoin
  · rw [h.unjoined]
    exact nodup_nil

theorem compatible_run (classOf : Nat → Classes) {start : LFGQueue} (hstart : start.Opening) {messages : List Message}
    (hruns : Run.Guarded (receive classOf) GroupsAlike start messages) :
    Compatible start (Run.run (receive classOf) start messages) :=
  (Run.run_invariant (receive classOf) GroupsAlike (Sound Join.Agrees start)
    (fun _ _ h halike => h.receive (fun _ hagrees => hagrees) (pair_agrees halike)) (hstart.sound _) hruns).compatible

instance (view : View) (q : LFGQueue) : Decidable (FormsAlike view q) := by
  unfold FormsAlike
  split <;> exact inferInstance

instance (q : LFGQueue) (m : Message) : Decidable (GroupsAlike q m) := by
  obtain ⟨view, op⟩ := m
  cases op with
  | update diff => exact inferInstanceAs (Decidable (FormsAlike view (q.filled view diff)))
  | _ => exact inferInstanceAs (Decidable True)

def empty : LFGQueue :=
  { queuedPlayers := .empty, offlinePlayers := .empty, queuedGroups := .empty, groups := .empty, nextGroupId := 1,
    joins := [] }

theorem opening_empty : empty.Opening :=
  ⟨⟨fun _ _ hparty => (by cases hparty), fun _ _ hinfo => (by cases hinfo)⟩, rfl⟩

def fiveRogues (hardcore : Nat → Bool) : List Message :=
  let view : View :=
    { team := fun _ => 469, isHardcore := hardcore, inWorld := fun _ => true, assistant := fun _ => false }
  ([1, 2, 3, 4, 5].map fun guid => ⟨view, .addToQueue guid 209⟩) ++ [⟨view, .update 100⟩]

theorem compatible_run_five : Compatible empty (Run.run (receive fun _ => .rogue) empty (fiveRogues fun _ => false)) :=
  compatible_run _ opening_empty (by decide +kernel)

-- The second of them is hardcore; the update makes a group of him and the
-- first.
theorem not_compatible_run : ¬∀ (classOf : Nat → Classes) (start : LFGQueue), start.Opening → ∀ messages : List Message,
    Compatible start (Run.run (receive classOf) start messages) := by
  intro h
  have hcompatible := h (fun _ => .rogue) empty opening_empty (fiveRogues fun guid => guid = 2)
  have hgroup : (Run.run (receive fun _ => .rogue) empty (fiveRogues fun guid => guid = 2)).groups.find 1 =
      some { leaderGuid := 1, memberSlots := [1, 2], isRaid := false } := by decide +kernel
  have hmismatch : ∀ join ∈ (Run.run (receive fun _ => .rogue) empty (fiveRogues fun guid => guid = 2)).joins,
      join.player = 2 → join.info.isHardcore ≠ join.entry.isHardcore := by decide +kernel
  rcases hcompatible.members 1 _ hgroup 2 (by decide) with ⟨old, hold, -⟩ | ⟨join, hjoin, hplayer, -, hagrees⟩
  · cases hold
  · exact hmismatch join hjoin hplayer hagrees.2.2

end LFGQueue

end TurtleWow.MeetingStone

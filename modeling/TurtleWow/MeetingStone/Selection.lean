import TurtleWow.MeetingStone.Queue

namespace TurtleWow.MeetingStone

-- Whom FindRoleToGroup takes for a role of a group, of all who wait for it.

namespace LFGQueue

section

variable (q : LFGQueue) (entry : GroupQueueInfo) (role : ClassRoles)

def Rival (guid : Nat) (info : PlayerQueueInfo) : Prop :=
  q.queuedPlayers.find guid = some info ∧ info.areaId = entry.areaId ∧ info.team = entry.team ∧ info.roleMask.has role

def Candidate (guid : Nat) (info : PlayerQueueInfo) : Prop :=
  q.Rival entry role guid info ∧ info.isHardcore = entry.isHardcore

-- The group gets someone if there is anyone, and nobody whom another
-- candidate has the higher priority over.
structure Selects (id : Nat) : Prop where
  accepts : (∃ guid info, q.Candidate entry role guid info) →
    ∃ guid info, q.Candidate entry role guid info ∧ (q.findRoleToGroup guid id role).isSome
  best : ∀ guid info, q.Candidate entry role guid info → (q.findRoleToGroup guid id role).isSome →
    ∀ other otherInfo, q.Candidate entry role other otherInfo →
      (otherInfo.getRolePriority role).value ≤ (info.getRolePriority role).value

-- Nobody waits longer, unless the queue-time priority makes up for it; and
-- the class has some priority for the role if any rival's has.
structure InFront (info : PlayerQueueInfo) : Prop where
  time : ∀ other otherInfo, q.Rival entry role other otherInfo →
    otherInfo.timeInLFG ≤ info.timeInLFG ∨ (info.hasQueuePriority ∧ ¬otherInfo.hasQueuePriority)
  priority : info.getRolePriority role ≠ .none ∨
    ∀ other otherInfo, q.Rival entry role other otherInfo → otherInfo.getRolePriority role = .none

def Orderly : Prop :=
  (∀ guid info, ¬q.Candidate entry role guid info) ∨
    (∃ guid info, q.Candidate entry role guid info ∧ q.InFront entry role info) ∧
      ∀ guid info, q.Candidate entry role guid info → q.InFront entry role info →
        ∀ other otherInfo, q.Candidate entry role other otherInfo →
          (otherInfo.getRolePriority role).value ≤ (info.getRolePriority role).value

end

variable {q : LFGQueue} {entry : GroupQueueInfo} {role : ClassRoles} {guid id : Nat} {info : PlayerQueueInfo}

theorem isAhead_iff {other : PlayerQueueInfo} :
    isAhead role info other = true ↔
      (info.areaId = other.areaId ∧ info.team = other.team ∧ other.roleMask.has role) ∧
        ((other.getRolePriority role ≠ .none ∧ info.getRolePriority role = .none) ∨
          info.timeInLFG < other.timeInLFG ∧ (other.hasQueuePriority ∨ ¬info.hasQueuePriority)) := by
  unfold isAhead
  simp only [Bool.and_eq_true, Bool.or_eq_true, Bool.not_eq_true', decide_eq_true_eq, decide_eq_false_iff_not,
    not_not, Bool.not_eq_true, and_assoc]
  tauto

theorem findRoleToGroup_isSome (hentry : q.queuedGroups.find id = some entry)
    (h : q.Candidate entry role guid info) :
    (q.findRoleToGroup guid id role).isSome ↔ q.InFront entry role info := by
  obtain ⟨⟨hinfo, harea, hteam, hrole⟩, -⟩ := h
  have hsome : (q.findRoleToGroup guid id role).isSome ↔
      ∀ other otherInfo, q.queuedPlayers.find other = some otherInfo → other ≠ guid →
        isAhead role info otherInfo = false := by
    unfold findRoleToGroup
    rw [hentry, hinfo]
    simp only
    split
    · rename_i hany
      obtain ⟨other, hmem, hahead⟩ := List.any_eq_true.mp hany
      refine iff_of_false (by simp) fun hall => ?_
      simp only [Bool.and_eq_true, decide_eq_true_eq] at hahead
      rw [hall other.1 other.2 (OrderedMap.find_of_mem hmem) hahead.1] at hahead
      exact absurd hahead.2 (by simp)
    · rename_i hnone
      refine iff_of_true rfl fun other otherInfo hother hne => ?_
      by_contra hahead
      refine hnone (List.any_eq_true.mpr ⟨(other, otherInfo), OrderedMap.mem_of_find hother, ?_⟩)
      simpa [hne] using hahead
  rw [hsome]
  constructor
  · intro hall
    have hnot : ∀ other otherInfo, q.Rival entry role other otherInfo → otherInfo ≠ info →
        ¬((otherInfo.getRolePriority role ≠ .none ∧ info.getRolePriority role = .none) ∨
          info.timeInLFG < otherInfo.timeInLFG ∧ (otherInfo.hasQueuePriority ∨ ¬info.hasQueuePriority)) := by
      rintro other otherInfo ⟨hother, hotherArea, hotherTeam, hotherRole⟩ hne hahead
      have hguid : other ≠ guid := by
        rintro rfl
        exact hne (Option.some.inj (hother.symm.trans hinfo))
      have htrue : isAhead role info otherInfo = true := isAhead_iff.mpr
        ⟨⟨harea.trans hotherArea.symm, hteam.trans hotherTeam.symm, hotherRole⟩, hahead⟩
      rw [hall other otherInfo hother hguid] at htrue
      cases htrue
    constructor
    · intro other otherInfo hrival
      by_cases heq : otherInfo = info
      · exact .inl (Nat.le_of_eq (congrArg PlayerQueueInfo.timeInLFG heq))
      · have htime := not_or.mp (hnot other otherInfo hrival heq) |>.2
        by_cases hle : otherInfo.timeInLFG ≤ info.timeInLFG
        · exact .inl hle
        · have hflags := not_or.mp (not_and.mp htime (Nat.lt_of_not_le hle))
          exact .inr ⟨not_not.mp hflags.2, hflags.1⟩
    · by_cases hnone : info.getRolePriority role = .none
      · refine .inr fun other otherInfo hrival => ?_
        by_cases heq : otherInfo = info
        · rw [heq]
          exact hnone
        · by_contra hsome
          exact hnot other otherInfo hrival heq (.inl ⟨hsome, hnone⟩)
      · exact .inl hnone
  · intro hfront other otherInfo hother hne
    by_contra hahead
    obtain ⟨⟨hsameArea, hsameTeam, hotherRole⟩, hreason⟩ := isAhead_iff.mp ((Bool.not_eq_false _).mp hahead)
    have hrival : q.Rival entry role other otherInfo :=
      ⟨hother, hsameArea.symm.trans harea, hsameTeam.symm.trans hteam, hotherRole⟩
    rcases hreason with ⟨hsome, hnone⟩ | ⟨hlt, hflags⟩
    · rcases hfront.priority with hpriority | hall
      · exact hpriority hnone
      · exact hsome (hall other otherInfo hrival)
    · rcases hfront.time other otherInfo hrival with hle | ⟨hhas, hnot⟩
      · exact Nat.not_lt_of_le hle hlt
      · exact hflags.elim hnot fun h => h hhas

-- Whether or not the role is still available
theorem selects_iff_orderly (hentry : q.queuedGroups.find id = some entry) :
    q.Selects entry role id ↔ q.Orderly entry role := by
  constructor
  · intro h
    by_cases hany : ∃ guid info, q.Candidate entry role guid info
    · obtain ⟨guid, info, hcandidate, haccepted⟩ := h.accepts hany
      refine .inr ⟨⟨guid, info, hcandidate, (findRoleToGroup_isSome hentry hcandidate).mp haccepted⟩, ?_⟩
      intro guid info hcandidate hfront
      exact h.best guid info hcandidate ((findRoleToGroup_isSome hentry hcandidate).mpr hfront)
    · exact .inl fun guid info hcandidate => hany ⟨guid, info, hcandidate⟩
  · intro h
    rcases h with hnobody | ⟨⟨guid, info, hcandidate, hfront⟩, hbest⟩
    · refine ⟨fun ⟨guid, info, hcandidate⟩ => absurd hcandidate (hnobody guid info), ?_⟩
      intro guid info hcandidate
      exact absurd hcandidate (hnobody guid info)
    · refine ⟨fun _ => ⟨guid, info, hcandidate, (findRoleToGroup_isSome hentry hcandidate).mpr hfront⟩, ?_⟩
      intro guid info hcandidate haccepted
      exact hbest guid info hcandidate ((findRoleToGroup_isSome hentry hcandidate).mp haccepted)

-- A group that needs a tank, a warrior who is new to the queue and a druid who
-- has waited
def needsTank : GroupQueueInfo :=
  { availableRoles := ⟨true, false, false⟩, dpsCount := 0, team := 1, areaId := 5, isHardcore := false,
    groupTimer := 0 }

def newWarrior : PlayerQueueInfo :=
  { PlayerQueueInfo.blank.calculateRoles .warrior with team := 1, areaId := 5, timeInLFG := 0 }

def oldDruid : PlayerQueueInfo :=
  { PlayerQueueInfo.blank.calculateRoles .druid with team := 1, areaId := 5, timeInLFG := 10 }

def warriorAndDruid : LFGQueue where
  queuedPlayers := (OrderedMap.empty.insert 1 newWarrior).insert 2 oldDruid
  offlinePlayers := OrderedMap.empty
  queuedGroups := OrderedMap.empty.insert 9 needsTank
  groups := OrderedMap.empty
  nextGroupId := 10
  joins := []

theorem selects_iff_orderly_warriorAndDruid :
    warriorAndDruid.Selects needsTank .tank 9 ↔ warriorAndDruid.Orderly needsTank .tank :=
  selects_iff_orderly rfl

theorem not_selects :
    ¬∀ (q : LFGQueue) (entry : GroupQueueInfo) (role : ClassRoles) (id : Nat),
      q.queuedGroups.find id = some entry → entry.availableRoles.has role → q.Selects entry role id := by
  intro h
  have hselects := h warriorAndDruid needsTank .tank 9 rfl rfl
  have hdruid : warriorAndDruid.Candidate needsTank .tank 2 oldDruid := ⟨⟨rfl, rfl, rfl, rfl⟩, rfl⟩
  have hwarrior : warriorAndDruid.Candidate needsTank .tank 1 newWarrior := ⟨⟨rfl, rfl, rfl, rfl⟩, rfl⟩
  exact absurd (hselects.best 2 oldDruid hdruid rfl 1 newWarrior hwarrior) (by decide)

end LFGQueue

end TurtleWow.MeetingStone

import TurtleWow.Battlegrounds.World
import TurtleWow.Battlegrounds.Structure

namespace TurtleWow.Battlegrounds

open OrderedMap

-- What the operations of a queue do to its players' invitations.

namespace BattleGroundQueue

variable {q q' : BattleGroundQueue} {guid ginfo : Nat}

theorem infoOf_eq (q : BattleGroundQueue) (guid : Nat) : q.infoOf guid = (q.groupOf guid).bind q.infos.find := by
  unfold infoOf groupOf
  cases q.queuedPlayers.find guid <;> rfl

theorem invitation_eq (hguid : q.groupOf guid = some ginfo) :
    q.invitation guid = (q.infos.find ginfo).bind GroupQueueInfo.invitation := by
  rw [invitation, infoOf_eq, hguid, Option.bind_some]

theorem invitation_none (hguid : q.groupOf guid = none) : q.invitation guid = none := by
  rw [invitation, infoOf_eq, hguid]
  rfl

theorem invitation_congr (hgroup : q'.groupOf guid = q.groupOf guid)
    (hinfo : ∀ ginfo, q.groupOf guid = some ginfo →
      (q'.infos.find ginfo).bind GroupQueueInfo.invitation = (q.infos.find ginfo).bind GroupQueueInfo.invitation) :
    q'.invitation guid = q.invitation guid := by
  cases hguid : q.groupOf guid with
  | none => rw [invitation_none hguid, invitation_none (hgroup.trans hguid)]
  | some ginfo => rw [invitation_eq hguid, invitation_eq (hgroup.trans hguid), hinfo ginfo hguid]

theorem Sound.info (h : q.Sound) (hguid : q.groupOf guid = some ginfo) :
    ∃ info, q.infos.find ginfo = some info ∧ guid ∈ info.players := by
  obtain ⟨-, players, team, hshape, hplayer⟩ := h.placed guid ginfo hguid
  obtain ⟨info, hinfo, hsame⟩ := Option.map_eq_some_iff.mp hshape
  cases hsame
  exact ⟨info, hinfo, hplayer⟩

structure Alike (q q' : BattleGroundQueue) : Prop where
  groupOf : ∀ guid, q'.groupOf guid = q.groupOf guid
  invitation : ∀ guid, q'.invitation guid = q.invitation guid

theorem alike_of_infos (hgroup : ∀ guid, q'.groupOf guid = q.groupOf guid) (hinfos : q'.infos = q.infos) : Alike q q' :=
  ⟨hgroup, fun guid => invitation_congr (hgroup guid) fun _ _ => by rw [hinfos]⟩

theorem alike_playerLoggedOut (guid time : Nat) : Alike q (q.playerLoggedOut guid time) := by
  unfold playerLoggedOut
  cases hitr : q.queuedPlayers.find guid with
  | none => exact ⟨fun _ => rfl, fun _ => rfl⟩
  | some itr =>
    refine alike_of_infos (fun other => ?_) rfl
    rw [groupOf_insert]
    by_cases hsame : other = guid
    · rw [if_pos hsame, hsame, groupOf, hitr]
      rfl
    · rw [if_neg hsame]

theorem alike_playerLoggedIn (guid : Nat) : Alike q (q.playerLoggedIn guid) := by
  unfold playerLoggedIn
  cases hitr : q.queuedPlayers.find guid with
  | none => exact ⟨fun _ => rfl, fun _ => rfl⟩
  | some itr =>
    refine alike_of_infos (fun other => ?_) rfl
    rw [groupOf_insert]
    by_cases hsame : other = guid
    · rw [if_pos hsame, hsame, groupOf, hitr]
      rfl
    · rw [if_neg hsame]

structure Leaves (q q' : BattleGroundQueue) (guid : Nat) : Prop where
  groupOf : ∀ other, q'.groupOf other = if other = guid then none else q.groupOf other
  invitation : ∀ other, q'.invitation other = if other = guid then none else q.invitation other

theorem Sound.leaves (h : q.Sound) (guid : Nat) (decreaseInvitedCount : Bool) :
    Leaves q (q.removePlayer guid decreaseInvitedCount).1 guid := by
  unfold BattleGroundQueue.removePlayer
  cases hitr : q.queuedPlayers.find guid with
  | none =>
    have hguid : q.groupOf guid = none := by rw [groupOf, hitr]; rfl
    refine ⟨fun other => ?_, fun other => ?_⟩
    · by_cases hsame : other = guid
      · rw [if_pos hsame, hsame, hguid]
      · rw [if_neg hsame]
    · by_cases hsame : other = guid
      · rw [if_pos hsame, hsame, invitation_none hguid]
      · rw [if_neg hsame]
  | some itr =>
    have hguid : q.groupOf guid = some itr.groupInfo := by rw [groupOf, hitr]; rfl
    obtain ⟨group, hgroup, -⟩ := h.info hguid
    have hshape : q.shapeOf itr.groupInfo = some (group.players, group.groupTeam) := by
      rw [shapeOf, hgroup]
      rfl
    obtain ⟨⟨bracket, index, hmem⟩, -⟩ := h.placed guid itr.groupInfo hguid
    simp only [hgroup, h.searchGroup hmem hshape]
    have hleft : ∀ other ginfo, other ≠ guid → q.groupOf other = some ginfo →
        (((q.setInfo itr.groupInfo { group with players := group.players.erase guid }).infos.find ginfo).bind
          GroupQueueInfo.invitation) = (q.infos.find ginfo).bind GroupQueueInfo.invitation := by
      intro other ginfo _ _
      unfold BattleGroundQueue.setInfo
      rw [find_insert]
      by_cases hsame : ginfo = itr.groupInfo
      · rw [if_pos hsame, hsame, hgroup]
        rfl
      · rw [if_neg hsame]
    by_cases hempty : group.players.erase guid = ∅
    · rw [if_pos hempty]
      refine ⟨fun other => groupOf_eraseQueued, fun other => ?_⟩
      by_cases hsame : other = guid
      · rw [if_pos hsame]
        refine invitation_none (groupOf_eraseQueued.trans ?_)
        rw [if_pos hsame]
      · rw [if_neg hsame]
        refine invitation_congr (groupOf_eraseQueued.trans (if_neg hsame)) fun ginfo hother => ?_
        have hne : ginfo ≠ itr.groupInfo := by
          rintro rfl
          obtain ⟨info, hinfo, hplayer⟩ := h.info hother
          obtain rfl := Option.some.inj (hgroup.symm.trans hinfo)
          exact Finset.notMem_empty other (hempty ▸ Finset.mem_erase.mpr ⟨hsame, hplayer⟩)
        refine Eq.trans ?_ (hleft other ginfo hsame hother)
        unfold BattleGroundQueue.deleteGroup
        rw [find_erase, if_neg hne]
        rfl
    · rw [if_neg hempty]
      refine ⟨fun other => groupOf_eraseQueued, fun other => ?_⟩
      by_cases hsame : other = guid
      · rw [if_pos hsame]
        refine invitation_none (groupOf_eraseQueued.trans ?_)
        rw [if_pos hsame]
      · rw [if_neg hsame]
        exact invitation_congr (groupOf_eraseQueued.trans (if_neg hsame)) fun ginfo hother => hleft other ginfo hsame hother

theorem Sound.decreased (h : q.Sound) (guid : Nat) (decreaseInvitedCount : Bool) :
    (q.removePlayer guid decreaseInvitedCount).2 = if decreaseInvitedCount then q.invitation guid else none := by
  unfold BattleGroundQueue.removePlayer
  cases hitr : q.queuedPlayers.find guid with
  | none =>
    have hguid : q.groupOf guid = none := by rw [groupOf, hitr]; rfl
    rw [invitation_none hguid]
    cases decreaseInvitedCount <;> rfl
  | some itr =>
    have hguid : q.groupOf guid = some itr.groupInfo := by rw [groupOf, hitr]; rfl
    obtain ⟨group, hgroup, -⟩ := h.info hguid
    have hinvitation : q.invitation guid = group.invitation := by
      rw [invitation_eq hguid, hgroup]
      rfl
    have hshape : q.shapeOf itr.groupInfo = some (group.players, group.groupTeam) := by
      rw [shapeOf, hgroup]
      rfl
    obtain ⟨⟨bracket, index, hmem⟩, -⟩ := h.placed guid itr.groupInfo hguid
    simp only [hgroup, h.searchGroup hmem hshape]
    rw [hinvitation]
    unfold GroupQueueInfo.invitation
    by_cases hzero : group.isInvitedToBGInstanceGUID = 0
    · cases decreaseInvitedCount <;> simp [hzero]
    · cases decreaseInvitedCount <;> simp [hzero]

theorem Sound.players_iff (h : q.Sound) (hlisted : q.Listed ginfo) {info : GroupQueueInfo}
    (hinfo : q.infos.find ginfo = some info) (guid : Nat) : guid ∈ info.players ↔ q.groupOf guid = some ginfo := by
  constructor
  · obtain ⟨bracket, index, hmem⟩ := hlisted
    obtain ⟨players, team, hshape, -, -, -, hall⟩ := h.listed bracket index ginfo hmem
    obtain ⟨found, hfound, hsame⟩ := Option.map_eq_some_iff.mp hshape
    obtain rfl := Option.some.inj (hinfo.symm.trans hfound)
    cases hsame
    exact hall guid
  · intro hguid
    obtain ⟨found, hfound, hplayer⟩ := h.info hguid
    obtain rfl := Option.some.inj (hinfo.symm.trans hfound)
    exact hplayer

theorem inviteGroupToBG_waiting {info : GroupQueueInfo} {instanceId : Nat} (time : Nat) (reached : Nat → Bool)
    (hinfo : q.infos.find ginfo = some info) (hwaiting : info.isInvitedToBGInstanceGUID = 0) (hinstance : instanceId ≠ 0) :
    (∀ guid, (q.inviteGroupToBG ginfo instanceId (some info.groupTeam) time reached).1.groupOf guid = q.groupOf guid) ∧
      (∀ guid, (q.inviteGroupToBG ginfo instanceId (some info.groupTeam) time reached).1.invitation guid =
        if q.groupOf guid = some ginfo then some (instanceId, info.groupTeam) else q.invitation guid) ∧
      (q.inviteGroupToBG ginfo instanceId (some info.groupTeam) time reached).2 = info.players.filter fun guid => reached guid := by
  unfold inviteGroupToBG
  rw [hinfo]
  dsimp only
  rw [if_pos hwaiting]
  refine ⟨fun _ => rfl, fun guid => ?_, rfl⟩
  by_cases hguid : q.groupOf guid = some ginfo
  · rw [if_pos hguid, invitation_eq (q := q.setInfo ginfo _) hguid]
    unfold setInfo
    rw [find_insert, if_pos rfl]
    exact if_neg hinstance
  · rw [if_neg hguid]
    refine invitation_congr rfl fun other hother => ?_
    have hne : other ≠ ginfo := by
      rintro rfl
      exact hguid hother
    unfold setInfo
    rw [find_insert, if_neg hne]

theorem inviteGroupToBG_invited {info : GroupQueueInfo} (instanceId time : Nat) (reached : Nat → Bool)
    (hinfo : q.infos.find ginfo = some info) (hinvited : info.isInvitedToBGInstanceGUID ≠ 0) :
    Alike q (q.inviteGroupToBG ginfo instanceId (some info.groupTeam) time reached).1 ∧
      (q.inviteGroupToBG ginfo instanceId (some info.groupTeam) time reached).2 = ∅ := by
  unfold inviteGroupToBG
  rw [hinfo]
  dsimp only
  rw [if_neg hinvited]
  refine ⟨⟨fun _ => rfl, fun guid => invitation_congr rfl fun other _ => ?_⟩, rfl⟩
  unfold setInfo
  rw [find_insert]
  by_cases hsame : other = ginfo
  · rw [if_pos hsame, hsame, hinfo]
  · rw [if_neg hsame]

theorem Sound.invitation_addPlayers (h : q.Sound) (request : Request) (isPremade : Bool) (team : Team) {guids : List Nat}
    (hfree : ∀ guid ∈ guids, q.groupOf guid = none) (guid : Nat) :
    (q.addPlayers request isPremade team guids).invitation guid = q.invitation guid := by
  have hgroup : (q.addPlayers request isPremade team guids).groupOf guid =
      if guid ∈ guids then some q.nextInfo else q.groupOf guid := groupOf_addPlayers guid
  have hinfos : (q.addPlayers request isPremade team guids).infos = if guids = [] then q.infos else
      q.infos.insert q.nextInfo { newInfo request team with players := guids.toFinset } := by
    obtain ⟨-, hinfos, -⟩ := queuePlayer_fold q.nextInfo guids { q with nextInfo := q.nextInfo + 1 }
    unfold BattleGroundQueue.addPlayers
    split
    · exact hinfos
    · exact congrArg (OrderedMap.insert · q.nextInfo { newInfo request team with players := guids.toFinset }) hinfos
  by_cases hin : guid ∈ guids
  · rw [if_pos hin] at hgroup
    rw [invitation_none (hfree guid hin), invitation_eq hgroup, hinfos, if_neg (List.ne_nil_of_mem hin),
      find_insert, if_pos rfl]
    rfl
  · rw [if_neg hin] at hgroup
    refine invitation_congr hgroup fun ginfo hguid => ?_
    rw [hinfos]
    split
    · rfl
    · rw [find_insert, if_neg (Nat.ne_of_lt (h.allocated ginfo (h.placed guid ginfo hguid).1))]

theorem Sound.invitation_adds (h : q.Sound) (hadds : Adds q q') (guid : Nat) : q'.invitation guid = q.invitation guid := by
  induction hadds with
  | refl _ => rfl
  | number _ ih => exact ih (h.congr (fun _ => rfl) (fun _ _ => .refl _) (fun _ => rfl) (Nat.le_succ _))
  | players request isPremade team hfree _ ih =>
    exact (ih (h.addPlayers request isPremade team hfree)).trans
      (h.invitation_addPlayers request isPremade team hfree guid)

end BattleGroundQueue

end TurtleWow.Battlegrounds

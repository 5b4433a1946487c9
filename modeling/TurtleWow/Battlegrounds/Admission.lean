import TurtleWow.Battlegrounds.Counted

namespace TurtleWow.Battlegrounds

open Run List OrderedMap

-- An update invites groups to battlegrounds that have room for them.

namespace State

variable {s after : State} {expected : Finset Nat} {inside : OrderedMap Nat (Nat × Team)} {settings : Settings} {view : View}
  {bound instanceId ginfo n : Nat} {team : Team} {bracket : Bracket} {bg : BattleGround} {info : GroupQueueInfo}
  {list : List Nat}

theorem Balanced.increase (h : s.Balanced expected inside) (hbg : s.bgs.find instanceId = some bg)
    (hroom : bg.invited team + n ≤ bg.maxPlayersPerTeam)
    (hbgs : after.bgs = s.bgs.insert instanceId
      { bg with invited := Function.update bg.invited team (bg.invited team + n) })
    (hcards : ∀ id team', (after.queue.queuedFor expected id team').card =
      (s.queue.queuedFor expected id team').card + if id = instanceId ∧ team' = team then n else 0) :
    after.Balanced expected inside := by
  refine ⟨fun id found hfound team' => ?_, fun id found hfound team' => ?_, fun id found hfound => ?_,
    fun id found hfound => ?_⟩
  · rw [hcards]
    rcases of_find_insert (hbgs ▸ hfound) with ⟨rfl, rfl⟩ | ⟨hother, hold⟩
    · have hcounts := h.counts id bg hbg team'
      dsimp only
      rw [Function.update_apply]
      by_cases hteam : team' = team
      · subst hteam
        rw [if_pos rfl, if_pos ⟨rfl, rfl⟩]
        omega
      · rw [if_neg hteam, if_neg fun hboth => hteam hboth.2]
        omega
    · rw [if_neg fun hboth => hother hboth.1]
      exact h.counts id found hold team'
  · rcases of_find_insert (hbgs ▸ hfound) with ⟨rfl, rfl⟩ | ⟨-, hold⟩
    · dsimp only
      rw [Function.update_apply]
      split
      · exact hroom
      · exact h.room id bg hbg team'
    · exact h.room id found hold team'
  · rcases of_find_insert (hbgs ▸ hfound) with ⟨rfl, rfl⟩ | ⟨-, hold⟩
    · exact h.word id bg hbg
    · exact h.word id found hold
  · rcases of_find_insert (hbgs ▸ hfound) with ⟨rfl, rfl⟩ | ⟨-, hold⟩
    · exact h.present id bg hbg
    · exact h.present id found hold

theorem Updating.card_invited (h : s.Updating expected inside view.reached bound) {queue : BattleGroundQueue}
    (hlisted : s.queue.Listed ginfo) (hinfo : s.queue.infos.find ginfo = some info)
    (hwaiting : info.isInvitedToBGInstanceGUID = 0)
    (hinvitation : ∀ guid, queue.invitation guid =
      if s.queue.groupOf guid = some ginfo then some (instanceId, team) else s.queue.invitation guid)
    (id : Nat) (team' : Team) : (queue.queuedFor expected id team').card =
      (s.queue.queuedFor expected id team').card +
        if id = instanceId ∧ team' = team then (info.players.filter fun guid => view.reached guid).card else 0 := by
  have hbefore : ∀ guid ∈ info.players, s.queue.invitation guid = none := by
    intro guid hguid
    rw [BattleGroundQueue.invitation_eq ((h.sound.players_iff hlisted hinfo guid).mp hguid), hinfo]
    exact if_pos hwaiting
  by_cases hboth : id = instanceId ∧ team' = team
  · rw [if_pos hboth, ← Finset.card_union_of_disjoint]
    · congr 1
      ext guid
      rw [Finset.mem_union, BattleGroundQueue.mem_queuedFor, BattleGroundQueue.mem_queuedFor, Finset.mem_filter, hinvitation,
        h.sound.players_iff hlisted hinfo guid]
      by_cases hguid : s.queue.groupOf guid = some ginfo
      · have hnone := hbefore guid ((h.sound.players_iff hlisted hinfo guid).mpr hguid)
        have hexpects := h.expects guid (by rw [hguid]; exact Option.some_ne_none ginfo) hnone
        simp [hguid, hnone, hexpects, hboth]
      · simp [hguid]
    · refine Finset.disjoint_left.mpr fun guid hguid hplayer => ?_
      rw [BattleGroundQueue.mem_queuedFor, hbefore guid (Finset.mem_filter.mp hplayer).1] at hguid
      exact Option.some_ne_none _ hguid.2.symm
  · rw [if_neg hboth, Nat.add_zero]
    congr 1
    ext guid
    rw [BattleGroundQueue.mem_queuedFor, BattleGroundQueue.mem_queuedFor, hinvitation]
    by_cases hguid : s.queue.groupOf guid = some ginfo
    · have hnone := hbefore guid ((h.sound.players_iff hlisted hinfo guid).mpr hguid)
      have hne : (instanceId, team) ≠ (id, team') := fun heq =>
        hboth ⟨(Prod.mk.inj heq).1.symm, (Prod.mk.inj heq).2.symm⟩
      simp [hguid, hnone, hne]
    · rw [if_neg hguid]

theorem Updating.inviteGroup (h : s.Updating expected inside view.reached bound) (hlisted : s.queue.Listed ginfo)
    (hinfo : s.queue.infos.find ginfo = some info) (hbg : s.bgs.find instanceId = some bg)
    (hroom : bg.invited info.groupTeam + info.players.card ≤ bg.maxPlayersPerTeam) :
    (State.inviteGroup view instanceId s ginfo).Updating expected inside view.reached bound ∧
      ∃ n ≤ info.players.card, (State.inviteGroup view instanceId s ginfo).bgs = s.bgs.insert instanceId
        { bg with invited := Function.update bg.invited info.groupTeam (bg.invited info.groupTeam + n) } := by
  have hsound := sound_inviteGroup view h.sound instanceId ginfo
  have hword := h.balanced.word instanceId bg hbg
  obtain ⟨hpositive, hbound⟩ := h.numbered.bgs instanceId bg hbg
  have hnumbered (n : Nat) : ∀ id found, (s.bgs.insert instanceId
      { bg with invited := Function.update bg.invited info.groupTeam (bg.invited info.groupTeam + n) }).find id = some found →
      0 < id ∧ id < bound := by
    intro id found hfound
    rw [find_insert] at hfound
    by_cases hsame : id = instanceId
    · exact hsame ▸ ⟨hpositive, hbound⟩
    · rw [if_neg hsame] at hfound
      exact h.numbered.bgs id found hfound
  unfold State.inviteGroup at hsound ⊢
  rw [hinfo, hbg] at hsound ⊢
  dsimp only at hsound ⊢
  by_cases hwaiting : info.isInvitedToBGInstanceGUID = 0
  · obtain ⟨hgroup, hinvitation, hcounted⟩ := BattleGroundQueue.inviteGroupToBG_waiting view.time view.reached hinfo hwaiting
      (Nat.ne_of_gt hpositive)
    rw [hcounted]
    have hcard : (info.players.filter fun guid => view.reached guid).card ≤ info.players.card := Finset.card_filter_le _ _
    rw [BattleGround.iterate_increase _ _ _ (by omega)]
    refine ⟨⟨hsound, h.balanced.increase hbg (by omega) rfl (h.card_invited hlisted hinfo hwaiting hinvitation),
      ⟨hnumbered _, fun guid id team hguid => ?_, h.numbered.inside⟩, fun guid hqueued hnone => ?_⟩, _, hcard, rfl⟩
    · rw [hinvitation] at hguid
      split at hguid
      · exact (Prod.mk.inj (Option.some.inj hguid)).1 ▸ hbound
      · exact h.numbered.invited guid id team hguid
    · rw [hgroup] at hqueued
      rw [hinvitation] at hnone
      split at hnone
      · cases hnone
      · exact h.expects guid hqueued hnone
  · obtain ⟨halike, hcounted⟩ := BattleGroundQueue.inviteGroupToBG_invited instanceId view.time view.reached hinfo hwaiting
    rw [hcounted]
    rw [Finset.card_empty, BattleGround.iterate_increase _ _ _ (by omega)]
    refine ⟨⟨hsound, h.balanced.increase hbg (by omega) rfl fun id team' => ?_,
      ⟨hnumbered 0, fun guid id team hguid => ?_, h.numbered.inside⟩, fun guid => ?_⟩, 0, Nat.zero_le _, rfl⟩
    · rw [BattleGroundQueue.queuedFor_congr halike.invitation, ite_self, Nat.add_zero]
    · rw [halike.invitation] at hguid
      exact h.numbered.invited guid id team hguid
    · rw [halike.groupOf, halike.invitation]
      exact h.expects guid

structure Fits (s : State) (instanceId : Nat) (bracket : Bracket) (team : Team) (list : List Nat) : Prop where
  queued : ∀ ginfo ∈ list, ∃ isPremade, ginfo ∈ s.queue.teamList bracket isPremade team
  room : ∃ bg, s.bgs.find instanceId = some bg ∧
    bg.invited team + (list.map (SelectionPool.sizeOf s.queue)).sum ≤ bg.maxPlayersPerTeam

theorem Fits.first (h : s.Fits instanceId bracket team (ginfo :: list)) (hsound : s.queue.Sound) :
    ∃ info, s.queue.infos.find ginfo = some info ∧ info.groupTeam = team ∧ s.queue.Listed ginfo := by
  obtain ⟨isPremade, hlist⟩ := h.queued ginfo mem_cons_self
  exact hsound.info_of_teamList hlist

theorem frame_inviteGroup (s : State) (view : View) (instanceId ginfo : Nat) :
    (State.inviteGroup view instanceId s ginfo).queue.teamList = s.queue.teamList ∧
      SelectionPool.sizeOf (State.inviteGroup view instanceId s ginfo).queue = SelectionPool.sizeOf s.queue := by
  unfold State.inviteGroup
  split
  · rename_i info bg hinfo hbg
    unfold BattleGroundQueue.inviteGroupToBG
    simp only [hinfo]
    have hsize : ∀ after : GroupQueueInfo, after.players = info.players →
        SelectionPool.sizeOf (s.queue.setInfo ginfo after) = SelectionPool.sizeOf s.queue := by
      intro after hplayers
      funext other
      unfold SelectionPool.sizeOf BattleGroundQueue.setInfo
      rw [find_insert]
      by_cases hsame : other = ginfo
      · rw [if_pos hsame, hsame, hinfo]
        exact congrArg Finset.card hplayers
      · rw [if_neg hsame]
    split
    · exact ⟨rfl, hsize _ rfl⟩
    · exact ⟨rfl, hsize _ rfl⟩
  · exact ⟨rfl, rfl⟩

theorem Updating.inviteFirst (h : s.Updating expected inside view.reached bound)
    (hfits : s.Fits instanceId bracket team (ginfo :: list)) :
    (State.inviteGroup view instanceId s ginfo).Updating expected inside view.reached bound ∧
      (State.inviteGroup view instanceId s ginfo).Fits instanceId bracket team list ∧
      ∀ other ≠ team, ∀ list, s.Fits instanceId bracket other list →
        (State.inviteGroup view instanceId s ginfo).Fits instanceId bracket other list := by
  obtain ⟨info, hinfo, hteam, hlisted⟩ := hfits.first h.sound
  obtain ⟨bg, hbg, hroom⟩ := hfits.room
  rw [map_cons, sum_cons, BattleGroundQueue.sizeOf_eq hinfo] at hroom
  subst hteam
  obtain ⟨hupdating, n, hn, hbgs⟩ := h.inviteGroup hlisted hinfo hbg (by omega)
  obtain ⟨hlists, hsizes⟩ := frame_inviteGroup s view instanceId ginfo
  refine ⟨hupdating, ⟨fun other hother => ?_, ?_⟩, fun other hother list hlist => ⟨fun ginfo' hginfo' => ?_, ?_⟩⟩
  · rw [hlists]
    exact hfits.queued other (mem_cons_of_mem _ hother)
  · refine ⟨_, by rw [hbgs, find_insert, if_pos rfl], ?_⟩
    rw [hsizes]
    dsimp only
    rw [Function.update_self]
    omega
  · rw [hlists]
    exact hlist.queued ginfo' hginfo'
  · obtain ⟨bg', hbg', hroom'⟩ := hlist.room
    obtain rfl := Option.some.inj (hbg.symm.trans hbg')
    refine ⟨_, by rw [hbgs, find_insert, if_pos rfl], ?_⟩
    rw [hsizes]
    dsimp only
    rw [Function.update_of_ne hother]
    exact hroom'

theorem Updating.inviteGroups (h : s.Updating expected inside view.reached bound)
    (hfits : s.Fits instanceId bracket team list) :
    (list.foldl (State.inviteGroup view instanceId) s).Updating expected inside view.reached bound ∧
      ∀ other ≠ team, ∀ groups, s.Fits instanceId bracket other groups →
        (list.foldl (State.inviteGroup view instanceId) s).Fits instanceId bracket other groups := by
  induction list generalizing s with
  | nil => exact ⟨h, fun _ _ _ hgroups => hgroups⟩
  | cons ginfo rest ih =>
    obtain ⟨hfirst, hrest, hother⟩ := h.inviteFirst hfits
    obtain ⟨hall, hothers⟩ := ih hfirst hrest
    exact ⟨hall, fun other hne groups hgroups => hothers other hne groups (hother other hne groups hgroups)⟩

theorem fits_of_loaded {limit : Nat} {pool : SelectionPool} (hloaded : s.queue.Loaded bracket limit team pool)
    (hbg : s.bgs.find instanceId = some bg) (hroom : bg.invited team + limit ≤ bg.maxPlayersPerTeam) :
    s.Fits instanceId bracket team pool.selectedGroups := by
  have hfits := hloaded.fits
  have hcounted := hloaded.counted
  exact ⟨hloaded.queued, bg, hbg, by omega⟩

section

variable (h : s.Updating expected inside view.reached bound)

include h

theorem Updating.inviteAllGroups (limit : Team → Nat) {pools : Pools}
    (hloaded : ∀ team, s.queue.Loaded bracket (limit team) team (pools team)) (hbg : s.bgs.find instanceId = some bg)
    (hroom : ∀ team, bg.invited team + limit team ≤ bg.maxPlayersPerTeam) :
    (s.inviteAllGroups view instanceId pools).Updating expected inside view.reached bound := by
  have hfits (team : Team) : s.Fits instanceId bracket team (pools team).selectedGroups :=
    fits_of_loaded (hloaded team) hbg (hroom team)
  obtain ⟨halliance, hother⟩ := h.inviteGroups (hfits .ALLIANCE)
  exact (halliance.inviteGroups (hother .HORDE (by decide) _ (hfits .HORDE))).1

theorem Updating.fillRunning (bracket : Bracket) (instanceId : Nat) :
    (State.fillRunning settings view bracket s instanceId).Updating expected inside view.reached bound := by
  unfold State.fillRunning
  cases hbg : s.bgs.find instanceId with
  | none => exact h
  | some bg =>
    dsimp only
    by_cases hrunning : bg.bracketId = bracket ∧ bg.status > STATUS_WAIT_QUEUE ∧ bg.status < STATUS_WAIT_LEAVE
    · rw [if_pos hrunning]
      have hroom (team : Team) : bg.invited team + bg.getFreeSlotsForTeam team ≤ bg.maxPlayersPerTeam := by
        have hbefore := h.balanced.room instanceId bg hbg team
        unfold BattleGround.getFreeSlotsForTeam
        split
        · split <;> omega
        · omega
      have hloaded (team : Team) : s.queue.Loaded bracket (bg.getFreeSlotsForTeam team) team
          (s.queue.fillPlayersToBG settings view bg bracket team) := BattleGroundQueue.loaded_fillPlayersToBG bg team
      have hinvited := h.inviteAllGroups bg.getFreeSlotsForTeam hloaded hbg hroom
      split
      · exact hinvited
      · exact hinvited.alike hinvited.sound ⟨fun _ => rfl, fun _ => rfl⟩ rfl
    · rw [if_neg hrunning]
      exact h

theorem Updating.shuffleNormal (bracket : Bracket)
    (order : Team → BattleGroundQueue.Shuffle) :
    (s.shuffleNormal bracket order).Updating expected inside view.reached bound :=
  h.alike (sound_shuffleNormal h.sound bracket order) ⟨fun _ => rfl, fun _ => rfl⟩ rfl

end

variable (settings) in
theorem Updating.filled (h : s.Updating expected inside view.reached bound) (bracket : Bracket) :
    (s.filled settings view bracket).Updating expected inside view.reached bound := by
  have hfill (instances : List Nat) {s : State} (h : s.Updating expected inside view.reached bound) :
      (instances.foldl (State.fillRunning settings view bracket) s).Updating expected inside view.reached bound := by
    induction instances generalizing s with
    | nil => exact h
    | cons instanceId rest ih => exact ih (h.fillRunning bracket instanceId)
  unfold State.filled
  cases view.randomize with
  | none => exact hfill _ h
  | some order => exact hfill _ (h.shuffleNormal bracket order)

variable (settings) in
theorem Updating.shuffleAlterac (h : s.Updating expected inside view.reached bound) (bracket : Bracket) :
    (s.shuffleAlterac settings view bracket).Updating expected inside view.reached bound := by
  unfold State.shuffleAlterac
  split
  · exact h.shuffleNormal bracket view.alterac
  · exact h

section

variable (h : s.Updating expected inside view.reached bound)

include h

theorem Updating.mono {bound' : Nat} (hle : bound ≤ bound') :
    s.Updating expected inside view.reached bound' := by
  refine ⟨h.sound, h.balanced, ⟨fun id bg hbg => ?_, fun guid id team hguid => ?_, fun guid id team hguid => ?_⟩, h.expects⟩
  · obtain ⟨hpositive, hbound⟩ := h.numbered.bgs id bg hbg
    exact ⟨hpositive, Nat.lt_of_lt_of_le hbound hle⟩
  · exact Nat.lt_of_lt_of_le (h.numbered.invited guid id team hguid) hle
  · exact Nat.lt_of_lt_of_le (h.numbered.inside guid id team hguid) hle

theorem Updating.movePremade (bracket : Bracket)
    (timeBefore minPlayersPerTeam : Nat) (team : Team) :
    State.Updating { s with queue := s.queue.movePremade bracket timeBefore minPlayersPerTeam team }
      expected inside view.reached bound := by
  refine h.alike (h.sound.movePremade bracket timeBefore minPlayersPerTeam team)
    (BattleGroundQueue.alike_of_infos (fun guid => ?_) BattleGroundQueue.infos_movePremade) rfl
  unfold BattleGroundQueue.groupOf
  rw [BattleGroundQueue.queuedPlayers_movePremade]

theorem Updating.insert (hpositive : 0 < bound) (created : BattleGround)
    (hinvited : ∀ team, created.invited team = 0) (hword : created.maxPlayersPerTeam < 4294967296)
    (hplayers : ∀ guid, created.players.find guid = none) :
    State.Updating { s with bgs := s.bgs.insert bound created } expected inside view.reached (bound + 1) := by
  have hwider := (h.mono (Nat.le_succ bound)).numbered
  have hqueued (team : Team) : s.queue.queuedFor expected bound team = ∅ := by
    refine Finset.eq_empty_of_forall_notMem fun guid hguid => ?_
    exact Nat.lt_irrefl _ (h.numbered.invited guid bound team (BattleGroundQueue.mem_queuedFor.mp hguid).2)
  have hinside (team : Team) : inside.fiber (bound, team) = ∅ := by
    refine Finset.eq_empty_of_forall_notMem fun guid hguid => ?_
    exact Nat.lt_irrefl _ (h.numbered.inside guid bound team (mem_fiber.mp hguid))
  refine ⟨h.sound, ⟨fun id found hfound team => ?_, fun id found hfound team => ?_, fun id found hfound => ?_,
    fun id found hfound guid team hguid => ?_⟩, ⟨fun id found hfound => ?_, hwider.invited, hwider.inside⟩, h.expects⟩
  · rcases of_find_insert hfound with ⟨rfl, rfl⟩ | ⟨-, hold⟩
    · show found.invited team = (s.queue.queuedFor expected id team).card + _
      rw [hinvited, hqueued, hinside, Finset.card_empty]
    · exact h.balanced.counts id found hold team
  · rcases of_find_insert hfound with ⟨rfl, rfl⟩ | ⟨-, hold⟩
    · rw [hinvited]
      exact Nat.zero_le _
    · exact h.balanced.room id found hold team
  · rcases of_find_insert hfound with ⟨rfl, rfl⟩ | ⟨-, hold⟩
    · exact hword
    · exact h.balanced.word id found hold
  · rcases of_find_insert hfound with ⟨rfl, rfl⟩ | ⟨-, hold⟩
    · rw [hplayers] at hguid
      cases hguid
    · exact h.balanced.present id found hold guid team hguid
  · rcases of_find_insert hfound with ⟨rfl, rfl⟩ | ⟨-, hold⟩
    · exact ⟨hpositive, Nat.lt_succ_self id⟩
    · exact hwider.bgs id found hold

end

end State

namespace Formation

variable {f : Formation} {expected : Finset Nat} {inside : OrderedMap Nat (Nat × Team)} {settings : Settings} {view : View}
  {bound : Nat} {m : Match}

structure Ready (f : Formation) (m : Match) (expected : Finset Nat) (inside : OrderedMap Nat (Nat × Team))
    (reached : Nat → Bool) (bound : Nat) : Prop where
  updating : f.state.Updating expected inside reached bound
  loaded : ∀ team, f.state.queue.Loaded m.bracket m.maxPlayersPerTeam team (f.pools team)

theorem Ready.mono (h : f.Ready m expected inside view.reached bound) {bound' : Nat} (hle : bound ≤ bound') :
    f.Ready m expected inside view.reached bound' := ⟨h.updating.mono hle, h.loaded⟩

structure Roomy (m : Match) : Prop where
  room : m.maxPlayersPerTeam ≤ m.templateMaxPlayersPerTeam
  word : m.templateMaxPlayersPerTeam < 4294967296

theorem ready_create (h : f.state.Updating expected inside view.reached bound) (hpositive : 0 < bound) (hroomy : Roomy m)
    {pools : Pools} (hloaded : ∀ team, f.state.queue.Loaded m.bracket m.maxPlayersPerTeam team (pools team)) {attempt : Nat}
    (hinstance : ∀ created, view.newBattleGround attempt = some created → created.1 = bound) :
    (f.create view m pools attempt).Ready m expected inside view.reached (bound + 1) := by
  unfold create
  cases hcreated : view.newBattleGround attempt with
  | none => exact ⟨h.mono (Nat.le_succ bound), hloaded⟩
  | some created =>
    obtain ⟨instanceId, clientInstanceId⟩ := created
    obtain rfl : instanceId = bound := hinstance _ hcreated
    have hinserted := h.insert hpositive (newBattleGround m clientInstanceId) (fun _ => rfl) hroomy.word fun _ => rfl
    have hinvited := hinserted.inviteAllGroups (fun _ => m.maxPlayersPerTeam) hloaded
      ((find_insert _).trans (if_pos rfl)) fun team => ?_
    · exact ⟨hinvited.alike hinvited.sound ⟨fun _ => rfl, fun _ => rfl⟩ rfl, fun team => BattleGroundQueue.loaded_init⟩
    · rw [show (newBattleGround m clientInstanceId).invited team = 0 from rfl, Nat.zero_add]
      exact hroomy.room

variable (settings) in
theorem ready_premade {s : State} (h : s.Updating expected inside view.reached bound) (hpositive : 0 < bound) (hroomy : Roomy m)
    (hinstance : ∀ created, view.newBattleGround 0 = some created → created.1 = bound) :
    (premade ⟨s, .init, [], false⟩ settings view m).Ready m expected inside view.reached (bound + 1) := by
  have hchecked : State.Updating { s with queue :=
      (s.queue.checkPremadeMatch settings view m.bracket m.minPlayersPerTeam m.maxPlayersPerTeam .init).1 }
      expected inside view.reached bound := by
    unfold BattleGroundQueue.checkPremadeMatch
    dsimp only
    split
    · exact h
    · exact (h.movePremade _ _ _ _).movePremade _ _ _ _
  have hloaded := BattleGroundQueue.loaded_checkPremadeMatch settings view m.minPlayersPerTeam
    fun team => (BattleGroundQueue.loaded_init : s.queue.Loaded m.bracket m.maxPlayersPerTeam team .init)
  unfold premade
  dsimp only
  split
  · exact ready_create hchecked hpositive hroomy hloaded hinstance
  · exact ⟨hchecked.mono (Nat.le_succ bound), hloaded⟩

theorem Ready.normal (h : f.Ready m expected inside view.reached bound) (hpositive : 0 < bound) (hroomy : Roomy m)
    {attempt : Nat} (hinstance : ∀ created, view.newBattleGround attempt = some created → created.1 = bound)
    {f' : Formation} (hnormal : Formation.normal settings view m (some f) attempt = some f') :
    f'.Ready m expected inside view.reached (bound + 1) := by
  unfold Formation.normal at hnormal
  simp only [Option.bind_some] at hnormal
  by_cases hstopped : f.stopped = true
  · rw [if_pos hstopped] at hnormal
    exact Option.some.inj hnormal ▸ h.mono (Nat.le_succ bound)
  · rw [if_neg hstopped] at hnormal
    obtain ⟨⟨pools, found⟩, hcheck, rfl⟩ := Option.map_eq_some_iff.mp hnormal
    have hloaded := BattleGroundQueue.loaded_checkNormalMatch h.loaded hcheck
    cases found with
    | false => exact ⟨h.updating.mono (Nat.le_succ bound), hloaded⟩
    | true => exact ready_create h.updating hpositive hroomy hloaded hinstance

theorem Ready.normals (h : f.Ready m expected inside view.reached (bound + 1)) (hroomy : Roomy m)
    (hinstance : ∀ attempt created, view.newBattleGround attempt = some created → created.1 = bound + attempt)
    {attempts : Nat} {f' : Formation} (hnormals : (List.range attempts).foldl
      (fun f attempt => Formation.normal settings view m f (attempt + 1)) (some f) = some f') :
    f'.Ready m expected inside view.reached (bound + attempts + 1) := by
  induction attempts generalizing f' with
  | zero => exact Option.some.inj hnormals ▸ h
  | succ attempts ih =>
    rw [range_succ, foldl_append, foldl_cons, foldl_nil] at hnormals
    cases hbefore : (List.range attempts).foldl (fun f attempt => Formation.normal settings view m f (attempt + 1)) (some f) with
    | none =>
      rw [hbefore] at hnormals
      cases hnormals
    | some before =>
      rw [hbefore] at hnormals
      exact (ih hbefore).normal (Nat.succ_pos _) hroomy (hinstance (attempts + 1)) hnormals

end Formation

namespace State

variable {s after : State} {expected : Finset Nat} {inside : OrderedMap Nat (Nat × Team)} {settings : Settings} {view : View}
  {bound : Nat} {bracket : Bracket} {created : List Created}

theorem attempts_le : s.attempts settings bracket ≤ 2 := by
  unfold attempts
  split
  · exact Nat.zero_le 2
  · split
    · exact Nat.le_refl 2
    · exact Nat.le_succ 1

-- The limits in the configuration: where a battleground starts with other limits
-- than its own, they are not above its own.
structure Configured (settings : Settings) (template : Template) : Prop where
  word : template.maxPlayersPerTeam < 4294967296
  initial : settings.isAlterac = true ∧ settings.avInitialMaxPlayers ≠ 0 ∧ settings.testing = false →
    max settings.avInitialMaxPlayers template.minPlayersPerTeam ≤ template.maxPlayersPerTeam

theorem Configured.roomy {template : Template} (h : Configured settings template) :
    Formation.Roomy (s.newMatch settings template bracket) := by
  refine ⟨?_, h.word⟩
  show s.maxPlayersPerTeam settings template bracket ≤ template.maxPlayersPerTeam
  unfold maxPlayersPerTeam
  split
  · rename_i htwo
    refine h.initial ?_
    unfold attempts at htwo
    split at htwo
    · exact absurd htwo (by decide)
    · split at htwo
      · assumption
      · exact absurd htwo (by decide)
  · exact Nat.le_refl _

theorem Updating.update (h : s.Updating expected inside view.reached bound) (hpositive : 0 < bound)
    (hguarded : Guarded (removeStale view) (Removes view expected) s s.queue.queuedPlayers.keys)
    (hconfigured : ∀ template, view.template = some template → Configured settings template)
    (hinstance : ∀ attempt created, view.newBattleGround attempt = some created → created.1 = bound + attempt)
    (hupdate : s.update settings view bracket = some (after, created)) :
    after.Updating expected inside view.reached (bound + 3) := by
  have hcleaned := h.cleaned hguarded
  unfold State.update at hupdate
  dsimp only at hupdate
  split at hupdate
  · cases hupdate
    exact hcleaned.mono (by omega)
  · have hfilled := hcleaned.filled settings bracket
    cases htemplate : view.template with
    | none =>
      rw [htemplate] at hupdate
      cases hupdate
      exact hfilled.mono (by omega)
    | some template =>
      rw [htemplate] at hupdate
      obtain ⟨f, hf, hresult⟩ := Option.map_eq_some_iff.mp hupdate
      cases hresult
      generalize (s.cleaned view).filled settings view bracket = filled at hf hfilled
      have hroomy : Formation.Roomy (filled.newMatch settings template bracket) := (hconfigured template htemplate).roomy
      have hpremade := Formation.ready_premade settings (hfilled.shuffleAlterac settings bracket) hpositive hroomy
        (hinstance 0)
      have hattempts : filled.attempts settings bracket ≤ 2 := attempts_le
      exact (hpremade.normals hroomy hinstance hf).updating.mono (by omega)

end State

end TurtleWow.Battlegrounds

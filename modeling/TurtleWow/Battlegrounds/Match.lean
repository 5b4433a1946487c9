import TurtleWow.Battlegrounds.Update
import TurtleWow.Battlegrounds.Structure
import Mathlib.Algebra.BigOperators.Group.Finset.Basic

namespace TurtleWow.Battlegrounds

open Run List

-- Who plays in a new battleground: groups that are invited for the first time,
-- each once, with enough players for each team and not too many.

namespace BattleGroundQueue

def playersOf (q : BattleGroundQueue) (ginfo : Nat) : Finset Nat :=
  match q.infos.find ginfo with
  | none => ∅
  | some info => info.players

end BattleGroundQueue

namespace Created

def players (c : Created) (team : Team) : Finset Nat := (c.pools team).selectedGroups.toFinset.biUnion c.queue.playersOf

structure Proper (c : Created) : Prop where
  distinct : ((c.pools .ALLIANCE).selectedGroups ++ (c.pools .HORDE).selectedGroups).Nodup
  uninvited : ∀ team, ∀ ginfo ∈ (c.pools team).selectedGroups,
    ∃ info, c.queue.infos.find ginfo = some info ∧ info.isInvitedToBGInstanceGUID = 0 ∧ info.groupTeam = team
  enough : ∀ team, c.minPlayersPerTeam ≤ (c.players team).card
  notTooMany : ∀ team, (c.players team).card ≤ c.maxPlayersPerTeam

end Created

namespace BattleGroundQueue

def teamList (q : BattleGroundQueue) (bracket : Bracket) (isPremade : Bool) (team : Team) : List Nat :=
  q.queuedGroups bracket ((if isPremade then BG_QUEUE_PREMADE_ALLIANCE else BG_QUEUE_NORMAL_ALLIANCE) + getTeamIndexByTeamId team)

structure Held (q : BattleGroundQueue) (bracket : Bracket) (maxPlayers : Nat) (team : Team) (pool : SelectionPool) : Prop where
  once : pool.selectedGroups.Nodup
  waiting : ∀ ginfo ∈ pool.selectedGroups, (∃ info, q.infos.find ginfo = some info ∧ info.isInvitedToBGInstanceGUID = 0) ∧
    ∃ isPremade, ginfo ∈ q.teamList bracket isPremade team
  counted : pool.playerCount = (pool.selectedGroups.map (SelectionPool.sizeOf q)).sum
  fits : pool.playerCount ≤ maxPlayers

structure Ahead (q : BattleGroundQueue) (bracket : Bracket) (maxPlayers : Nat) (team : Team) (pool : SelectionPool)
    (list : List Nat) : Prop where
  once : list.Nodup
  queued : ∀ ginfo ∈ list, ∃ isPremade, ginfo ∈ q.teamList bracket isPremade team
  apart : ∀ ginfo ∈ list, ginfo ∈ pool.selectedGroups → maxPlayers < pool.playerCount + SelectionPool.sizeOf q ginfo

variable {q q' : BattleGroundQueue} {settings : Settings} {view : View} {bracket : Bracket} {maxPlayers : Nat} {team : Team}
  {pool : SelectionPool} {ginfo : Nat} {list : List Nat}

theorem held_init : Held q bracket maxPlayers team .init :=
  ⟨nodup_nil, fun _ h => absurd h not_mem_nil, rfl, Nat.zero_le _⟩

theorem sizeOf_eq {info : GroupQueueInfo} (h : q.infos.find ginfo = some info) : SelectionPool.sizeOf q ginfo = info.players.card := by
  unfold SelectionPool.sizeOf
  rw [h]

theorem addGroup_cases (busy : Nat → Bool) (desiredCount bgInstanceId : Nat) (pool : SelectionPool) (ginfo : Nat) :
    (SelectionPool.addGroup q busy desiredCount bgInstanceId pool ginfo).1 = pool ∨
      (∃ info, q.infos.find ginfo = some info ∧ info.isInvitedToBGInstanceGUID = 0) ∧
        pool.playerCount + SelectionPool.sizeOf q ginfo ≤ desiredCount ∧
        (SelectionPool.addGroup q busy desiredCount bgInstanceId pool ginfo).1 =
          ⟨pool.selectedGroups ++ [ginfo], pool.playerCount + SelectionPool.sizeOf q ginfo⟩ := by
  unfold SelectionPool.addGroup
  cases hfind : q.infos.find ginfo with
  | none => exact .inl rfl
  | some info =>
    dsimp only
    split
    · rename_i hfits
      rw [sizeOf_eq hfind]
      exact .inr ⟨⟨info, rfl, hfits.1⟩, hfits.2.2.1, rfl⟩
    · exact .inl rfl

theorem Ahead.tail (h : Ahead q bracket maxPlayers team pool (ginfo :: list)) : Ahead q bracket maxPlayers team pool list :=
  ⟨(nodup_cons.mp h.once).2, fun other hother => h.queued other (mem_cons_of_mem _ hother),
    fun other hother => h.apart other (mem_cons_of_mem _ hother)⟩

theorem Held.addGroup (busy : Nat → Bool) {desiredCount : Nat} (bgInstanceId : Nat) (h : Held q bracket maxPlayers team pool)
    (hahead : Ahead q bracket maxPlayers team pool (ginfo :: list)) (hdesired : desiredCount ≤ maxPlayers) :
    Held q bracket maxPlayers team (SelectionPool.addGroup q busy desiredCount bgInstanceId pool ginfo).1 ∧
      Ahead q bracket maxPlayers team (SelectionPool.addGroup q busy desiredCount bgInstanceId pool ginfo).1 list := by
  rcases addGroup_cases busy desiredCount bgInstanceId pool ginfo with heq | ⟨hwaiting, hfits, heq⟩
  · rw [heq]
    exact ⟨h, hahead.tail⟩
  · have hnotin : ginfo ∉ pool.selectedGroups := fun hin => by
      have hlarge := hahead.apart ginfo mem_cons_self hin
      omega
    obtain ⟨hnew, honce⟩ := nodup_cons.mp hahead.once
    rw [heq]
    refine ⟨⟨Lists.nodup_concat h.once hnotin, fun other hother => ?_, ?_, Nat.le_trans hfits hdesired⟩,
      honce, hahead.tail.queued, fun other hother hin => ?_⟩
    · rcases mem_append.mp hother with hother | hother
      · exact h.waiting other hother
      · rw [mem_singleton.mp hother]
        exact ⟨hwaiting, hahead.queued ginfo mem_cons_self⟩
    · rw [map_append, sum_append, ← h.counted]
      simp
    · rcases mem_append.mp hin with hin | hin
      · have hlarge := hahead.tail.apart other hother hin
        dsimp only
        omega
      · exact absurd (mem_singleton.mp hin ▸ hother) hnew

variable (view) in
theorem Held.fill (test : Nat → Bool) {desiredCount : Nat} (enough : Nat) (hdesired : desiredCount ≤ maxPlayers)
    (h : Held q bracket maxPlayers team pool) (hahead : Ahead q bracket maxPlayers team pool list) :
    Held q bracket maxPlayers team (q.fill view test desiredCount enough pool list).1 ∧
      Ahead q bracket maxPlayers team (q.fill view test desiredCount enough pool list).1
        (q.fill view test desiredCount enough pool list).2.tail ∧
      (∀ ginfo ∈ (q.fill view test desiredCount enough pool list).1.selectedGroups,
        ginfo ∈ pool.selectedGroups ∨ ginfo ∈ list) := by
  induction list generalizing pool with
  | nil => exact ⟨h, hahead, fun ginfo hginfo => .inl hginfo⟩
  | cons first rest ih =>
    unfold BattleGroundQueue.fill
    split
    · obtain ⟨hheld, hrest⟩ := h.addGroup view.busy 0 hahead hdesired
      have hfirst : ∀ ginfo ∈ (SelectionPool.addGroup q view.busy desiredCount 0 pool first).1.selectedGroups,
          ginfo ∈ pool.selectedGroups ∨ ginfo ∈ first :: rest := by
        rcases addGroup_cases (q := q) view.busy desiredCount 0 pool first with heq | ⟨-, -, heq⟩
        · rw [heq]
          exact fun ginfo hginfo => .inl hginfo
        · rw [heq]
          intro ginfo hginfo
          refine (mem_append.mp hginfo).imp_right fun hin => ?_
          rw [mem_singleton.mp hin]
          exact mem_cons_self
      dsimp only
      split
      · exact ⟨hheld, hrest, hfirst⟩
      · obtain ⟨hheld, hrest, hfrom⟩ := ih hheld hrest
        refine ⟨hheld, hrest, fun ginfo hginfo => ?_⟩
        rcases hfrom ginfo hginfo with hin | hin
        · exact hfirst ginfo hin
        · exact .inr (mem_cons_of_mem _ hin)
    · obtain ⟨hheld, hrest, hfrom⟩ := ih h hahead.tail
      exact ⟨hheld, hrest, fun ginfo hginfo => (hfrom ginfo hginfo).imp_right (mem_cons_of_mem _)⟩

variable (view) in
theorem Held.balance {desiredCount : Nat} (hdesired : desiredCount ≤ maxPlayers)
    (h : Held q bracket maxPlayers team pool) (hahead : Ahead q bracket maxPlayers team pool list) :
    Held q bracket maxPlayers team (q.balance view desiredCount pool list) ∧
      pool.playerCount ≤ (q.balance view desiredCount pool list).playerCount := by
  induction list generalizing pool with
  | nil => exact ⟨h, Nat.le_refl _⟩
  | cons first rest ih =>
    unfold BattleGroundQueue.balance
    split
    · exact ih h hahead.tail
    · obtain ⟨hheld, hrest⟩ := h.addGroup view.busy 0 hahead hdesired
      have hmore : pool.playerCount ≤ (SelectionPool.addGroup q view.busy desiredCount 0 pool first).1.playerCount := by
        rcases addGroup_cases (q := q) view.busy desiredCount 0 pool first with heq | ⟨-, -, heq⟩
        · rw [heq]
        · rw [heq]
          exact Nat.le_add_right _ _
      dsimp only
      split
      · obtain ⟨hheld, hcount⟩ := ih hheld hrest
        exact ⟨hheld, Nat.le_trans hmore hcount⟩
      · exact ⟨hheld, hmore⟩

-- The premade check starts with empty pools, and walks two lists that have no
-- group in common.

theorem Sound.ahead (h : q.Sound) (isPremade : Bool) (hapart : ∀ ginfo ∈ q.teamList bracket isPremade team,
    ginfo ∈ pool.selectedGroups → maxPlayers < pool.playerCount + SelectionPool.sizeOf q ginfo) :
    Ahead q bracket maxPlayers team pool (q.teamList bracket isPremade team) :=
  ⟨h.once bracket _, fun _ hginfo => ⟨isPremade, hginfo⟩, hapart⟩

theorem Sound.held_premadePool (h : q.Sound) (minPlayers : Nat) (team : Team) :
    Held q bracket maxPlayers team (q.premadePool settings view bracket minPlayers maxPlayers Pools.init team) := by
  have hpremade : Ahead q bracket maxPlayers team .init (q.teamList bracket true team) :=
    h.ahead true fun _ _ hin => absurd hin not_mem_nil
  obtain ⟨hheld, -, hfrom⟩ := held_init.fill view (q.isPremadeGroup settings) minPlayers (Nat.le_refl maxPlayers) hpremade
  refine (hheld.fill view _ minPlayers (Nat.le_refl maxPlayers) (h.ahead false fun ginfo hnormal hin => ?_)).1
  have hin := (hfrom ginfo hin).resolve_left not_mem_nil
  have hindex := (h.apart ginfo _ _ _ _ hnormal hin).2
  cases team <;> exact absurd hindex (by decide)

-- A premade group that moves stays with its team.

theorem Held.congr (h : Held q bracket maxPlayers team pool) (hinfos : q'.infos = q.infos)
    (hlists : ∀ ginfo, (∃ isPremade, ginfo ∈ q.teamList bracket isPremade team) →
      ∃ isPremade, ginfo ∈ q'.teamList bracket isPremade team) : Held q' bracket maxPlayers team pool := by
  have hsize : SelectionPool.sizeOf q' = SelectionPool.sizeOf q := by
    funext ginfo
    unfold SelectionPool.sizeOf
    rw [hinfos]
  refine ⟨h.once, fun ginfo hginfo => ?_, hsize ▸ h.counted, h.fits⟩
  obtain ⟨hwaiting, hlisted⟩ := h.waiting ginfo hginfo
  exact ⟨hinfos ▸ hwaiting, hlists ginfo hlisted⟩

variable {timeBefore minPlayers : Nat} {pools : Pools}

theorem infos_movePremade : (q.movePremade bracket timeBefore minPlayers team).infos = q.infos := by
  unfold movePremade
  split
  · rfl
  · split
    · rfl
    · split <;> rfl

theorem queuedPlayers_movePremade :
    (q.movePremade bracket timeBefore minPlayers team).queuedPlayers = q.queuedPlayers := by
  unfold movePremade
  split
  · rfl
  · split
    · rfl
    · split <;> rfl

theorem teamList_moveFirst {first : Nat} {rest : List Nat} (hpremade : q.teamList bracket true team = first :: rest)
    {other : Team} {isPremade : Bool} (hin : ginfo ∈ q.teamList bracket isPremade other) :
    ∃ isPremade, ginfo ∈ teamList ((q.setGroups bracket (BG_QUEUE_NORMAL_ALLIANCE + getTeamIndexByTeamId team)
      (q.teamList bracket false team ++ [first])).setGroups bracket (BG_QUEUE_PREMADE_ALLIANCE + getTeamIndexByTeamId team) rest)
      bracket isPremade other := by
  unfold teamList at hin hpremade ⊢
  simp only [queuedGroups_setGroups, true_and]
  by_cases hteam : other = team
  · subst hteam
    cases isPremade with
    | true =>
      rw [hpremade] at hin
      rcases mem_cons.mp hin with rfl | hin
      · refine ⟨false, ?_⟩
        cases other <;> simp [BG_QUEUE_NORMAL_ALLIANCE, BG_QUEUE_PREMADE_ALLIANCE, getTeamIndexByTeamId]
      · refine ⟨true, ?_⟩
        simpa using hin
    | false =>
      refine ⟨false, ?_⟩
      cases other <;> simp [BG_QUEUE_NORMAL_ALLIANCE, BG_QUEUE_PREMADE_ALLIANCE, getTeamIndexByTeamId] at hin ⊢ <;>
        exact .inl hin
  · refine ⟨isPremade, ?_⟩
    have hpre : (if isPremade then BG_QUEUE_PREMADE_ALLIANCE else BG_QUEUE_NORMAL_ALLIANCE) + getTeamIndexByTeamId other ≠
        BG_QUEUE_PREMADE_ALLIANCE + getTeamIndexByTeamId team := by
      cases isPremade <;> cases other <;> cases team <;> first | exact absurd rfl hteam | decide
    have hnormal : (if isPremade then BG_QUEUE_PREMADE_ALLIANCE else BG_QUEUE_NORMAL_ALLIANCE) + getTeamIndexByTeamId other ≠
        BG_QUEUE_NORMAL_ALLIANCE + getTeamIndexByTeamId team := by
      cases isPremade <;> cases other <;> cases team <;> first | exact absurd rfl hteam | decide
    rw [if_neg hpre, if_neg hnormal]
    exact hin

theorem teamList_movePremade {other : Team}
    (h : ∃ isPremade, ginfo ∈ q.teamList bracket isPremade team) :
    ∃ isPremade, ginfo ∈ (q.movePremade bracket timeBefore minPlayers other).teamList bracket isPremade team := by
  obtain ⟨isPremade, hin⟩ := h
  unfold movePremade
  split
  · exact ⟨isPremade, hin⟩
  · rename_i first rest hpremade
    split
    · exact ⟨isPremade, hin⟩
    · split
      · exact teamList_moveFirst hpremade hin
      · exact ⟨isPremade, hin⟩

theorem Held.movePremade {other : Team} (h : Held q bracket maxPlayers team pool) :
    Held (q.movePremade bracket timeBefore minPlayers other) bracket maxPlayers team pool :=
  h.congr infos_movePremade fun _ hin => teamList_movePremade hin

-- The condition on a normal check: what an earlier check has left in a pool is
-- not in the list that is walked, or it is too large to be added again.
def Clean (q : BattleGroundQueue) (bracket : Bracket) (maxPlayers : Nat) (pools : Pools) : Prop :=
  ∀ team, ∀ ginfo ∈ (pools team).selectedGroups, ginfo ∈ q.teamList bracket false team →
    maxPlayers < (pools team).playerCount + SelectionPool.sizeOf q ginfo

theorem enoughInBoth_iff :
    enoughInBoth minPlayers pools = true ↔ ∀ team, minPlayers ≤ (pools team).playerCount := by
  unfold enoughInBoth
  rw [decide_eq_true_iff]
  refine ⟨fun h team => ?_, fun h => ⟨h .ALLIANCE, h .HORDE⟩⟩
  cases team with
  | ALLIANCE => exact h.1
  | HORDE => exact h.2

theorem enough_of_found (htesting : settings.testing = false)
    (h : (someInTesting settings pools || enoughInBoth minPlayers pools) = true) (team : Team) :
    minPlayers ≤ (pools team).playerCount := by
  rw [someInTesting, htesting, Bool.false_and, Bool.false_or] at h
  exact enoughInBoth_iff.mp h team

variable (view bracket maxPlayers) in
theorem Sound.checkPremadeMatch (h : q.Sound) (htesting : settings.testing = false) (minPlayers : Nat) :
    (q.checkPremadeMatch settings view bracket minPlayers maxPlayers Pools.init).1.Sound ∧
      (∀ team, Held (q.checkPremadeMatch settings view bracket minPlayers maxPlayers Pools.init).1 bracket maxPlayers team
        ((q.checkPremadeMatch settings view bracket minPlayers maxPlayers Pools.init).2.1 team)) ∧
      ((q.checkPremadeMatch settings view bracket minPlayers maxPlayers Pools.init).2.2 = true →
        ∀ team, minPlayers ≤ ((q.checkPremadeMatch settings view bracket minPlayers maxPlayers Pools.init).2.1 team).playerCount) := by
  have hheld : ∀ team, Held q bracket maxPlayers team (q.premadePool settings view bracket minPlayers maxPlayers Pools.init team) :=
    h.held_premadePool minPlayers
  unfold BattleGroundQueue.checkPremadeMatch
  dsimp only
  split
  · rename_i hfound
    exact ⟨h, hheld, fun _ => enough_of_found htesting hfound⟩
  · exact ⟨(h.movePremade bracket _ _ _).movePremade bracket _ _ _, fun team => (hheld team).movePremade.movePremade,
      fun hfound => absurd hfound Bool.false_ne_true⟩

-- A check of any groups: what holds of the pools after the walks and after the
-- balancing of one of them
theorem checkNormalMatch_rule {good : Team → SelectionPool → Prop} {pools' : Pools} {found : Bool}
    (hwalked : ∀ team, good team (q.normalWalk view bracket minPlayers maxPlayers pools team).1)
    (hbalanced : ∀ desired j first rest, (q.normalWalk view bracket minPlayers maxPlayers pools j).2 = first :: rest →
      desired = (q.normalWalk view bracket minPlayers maxPlayers pools (otherTeam j)).1.playerCount →
      good j (q.balance view desired (q.normalWalk view bracket minPlayers maxPlayers pools j).1 rest))
    (hcheck : q.checkNormalMatch settings view bracket minPlayers maxPlayers pools = some (pools', found)) :
    (∀ team, good team (pools' team)) ∧
      (found = true → (someInTesting settings pools' || enoughInBoth minPlayers pools') = true) := by
  unfold BattleGroundQueue.checkNormalMatch at hcheck
  generalize q.normalWalk view bracket minPlayers maxPlayers pools = walked at hwalked hbalanced hcheck
  dsimp only at hcheck
  generalize (if (walked .HORDE).1.playerCount < (walked .ALLIANCE).1.playerCount then Team.HORDE else Team.ALLIANCE) = j at hcheck
  by_cases hbalance : settings.invitationType ≠ 0 ∧ enoughInBoth minPlayers (fun team => (walked team).1) = true
  · rw [if_pos hbalance] at hcheck
    cases hrest : (walked j).2 with
    | nil =>
      rw [hrest] at hcheck
      cases hcheck
    | cons first rest =>
      rw [hrest] at hcheck
      dsimp only at hcheck
      replace hbalanced := hbalanced _ j first rest hrest rfl
      generalize q.balance view (walked (otherTeam j)).1.playerCount (walked j).1 rest = balanced at hcheck hbalanced
      have hall (team : Team) : good team (Function.update (fun team => (walked team).1) j balanced team) := by
        by_cases hteam : team = j
        · rw [hteam, Function.update_self]
          exact hbalanced
        · rw [Function.update_of_ne hteam]
          exact hwalked team
      split at hcheck
      · cases hcheck
        exact ⟨hall, fun hfound => absurd hfound Bool.false_ne_true⟩
      · cases hcheck
        exact ⟨hall, id⟩
  · rw [if_neg hbalance] at hcheck
    cases hcheck
    exact ⟨hwalked, id⟩

theorem Sound.checkNormalMatch (h : q.Sound) (htesting : settings.testing = false) {pools' : Pools}
    {found : Bool} (hheld : ∀ team, Held q bracket maxPlayers team (pools team)) (hclean : q.Clean bracket maxPlayers pools)
    (hcheck : q.checkNormalMatch settings view bracket minPlayers maxPlayers pools = some (pools', found)) :
    (∀ team, Held q bracket maxPlayers team (pools' team)) ∧
      (found = true → ∀ team, minPlayers ≤ (pools' team).playerCount) := by
  have hwalked (team : Team) : Held q bracket maxPlayers team (q.normalWalk view bracket minPlayers maxPlayers pools team).1 ∧
      Ahead q bracket maxPlayers team (q.normalWalk view bracket minPlayers maxPlayers pools team).1
        (q.normalWalk view bracket minPlayers maxPlayers pools team).2.tail := by
    obtain ⟨hfilled, hrest, -⟩ := (hheld team).fill view (fun ginfo => !q.isInvited ginfo) minPlayers (Nat.le_refl maxPlayers)
      (h.ahead false fun ginfo hin hpool => hclean team ginfo hpool hin)
    exact ⟨hfilled, hrest⟩
  obtain ⟨hall, hfound⟩ := checkNormalMatch_rule (fun team => (hwalked team).1) (fun desired j first rest hrest hdesired =>
    ((hwalked j).1.balance view (hdesired ▸ (hwalked (otherTeam j)).1.fits)
      (by simpa only [hrest, tail_cons] using (hwalked j).2)).1) hcheck
  exact ⟨hall, fun hyes => enough_of_found htesting (hfound hyes)⟩

theorem Sound.info_of_teamList (h : q.Sound) {isPremade : Bool} (hlist : ginfo ∈ q.teamList bracket isPremade team) :
    ∃ info, q.infos.find ginfo = some info ∧ info.groupTeam = team ∧ q.Listed ginfo := by
  obtain ⟨players, team', hshape, -, hteam, -, -⟩ := h.listed bracket _ ginfo hlist
  obtain ⟨info, hfind, hinfo⟩ := Option.map_eq_some_iff.mp hshape
  cases hinfo
  refine ⟨info, hfind, ?_, bracket, _, hlist⟩
  revert hteam
  cases isPremade <;> cases info.groupTeam <;> cases team <;> decide

theorem Held.shape (h : Held q bracket maxPlayers team pool) (hsound : q.Sound) (hin : ginfo ∈ pool.selectedGroups) :
    ∃ info, q.infos.find ginfo = some info ∧ info.isInvitedToBGInstanceGUID = 0 ∧ info.groupTeam = team ∧ q.Listed ginfo := by
  obtain ⟨⟨info, hfind, hinvited⟩, isPremade, hlist⟩ := h.waiting ginfo hin
  obtain ⟨found, hfound, hteam, hlisted⟩ := hsound.info_of_teamList hlist
  obtain rfl := Option.some.inj (hfind.symm.trans hfound)
  exact ⟨info, hfind, hinvited, hteam, hlisted⟩

theorem playersOf_eq {players : Finset Nat} (h : q.shapeOf ginfo = some (players, team)) : q.playersOf ginfo = players := by
  obtain ⟨info, hfind, hinfo⟩ := Option.map_eq_some_iff.mp h
  unfold playersOf
  rw [hfind]
  exact (Prod.mk.inj hinfo).1

theorem Held.card_players (h : Held q bracket maxPlayers team pool) (hsound : q.Sound) :
    (pool.selectedGroups.toFinset.biUnion q.playersOf).card = pool.playerCount := by
  rw [Finset.card_biUnion, sum_toFinset _ h.once, h.counted]
  · refine congrArg List.sum (map_congr_left fun ginfo _ => ?_)
    unfold playersOf SelectionPool.sizeOf
    cases q.infos.find ginfo with
    | none => rfl
    | some info => rfl
  · intro first hfirst second hsecond hne
    obtain ⟨info, hfind, -, -, hlisted⟩ := h.shape hsound (mem_toFinset.mp hfirst)
    obtain ⟨info', hfind', -, -, hlisted'⟩ := h.shape hsound (mem_toFinset.mp hsecond)
    have hshape : q.shapeOf first = some (info.players, info.groupTeam) := by
      rw [shapeOf, hfind]
      rfl
    have hshape' : q.shapeOf second = some (info'.players, info'.groupTeam) := by
      rw [shapeOf, hfind']
      rfl
    change Disjoint (q.playersOf first) (q.playersOf second)
    rw [playersOf_eq hshape, playersOf_eq hshape']
    exact hsound.structured.disjoint first second _ _ _ _ hlisted hlisted' hne hshape hshape'

theorem proper_of_held (hsound : q.Sound) {m : Match}
    (hheld : ∀ team, Held q bracket m.maxPlayersPerTeam team (pools team))
    (henough : ∀ team, m.minPlayersPerTeam ≤ (pools team).playerCount) (instanceId : Nat) :
    Created.Proper ⟨instanceId, m.minPlayersPerTeam, m.maxPlayersPerTeam, q, pools⟩ := by
  refine ⟨?_, fun team ginfo hin => ?_, fun team => ?_, fun team => ?_⟩
  · refine nodup_append.mpr ⟨(hheld .ALLIANCE).once, (hheld .HORDE).once, fun first hfirst second hsecond heq => ?_⟩
    obtain ⟨info, hfind, -, hteam, -⟩ := (hheld .ALLIANCE).shape hsound hfirst
    obtain ⟨info', hfind', -, hteam', -⟩ := (hheld .HORDE).shape hsound hsecond
    rw [heq, hfind'] at hfind
    rw [Option.some.inj hfind, hteam] at hteam'
    exact Team.noConfusion hteam'
  · obtain ⟨info, hfind, hinvited, hteam, -⟩ := (hheld team).shape hsound hin
    exact ⟨info, hfind, hinvited, hteam⟩
  · exact (henough team).trans (Nat.le_of_eq ((hheld team).card_players hsound).symm)
  · exact (Nat.le_of_eq ((hheld team).card_players hsound)).trans (hheld team).fits

end BattleGroundQueue

-- The queue stays in order throughout an update.

namespace State

variable {s : State} {settings : Settings} {view : View}

theorem queue_decreaseInvited {decreased : Option (Nat × Team)} : (s.decreaseInvited decreased).queue = s.queue := by
  unfold decreaseInvited
  split
  · rfl
  · split <;> rfl

theorem sound_removePlayer (h : s.queue.Sound) (guid : Nat) (decreaseInvitedCount : Bool) :
    (s.removePlayer guid decreaseInvitedCount).queue.Sound := by
  unfold removePlayer
  rw [queue_decreaseInvited]
  exact h.removePlayer guid decreaseInvitedCount

theorem sound_cleaned (h : s.queue.Sound) : (s.cleaned view).queue.Sound := by
  unfold cleaned
  generalize s.queue.queuedPlayers.keys = guids
  induction guids generalizing s with
  | nil => exact h
  | cons guid rest ih =>
    refine ih ?_
    unfold removeStale
    split
    · exact sound_removePlayer h guid true
    · exact h

variable (view) in
theorem sound_inviteGroup (h : s.queue.Sound) (instanceId ginfo : Nat) : (inviteGroup view instanceId s ginfo).queue.Sound := by
  unfold inviteGroup
  split
  · rename_i info bg hfind hbg
    have hinvited := h.inviteGroupToBG ginfo instanceId view.time view.reached
    rw [hfind] at hinvited
    exact hinvited
  · exact h

variable (view) in
theorem sound_inviteGroups (h : s.queue.Sound) (instanceId : Nat) (list : List Nat) :
    (list.foldl (inviteGroup view instanceId) s).queue.Sound := by
  induction list generalizing s with
  | nil => exact h
  | cons ginfo rest ih => exact ih (sound_inviteGroup view h instanceId ginfo)

variable (view) in
theorem sound_inviteAllGroups (h : s.queue.Sound) (instanceId : Nat) (pools : Pools) :
    (s.inviteAllGroups view instanceId pools).queue.Sound :=
  sound_inviteGroups view (sound_inviteGroups view h instanceId _) instanceId _

theorem sound_shuffleNormal (h : s.queue.Sound) (bracket : Bracket) (order : Team → BattleGroundQueue.Shuffle) :
    (s.shuffleNormal bracket order).queue.Sound :=
  (h.shuffleGroups bracket _ _).shuffleGroups bracket _ _

theorem sound_fillRunning (h : s.queue.Sound) (bracket : Bracket) (instanceId : Nat) :
    (fillRunning settings view bracket s instanceId).queue.Sound := by
  unfold fillRunning
  split
  · exact h
  · split
    · rename_i bg _ _
      have hinvited := sound_inviteAllGroups view h instanceId (s.queue.fillPlayersToBG settings view bg bracket)
      split
      · exact hinvited
      · exact hinvited
    · exact h

theorem sound_filled (h : s.queue.Sound) (bracket : Bracket) : (s.filled settings view bracket).queue.Sound := by
  have hfill (instances : List Nat) {s : State} (h : s.queue.Sound) :
      (instances.foldl (fillRunning settings view bracket) s).queue.Sound := by
    induction instances generalizing s with
    | nil => exact h
    | cons instanceId rest ih => exact ih (sound_fillRunning h bracket instanceId)
  unfold filled
  cases view.randomize with
  | none => exact hfill _ h
  | some order => exact hfill _ (sound_shuffleNormal h bracket order)

theorem sound_shuffleAlterac (h : s.queue.Sound) (bracket : Bracket) : (s.shuffleAlterac settings view bracket).queue.Sound := by
  unfold shuffleAlterac
  split
  · exact sound_shuffleNormal h bracket view.alterac
  · exact h

end State

namespace Formation

variable {f : Formation} {settings : Settings} {view : View} {m : Match}

structure Going (f : Formation) (m : Match) : Prop where
  sound : f.state.queue.Sound
  held : ∀ team, f.state.queue.Held m.bracket m.maxPlayersPerTeam team (f.pools team)

theorem going_create (hsound : f.state.queue.Sound) (pools : Pools) (attempt : Nat) :
    (f.create view m pools attempt).stopped = true ∨ (f.create view m pools attempt).Going m := by
  unfold create
  split
  · exact .inl rfl
  · rename_i instanceId clientInstanceId _
    refine .inr ⟨?_, fun team => BattleGroundQueue.held_init⟩
    let state : State := { f.state with bgs := f.state.bgs.insert instanceId (newBattleGround m clientInstanceId) }
    have hstate : state.queue.Sound := hsound
    exact State.sound_inviteAllGroups view hstate instanceId pools

theorem proper_create (hsound : f.state.queue.Sound) {pools : Pools}
    (hheld : ∀ team, f.state.queue.Held m.bracket m.maxPlayersPerTeam team (pools team))
    (henough : ∀ team, m.minPlayersPerTeam ≤ (pools team).playerCount) (attempt : Nat)
    (hcreated : ∀ c ∈ f.created, c.Proper) : ∀ c ∈ (f.create view m pools attempt).created, c.Proper := by
  unfold create
  split
  · exact hcreated
  · rename_i instanceId clientInstanceId _
    intro c hc
    rcases mem_append.mp hc with hc | hc
    · exact hcreated c hc
    · rw [mem_singleton.mp hc]
      exact BattleGroundQueue.proper_of_held hsound hheld henough instanceId

def Meets (m : Match) : Option Formation → Nat → Prop
  | none, _ => True
  | some f, _ => f.stopped = true ∨ f.state.queue.Clean m.bracket m.maxPlayersPerTeam f.pools

def Good (m : Match) (f : Formation) : Prop := (f.stopped = true ∨ f.Going m) ∧ ∀ c ∈ f.created, c.Proper

theorem good_premade (htesting : settings.testing = false) {s : State} (hsound : s.queue.Sound) :
    (premade ⟨s, .init, [], false⟩ settings view m).Good m := by
  obtain ⟨hchecked, hheld, henough⟩ :=
    hsound.checkPremadeMatch view m.bracket m.maxPlayersPerTeam htesting m.minPlayersPerTeam
  unfold premade
  dsimp only
  split
  · rename_i hfound
    exact ⟨going_create hchecked _ 0, proper_create hchecked hheld (henough hfound) 0 fun _ hc => absurd hc not_mem_nil⟩
  · exact ⟨.inr ⟨hchecked, hheld⟩, fun _ hc => absurd hc not_mem_nil⟩

theorem good_normal (htesting : settings.testing = false) (hgood : f.Good m) {attempt : Nat} (hmeets : Meets m (some f) attempt)
    {f' : Formation} (h : normal settings view m (some f) (attempt + 1) = some f') : f'.Good m := by
  unfold normal at h
  simp only [Option.bind_some] at h
  by_cases hstopped : f.stopped = true
  · rw [if_pos hstopped] at h
    exact Option.some.inj h ▸ hgood
  · rw [if_neg hstopped] at h
    obtain ⟨⟨pools, found⟩, hcheck, rfl⟩ := Option.map_eq_some_iff.mp h
    have hgoing := hgood.1.resolve_left hstopped
    obtain ⟨hheld, henough⟩ := hgoing.sound.checkNormalMatch htesting hgoing.held (hmeets.resolve_left hstopped) hcheck
    cases found with
    | false => exact ⟨.inr ⟨hgoing.sound, hheld⟩, hgood.2⟩
    | true => exact ⟨going_create hgoing.sound pools _, proper_create hgoing.sound hheld (henough rfl) _ hgood.2⟩

end Formation

namespace State

variable {settings : Settings} {view : View}

def Meets (s : State) (settings : Settings) (view : View) (bracket : Bracket) : Prop :=
  let s := (s.cleaned view).filled settings view bracket
  ∀ template, view.template = some template →
    Guarded (fun f attempt => Formation.normal settings view (s.newMatch settings template bracket) f (attempt + 1))
      (Formation.Meets (s.newMatch settings template bracket)) (some (s.premadeMatch settings view template bracket))
      (List.range (s.attempts settings bracket))

theorem update_proper (s : State) (settings : Settings) (view : View) (bracket : Bracket) (hqueue : s.queue.Sound)
    (htesting : settings.testing = false) (hmeets : s.Meets settings view bracket) (after : State) (created : List Created)
    (h : s.update settings view bracket = some (after, created)) : ∀ c ∈ created, c.Proper := by
  unfold update at h
  dsimp only at h
  split at h
  · cases h
    exact fun _ hc => absurd hc List.not_mem_nil
  · cases htemplate : view.template with
    | none =>
      rw [htemplate] at h
      cases h
      exact fun _ hc => absurd hc List.not_mem_nil
    | some template =>
      rw [htemplate] at h
      obtain ⟨f, hf, hresult⟩ := Option.map_eq_some_iff.mp h
      cases hresult
      have hguarded := hmeets template htemplate
      have hfilled : ((s.cleaned view).filled settings view bracket).queue.Sound := sound_filled (sound_cleaned hqueue) bracket
      generalize (s.cleaned view).filled settings view bracket = filled at hf hguarded hfilled
      have hgood := run_invariant _ _
        (fun f : Option Formation => ∀ f' ∈ f, Formation.Good (filled.newMatch settings template bracket) f')
        (fun state attempt hstate hok f' hf' => ?_) ?_ hguarded
      · exact (hgood f hf).2
      · cases state with
        | none => exact absurd hf'.symm (Option.some_ne_none f')
        | some before => exact Formation.good_normal htesting (hstate before rfl) hok hf'
      · rintro f' hf'
        cases hf'
        exact Formation.good_premade htesting (sound_shuffleAlterac hfilled bracket)

-- Two teams of ten are found in groups of five. With a group of six the premade
-- check takes it into its pool, finds no match, and the normal check adds it to
-- the same pool again: six players are counted as twelve.

def party (team : Team) (guids : List Nat) (h : guids.Nodup) : Group :=
  ⟨guids.map fun guid => ⟨guid, team⟩, by simpa [Function.comp_def] using h, guids.length⟩

def join (leader : Nat) (team : Team) (guids : List Nat) (h : guids.Nodup) : BattleGroundQueue.Op :=
  .addGroup ⟨2, 1, 0, 5⟩ false ⟨leader, team⟩ (some (party team guids h)) [] 40

def hordeJoins : List BattleGroundQueue.Op :=
  [join 11 .HORDE [11, 12, 13, 14, 15] (by decide), join 16 .HORDE [16, 17, 18, 19, 20] (by decide)]

def tenJoin : List BattleGroundQueue.Op :=
  [join 1 .ALLIANCE [1, 2, 3, 4, 5] (by decide), join 6 .ALLIANCE [6, 7, 8, 9, 10] (by decide)] ++ hordeJoins

def sixJoin : List BattleGroundQueue.Op := join 1 .ALLIANCE [1, 2, 3, 4, 5, 6] (by decide) :: hordeJoins

def afterJoining (ops : List BattleGroundQueue.Op) : State := ⟨run BattleGroundQueue.step .empty ops, .empty, []⟩

def usual : Settings := ⟨false, false, 6, 0, 0, 0, 0⟩

def fifteenAtMost : View where
  time := 100
  busy := fun _ => false
  reached := fun _ => true
  beyondEmpty := true
  randomize := none
  alterac := fun _ => default
  template := some ⟨10, 15, 30, false⟩
  newBattleGround := fun attempt => some (7 + attempt, 1)

set_option maxRecDepth 4000 in
theorem tenJoin_sound : (afterJoining tenJoin).queue.Sound := BattleGroundQueue.sound_run (by decide)

set_option maxRecDepth 4000 in
theorem sixJoin_sound : (afterJoining sixJoin).queue.Sound := BattleGroundQueue.sound_run (by decide)

theorem tenJoin_meets : (afterJoining tenJoin).Meets usual fifteenAtMost 1 := by
  rintro template ⟨⟩
  -- the premade check has taken nobody
  have hempty : ∀ team ∈ [Team.ALLIANCE, Team.HORDE],
      (((((afterJoining tenJoin).cleaned fifteenAtMost).filled usual fifteenAtMost 1).premadeMatch usual fifteenAtMost
        ⟨10, 15, 30, false⟩ 1).pools team).selectedGroups = [] := by
    decide +kernel
  refine ⟨.inr fun team ginfo hin => ?_, trivial⟩
  rw [hempty team (by cases team <;> decide)] at hin
  cases hin

theorem update_proper_ten : ∃ after created, (afterJoining tenJoin).update usual fifteenAtMost 1 = some (after, created) ∧
    created.length = 1 ∧ ∀ c ∈ created, c.Proper := by
  cases hupdate : (afterJoining tenJoin).update usual fifteenAtMost 1 with
  | none =>
    have hsome : ((afterJoining tenJoin).update usual fifteenAtMost 1).isSome = true := by decide +kernel
    rw [hupdate] at hsome
    cases hsome
  | some result =>
    have hlength : ((afterJoining tenJoin).update usual fifteenAtMost 1).map (fun result => result.2.length) = some 1 := by
      decide +kernel
    rw [hupdate] at hlength
    exact ⟨result.1, result.2, rfl, Option.some.inj hlength,
      update_proper _ usual fifteenAtMost 1 tenJoin_sound rfl tenJoin_meets result.1 result.2 hupdate⟩

theorem not_update_proper : ¬∀ (s : State) (settings : Settings) (view : View) (bracket : Bracket), s.queue.Sound →
    settings.testing = false → ∀ (after : State) (created : List Created),
      s.update settings view bracket = some (after, created) → ∀ c ∈ created, c.Proper := by
  intro h
  have hplayers : ((afterJoining sixJoin).update usual fifteenAtMost 1).map
      (fun result => result.2.map fun c => (c.minPlayersPerTeam, (c.players .ALLIANCE).card)) = some [(10, 6)] := by
    decide +kernel
  obtain ⟨result, hupdate, hplayers⟩ := Option.map_eq_some_iff.mp hplayers
  obtain ⟨c, hc, hcard⟩ := List.mem_map.mp (hplayers.symm ▸ List.mem_singleton_self (10, 6))
  have henough := (h _ usual fifteenAtMost 1 sixJoin_sound rfl result.1 result.2 hupdate c hc).enough .ALLIANCE
  obtain ⟨hmin, hcard⟩ := Prod.mk.inj hcard
  omega

end State

end TurtleWow.Battlegrounds

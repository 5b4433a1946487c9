import TurtleWow.Battlegrounds.Queue
import TurtleWow.Lib.Run
import TurtleWow.Lib.Lists

namespace TurtleWow.Battlegrounds

open Run List OrderedMap

-- Every player in a queue is in one group, and every group is in one list.

namespace BattleGroundQueue

def groupOf (q : BattleGroundQueue) (guid : Nat) : Option Nat :=
  (q.queuedPlayers.find guid).map PlayerQueueInfo.groupInfo

def shapeOf (q : BattleGroundQueue) (ginfo : Nat) : Option (Finset Nat × Team) :=
  (q.infos.find ginfo).map fun info => (info.players, info.groupTeam)

def Listed (q : BattleGroundQueue) (ginfo : Nat) : Prop := ∃ bracket index, ginfo ∈ q.queuedGroups bracket index

structure Structured (q : BattleGroundQueue) : Prop where
  queued : ∀ guid ginfo, q.groupOf guid = some ginfo → ∃ players team bracket index,
    q.shapeOf ginfo = some (players, team) ∧ guid ∈ players ∧
    index < BG_QUEUE_GROUP_TYPES_COUNT ∧ index % BG_TEAMS_COUNT = getTeamIndexByTeamId team ∧
    (q.queuedGroups bracket index).count ginfo = 1 ∧
    ∀ bracket' index', (bracket', index') ≠ (bracket, index) → ginfo ∉ q.queuedGroups bracket' index'
  disjoint : ∀ first second players players' team team', q.Listed first → q.Listed second → first ≠ second →
    q.shapeOf first = some (players, team) → q.shapeOf second = some (players', team') → Disjoint players players'
  keys : ∀ guid, q.groupOf guid ≠ none ↔
    ∃ ginfo players team, q.Listed ginfo ∧ q.shapeOf ginfo = some (players, team) ∧ guid ∈ players
  nonempty : ∀ ginfo, q.Listed ginfo → ∃ players team, q.shapeOf ginfo = some (players, team) ∧ players.Nonempty

structure Sound (q : BattleGroundQueue) : Prop where
  listed : ∀ bracket index ginfo, ginfo ∈ q.queuedGroups bracket index →
    ∃ players team, q.shapeOf ginfo = some (players, team) ∧ index < BG_QUEUE_GROUP_TYPES_COUNT ∧
      index % BG_TEAMS_COUNT = getTeamIndexByTeamId team ∧ players.Nonempty ∧
      ∀ guid ∈ players, q.groupOf guid = some ginfo
  once : ∀ bracket index, (q.queuedGroups bracket index).Nodup
  apart : ∀ ginfo bracket index bracket' index', ginfo ∈ q.queuedGroups bracket index →
    ginfo ∈ q.queuedGroups bracket' index' → bracket' = bracket ∧ index' = index
  placed : ∀ guid ginfo, q.groupOf guid = some ginfo →
    q.Listed ginfo ∧ ∃ players team, q.shapeOf ginfo = some (players, team) ∧ guid ∈ players
  allocated : ∀ ginfo, q.Listed ginfo → ginfo < q.nextInfo

variable {q q' : BattleGroundQueue} {guid ginfo : Nat} {bracket : Bracket} {index : Nat}

theorem Sound.structured (h : q.Sound) : q.Structured := by
  refine ⟨fun guid ginfo hguid => ?_, fun first second players players' team team' hfirst hsecond hne hshape hshape' => ?_,
    fun guid => ⟨fun hguid => ?_, ?_⟩, fun ginfo ⟨bracket, index, hmem⟩ => ?_⟩
  · obtain ⟨⟨bracket, index, hmem⟩, players, team, hshape, hplayer⟩ := h.placed guid ginfo hguid
    obtain ⟨players', team', hshape', hindex, hteam, -, -⟩ := h.listed bracket index ginfo hmem
    obtain ⟨rfl, rfl⟩ := Prod.mk.inj (Option.some.inj (hshape.symm.trans hshape'))
    refine ⟨players, team, bracket, index, hshape, hplayer, hindex, hteam,
      count_eq_one_of_mem (h.once bracket index) hmem, fun bracket' index' hother hmem' => hother ?_⟩
    obtain ⟨rfl, rfl⟩ := h.apart ginfo bracket index bracket' index' hmem hmem'
    rfl
  · obtain ⟨bracket, index, hfirst⟩ := hfirst
    obtain ⟨bracket', index', hsecond⟩ := hsecond
    obtain ⟨_, _, hsame, -, -, -, hplayers⟩ := h.listed bracket index first hfirst
    obtain ⟨_, _, hsame', -, -, -, hplayers'⟩ := h.listed bracket' index' second hsecond
    obtain ⟨rfl, rfl⟩ := Prod.mk.inj (Option.some.inj (hshape.symm.trans hsame))
    obtain ⟨rfl, rfl⟩ := Prod.mk.inj (Option.some.inj (hshape'.symm.trans hsame'))
    refine Finset.disjoint_left.mpr fun guid hguid hguid' => hne ?_
    exact Option.some.inj ((hplayers guid hguid).symm.trans (hplayers' guid hguid'))
  · obtain ⟨ginfo, hginfo⟩ := Option.ne_none_iff_exists'.mp hguid
    obtain ⟨hlisted, players, team, hshape, hplayer⟩ := h.placed guid ginfo hginfo
    exact ⟨ginfo, players, team, hlisted, hshape, hplayer⟩
  · rintro ⟨ginfo, players, team, ⟨bracket, index, hmem⟩, hshape, hplayer⟩
    obtain ⟨_, _, hsame, -, -, -, hplayers⟩ := h.listed bracket index ginfo hmem
    obtain ⟨rfl, rfl⟩ := Prod.mk.inj (Option.some.inj (hshape.symm.trans hsame))
    rw [hplayers guid hplayer]
    exact Option.some_ne_none ginfo
  · obtain ⟨players, team, hshape, -, -, hnonempty, -⟩ := h.listed bracket index ginfo hmem
    exact ⟨players, team, hshape, hnonempty⟩

theorem empty_sound : empty.Sound :=
  ⟨fun _ _ _ h => absurd h not_mem_nil, fun _ _ => nodup_nil, fun _ _ _ _ _ h => absurd h not_mem_nil,
    fun _ _ h => absurd h.symm (Option.some_ne_none _), fun _ ⟨_, _, h⟩ => absurd h not_mem_nil⟩

theorem Sound.congr (h : q.Sound) (hplayers : ∀ guid, q'.groupOf guid = q.groupOf guid)
    (hgroups : ∀ bracket index, (q'.queuedGroups bracket index).Perm (q.queuedGroups bracket index))
    (hshapes : ∀ ginfo, q'.shapeOf ginfo = q.shapeOf ginfo) (hnext : q.nextInfo ≤ q'.nextInfo) : q'.Sound := by
  have hmem (bracket : Bracket) (index ginfo : Nat) :
      ginfo ∈ q'.queuedGroups bracket index ↔ ginfo ∈ q.queuedGroups bracket index := (hgroups bracket index).mem_iff
  have hlisted (ginfo : Nat) : q'.Listed ginfo ↔ q.Listed ginfo := by simp only [Listed, hmem]
  refine ⟨fun bracket index ginfo hginfo => ?_, fun bracket index => ?_, fun ginfo bracket index bracket' index' hfirst hsecond => ?_,
    fun guid ginfo hguid => ?_, fun ginfo hginfo => ?_⟩
  · simp only [hshapes, hplayers]
    exact h.listed bracket index ginfo ((hmem bracket index ginfo).mp hginfo)
  · exact (hgroups bracket index).nodup_iff.mpr (h.once bracket index)
  · exact h.apart ginfo bracket index bracket' index' ((hmem _ _ _).mp hfirst) ((hmem _ _ _).mp hsecond)
  · simp only [hlisted, hshapes]
    exact h.placed guid ginfo (hplayers guid ▸ hguid)
  · exact Nat.lt_of_lt_of_le (h.allocated ginfo ((hlisted ginfo).mp hginfo)) hnext

theorem groupOf_insert (info : PlayerQueueInfo) (other : Nat) :
    groupOf { q with queuedPlayers := q.queuedPlayers.insert guid info } other =
      if other = guid then some info.groupInfo else q.groupOf other := by
  unfold groupOf
  rw [find_insert]
  by_cases h : other = guid
  · rw [if_pos h, if_pos h]
    rfl
  · rw [if_neg h, if_neg h]

theorem Sound.online (h : q.Sound) {itr info : PlayerQueueInfo} (hitr : q.queuedPlayers.find guid = some itr)
    (hsame : info.groupInfo = itr.groupInfo) : Sound { q with queuedPlayers := q.queuedPlayers.insert guid info } := by
  refine h.congr (fun other => ?_) (fun _ _ => .refl _) (fun _ => rfl) (Nat.le_refl _)
  rw [groupOf_insert]
  by_cases hother : other = guid
  · rw [if_pos hother, hother, groupOf, hitr, hsame]
    rfl
  · rw [if_neg hother]

theorem Sound.playerLoggedOut (h : q.Sound) (guid time : Nat) : (q.playerLoggedOut guid time).Sound := by
  unfold BattleGroundQueue.playerLoggedOut
  cases hitr : q.queuedPlayers.find guid with
  | none => exact h
  | some itr => exact h.online hitr rfl

theorem Sound.playerLoggedIn (h : q.Sound) (guid : Nat) : (q.playerLoggedIn guid).Sound := by
  unfold BattleGroundQueue.playerLoggedIn
  cases hitr : q.queuedPlayers.find guid with
  | none => exact h
  | some itr => exact h.online hitr rfl

theorem queuedGroups_setGroups {list : List Nat} {bracket' : Bracket} {index' : Nat} :
    (q.setGroups bracket index list).queuedGroups bracket' index' =
      if bracket' = bracket ∧ index' = index then list else q.queuedGroups bracket' index' := by
  unfold setGroups
  dsimp only
  by_cases hbracket : bracket' = bracket
  · subst hbracket
    rw [Function.update_self]
    by_cases hindex : index' = index
    · rw [hindex, Function.update_self, if_pos ⟨rfl, rfl⟩]
    · rw [Function.update_of_ne hindex, if_neg fun hboth => hindex hboth.2]
  · rw [Function.update_of_ne hbracket, if_neg fun hboth => hbracket hboth.1]

theorem Sound.shuffleGroups (h : q.Sound) (bracket : Bracket) (index : Nat) (order : Shuffle) :
    (q.shuffleGroups bracket index order).Sound := by
  refine h.congr (fun _ => rfl) (fun bracket' index' => ?_) (fun _ => rfl) (Nat.le_refl _)
  unfold BattleGroundQueue.shuffleGroups
  rw [queuedGroups_setGroups]
  split
  · rename_i hboth
    rw [hboth.1, hboth.2]
    exact order.perm _
  · exact .refl _

theorem shapeOf_setInfo {info : GroupQueueInfo} {other : Nat} : (q.setInfo ginfo info).shapeOf other =
    if other = ginfo then some (info.players, info.groupTeam) else q.shapeOf other := by
  unfold shapeOf setInfo
  rw [find_insert]
  by_cases h : other = ginfo
  · rw [if_pos h, if_pos h]
    rfl
  · rw [if_neg h, if_neg h]

theorem Sound.setInfo (h : q.Sound) {info : GroupQueueInfo} (hshape : q.shapeOf ginfo = some (info.players, info.groupTeam)) :
    (q.setInfo ginfo info).Sound := by
  refine h.congr (fun _ => rfl) (fun _ _ => .refl _) (fun other => ?_) (Nat.le_refl _)
  rw [shapeOf_setInfo]
  by_cases hother : other = ginfo
  · rw [if_pos hother, hother, hshape]
  · rw [if_neg hother]

theorem Sound.inviteGroupToBG (h : q.Sound) (ginfo instanceId time : Nat) (reached : Nat → Bool) :
    (q.inviteGroupToBG ginfo instanceId ((q.infos.find ginfo).map GroupQueueInfo.groupTeam) time reached).1.Sound := by
  unfold BattleGroundQueue.inviteGroupToBG
  cases hfind : q.infos.find ginfo with
  | none => exact h
  | some info =>
    have hshape : q.shapeOf ginfo = some (info.players, info.groupTeam) := by
      rw [shapeOf, hfind]
      rfl
    dsimp only [Option.map_some]
    split
    · exact h.setInfo hshape
    · exact h.setInfo hshape

theorem Sound.relist (h : q.Sound) (hplayers : ∀ guid, q'.groupOf guid = q.groupOf guid)
    (hshapes : ∀ ginfo, q'.shapeOf ginfo = q.shapeOf ginfo) (hnext : q'.nextInfo = q.nextInfo) {first before after : Nat}
    (hfirst : first ∈ q.queuedGroups bracket before) (hafter : after < BG_QUEUE_GROUP_TYPES_COUNT)
    (hteam : after % BG_TEAMS_COUNT = before % BG_TEAMS_COUNT)
    (hmem : ∀ ginfo bracket' index, ginfo ∈ q'.queuedGroups bracket' index ↔
      if ginfo = first then bracket' = bracket ∧ index = after else ginfo ∈ q.queuedGroups bracket' index)
    (honce : ∀ bracket' index, (q'.queuedGroups bracket' index).Nodup) : q'.Sound := by
  have hlisted (ginfo : Nat) : q'.Listed ginfo ↔ q.Listed ginfo := by
    by_cases heq : ginfo = first
    · refine ⟨fun _ => heq ▸ ⟨bracket, before, hfirst⟩, fun _ => ⟨bracket, after, (hmem _ _ _).mpr ?_⟩⟩
      rw [if_pos heq]
      exact ⟨rfl, rfl⟩
    · simp only [Listed, hmem, if_neg heq]
  refine ⟨fun bracket' index ginfo hginfo => ?_, honce, fun ginfo bracket₁ index₁ bracket₂ index₂ h₁ h₂ => ?_,
    fun guid ginfo hguid => ?_, fun ginfo hginfo => ?_⟩
  · simp only [hshapes, hplayers]
    have hwhere := (hmem _ _ _).mp hginfo
    by_cases heq : ginfo = first
    · rw [if_pos heq] at hwhere
      obtain ⟨players, team, hshape, -, hindex, hrest⟩ := h.listed bracket before first hfirst
      rw [heq, hwhere.2]
      exact ⟨players, team, hshape, hafter, hteam.trans hindex, hrest⟩
    · rw [if_neg heq] at hwhere
      exact h.listed bracket' index ginfo hwhere
  · have hwhere₁ := (hmem _ _ _).mp h₁
    have hwhere₂ := (hmem _ _ _).mp h₂
    by_cases heq : ginfo = first
    · rw [if_pos heq] at hwhere₁ hwhere₂
      exact ⟨hwhere₂.1.trans hwhere₁.1.symm, hwhere₂.2.trans hwhere₁.2.symm⟩
    · rw [if_neg heq] at hwhere₁ hwhere₂
      exact h.apart ginfo bracket₁ index₁ bracket₂ index₂ hwhere₁ hwhere₂
  · simp only [hlisted, hshapes]
    exact h.placed guid ginfo (hplayers guid ▸ hguid)
  · rw [hnext]
    exact h.allocated ginfo ((hlisted ginfo).mp hginfo)

theorem Sound.moveFirst (h : q.Sound) {first : Nat} {rest : List Nat} {premade normal : Nat}
    (hpremade : q.queuedGroups bracket premade = first :: rest) (hne : normal ≠ premade)
    (hnormal : normal < BG_QUEUE_GROUP_TYPES_COUNT) (hteam : normal % BG_TEAMS_COUNT = premade % BG_TEAMS_COUNT) :
    ((q.setGroups bracket normal (q.queuedGroups bracket normal ++ [first])).setGroups bracket premade rest).Sound := by
  have hfirst : first ∈ q.queuedGroups bracket premade := hpremade ▸ mem_cons_self
  have hnodup := h.once bracket premade
  rw [hpremade] at hnodup
  obtain ⟨hnotin, hrest⟩ := nodup_cons.mp hnodup
  have hother (bracket' : Bracket) (index : Nat) (hnot : ¬(bracket' = bracket ∧ index = premade)) :
      first ∉ q.queuedGroups bracket' index := fun hin => hnot (h.apart first bracket premade bracket' index hfirst hin)
  refine h.relist (fun _ => rfl) (fun _ => rfl) rfl hfirst hnormal hteam (fun ginfo bracket' index => ?_) fun bracket' index => ?_
  · rw [queuedGroups_setGroups]
    by_cases hpre : bracket' = bracket ∧ index = premade
    · rw [if_pos hpre]
      by_cases heq : ginfo = first
      · rw [if_pos heq, heq]
        exact ⟨fun hin => absurd hin hnotin, fun hwhere => absurd (hwhere.2.symm.trans hpre.2) hne⟩
      · rw [if_neg heq, hpre.1, hpre.2, hpremade, mem_cons]
        exact ⟨.inr, fun hin => hin.resolve_left heq⟩
    · rw [if_neg hpre, queuedGroups_setGroups]
      by_cases hnorm : bracket' = bracket ∧ index = normal
      · rw [if_pos hnorm, mem_append, mem_singleton, ← hnorm.1, ← hnorm.2]
        by_cases heq : ginfo = first
        · rw [if_pos heq]
          exact ⟨fun _ => ⟨rfl, rfl⟩, fun _ => .inr heq⟩
        · rw [if_neg heq]
          exact ⟨fun hin => hin.resolve_right heq, .inl⟩
      · rw [if_neg hnorm]
        by_cases heq : ginfo = first
        · rw [if_pos heq, heq]
          exact ⟨fun hin => absurd hin (hother bracket' index hpre), fun hwhere => absurd hwhere hnorm⟩
        · rw [if_neg heq]
  · rw [queuedGroups_setGroups]
    by_cases hpre : bracket' = bracket ∧ index = premade
    · rw [if_pos hpre]
      exact hrest
    · rw [if_neg hpre, queuedGroups_setGroups]
      by_cases hnorm : bracket' = bracket ∧ index = normal
      · rw [if_pos hnorm]
        refine Lists.nodup_concat (h.once bracket normal) ?_
        rw [← hnorm.1, ← hnorm.2]
        exact hother bracket' index hpre
      · rw [if_neg hnorm]
        exact h.once bracket' index

theorem Sound.movePremade (h : q.Sound) (bracket : Bracket) (timeBefore minPlayersPerTeam : Nat) (team : Team) :
    (q.movePremade bracket timeBefore minPlayersPerTeam team).Sound := by
  unfold BattleGroundQueue.movePremade
  split
  · exact h
  · rename_i first rest hpremade
    split
    · exact h
    · split
      · refine h.moveFirst hpremade ?_ ?_ ?_
        · cases team <;> decide
        · cases team <;> decide
        · cases team <;> decide
      · exact h

theorem searchBracket_some {found : Bracket × Nat} (h : q.searchBracket ginfo index bracket = some found) :
    ginfo ∈ q.queuedGroups found.1 found.2 := by
  simp only [searchBracket, foldl_cons, foldl_nil] at h
  split at h
  · rename_i hnormal
    rw [← Option.some.inj h]
    exact hnormal
  · split at h
    · rename_i hpremade
      rw [← Option.some.inj h]
      exact hpremade
    · cases h

theorem searchGroup_some {found : Bracket × Nat} (h : q.searchGroup ginfo index = some found) :
    ginfo ∈ q.queuedGroups found.1 found.2 := by
  obtain ⟨bracket, -, hbracket⟩ := exists_of_findSome?_eq_some h
  exact searchBracket_some hbracket

theorem searchGroup_isSome (hmem : ginfo ∈ q.queuedGroups bracket index) (hindex : index < BG_QUEUE_GROUP_TYPES_COUNT) :
    (q.searchGroup ginfo (index % BG_TEAMS_COUNT)).isSome := by
  rw [searchGroup, List.findSome?_isSome_iff]
  refine ⟨bracket, mem_reverse.mpr (mem_finRange bracket), ?_⟩
  simp only [searchBracket, foldl_cons, foldl_nil]
  split
  · rfl
  · rename_i hnormal
    split
    · rfl
    · rename_i hpremade
      have hcases : index = index % BG_TEAMS_COUNT ∨ index = index % BG_TEAMS_COUNT + BG_QUEUE_NORMAL_ALLIANCE := by
        unfold BG_QUEUE_GROUP_TYPES_COUNT at hindex
        unfold BG_TEAMS_COUNT BG_QUEUE_NORMAL_ALLIANCE
        omega
      rcases hcases with heq | heq
      · exact absurd (heq ▸ hmem) hpremade
      · exact absurd (heq ▸ hmem) hnormal

variable {players : Finset Nat} {team : Team}

theorem Sound.searchGroup (h : q.Sound) (hmem : ginfo ∈ q.queuedGroups bracket index)
    (hshape : q.shapeOf ginfo = some (players, team)) :
    q.searchGroup ginfo (getTeamIndexByTeamId team) = some (bracket, index) := by
  obtain ⟨players', team', hshape', hindex, hteam, -, -⟩ := h.listed bracket index ginfo hmem
  obtain ⟨rfl, rfl⟩ := Prod.mk.inj (Option.some.inj (hshape.symm.trans hshape'))
  obtain ⟨found, hfound⟩ := Option.isSome_iff_exists.mp (searchGroup_isSome hmem hindex)
  rw [hteam] at hfound
  obtain ⟨hbracket, hindex⟩ := h.apart ginfo bracket index found.1 found.2 hmem (searchGroup_some hfound)
  rw [hfound, ← hbracket, ← hindex]

theorem Sound.leave (h : q.Sound) (hguid : q.groupOf guid = some ginfo) (hshape : q.shapeOf ginfo = some (players, team))
    (hplayers : ∀ other, q'.groupOf other = if other = guid then none else q.groupOf other)
    (hshapes : ∀ other, other ≠ ginfo → q'.shapeOf other = q.shapeOf other)
    (hown : players.erase guid ≠ ∅ → q'.shapeOf ginfo = some (players.erase guid, team))
    (hgroups : ∀ other bracket index, other ∈ q'.queuedGroups bracket index ↔
      (other = ginfo → players.erase guid ≠ ∅) ∧ other ∈ q.queuedGroups bracket index)
    (honce : ∀ bracket index, (q'.queuedGroups bracket index).Nodup) (hnext : q'.nextInfo = q.nextInfo) : q'.Sound := by
  refine ⟨fun bracket index other hother => ?_, honce, fun other bracket index bracket' index' hin hin' => ?_,
    fun other ginfo' hother => ?_, fun other hother => ?_⟩
  · obtain ⟨hleft, hother⟩ := (hgroups _ _ _).mp hother
    obtain ⟨players', team', hshape', hindex, hteam, hnonempty, hall⟩ := h.listed bracket index other hother
    by_cases heq : other = ginfo
    · rw [heq, hshape] at hshape'
      cases hshape'
      refine ⟨players.erase guid, team, (congrArg _ heq).trans (hown (hleft heq)), hindex, hteam,
        Finset.nonempty_iff_ne_empty.mpr (hleft heq), fun member hmember => ?_⟩
      obtain ⟨hne, hmember⟩ := Finset.mem_erase.mp hmember
      rw [hplayers, if_neg hne]
      exact hall member hmember
    · refine ⟨players', team', (hshapes other heq).trans hshape', hindex, hteam, hnonempty, fun member hmember => ?_⟩
      have hne : member ≠ guid := by
        rintro rfl
        exact heq (Option.some.inj ((hall member hmember).symm.trans hguid))
      rw [hplayers, if_neg hne]
      exact hall member hmember
  · exact h.apart other bracket index bracket' index' ((hgroups _ _ _).mp hin).2 ((hgroups _ _ _).mp hin').2
  · rw [hplayers] at hother
    by_cases hne : other = guid
    · rw [if_pos hne] at hother
      cases hother
    · rw [if_neg hne] at hother
      obtain ⟨⟨bracket, index, hmem⟩, players', team', hshape', hmember⟩ := h.placed other ginfo' hother
      by_cases heq : ginfo' = ginfo
      · rw [heq, hshape] at hshape'
        cases hshape'
        have hleft := Finset.mem_erase.mpr ⟨hne, hmember⟩
        have hsome := Finset.ne_empty_of_mem hleft
        exact ⟨⟨bracket, index, (hgroups _ _ _).mpr ⟨fun _ => hsome, hmem⟩⟩, players.erase guid, team,
          (congrArg _ heq).trans (hown hsome), hleft⟩
      · exact ⟨⟨bracket, index, (hgroups _ _ _).mpr ⟨fun hsame => absurd hsame heq, hmem⟩⟩, players', team',
          (hshapes ginfo' heq).trans hshape', hmember⟩
  · obtain ⟨bracket, index, hmem⟩ := hother
    rw [hnext]
    exact h.allocated other ⟨bracket, index, ((hgroups _ _ _).mp hmem).2⟩

theorem groupOf_eraseQueued {other : Nat} :
    (q.eraseQueued guid).groupOf other = if other = guid then none else q.groupOf other := by
  unfold groupOf eraseQueued
  rw [find_erase]
  by_cases h : other = guid
  · rw [if_pos h, if_pos h]
    rfl
  · rw [if_neg h, if_neg h]

theorem shapeOf_deleteGroup {other : Nat} (h : other ≠ ginfo) : (q.deleteGroup bracket index ginfo).shapeOf other = q.shapeOf other := by
  unfold shapeOf deleteGroup
  rw [find_erase, if_neg h]

theorem queuedGroups_deleteGroup {bracket' : Bracket} {index' : Nat} :
    (q.deleteGroup bracket index ginfo).queuedGroups bracket' index' =
      if bracket' = bracket ∧ index' = index then (q.queuedGroups bracket index).erase ginfo
      else q.queuedGroups bracket' index' := queuedGroups_setGroups

theorem Sound.mem_deleteGroup (h : q.Sound) (hmem : ginfo ∈ q.queuedGroups bracket index) (other : Nat) (bracket' : Bracket)
    (index' : Nat) : other ∈ (q.deleteGroup bracket index ginfo).queuedGroups bracket' index' ↔
      other ≠ ginfo ∧ other ∈ q.queuedGroups bracket' index' := by
  rw [queuedGroups_deleteGroup]
  by_cases hwhere : bracket' = bracket ∧ index' = index
  · rw [if_pos hwhere, hwhere.1, hwhere.2]
    exact (h.once bracket index).mem_erase_iff
  · rw [if_neg hwhere]
    refine ⟨fun hother => ⟨?_, hother⟩, fun hother => hother.2⟩
    rintro rfl
    exact hwhere (h.apart other bracket index bracket' index' hmem hother)

theorem Sound.nodup_deleteGroup (h : q.Sound) (bracket' : Bracket) (index' : Nat) :
    ((q.deleteGroup bracket index ginfo).queuedGroups bracket' index').Nodup := by
  rw [queuedGroups_deleteGroup]
  split
  · exact (h.once bracket index).erase ginfo
  · exact h.once bracket' index'

theorem Sound.removePlayer (h : q.Sound) (guid : Nat) (decreaseInvitedCount : Bool) :
    (q.removePlayer guid decreaseInvitedCount).1.Sound := by
  unfold BattleGroundQueue.removePlayer
  cases hitr : q.queuedPlayers.find guid with
  | none => exact h
  | some itr =>
    dsimp only
    cases hgroup : q.infos.find itr.groupInfo with
    | none => exact h
    | some group =>
      have hguid : q.groupOf guid = some itr.groupInfo := by
        rw [groupOf, hitr]
        rfl
      have hshape : q.shapeOf itr.groupInfo = some (group.players, group.groupTeam) := by
        rw [shapeOf, hgroup]
        rfl
      obtain ⟨⟨bracket, index, hmem⟩, -⟩ := h.placed guid itr.groupInfo hguid
      simp only [h.searchGroup hmem hshape]
      by_cases hleft : group.players.erase guid = ∅
      · rw [if_pos hleft]
        refine h.leave hguid hshape (fun other => groupOf_eraseQueued) (fun other hne => ?_) (absurd hleft)
          (fun other bracket' index' => ?_) h.nodup_deleteGroup rfl
        · exact (shapeOf_deleteGroup hne).trans (shapeOf_setInfo.trans (if_neg hne))
        · refine (h.mem_deleteGroup hmem other bracket' index').trans ?_
          simp [hleft]
      · rw [if_neg hleft]
        exact h.leave hguid hshape (fun other => groupOf_eraseQueued) (fun other hne => shapeOf_setInfo.trans (if_neg hne))
          (fun _ => shapeOf_setInfo.trans (if_pos rfl)) (fun other bracket' index' => by simp [hleft]; rfl) h.once rfl

theorem queuePlayer_fold (ginfo : Nat) (guids : List Nat) (q : BattleGroundQueue) :
    (guids.foldl (queuePlayer ginfo) q).queuedGroups = q.queuedGroups ∧
      (guids.foldl (queuePlayer ginfo) q).infos = q.infos ∧ (guids.foldl (queuePlayer ginfo) q).nextInfo = q.nextInfo ∧
      ∀ other, (guids.foldl (queuePlayer ginfo) q).groupOf other = if other ∈ guids then some ginfo else q.groupOf other := by
  induction guids generalizing q with
  | nil => exact ⟨rfl, rfl, rfl, fun other => (if_neg not_mem_nil).symm⟩
  | cons guid rest ih =>
    obtain ⟨hgroups, hinfos, hnext, hplayers⟩ := ih (queuePlayer ginfo q guid)
    refine ⟨hgroups, hinfos, hnext, fun other => (hplayers other).trans ?_⟩
    have hfirst : (queuePlayer ginfo q guid).groupOf other = if other = guid then some ginfo else q.groupOf other :=
      groupOf_insert _ other
    by_cases hrest : other ∈ rest
    · rw [if_pos hrest, if_pos (mem_cons_of_mem _ hrest)]
    · rw [if_neg hrest, hfirst]
      by_cases heq : other = guid
      · rw [if_pos heq, if_pos (heq ▸ mem_cons_self)]
      · rw [if_neg heq, if_neg fun hmem => (mem_cons.mp hmem).elim heq hrest]

theorem Sound.push (h : q.Sound) (hnonempty : players.Nonempty)
    (hfree : ∀ guid ∈ players, q.groupOf guid = none) (hindex : index < BG_QUEUE_GROUP_TYPES_COUNT)
    (hteam : index % BG_TEAMS_COUNT = getTeamIndexByTeamId team)
    (hplayers : ∀ guid, q'.groupOf guid = if guid ∈ players then some q.nextInfo else q.groupOf guid)
    (hshapes : ∀ ginfo, q'.shapeOf ginfo = if ginfo = q.nextInfo then some (players, team) else q.shapeOf ginfo)
    (hgroups : ∀ bracket' index', q'.queuedGroups bracket' index' =
      if bracket' = bracket ∧ index' = index then q.queuedGroups bracket index ++ [q.nextInfo]
      else q.queuedGroups bracket' index')
    (hnext : q'.nextInfo = q.nextInfo + 1) : q'.Sound := by
  have hnew (bracket' : Bracket) (index' : Nat) : q.nextInfo ∉ q.queuedGroups bracket' index' := fun hmem =>
    Nat.lt_irrefl _ (h.allocated _ ⟨bracket', index', hmem⟩)
  have hmem (ginfo : Nat) (bracket' : Bracket) (index' : Nat) : ginfo ∈ q'.queuedGroups bracket' index' ↔
      if ginfo = q.nextInfo then bracket' = bracket ∧ index' = index else ginfo ∈ q.queuedGroups bracket' index' := by
    rw [hgroups]
    by_cases hwhere : bracket' = bracket ∧ index' = index
    · rw [if_pos hwhere, mem_append, mem_singleton, hwhere.1, hwhere.2]
      by_cases heq : ginfo = q.nextInfo
      · rw [if_pos heq]
        exact ⟨fun _ => ⟨rfl, rfl⟩, fun _ => .inr heq⟩
      · rw [if_neg heq]
        exact ⟨fun hin => hin.resolve_right heq, .inl⟩
    · rw [if_neg hwhere]
      by_cases heq : ginfo = q.nextInfo
      · rw [if_pos heq, heq]
        exact ⟨fun hin => absurd hin (hnew bracket' index'), fun hin => absurd hin hwhere⟩
      · rw [if_neg heq]
  refine ⟨fun bracket' index' ginfo hginfo => ?_, fun bracket' index' => ?_, fun ginfo bracket₁ index₁ bracket₂ index₂ h₁ h₂ => ?_,
    fun guid ginfo hguid => ?_, fun ginfo ⟨bracket', index', hginfo⟩ => ?_⟩
  · have hwhere := (hmem _ _ _).mp hginfo
    rw [hshapes]
    by_cases heq : ginfo = q.nextInfo
    · rw [if_pos heq] at hwhere ⊢
      refine ⟨players, team, rfl, hwhere.2 ▸ hindex, hwhere.2 ▸ hteam, hnonempty, fun guid hguid => ?_⟩
      rw [hplayers, if_pos hguid, heq]
    · rw [if_neg heq] at hwhere ⊢
      obtain ⟨players', team', hshape, hindex', hteam', hnonempty', hall⟩ := h.listed bracket' index' ginfo hwhere
      refine ⟨players', team', hshape, hindex', hteam', hnonempty', fun guid hguid => ?_⟩
      have hnot : guid ∉ players := fun hin => absurd ((hfree guid hin).symm.trans (hall guid hguid)).symm (Option.some_ne_none ginfo)
      rw [hplayers, if_neg hnot]
      exact hall guid hguid
  · rw [hgroups]
    split
    · exact Lists.nodup_concat (h.once bracket index) (hnew bracket index)
    · exact h.once bracket' index'
  · have hwhere₁ := (hmem _ _ _).mp h₁
    have hwhere₂ := (hmem _ _ _).mp h₂
    by_cases heq : ginfo = q.nextInfo
    · rw [if_pos heq] at hwhere₁ hwhere₂
      exact ⟨hwhere₂.1.trans hwhere₁.1.symm, hwhere₂.2.trans hwhere₁.2.symm⟩
    · rw [if_neg heq] at hwhere₁ hwhere₂
      exact h.apart ginfo bracket₁ index₁ bracket₂ index₂ hwhere₁ hwhere₂
  · rw [hplayers] at hguid
    by_cases hin : guid ∈ players
    · rw [if_pos hin] at hguid
      cases hguid
      refine ⟨⟨bracket, index, (hmem _ _ _).mpr ?_⟩, players, team, (hshapes _).trans (if_pos rfl), hin⟩
      rw [if_pos rfl]
      exact ⟨rfl, rfl⟩
    · rw [if_neg hin] at hguid
      obtain ⟨hlisted, players', team', hshape, hplayer⟩ := h.placed guid ginfo hguid
      have heq : ginfo ≠ q.nextInfo := Nat.ne_of_lt (h.allocated ginfo hlisted)
      obtain ⟨bracket', index', hmem'⟩ := hlisted
      refine ⟨⟨bracket', index', (hmem _ _ _).mpr ?_⟩, players', team', (hshapes _).trans ((if_neg heq).trans hshape), hplayer⟩
      rw [if_neg heq]
      exact hmem'
  · have hwhere := (hmem _ _ _).mp hginfo
    rw [hnext]
    by_cases heq : ginfo = q.nextInfo
    · rw [heq]
      exact Nat.lt_succ_self _
    · rw [if_neg heq] at hwhere
      exact Nat.lt_succ_of_lt (h.allocated ginfo ⟨bracket', index', hwhere⟩)

theorem groupIndex_lt (team : Team) (isPremade : Bool) : groupIndex team isPremade < BG_QUEUE_GROUP_TYPES_COUNT := by
  cases team <;> cases isPremade <;> decide

theorem groupIndex_mod (team : Team) (isPremade : Bool) :
    groupIndex team isPremade % BG_TEAMS_COUNT = getTeamIndexByTeamId team := by
  cases team <;> cases isPremade <;> decide

theorem groupOf_addPlayers {request : Request} {isPremade : Bool} {guids : List Nat} (other : Nat) :
    (q.addPlayers request isPremade team guids).groupOf other = if other ∈ guids then some q.nextInfo else q.groupOf other := by
  have hfold := (queuePlayer_fold q.nextInfo guids { q with nextInfo := q.nextInfo + 1 }).2.2.2 other
  unfold addPlayers
  split
  · exact hfold
  · exact hfold

theorem Sound.addPlayers (h : q.Sound) (request : Request) (isPremade : Bool) (team : Team) {guids : List Nat}
    (hfree : ∀ guid ∈ guids, q.groupOf guid = none) : (q.addPlayers request isPremade team guids).Sound := by
  obtain ⟨hgroups, hinfos, hnext, hplayers⟩ := queuePlayer_fold q.nextInfo guids { q with nextInfo := q.nextInfo + 1 }
  by_cases hnil : guids = []
  · subst hnil
    exact h.congr (fun _ => rfl) (fun _ _ => .refl _) (fun _ => rfl) (Nat.le_succ _)
  · have hlists (bracket : Bracket) (index : Nat) : (q.addPlayers request isPremade team guids).queuedGroups bracket index =
        if bracket = request.bracketId ∧ index = groupIndex team isPremade then
          q.queuedGroups request.bracketId (groupIndex team isPremade) ++ [q.nextInfo]
        else q.queuedGroups bracket index := by
      unfold BattleGroundQueue.addPlayers
      simp only [if_neg hnil, queuedGroups_setGroups]
      unfold BattleGroundQueue.setInfo
      simp only [hgroups]
    refine h.push (toFinset_nonempty_iff guids |>.mpr hnil) (fun guid hguid => hfree guid (mem_toFinset.mp hguid))
      (groupIndex_lt team isPremade) (groupIndex_mod team isPremade) (fun guid => ?_) (fun ginfo => ?_) hlists ?_
    · simp only [groupOf_addPlayers, mem_toFinset]
    · unfold BattleGroundQueue.addPlayers
      simp only [if_neg hnil]
      refine shapeOf_setInfo.trans ?_
      unfold shapeOf
      rw [hinfos]
      rfl
    · unfold BattleGroundQueue.addPlayers
      simp only [if_neg hnil]
      exact hnext

-- What AddGroup does to the queue: it queues groups of players not queued yet.
inductive Adds : BattleGroundQueue → BattleGroundQueue → Prop
  | refl (q : BattleGroundQueue) : Adds q q
  | number {q q' : BattleGroundQueue} (rest : Adds { q with nextInfo := q.nextInfo + 1 } q') : Adds q q'
  | players {q q' : BattleGroundQueue} (request : Request) (isPremade : Bool) (team : Team) {guids : List Nat}
      (hfree : ∀ guid ∈ guids, q.groupOf guid = none) (rest : Adds (q.addPlayers request isPremade team guids) q') : Adds q q'

theorem Sound.adds (h : q.Sound) (hadds : Adds q q') : q'.Sound := by
  induction hadds with
  | refl _ => exact h
  | number _ ih => exact ih (h.congr (fun _ => rfl) (fun _ _ => .refl _) (fun _ => rfl) (Nat.le_succ _))
  | players request isPremade team hfree _ ih => exact ih (h.addPlayers request isPremade team hfree)

theorem adds_addSolos (request : Request) (isPremade : Bool) (players : List Player)
    (hdistinct : (players.map Player.guid).Nodup) (hfree : ∀ player ∈ players, q.groupOf player.guid = none) :
    Adds q (players.foldl (addSolo request isPremade) q) := by
  induction players generalizing q with
  | nil => exact .refl q
  | cons first rest ih =>
    obtain ⟨hnotin, hdistinct⟩ := nodup_cons.mp hdistinct
    have hfirst : ∀ guid ∈ [first.guid], q.groupOf guid = none := by
      intro guid hguid
      rw [mem_singleton.mp hguid]
      exact hfree first mem_cons_self
    refine .players request isPremade first.team hfirst (ih hdistinct fun player hplayer => ?_)
    have hne : player.guid ∉ [first.guid] := fun hmem =>
      hnotin (mem_singleton.mp hmem ▸ mem_map_of_mem hplayer)
    exact (groupOf_addPlayers player.guid).trans ((if_neg hne).trans (hfree player (mem_cons_of_mem _ hplayer)))

def added (leader : Player) (grp : Option Group) (excludedMembers : List Nat) : List Player :=
  match grp with
  | none => [leader]
  | some grp => grp.members.filter fun member => member.guid ∉ excludedMembers

theorem adds_addGroup (request : Request) (isPremade : Bool) {leader : Player} {grp : Option Group}
    {excludedMembers : List Nat} (groupLimit : Nat)
    (hfree : ∀ player ∈ added leader grp excludedMembers, q.groupOf player.guid = none) :
    Adds q (q.addGroup request isPremade leader grp excludedMembers groupLimit) := by
  cases grp with
  | none => exact adds_addSolos request isPremade [leader] (nodup_singleton _) hfree
  | some grp =>
    unfold BattleGroundQueue.addGroup
    dsimp only
    split
    · refine .number (adds_addSolos request false _ ?_ hfree)
      exact grp.distinct.sublist (filter_sublist.map Player.guid)
    · refine .players request isPremade leader.team (fun guid hguid => ?_) (.refl _)
      obtain ⟨player, hplayer, rfl⟩ := mem_map.mp hguid
      exact hfree player hplayer

inductive Op where
  | addGroup (request : Request) (isPremade : Bool) (leader : Player) (grp : Option Group) (excludedMembers : List Nat)
      (groupLimit : Nat)
  | removePlayer (guid : Nat) (decreaseInvitedCount : Bool)
  | invite (ginfo instanceId time : Nat) (reached : Nat → Bool)
  | movePremade (bracket : Bracket) (timeBefore minPlayersPerTeam : Nat) (team : Team)
  | shuffle (bracket : Bracket) (index : Nat) (order : Shuffle)
  | loggedOut (guid time : Nat)
  | loggedIn (guid : Nat)

def step (q : BattleGroundQueue) : Op → BattleGroundQueue
  | .addGroup request isPremade leader grp excludedMembers groupLimit =>
    q.addGroup request isPremade leader grp excludedMembers groupLimit
  | .removePlayer guid decreaseInvitedCount => (q.removePlayer guid decreaseInvitedCount).1
  | .invite ginfo instanceId time reached =>
    (q.inviteGroupToBG ginfo instanceId ((q.infos.find ginfo).map GroupQueueInfo.groupTeam) time reached).1
  | .movePremade bracket timeBefore minPlayersPerTeam team => q.movePremade bracket timeBefore minPlayersPerTeam team
  | .shuffle bracket index order => q.shuffleGroups bracket index order
  | .loggedOut guid time => q.playerLoggedOut guid time
  | .loggedIn guid => q.playerLoggedIn guid

def Meets (q : BattleGroundQueue) : Op → Prop
  | .addGroup _ _ leader grp excludedMembers _ =>
    ∀ player ∈ added leader grp excludedMembers, (q.queuedPlayers.find player.guid).isNone
  | _ => True

instance (q : BattleGroundQueue) : ∀ op, Decidable (q.Meets op)
  | .addGroup _ _ leader grp excludedMembers _ =>
    inferInstanceAs (Decidable (∀ player ∈ added leader grp excludedMembers, (q.queuedPlayers.find player.guid).isNone))
  | .removePlayer _ _ => isTrue trivial
  | .invite _ _ _ _ => isTrue trivial
  | .movePremade _ _ _ _ => isTrue trivial
  | .shuffle _ _ _ => isTrue trivial
  | .loggedOut _ _ => isTrue trivial
  | .loggedIn _ => isTrue trivial

theorem Sound.step (h : q.Sound) {op : Op} (hmeets : q.Meets op) : (q.step op).Sound := by
  cases op with
  | addGroup request isPremade leader grp excludedMembers groupLimit =>
    refine h.adds (adds_addGroup request isPremade groupLimit fun player hplayer => ?_)
    rw [groupOf, Option.isNone_iff_eq_none.mp (hmeets player hplayer)]
    rfl
  | removePlayer guid decreaseInvitedCount => exact h.removePlayer guid decreaseInvitedCount
  | invite ginfo instanceId time reached => exact h.inviteGroupToBG ginfo instanceId time reached
  | movePremade bracket timeBefore minPlayersPerTeam team => exact h.movePremade bracket timeBefore minPlayersPerTeam team
  | shuffle bracket index order => exact h.shuffleGroups bracket index order
  | loggedOut guid time => exact h.playerLoggedOut guid time
  | loggedIn guid => exact h.playerLoggedIn guid

theorem sound_run {ops : List Op} (h : Guarded step Meets empty ops) : (run step empty ops).Sound :=
  run_invariant step Meets Sound (fun _ _ hsound hmeets => hsound.step hmeets) empty_sound h

theorem structured_run (ops : List Op) (h : Guarded step Meets empty ops) : (run step empty ops).Structured :=
  (sound_run h).structured

-- A premade group of two moves to the normal list, one of the two leaves, and a
-- group above the limit joins player by player.
theorem structured_run_move :
    (run step empty
      [.addGroup ⟨2, 1, 0, 5⟩ true ⟨1, .ALLIANCE⟩ (some ⟨[⟨1, .ALLIANCE⟩, ⟨2, .ALLIANCE⟩], by decide, 2⟩) [] 10,
        .movePremade 1 9 2 .ALLIANCE, .removePlayer 1 false,
        .addGroup ⟨2, 1, 0, 8⟩ false ⟨3, .HORDE⟩ (some ⟨[⟨3, .HORDE⟩, ⟨4, .HORDE⟩], by decide, 12⟩) [] 10]).Structured := by
  refine structured_run _ ⟨?_, trivial, trivial, ?_, trivial⟩
  · decide
  · decide

end BattleGroundQueue

end TurtleWow.Battlegrounds

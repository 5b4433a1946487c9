import TurtleWow.Battlegrounds.Loaded
import TurtleWow.Lib.Loop

namespace TurtleWow.Battlegrounds

open List

-- Whom FillPlayersToBG selects for a battleground that is under way, and when
-- its loop ends.

abbrev Sides := Team → SelectionPool × List Nat

def Sides.pools (sides : Sides) : Pools := fun team => (sides team).1

namespace BattleGroundQueue

def diff (free : Team → Nat) (pools : Pools) (team : Team) : Int := free team - (pools team).playerCount

def behind (free : Team → Nat) (pools : Pools) : Team :=
  if diff free pools .ALLIANCE < diff free pools .HORDE then .ALLIANCE else .HORDE

section

variable (q : BattleGroundQueue) (settings : Settings) (view : View)

-- One round of the loop for the team that leaves fewer places: it goes on, or
-- stops because there is nobody left to kick.
def equalizeTeam (free : Team → Nat) (bgInstanceId : Nat) (sides : Sides) (team : Team) : Sides ⊕ Sides :=
  let other := otherTeam team
  let size := (diff free sides.pools other - diff free sides.pools team).toNat
  let side := q.kickAndRefill view (free team) (diff free sides.pools other) size bgInstanceId (sides team)
  let after := Function.update sides team side
  if side.1.playerCount = 0 then
    if (free team : Int) ≤ diff free sides.pools other + 1 then .inr after
    else .inl (Function.update after other ((SelectionPool.kickGroup q size (after other).1).1, (after other).2))
  else .inl after

def equalizeRound (free : Team → Nat) (differential bgInstanceId : Nat) (sides : Sides) : Sides ⊕ Sides :=
  if (diff free sides.pools .ALLIANCE - diff free sides.pools .HORDE).natAbs > differential ∧
      ((sides .HORDE).1.playerCount > 0 ∨ (sides .ALLIANCE).1.playerCount > 0) then
    q.equalizeTeam view free bgInstanceId sides (behind free sides.pools)
  else .inr sides

def firstSides (bg : BattleGround) (bracket : Bracket) : Sides := fun team =>
  q.addWhile view (bg.getFreeSlotsForTeam team) bg.clientInstanceId .init (q.teamList bracket false team)

def differential : Nat := if settings.isAlterac then 3 else 0

def Fills (bg : BattleGround) (bracket : Bracket) (pools : Pools) : Prop :=
  if bg.isArena then pools = Pools.init
  else if settings.invitationType = 0 then pools = (q.firstSides view bg bracket).pools
  else ∃ last, Loop.Ends (q.equalizeRound view bg.getFreeSlotsForTeam (differential settings) bg.clientInstanceId)
    (q.firstSides view bg bracket) last ∧ pools = last.pools

-- The queues that are walked: no group is in one twice, and none is empty.
structure Waiting (bracket : Bracket) : Prop where
  once : ∀ team, (q.teamList bracket false team).Nodup
  nonempty : ∀ team, ∀ ginfo ∈ q.teamList bracket false team, 0 < SelectionPool.sizeOf q ginfo

def Eligible (bgInstanceId ginfo : Nat) : Prop :=
  ∃ info, q.infos.find ginfo = some info ∧ info.isInvitedToBGInstanceGUID = 0 ∧
    (info.desiredInstanceId = 0 ∨ info.desiredInstanceId = bgInstanceId)

structure Selected (bg : BattleGround) (bracket : Bracket) (team : Team) (pool : SelectionPool) : Prop where
  distinct : pool.selectedGroups.Nodup
  queued : ∀ ginfo ∈ pool.selectedGroups, ginfo ∈ q.teamList bracket false team
  eligible : ∀ ginfo ∈ pool.selectedGroups, q.Eligible bg.clientInstanceId ginfo
  counted : pool.playerCount = (pool.selectedGroups.map (SelectionPool.sizeOf q)).sum
  fits : (pool.selectedGroups.map (SelectionPool.sizeOf q)).sum ≤ bg.getFreeSlotsForTeam team

end

-- Where the loop may end: nothing is selected, or what remains is even enough,
-- or one team has nobody left to kick and no more free slots than the other.
def Settled (free : Team → Nat) (differential : Nat) (pools : Pools) : Prop :=
  (∀ team, (pools team).selectedGroups = []) ∨
    (diff free pools .ALLIANCE - diff free pools .HORDE).natAbs ≤ differential ∨
    ∃ team, (pools team).selectedGroups = [] ∧ (free team : Int) ≤ diff free pools (otherTeam team) + 1

variable {q : BattleGroundQueue} {settings : Settings} {view : View} {bracket : Bracket} {limit bgInstanceId : Nat} {team : Team}
  {pool : SelectionPool} {ginfo : Nat} {list queue : List Nat} {sides next last : Sides} {free : Team → Nat}
  {side : SelectionPool × List Nat}

theorem Sound.waiting (h : q.Sound) (bracket : Bracket) : q.Waiting bracket := by
  refine ⟨fun team => h.once bracket _, fun team ginfo hginfo => ?_⟩
  obtain ⟨players, team', hshape, -, -, hnonempty, -⟩ := h.listed bracket _ ginfo hginfo
  obtain ⟨info, hfind, hinfo⟩ := Option.map_eq_some_iff.mp hshape
  rw [sizeOf_eq hfind]
  exact Finset.card_pos.mpr ((Prod.mk.inj hinfo).1 ▸ hnonempty)

theorem equalize_eq_iterate (differential rounds : Nat) :
    q.equalize view free differential bgInstanceId rounds sides =
      Loop.iterate (q.equalizeRound view free differential bgInstanceId) rounds sides := by
  induction rounds generalizing sides with
  | zero => rfl
  | succ rounds ih =>
    have hdiff (team : Team) : (free team : Int) - (sides team).1.playerCount = diff free sides.pools team := rfl
    rw [equalize, Loop.iterate, equalizeRound]
    simp only [hdiff, ← behind.eq_def]
    split
    · generalize behind free sides.pools = team
      unfold equalizeTeam
      dsimp only
      split
      · split
        · rfl
        · exact ih
      · exact ih
    · rfl

structure Fresh (q : BattleGroundQueue) (queue : List Nat) (bgInstanceId : Nat) (side : SelectionPool × List Nat) : Prop where
  once : List.Subperm (side.1.selectedGroups ++ side.2) queue
  eligible : ∀ ginfo ∈ side.1.selectedGroups, q.Eligible bgInstanceId ginfo

def work (side : SelectionPool × List Nat) : Nat := side.1.selectedGroups.length + 2 * side.2.length

theorem addGroup_eligible (busy : Nat → Bool) (desiredCount bgInstanceId : Nat) (pool : SelectionPool) (ginfo : Nat) :
    (SelectionPool.addGroup q busy desiredCount bgInstanceId pool ginfo).1 = pool ∨
      q.Eligible bgInstanceId ginfo ∧
        (SelectionPool.addGroup q busy desiredCount bgInstanceId pool ginfo).1.selectedGroups = pool.selectedGroups ++ [ginfo] := by
  unfold SelectionPool.addGroup
  cases hfind : q.infos.find ginfo with
  | none => exact .inl rfl
  | some info =>
    dsimp only
    split
    · rename_i hfits
      exact .inr ⟨⟨info, hfind, hfits.1, hfits.2.1⟩, rfl⟩
    · exact .inl rfl

theorem addGroup_refused (busy : Nat → Bool) {desiredCount : Nat} (bgInstanceId : Nat)
    (h : (SelectionPool.addGroup q busy desiredCount bgInstanceId pool ginfo).2 = false) :
    (SelectionPool.addGroup q busy desiredCount bgInstanceId pool ginfo).1 = pool := by
  unfold SelectionPool.addGroup at h ⊢
  cases hfind : q.infos.find ginfo with
  | none => rfl
  | some info =>
    rw [hfind] at h
    dsimp only at h ⊢
    split at h
    · simp at h
    · rename_i hfits
      rw [if_neg hfits]

variable (view) in
theorem Fresh.addWhile (desiredCount : Nat) (h : Fresh q queue bgInstanceId (pool, list)) :
    Fresh q queue bgInstanceId (q.addWhile view desiredCount bgInstanceId pool list) ∧
      work (q.addWhile view desiredCount bgInstanceId pool list) ≤ work (pool, list) := by
  induction list generalizing pool with
  | nil => exact ⟨h, Nat.le_refl _⟩
  | cons first rest ih =>
    unfold BattleGroundQueue.addWhile
    dsimp only
    split
    · rcases addGroup_eligible view.busy desiredCount bgInstanceId pool first with heq | ⟨heligible, heq⟩
      · rw [heq]
        have hskip : Fresh q queue bgInstanceId (pool, rest) :=
          ⟨((sublist_cons_self first rest).append_left _).subperm.trans h.once, h.eligible⟩
        obtain ⟨hfresh, hwork⟩ := ih hskip
        refine ⟨hfresh, Nat.le_trans hwork ?_⟩
        simp only [work, length_cons]
        omega
      · generalize (SelectionPool.addGroup q view.busy desiredCount bgInstanceId pool first).1 = added at heq ⊢
        have hadded : Fresh q queue bgInstanceId (added, rest) := by
          refine ⟨?_, fun ginfo hginfo => ?_⟩
          · simpa only [heq, append_assoc, singleton_append] using h.once
          · rw [heq] at hginfo
            rcases mem_append.mp hginfo with hginfo | hginfo
            · exact h.eligible ginfo hginfo
            · exact mem_singleton.mp hginfo ▸ heligible
        obtain ⟨hfresh, hwork⟩ := ih hadded
        refine ⟨hfresh, Nat.le_trans hwork ?_⟩
        simp only [work, heq, length_append, length_cons, length_nil]
        omega
    · rename_i hrefused
      rw [addGroup_refused view.busy bgInstanceId (Bool.eq_false_iff.mpr hrefused)]
      exact ⟨h, Nat.le_refl _⟩

theorem kickGroup_sublist (size : Nat) (pool : SelectionPool) :
    (SelectionPool.kickGroup q size pool).1.selectedGroups.Sublist pool.selectedGroups := by
  unfold SelectionPool.kickGroup
  cases hgroups : pool.selectedGroups with
  | nil => simp [hgroups]
  | cons first rest =>
    dsimp only
    split
    · simp [hgroups]
    · exact eraseIdx_sublist _ _

theorem Fresh.kickGroup (h : Fresh q queue bgInstanceId (pool, list)) (size : Nat) :
    Fresh q queue bgInstanceId ((SelectionPool.kickGroup q size pool).1, list) ∧
      work ((SelectionPool.kickGroup q size pool).1, list) ≤ work (pool, list) := by
  have hsublist := kickGroup_sublist (q := q) size pool
  refine ⟨⟨(hsublist.append_right _).subperm.trans h.once, fun ginfo hginfo => h.eligible ginfo (hsublist.subset hginfo)⟩, ?_⟩
  have hlength := hsublist.length_le
  simp only [work]
  omega

theorem kickGroup_less (size : Nat) (hgroups : pool.selectedGroups ≠ []) (hcount : pool.playerCount ≠ 0) :
    work ((SelectionPool.kickGroup q size pool).1, list) < work (pool, list) := by
  unfold SelectionPool.kickGroup
  cases heq : pool.selectedGroups with
  | nil => exact absurd heq hgroups
  | cons first rest =>
    have hlt : SelectionPool.kickIndex q size (first :: rest) 0 (0, SelectionPool.sizeOf q first) false <
        (first :: rest).length := kickIndex_lt size _ (Nat.succ_pos _) (Nat.le_of_eq (Nat.zero_add _))
    dsimp only
    rw [if_neg hcount]
    simp only [work, heq, length_eraseIdx_of_lt hlt, length_cons]
    omega

variable (view limit) in
theorem Fresh.kickAndRefill (diffOther : Int) (size : Nat) (h : Fresh q queue bgInstanceId side) :
    Fresh q queue bgInstanceId (q.kickAndRefill view limit diffOther size bgInstanceId side) ∧
      work (q.kickAndRefill view limit diffOther size bgInstanceId side) ≤
        work ((SelectionPool.kickGroup q size side.1).1, side.2) := by
  have hkicked := (Fresh.kickGroup h size).1
  unfold BattleGroundQueue.kickAndRefill
  dsimp only
  split
  · exact hkicked.addWhile view _
  · exact ⟨hkicked, Nat.le_refl _⟩

-- Where nobody is wanted, nobody is added: a group has players.
theorem addWhile_nobody (h : ∀ ginfo ∈ list, 0 < SelectionPool.sizeOf q ginfo) :
    q.addWhile view 0 bgInstanceId pool list = (pool, list) := by
  cases list with
  | nil => rfl
  | cons first rest =>
    have hrefused : SelectionPool.addGroup q view.busy 0 bgInstanceId pool first = (pool, false) := by
      unfold SelectionPool.addGroup
      cases hfind : q.infos.find first with
      | none => rfl
      | some info =>
        have hsize := h first mem_cons_self
        rw [sizeOf_eq hfind] at hsize
        dsimp only
        rw [if_neg (by omega)]
        rfl
    rw [addWhile, hrefused]
    rfl

-- A pool without players stays as it is, and the loop stops.
theorem kickAndRefill_nobody {diffOther : Int} (size : Nat) (hlist : ∀ ginfo ∈ side.2, 0 < SelectionPool.sizeOf q ginfo)
    (hcount : side.1.playerCount = 0) (hbehind : (limit : Int) < diffOther) :
    q.kickAndRefill view limit diffOther size bgInstanceId side = side := by
  have hkicked : SelectionPool.kickGroup q size side.1 = (side.1, true) := by
    unfold SelectionPool.kickGroup
    split
    · rfl
    · rw [if_pos hcount]
  unfold kickAndRefill
  rw [hkicked]
  rw [if_pos rfl, if_neg (Int.not_le.mpr hbehind)]
  exact addWhile_nobody hlist

structure Kept (q : BattleGroundQueue) (bracket : Bracket) (free : Team → Nat) (bgInstanceId : Nat) (sides : Sides) : Prop where
  sided : Sided q bracket free sides
  fresh : ∀ team, Fresh q (q.teamList bracket false team) bgInstanceId (sides team)

def total (sides : Sides) : Nat := work (sides .ALLIANCE) + work (sides .HORDE)

theorem total_update (sides : Sides) (team : Team) (side : SelectionPool × List Nat) :
    total (Function.update sides team side) + work (sides team) = total sides + work side := by
  cases team <;> simp [total, Function.update] <;> omega

theorem Kept.update (h : Kept q bracket free bgInstanceId sides) (hloaded : Loaded q bracket (free team) team side.1)
    (hlist : ∀ ginfo ∈ side.2, ginfo ∈ q.teamList bracket false team) (hfresh : Fresh q (q.teamList bracket false team) bgInstanceId side) :
    Kept q bracket free bgInstanceId (Function.update sides team side) := by
  refine ⟨h.sided.update ⟨hloaded, hlist⟩, fun other => ?_⟩
  by_cases hsame : other = team
  · subst hsame
    rwa [Function.update_self]
  · rw [Function.update_of_ne hsame]
    exact h.fresh other

theorem Kept.empty (hwaiting : q.Waiting bracket) (h : Kept q bracket free bgInstanceId sides)
    (hcount : (sides.pools team).playerCount = 0) : (sides.pools team).selectedGroups = [] := by
  have hloaded := (h.sided team).1
  refine eq_nil_iff_forall_not_mem.mpr fun ginfo hginfo => ?_
  have hsum : ((sides team).1.selectedGroups.map (SelectionPool.sizeOf q)).sum = 0 := hloaded.counted.symm.trans hcount
  have hsize := List.sum_eq_zero_iff_forall_eq_nat.mp hsum _ (mem_map_of_mem hginfo)
  have hqueued := (h.fresh team).once.subset (mem_append_left _ hginfo)
  exact absurd hsize (hwaiting.nonempty team ginfo hqueued).ne'

theorem otherTeam_ne (team : Team) : otherTeam team ≠ team := by
  cases team <;> simp [otherTeam]

theorem Kept.diff_nonneg (h : Kept q bracket free bgInstanceId sides) (team : Team) : 0 ≤ diff free sides.pools team := by
  have hfits := (h.sided team).1.fits
  unfold diff Sides.pools
  omega

theorem Kept.kick (h : Kept q bracket free bgInstanceId sides) (team : Team) (size : Nat) :
    Kept q bracket free bgInstanceId
        (Function.update sides team ((SelectionPool.kickGroup q size (sides team).1).1, (sides team).2)) ∧
      total (Function.update sides team ((SelectionPool.kickGroup q size (sides team).1).1, (sides team).2)) ≤ total sides := by
  obtain ⟨hfresh, hwork⟩ := Fresh.kickGroup (h.fresh team) size
  have htotal := total_update sides team ((SelectionPool.kickGroup q size (sides team).1).1, (sides team).2)
  refine ⟨h.update ((h.sided team).1.kickGroup size) (h.sided team).2 hfresh, ?_⟩
  have hsame : work ((sides team).1, (sides team).2) = work (sides team) := rfl
  omega

variable (view) in
theorem Kept.refill (h : Kept q bracket free bgInstanceId sides) (team : Team) (size : Nat) :
    Kept q bracket free bgInstanceId (Function.update sides team
      (q.kickAndRefill view (free team) (diff free sides.pools (otherTeam team)) size bgInstanceId (sides team))) := by
  obtain ⟨hloaded, hlist⟩ := h.sided.kickAndRefill view team (h.diff_nonneg (otherTeam team)) size bgInstanceId
  exact h.update hloaded hlist (Fresh.kickAndRefill view (free team) _ size (h.fresh team)).1

variable (view) in
theorem Kept.total_refill (h : Kept q bracket free bgInstanceId sides) (diffOther : Int) (size : Nat)
    (hcount : (sides team).1.playerCount ≠ 0) :
    total (Function.update sides team (q.kickAndRefill view (free team) diffOther size bgInstanceId (sides team))) <
      total sides := by
  have hgroups : (sides team).1.selectedGroups ≠ [] := by
    intro hnil
    have hcounted := (h.sided team).1.counted
    rw [hnil] at hcounted
    exact hcount hcounted
  have hrefilled := (Fresh.kickAndRefill view (free team) diffOther size (h.fresh team)).2
  have hkicked : work ((SelectionPool.kickGroup q size (sides team).1).1, (sides team).2) < work (sides team) :=
    kickGroup_less size hgroups hcount
  have htotal := total_update sides team (q.kickAndRefill view (free team) diffOther size bgInstanceId (sides team))
  omega

theorem Kept.onward (hwaiting : q.Waiting bracket) (h : Kept q bracket free bgInstanceId sides)
    (hbehind : diff free sides.pools team < diff free sides.pools (otherTeam team))
    (honward : q.equalizeTeam view free bgInstanceId sides team = .inl next) :
    Kept q bracket free bgInstanceId next ∧ total next < total sides := by
  unfold equalizeTeam at honward
  dsimp only at honward
  generalize (diff free sides.pools (otherTeam team) - diff free sides.pools team).toNat = size at honward
  have hkept := h.refill view team size
  by_cases hcount : (sides team).1.playerCount = 0
  · have hfree : diff free sides.pools team = free team := by
      unfold diff Sides.pools
      omega
    have hlist : ∀ ginfo ∈ (sides team).2, 0 < SelectionPool.sizeOf q ginfo := fun ginfo hginfo =>
      hwaiting.nonempty team ginfo ((h.sided team).2 ginfo hginfo)
    rw [kickAndRefill_nobody size hlist hcount (hfree ▸ hbehind), if_pos hcount, if_pos (by omega)] at honward
    simp at honward
  · have hless := h.total_refill view (diff free sides.pools (otherTeam team)) size hcount
    split at honward
    · split at honward
      · simp at honward
      · obtain rfl := Sum.inl.inj honward
        obtain ⟨hkicked, hmore⟩ := hkept.kick (otherTeam team) size
        exact ⟨hkicked, Nat.lt_of_le_of_lt hmore hless⟩
    · obtain rfl := Sum.inl.inj honward
      exact ⟨hkept, hless⟩

theorem Kept.leave (h : Kept q bracket free bgInstanceId sides)
    (hleave : q.equalizeTeam view free bgInstanceId sides team = .inr last) :
    Kept q bracket free bgInstanceId last ∧ (last.pools team).playerCount = 0 ∧
      (free team : Int) ≤ diff free last.pools (otherTeam team) + 1 := by
  unfold equalizeTeam at hleave
  dsimp only at hleave
  split at hleave
  · rename_i hcount
    split at hleave
    · rename_i hfree
      obtain rfl := Sum.inr.inj hleave
      refine ⟨h.refill view team _, ?_, ?_⟩
      · simpa only [Sides.pools, Function.update_self] using hcount
      · simpa only [diff, Sides.pools, Function.update_of_ne (otherTeam_ne team)] using hfree
    · simp at hleave
  · simp at hleave

theorem behind_lt {pools : Pools} {differential : Nat}
    (h : (diff free pools .ALLIANCE - diff free pools .HORDE).natAbs > differential) :
    diff free pools (behind free pools) < diff free pools (otherTeam (behind free pools)) := by
  unfold behind
  split
  · assumption
  · change diff free pools .HORDE < diff free pools .ALLIANCE
    omega

theorem Kept.equalizeRound_onward {differential : Nat} (hwaiting : q.Waiting bracket) (h : Kept q bracket free bgInstanceId sides)
    (honward : q.equalizeRound view free differential bgInstanceId sides = .inl next) :
    Kept q bracket free bgInstanceId next ∧ total next < total sides := by
  unfold equalizeRound at honward
  split at honward
  · rename_i hguard
    exact h.onward hwaiting (behind_lt hguard.1) honward
  · simp at honward

theorem Kept.equalizeRound_leave {differential : Nat} (hwaiting : q.Waiting bracket) (h : Kept q bracket free bgInstanceId sides)
    (hleave : q.equalizeRound view free differential bgInstanceId sides = .inr last) :
    Kept q bracket free bgInstanceId last ∧ Settled free differential last.pools := by
  unfold equalizeRound at hleave
  split at hleave
  · obtain ⟨hkept, hcount, hfree⟩ := h.leave hleave
    exact ⟨hkept, .inr (.inr ⟨_, hkept.empty hwaiting hcount, hfree⟩)⟩
  · rename_i hguard
    obtain rfl := Sum.inr.inj hleave
    refine ⟨h, ?_⟩
    by_cases heven : (diff free sides.pools .ALLIANCE - diff free sides.pools .HORDE).natAbs ≤ differential
    · exact .inr (.inl heven)
    · refine .inl fun team => h.empty hwaiting ?_
      change (sides team).1.playerCount = 0
      cases team <;> omega

theorem kept_firstSides (bg : BattleGround) (bracket : Bracket) :
    Kept q bracket bg.getFreeSlotsForTeam bg.clientInstanceId (q.firstSides view bg bracket) := by
  have hfresh (team : Team) : Fresh q (q.teamList bracket false team) bg.clientInstanceId (.init, q.teamList bracket false team) :=
    ⟨List.Subperm.refl _, fun ginfo hginfo => absurd hginfo not_mem_nil⟩
  exact ⟨fun team => loaded_init.addWhile view bg.clientInstanceId (Nat.le_refl _) fun _ hin => hin,
    fun team => ((hfresh team).addWhile view _).1⟩

variable (view) in
theorem total_firstSides (bg : BattleGround) (bracket : Bracket) :
    total (q.firstSides view bg bracket) <
      2 * ((q.teamList bracket false .ALLIANCE).length + (q.teamList bracket false .HORDE).length) + 1 := by
  have hwork (team : Team) : work (q.firstSides view bg bracket team) ≤ 2 * (q.teamList bracket false team).length := by
    have hstart : Fresh q (q.teamList bracket false team) bg.clientInstanceId (.init, q.teamList bracket false team) :=
      ⟨List.Subperm.refl _, fun ginfo hginfo => absurd hginfo not_mem_nil⟩
    have hfilled : work (q.firstSides view bg bracket team) ≤ work (.init, q.teamList bracket false team) :=
      (hstart.addWhile view (bg.getFreeSlotsForTeam team)).2
    simpa only [work, SelectionPool.init, length_nil, Nat.zero_add] using hfilled
  have hally := hwork .ALLIANCE
  have hhorde := hwork .HORDE
  unfold total
  omega

theorem Kept.selected {bg : BattleGround} (hwaiting : q.Waiting bracket)
    (h : Kept q bracket bg.getFreeSlotsForTeam bg.clientInstanceId sides) (team : Team) :
    q.Selected bg bracket team (sides.pools team) := by
  have hloaded := (h.sided team).1
  have hpool : List.Subperm (sides team).1.selectedGroups (q.teamList bracket false team) :=
    (sublist_append_left _ _).subperm.trans (h.fresh team).once
  have hqueued := hpool.subset
  obtain ⟨list, hperm, hsublist⟩ := hpool
  exact ⟨hperm.nodup_iff.mp ((hwaiting.once team).sublist hsublist), fun ginfo hginfo => hqueued hginfo, (h.fresh team).eligible, hloaded.counted,
    hloaded.counted ▸ hloaded.fits⟩

theorem selected_init (bg : BattleGround) : q.Selected bg bracket team .init :=
  ⟨nodup_nil, fun _ h => absurd h not_mem_nil, fun _ h => absurd h not_mem_nil, rfl, Nat.zero_le _⟩

theorem Kept.ends {differential rounds : Nat} (hwaiting : q.Waiting bracket) (h : Kept q bracket free bgInstanceId sides)
    (hrounds : total sides < rounds) :
    Loop.Ends (q.equalizeRound view free differential bgInstanceId) sides
      (q.equalize view free differential bgInstanceId rounds sides) := by
  rw [equalize_eq_iterate]
  exact Loop.ends_iterate _ total (fun _ _ hkept => hkept.equalizeRound_onward hwaiting) h hrounds

theorem Kept.settled {differential : Nat} (hwaiting : q.Waiting bracket) (h : Kept q bracket free bgInstanceId sides)
    (hends : Loop.Ends (q.equalizeRound view free differential bgInstanceId) sides last) :
    Kept q bracket free bgInstanceId last ∧ Settled free differential last.pools :=
  hends.post (Kept q bracket free bgInstanceId) _ (fun _ _ hkept honward => (hkept.equalizeRound_onward hwaiting honward).1)
    (fun _ _ hkept => hkept.equalizeRound_leave hwaiting) h

-- FillPlayersToBG comes to an end; it selects groups that may play, each once
-- and not too many, and it leaves the teams as even as it can.
theorem fillPlayersToBG_settled (settings : Settings) (view : View) (bg : BattleGround) (hwaiting : q.Waiting bracket) :
    q.Fills settings view bg bracket (q.fillPlayersToBG settings view bg bracket) ∧
      (∀ team, q.Selected bg bracket team (q.fillPlayersToBG settings view bg bracket team)) ∧
      (settings.invitationType ≠ 0 →
        Settled bg.getFreeSlotsForTeam (differential settings) (q.fillPlayersToBG settings view bg bracket)) := by
  have hstart : Kept q bracket bg.getFreeSlotsForTeam bg.clientInstanceId (q.firstSides view bg bracket) :=
    kept_firstSides bg bracket
  unfold Fills
  by_cases harena : bg.isArena = true
  · have hinit : q.fillPlayersToBG settings view bg bracket = Pools.init := if_pos harena
    rw [hinit, if_pos harena]
    exact ⟨rfl, fun team => selected_init bg, fun _ => .inl fun team => rfl⟩
  rw [if_neg harena]
  by_cases htype : settings.invitationType = 0
  · have hfirst : q.fillPlayersToBG settings view bg bracket = (q.firstSides view bg bracket).pools :=
      (if_neg harena).trans (if_pos htype)
    rw [hfirst, if_pos htype]
    exact ⟨rfl, hstart.selected hwaiting, fun h => absurd htype h⟩
  · generalize hpools : q.fillPlayersToBG settings view bg bracket = pools
    unfold fillPlayersToBG at hpools
    rw [if_neg harena] at hpools
    rw [if_neg htype] at hpools
    subst hpools
    have hends : Loop.Ends (q.equalizeRound view bg.getFreeSlotsForTeam (differential settings) bg.clientInstanceId) _ _ :=
      hstart.ends hwaiting (total_firstSides view bg bracket)
    obtain ⟨hkept, hsettled⟩ := hstart.settled hwaiting hends
    rw [if_neg htype]
    exact ⟨⟨_, hends, rfl⟩, hkept.selected hwaiting, fun _ => hsettled⟩

end BattleGroundQueue

-- Two groups of five wait on each side, and the battleground has fifteen places
-- for the one and eight for the other. The second group of the horde does not
-- fit; the first one is kicked, and then a group of the alliance.

def underWay : BattleGround where
  bracketId := 1
  status := STATUS_IN_PROGRESS
  clientInstanceId := 1
  isArena := false
  maxPlayersPerTeam := 15
  maxPlayers := 30
  invited := fun team => if team = .HORDE then 7 else 0
  players := .empty

def even : Settings := { State.usual with invitationType := 1 }

theorem fillPlayersToBG_settled_ten : ∃ pools : Pools,
    (∀ team, ((State.afterJoining State.tenJoin).queue).Selected underWay 1 team (pools team)) ∧
      BattleGroundQueue.Settled underWay.getFreeSlotsForTeam 0 pools ∧
      (pools .ALLIANCE).playerCount = 5 ∧ (pools .HORDE).playerCount = 0 := by
  obtain ⟨-, hselected, hsettled⟩ := BattleGroundQueue.fillPlayersToBG_settled even State.fifteenAtMost underWay
    (State.tenJoin_sound.waiting 1)
  exact ⟨_, hselected, hsettled (by decide), by decide +kernel, by decide +kernel⟩

end TurtleWow.Battlegrounds

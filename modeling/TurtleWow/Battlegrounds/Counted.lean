import TurtleWow.Battlegrounds.Invited
import TurtleWow.Battlegrounds.Loaded

namespace TurtleWow.Battlegrounds

open Run Function OrderedMap

-- The invited counts while a queue is updated.

theorem BattleGround.iterate_increase (bg : BattleGround) (team : Team) (n : Nat) (h : bg.invited team + n < 4294967296) :
    n.iterate (fun bg => bg.increaseInvitedCount team) bg =
      { bg with invited := Function.update bg.invited team (bg.invited team + n) } := by
  induction n generalizing bg with
  | zero =>
    show bg = { bg with invited := Function.update bg.invited team (bg.invited team + 0) }
    rw [Nat.add_zero, update_eq_self]
  | succ n ih =>
    have hone : bg.increaseInvitedCount team =
        { bg with invited := Function.update bg.invited team (bg.invited team + 1) } := by
      unfold increaseInvitedCount
      rw [Word.add32_of_lt (by omega)]
    have hself : (bg.increaseInvitedCount team).invited team = bg.invited team + 1 := by
      rw [hone]
      exact update_self _ _ _
    rw [iterate_succ_apply, ih _ (by omega), hself, hone]
    rw [update_idem]
    congr 2
    omega

namespace BattleGroundQueue

variable {q q' : BattleGroundQueue} {counted : Finset Nat} {guid instanceId : Nat} {team : Team}

def queuedFor (q : BattleGroundQueue) (counted : Finset Nat) (instanceId : Nat) (team : Team) : Finset Nat :=
  counted.filter fun guid => q.invitation guid = some (instanceId, team)

theorem mem_queuedFor : guid ∈ q.queuedFor counted instanceId team ↔
    guid ∈ counted ∧ q.invitation guid = some (instanceId, team) := Finset.mem_filter

theorem queuedFor_congr (h : ∀ guid, q'.invitation guid = q.invitation guid) :
    q'.queuedFor counted = q.queuedFor counted := by
  funext instanceId team
  unfold queuedFor
  simp only [h]

variable (counted instanceId team) in
theorem Leaves.card_queuedFor (h : Leaves q q' guid) : (q.queuedFor counted instanceId team).card =
    (q'.queuedFor counted instanceId team).card +
      if guid ∈ q.queuedFor counted instanceId team then 1 else 0 := by
  have herase : q'.queuedFor counted instanceId team = (q.queuedFor counted instanceId team).erase guid := by
    ext other
    rw [Finset.mem_erase, mem_queuedFor, mem_queuedFor, h.invitation]
    by_cases hsame : other = guid
    · simp [hsame]
    · simp [hsame]
  rw [herase]
  split
  · rename_i hmem
    exact (Finset.card_erase_add_one hmem).symm
  · rename_i hnot
    rw [Finset.erase_eq_of_notMem hnot, Nat.add_zero]

end BattleGroundQueue

namespace State

-- What the counts are for. `present` says that who is in a battleground has been
-- sent there.
structure Balanced (s : State) (counted : Finset Nat) (inside : OrderedMap Nat (Nat × Team)) : Prop where
  counts : ∀ id bg, s.bgs.find id = some bg → ∀ team,
    bg.invited team = (s.queue.queuedFor counted id team).card + (inside.fiber (id, team)).card
  room : ∀ id bg, s.bgs.find id = some bg → ∀ team, bg.invited team ≤ bg.maxPlayersPerTeam
  word : ∀ id bg, s.bgs.find id = some bg → bg.maxPlayersPerTeam < 4294967296
  present : ∀ id bg, s.bgs.find id = some bg → ∀ guid team, bg.players.find guid = some team →
    inside.find guid = some (id, team)

structure Numbered (s : State) (inside : OrderedMap Nat (Nat × Team)) (bound : Nat) : Prop where
  bgs : ∀ id bg, s.bgs.find id = some bg → 0 < id ∧ id < bound
  invited : ∀ guid id team, s.queue.invitation guid = some (id, team) → id < bound
  inside : ∀ guid id team, inside.find guid = some (id, team) → id < bound

-- Between the steps of an update: of the players who wait those are expected whom
-- an invitation would reach.
structure Updating (s : State) (expected : Finset Nat) (inside : OrderedMap Nat (Nat × Team)) (reached : Nat → Bool)
    (bound : Nat) : Prop where
  sound : s.queue.Sound
  balanced : s.Balanced expected inside
  numbered : s.Numbered inside bound
  expects : ∀ guid, s.queue.groupOf guid ≠ none → s.queue.invitation guid = none →
    (guid ∈ expected ↔ reached guid = true)

variable {s after : State} {counted expected : Finset Nat} {inside : OrderedMap Nat (Nat × Team)} {reached : Nat → Bool}
  {bound guid instanceId ginfo : Nat} {settings : Settings} {view : View} {bracket : Bracket}

theorem Balanced.congr (h : s.Balanced counted inside)
    (hqueue : ∀ guid, after.queue.invitation guid = s.queue.invitation guid) (hbgs : after.bgs = s.bgs) :
    after.Balanced counted inside := by
  refine ⟨?_, hbgs ▸ h.room, hbgs ▸ h.word, hbgs ▸ h.present⟩
  rw [hbgs, BattleGroundQueue.queuedFor_congr hqueue]
  exact h.counts

theorem Balanced.recount (h : s.Balanced counted inside) {counted' : Finset Nat}
    (hsame : ∀ guid, s.queue.invitation guid ≠ none → (guid ∈ counted' ↔ guid ∈ counted)) :
    s.Balanced counted' inside := by
  refine ⟨fun id bg hbg team => ?_, h.room, h.word, h.present⟩
  rw [h.counts id bg hbg team]
  congr 2
  ext guid
  rw [BattleGroundQueue.mem_queuedFor, BattleGroundQueue.mem_queuedFor]
  refine and_congr_left fun hinvited => (hsame guid ?_).symm
  rw [hinvited]
  exact Option.some_ne_none _

theorem Numbered.congr (h : s.Numbered inside bound)
    (hqueue : ∀ guid, after.queue.invitation guid = s.queue.invitation guid) (hbgs : after.bgs = s.bgs) :
    after.Numbered inside bound := by
  refine ⟨hbgs ▸ h.bgs, fun guid id team hinvited => ?_, h.inside⟩
  rw [hqueue] at hinvited
  exact h.invited guid id team hinvited

theorem Updating.alike (h : s.Updating expected inside reached bound) (hsound : after.queue.Sound)
    (hqueue : s.queue.Alike after.queue) (hbgs : after.bgs = s.bgs) : after.Updating expected inside reached bound := by
  refine ⟨hsound, h.balanced.congr hqueue.invitation hbgs, h.numbered.congr hqueue.invitation hbgs, fun guid => ?_⟩
  rw [hqueue.groupOf, hqueue.invitation]
  exact h.expects guid

def Countable (s : State) (counted : Finset Nat) (guid : Nat) : Prop :=
  ∀ invited ∈ s.queue.invitation guid, (s.bgs.find invited.1).isSome → guid ∈ counted

instance (s : State) (counted : Finset Nat) (guid : Nat) : Decidable (s.Countable counted guid) :=
  inferInstanceAs (Decidable (∀ invited ∈ s.queue.invitation guid, (s.bgs.find invited.1).isSome → guid ∈ counted))

theorem queue_removePlayer (guid : Nat) (decreaseInvitedCount : Bool) :
    (s.removePlayer guid decreaseInvitedCount).queue = (s.queue.removePlayer guid decreaseInvitedCount).1 := by
  exact queue_decreaseInvited

theorem Balanced.removePlayer (h : s.Balanced counted inside) (hsound : s.queue.Sound) (hcountable : s.Countable counted guid) :
    (s.removePlayer guid true).Balanced counted inside := by
  have hleaves := hsound.leaves guid true
  have hdecreased : (s.queue.removePlayer guid true).2 = s.queue.invitation guid := hsound.decreased guid true
  unfold State.removePlayer
  dsimp only
  rw [hdecreased]
  generalize (s.queue.removePlayer guid true).1 = queue at hleaves
  -- Who is not counted for an instance and a team changes nothing there.
  have hsame : ∀ id team, guid ∉ s.queue.queuedFor counted id team →
      (s.queue.queuedFor counted id team).card = (queue.queuedFor counted id team).card := by
    intro id team hnot
    rw [hleaves.card_queuedFor, if_neg hnot, Nat.add_zero]
  cases hinvited : s.queue.invitation guid with
  | none =>
    refine ⟨fun id bg hbg team => ?_, h.room, h.word, h.present⟩
    show bg.invited team = (queue.queuedFor counted id team).card + _
    rw [h.counts id bg hbg team, hsame]
    rw [BattleGroundQueue.mem_queuedFor, hinvited]
    exact fun hmem => (Option.some_ne_none _ hmem.2.symm).elim
  | some invited =>
    obtain ⟨id, team⟩ := invited
    have hcounted := hcountable (id, team) hinvited
    have helsewhere : ∀ other team', (other, team') ≠ (id, team) → guid ∉ s.queue.queuedFor counted other team' := by
      intro other team' hne hmem
      rw [BattleGroundQueue.mem_queuedFor, hinvited] at hmem
      exact hne (Option.some.inj hmem.2).symm
    unfold decreaseInvited
    dsimp only
    cases hbg : s.bgs.find id with
    | none =>
      refine ⟨fun other bg hother team' => ?_, h.room, h.word, h.present⟩
      have hne : other ≠ id := by
        rintro rfl
        exact Option.some_ne_none bg (hother.symm.trans hbg)
      show bg.invited team' = (queue.queuedFor counted other team').card + _
      rw [h.counts other bg hother team', hsame other team' (helsewhere other team' fun heq => hne (Prod.mk.inj heq).1)]
    | some bg =>
      have hmem : guid ∈ s.queue.queuedFor counted id team :=
        BattleGroundQueue.mem_queuedFor.mpr ⟨hcounted (by rw [hbg]; rfl), hinvited⟩
      have hcard := hleaves.card_queuedFor counted id team
      rw [if_pos hmem] at hcard
      have hcounts := h.counts id bg hbg team
      have hroom := h.room id bg hbg team
      have hword := h.word id bg hbg
      have hless : Word.sub32 (bg.invited team) 1 = bg.invited team - 1 := Word.sub32_of_le (by omega) (by omega)
      have hinvitedOf : ∀ team', (bg.decreaseInvitedCount team).invited team' =
          if team' = team then bg.invited team - 1 else bg.invited team' := by
        intro team'
        unfold BattleGround.decreaseInvitedCount
        rw [hless]
        exact update_apply _ _ _ _
      refine ⟨fun other found hfound team' => ?_, fun other found hfound team' => ?_, fun other found hfound => ?_,
        fun other found hfound => ?_⟩
      · show found.invited team' = (queue.queuedFor counted other team').card + _
        rcases of_find_insert hfound with ⟨rfl, rfl⟩ | ⟨hother, hold⟩
        · rw [hinvitedOf]
          split
          · rename_i hteam
            subst hteam
            omega
          · rename_i hteam
            rw [h.counts other bg hbg team',
              hsame other team' (helsewhere other team' fun heq => hteam (Prod.mk.inj heq).2)]
        · rw [h.counts other found hold team',
            hsame other team' (helsewhere other team' fun heq => hother (Prod.mk.inj heq).1)]
      · rcases of_find_insert hfound with ⟨rfl, rfl⟩ | ⟨-, hold⟩
        · rw [hinvitedOf]
          have hroom' := h.room other bg hbg team'
          show _ ≤ bg.maxPlayersPerTeam
          split <;> omega
        · exact h.room other found hold team'
      · rcases of_find_insert hfound with ⟨rfl, rfl⟩ | ⟨-, hold⟩
        · exact hword
        · exact h.word other found hold
      · rcases of_find_insert hfound with ⟨rfl, rfl⟩ | ⟨-, hold⟩
        · exact h.present other bg hbg
        · exact h.present other found hold

theorem exists_decreaseInvited {decreased : Option (Nat × Team)} {bg : BattleGround}
    (h : (s.decreaseInvited decreased).bgs.find instanceId = some bg) : s.bgs.find instanceId ≠ none := by
  unfold decreaseInvited at h
  cases decreased with
  | none =>
    rw [h]
    exact Option.some_ne_none bg
  | some decreased =>
    obtain ⟨id, team⟩ := decreased
    dsimp only at h
    cases hold : s.bgs.find id with
    | none =>
      rw [hold] at h
      rw [h]
      exact Option.some_ne_none bg
    | some old =>
      rw [hold] at h
      rw [find_insert] at h
      by_cases hsame : instanceId = id
      · rw [hsame, hold]
        exact Option.some_ne_none old
      · rw [if_neg hsame] at h
        rw [h]
        exact Option.some_ne_none bg

theorem Numbered.removePlayer (h : s.Numbered inside bound) (hsound : s.queue.Sound) :
    (s.removePlayer guid true).Numbered inside bound := by
  refine ⟨fun id bg hbg => ?_, fun other id team hinvited => ?_, h.inside⟩
  · obtain ⟨old, hold⟩ := Option.ne_none_iff_exists'.mp (exists_decreaseInvited hbg)
    exact h.bgs id old hold
  · rw [queue_removePlayer, (hsound.leaves guid true).invitation] at hinvited
    split at hinvited
    · cases hinvited
    · exact h.invited other id team hinvited

theorem Updating.removePlayer (h : s.Updating expected inside reached bound) (hcountable : s.Countable expected guid) :
    (s.removePlayer guid true).Updating expected inside reached bound := by
  refine ⟨sound_removePlayer h.sound guid true, h.balanced.removePlayer h.sound hcountable,
    h.numbered.removePlayer h.sound, fun other => ?_⟩
  have hleaves := h.sound.leaves guid true
  rw [queue_removePlayer, hleaves.groupOf, hleaves.invitation]
  by_cases hsame : other = guid
  · rw [if_pos hsame]
    exact fun hqueued => absurd rfl hqueued
  · rw [if_neg hsame, if_neg hsame]
    exact h.expects other

def Removes (view : View) (counted : Finset Nat) (s : State) (guid : Nat) : Prop :=
  s.isStale view guid = true → s.Countable counted guid

instance (view : View) (counted : Finset Nat) (s : State) (guid : Nat) : Decidable (Removes view counted s guid) :=
  inferInstanceAs (Decidable (s.isStale view guid = true → s.Countable counted guid))

theorem Updating.cleaned (h : s.Updating expected inside reached bound)
    (hguarded : Guarded (removeStale view) (Removes view expected) s s.queue.queuedPlayers.keys) :
    (s.cleaned view).Updating expected inside reached bound := by
  refine run_invariant (removeStale view) (Removes view expected)
    (fun state => state.Updating expected inside reached bound) (fun state guid hstate hremoves => ?_) h hguarded
  unfold removeStale
  split
  · rename_i hstale
    exact hstate.removePlayer (hremoves hstale)
  · exact hstate

end State

end TurtleWow.Battlegrounds

import TurtleWow.Looting.Handlers

namespace TurtleWow.Looting

open List

-- The tallies of the rolls: what they count, and when a roll is resolved.

namespace Roll

def votes (roll : Roll) (vote : RollVote) : Nat := roll.playerVote.countP fun entry => entry.2 = vote

def voters (roll : Roll) : List Nat := roll.playerVote.map fun entry => entry.1

def AllVoted (roll : Roll) : Prop := ∀ entry ∈ roll.playerVote, entry.2 ≠ .notEmitedYet

instance (roll : Roll) : Decidable roll.AllVoted :=
  inferInstanceAs (Decidable (∀ entry ∈ roll.playerVote, entry.2 ≠ .notEmitedYet))

-- The limit on the voters is what a raid holds.
structure Tallied (roll : Roll) : Prop where
  distinct : roll.voters.Nodup
  few : roll.playerVote.length ≤ 40
  rolling : roll.totalPlayersRolling = roll.playerVote.length
  need : roll.totalNeed = roll.votes .need
  greed : roll.totalGreed = roll.votes .greed
  pass : roll.totalPass = roll.votes .pass

section

variable {roll : Roll} {player : Nat} {vote old : RollVote}

theorem increment_of_lt {total : Nat} (h : total < 255) : increment total = total + 1 := by
  unfold increment Word.u8
  omega

theorem decrement_of_pos {total : Nat} (hpos : 0 < total) (hlt : total < 256) : decrement total + 1 = total := by
  unfold decrement Word.u8
  omega

theorem voteOf_some (h : roll.voteOf player = some old) :
    roll.playerVote.find? (fun entry => entry.1 = player) = some (player, old) := by
  obtain ⟨entry, hentry, hvote⟩ := Option.map_eq_some_iff.mp h
  have hplayer : entry.1 = player := by simpa using List.find?_some hentry
  rw [hentry, ← hplayer, ← hvote]

theorem votes_le (vote : RollVote) : roll.votes vote ≤ roll.playerVote.length := countP_le_length

theorem votes_add (roll : Roll) :
    roll.votes .pass + roll.votes .need + roll.votes .greed + roll.votes .notEmitedYet = roll.playerVote.length := by
  unfold votes
  induction roll.playerVote with
  | nil => rfl
  | cons entry rest ih =>
    simp only [countP_cons, length_cons]
    cases entry.2 <;> simp <;> omega

theorem allVoted_iff (roll : Roll) : roll.AllVoted ↔ roll.votes .notEmitedYet = 0 := by
  unfold AllVoted votes
  rw [countP_eq_zero]
  simp

theorem Tallied.allVoted (h : Tallied roll) (hfull : roll.full = true) : roll.AllVoted := by
  have hsum := roll.votes_add
  have hfull : roll.totalPlayersRolling ≤ roll.totalPass + roll.totalNeed + roll.totalGreed := by
    simpa [full] using hfull
  rw [h.rolling, h.pass, h.need, h.greed] at hfull
  rw [allVoted_iff]
  omega

theorem votes_setVote (h : roll.voteOf player = some old) (vote kind : RollVote) :
    (setVote player vote roll.playerVote).countP (fun entry => entry.2 = kind) + (if old = kind then 1 else 0) =
      roll.votes kind + if vote = kind then 1 else 0 := by
  have hupdate := Lists.countP_updateFirst (f := fun entry : Nat × RollVote => (entry.1, vote))
    (fun entry => decide (entry.2 = kind)) (voteOf_some h)
  simpa [votes, setVote] using hupdate

theorem voters_setVote (player : Nat) (vote : RollVote) (votes : List (Nat × RollVote)) :
    (setVote player vote votes).map (fun entry => entry.1) = votes.map fun entry => entry.1 :=
  Lists.map_updateFirst (f := fun entry : Nat × RollVote => (entry.1, vote)) _ (fun _ => rfl) votes

theorem increment_votes {total : Nat} {kind : RollVote} (hvote : roll.voteOf player = some .notEmitedYet)
    (hfew : roll.playerVote.length ≤ 40) (hkind : kind ≠ .notEmitedYet) (htotal : total = roll.votes kind)
    (vote : RollVote) :
    (if vote = kind then increment total else total) =
      (setVote player vote roll.playerVote).countP fun entry => entry.2 = kind := by
  have hcount := votes_setVote hvote vote kind
  have hle := roll.votes_le kind
  rw [if_neg (Ne.symm hkind)] at hcount
  by_cases heq : vote = kind
  · rw [if_pos heq] at hcount ⊢
    rw [increment_of_lt (by omega)]
    omega
  · rw [if_neg heq] at hcount ⊢
    omega

theorem Tallied.register (h : Tallied roll) (hvote : roll.voteOf player = some .notEmitedYet) (vote : RollVote) :
    Tallied (roll.register player vote) := by
  have hdistinct : ((setVote player vote roll.playerVote).map fun entry => entry.1).Nodup := by
    rw [voters_setVote]
    exact h.distinct
  have hlength : (setVote player vote roll.playerVote).length = roll.playerVote.length := by
    have hmap := congrArg List.length (voters_setVote player vote roll.playerVote)
    simpa using hmap
  have hfew : (setVote player vote roll.playerVote).length ≤ 40 := hlength ▸ h.few
  have hrolling : roll.totalPlayersRolling = (setVote player vote roll.playerVote).length := hlength ▸ h.rolling
  have hneed := increment_votes hvote h.few (by decide) h.need vote
  have hgreed := increment_votes hvote h.few (by decide) h.greed vote
  have hpass := increment_votes hvote h.few (by decide) h.pass vote
  cases vote with
  | notEmitedYet => exact h
  | pass => exact ⟨hdistinct, hfew, hrolling, hneed, hgreed, hpass⟩
  | need => exact ⟨hdistinct, hfew, hrolling, hneed, hgreed, hpass⟩
  | greed => exact ⟨hdistinct, hfew, hrolling, hneed, hgreed, hpass⟩

theorem decrement_votes {total : Nat} {kind : RollVote} (hvote : roll.voteOf player = some old)
    (hfew : roll.playerVote.length ≤ 40) (htotal : total = roll.votes kind) :
    (if old = kind then decrement total else total) =
      (eraseVote player roll.playerVote).countP fun entry => entry.2 = kind := by
  have hcount : (eraseVote player roll.playerVote).countP (fun entry => entry.2 = kind) +
      (if old = kind then 1 else 0) = roll.votes kind := by
    simpa [votes, eraseVote] using Lists.countP_eraseP (fun entry => decide (entry.2 = kind)) (voteOf_some hvote)
  have hle := roll.votes_le kind
  by_cases heq : old = kind
  · rw [if_pos heq] at hcount ⊢
    have hdecrement : decrement total + 1 = total := decrement_of_pos (by omega) (by omega)
    omega
  · rw [if_neg heq] at hcount ⊢
    omega

theorem Tallied.removeVoter (h : Tallied roll) (player : Nat) : Tallied (roll.removeVoter player) := by
  unfold Roll.removeVoter
  split
  · exact h
  · rename_i old hvote
    have hlength := Lists.length_eraseP (voteOf_some hvote)
    have hfew := h.few
    have hdecrement : decrement roll.totalPlayersRolling + 1 = roll.totalPlayersRolling :=
      decrement_of_pos (by rw [h.rolling]; omega) (by rw [h.rolling]; omega)
    refine ⟨?_, ?_, ?_, ?_, ?_, ?_⟩
    · exact h.distinct.sublist ((eraseP_sublist).map _)
    · show (roll.playerVote.eraseP _).length ≤ 40
      omega
    · show decrement roll.totalPlayersRolling = (roll.playerVote.eraseP _).length
      have := h.rolling
      omega
    · exact decrement_votes hvote h.few h.need
    · exact decrement_votes hvote h.few h.greed
    · exact decrement_votes hvote h.few h.pass

theorem tallied_start (target slot itemid : Nat) {voters : List Nat} (hdistinct : voters.Nodup)
    (hfew : voters.length ≤ 40) : Tallied (.start target slot itemid voters) := by
  have hnone : ∀ kind, kind ≠ RollVote.notEmitedYet → (Roll.start target slot itemid voters).votes kind = 0 := by
    intro kind hkind
    refine countP_eq_zero.mpr fun entry hentry => ?_
    obtain ⟨player, -, rfl⟩ := mem_map.mp hentry
    simpa using Ne.symm hkind
  have hlength : (voters.map fun player => (player, RollVote.notEmitedYet)).length = voters.length :=
    length_map _
  refine ⟨?_, hlength ▸ hfew, ?_, (hnone .need (by decide)).symm, (hnone .greed (by decide)).symm,
    (hnone .pass (by decide)).symm⟩
  · have hvoters : (Roll.start target slot itemid voters).voters = voters := by
      simp [Roll.voters, start, Function.comp_def]
    rw [hvoters]
    exact hdistinct
  · show Word.u8 voters.length = _
    rw [Word.u8_of_lt (by omega)]
    exact hlength.symm

end

end Roll

namespace Party

structure Kept (p : Party) : Prop where
  tallied : ∀ roll ∈ p.rolls, roll.Tallied
  resolved : ∀ entry ∈ p.resolved, entry.timeout = false → entry.roll.AllVoted

def repeatsVote (p : Party) (target slot player rollType : Nat) : Bool :=
  (RollVote.ofClient rollType).isSome &&
    match p.votedRoll target slot player with
    | none => false
    | some (_, roll) => roll.voteOf player ≠ some .notEmitedYet

def VotesOnce (p : Party) (m : Message) : Prop :=
  match m.op with
  | .rollVote target slot player rollType => p.repeatsVote target slot player rollType = false
  | _ => True

-- The steps that keep the tallies: nobody votes in a roll again, and a group
-- that disbands has no roll that waits for a vote.
def KeepsTallies (p : Party) (m : Message) : Prop :=
  match m.op with
  | .rollVote target slot player rollType => p.repeatsVote target slot player rollType = false
  | .disband => ∀ roll ∈ p.rolls, roll.valid = true → roll.AllVoted
  | _ => True

structure AllRolls (active : Roll → Prop) (ended : Resolved → Prop) (p : Party) : Prop where
  running : ∀ roll ∈ p.rolls, active roll
  past : ∀ entry ∈ p.resolved, ended entry

-- What the life of a roll keeps, but for the voters that leave it and the end
-- of the group.
structure RollRule (active : Roll → Prop) (ended : Resolved → Prop) : Prop where
  start : ∀ target slot itemid (voters : List Nat), voters.Nodup → voters.length ≤ 40 →
    0 < Word.u8 voters.length → active (.start target slot itemid voters)
  cut : ∀ roll, active roll → active { roll with valid := false }
  vote : ∀ roll player vote, active roll → roll.voteOf player = some .notEmitedYet →
    (roll.register player vote).full = false → active (roll.register player vote)
  full : ∀ roll player vote, active roll → roll.voteOf player = some .notEmitedYet →
    (roll.register player vote).full = true → ended ⟨roll.register player vote, false⟩
  timeout : ∀ roll, active roll → ended ⟨roll, true⟩

section

variable {p : Party} {view : View} {active : Roll → Prop} {ended : Resolved → Prop}

section

variable (h : AllRolls active ended p)

include h

theorem AllRolls.countTheRoll {timeout : Bool} {i : Nat}
    (hend : ∀ roll, p.rolls[i]? = some roll → roll.valid = true → ended ⟨roll, timeout⟩) :
    AllRolls active ended (p.countTheRoll view timeout i) := by
  have hrest : ∀ roll ∈ p.rolls.eraseIdx i, active roll := fun roll hroll =>
    h.running roll (mem_of_mem_eraseIdx hroll)
  unfold Party.countTheRoll
  split
  · exact h
  · rename_i roll hroll
    by_cases hvalid : roll.valid
    · rw [if_pos hvalid]
      refine ⟨hrest, fun entry hentry => ?_⟩
      rcases mem_cons.mp hentry with rfl | hold
      · exact hend roll hroll hvalid
      · exact h.past entry hold
    · rw [if_neg hvalid]
      exact ⟨hrest, h.past⟩

theorem AllRolls.endRoll (rule : RollRule active ended) (target fuel : Nat) :
    AllRolls active ended (Party.endRoll view target fuel p) := by
  induction fuel generalizing p with
  | zero => exact h
  | succ fuel ih =>
    unfold Party.endRoll
    split
    · exact h
    · exact ih (h.countTheRoll fun roll hroll _ => rule.timeout roll (h.running roll (mem_of_getElem? hroll)))

theorem AllRolls.disband (hend : ∀ roll ∈ p.rolls, roll.valid = true → ended ⟨roll, false⟩) (fuel : Nat) :
    AllRolls active ended (Party.disband view fuel p) := by
  induction fuel generalizing p with
  | zero => exact h
  | succ fuel ih =>
    unfold Party.disband
    refine ih (h.countTheRoll fun roll hroll => hend roll (mem_of_getElem? hroll)) ?_
    intro roll hroll
    rw [rolls_countTheRoll] at hroll
    exact hend roll (mem_of_mem_eraseIdx hroll)

theorem AllRolls.countRollVote (rule : RollRule active ended)
    {target slot player rollType : Nat} (hfirst : p.repeatsVote target slot player rollType = false) :
    AllRolls active ended (p.countRollVote view target slot player rollType) := by
  unfold Party.countRollVote
  split
  · rename_i vote i roll hvote hroll
    have hget := votedRoll_some hroll
    have hrunning := h.running roll (mem_of_getElem? hget)
    have hnone : roll.voteOf player = some .notEmitedYet := by
      simpa [repeatsVote, hvote, hroll] using hfirst
    dsimp only
    split
    · rename_i hfull
      -- the roll that is set is the one that is taken out
      unfold Party.countTheRoll
      have hset : (p.rolls.set i (roll.register player vote))[i]? = some (roll.register player vote) :=
        List.getElem?_set_self (List.getElem?_eq_some_iff.mp hget).1
      have hrest : ∀ other ∈ (p.rolls.set i (roll.register player vote)).eraseIdx i, active other := by
        intro other hother
        rw [eraseIdx_set_eq] at hother
        exact h.running other (mem_of_mem_eraseIdx hother)
      rw [hset]
      dsimp only
      split
      · refine ⟨hrest, fun entry hentry => ?_⟩
        rcases mem_cons.mp hentry with rfl | hold
        · exact rule.full roll player vote hrunning hnone hfull
        · exact h.past entry hold
      · exact ⟨hrest, h.past⟩
    · rename_i hopen
      refine ⟨fun other hother => ?_, h.past⟩
      rcases mem_or_eq_of_mem_set hother with hold | rfl
      · exact h.running other hold
      · exact rule.vote roll player vote hrunning hnone (by simpa using hopen)
  · exact h

theorem AllRolls.startLootRoll (rule : RollRule active ended) (members : Members)
    (target : Nat) (method : LootMethod) (slot : Nat) :
    AllRolls active ended (p.startLootRoll view members.guids target method slot) := by
  unfold Party.startLootRoll
  split
  · exact h
  · rename_i item _
    split_ifs with hsome
    · refine ⟨fun roll hroll => ?_, h.past⟩
      rcases mem_append.mp hroll with hold | hnew
      · exact h.running roll hold
      · rw [mem_singleton.mp hnew]
        have hperm := perm_insertionSort (· ≤ ·) (members.guids.filter (p.rollsFor view target method item))
        refine rule.start target slot item.itemid _ ?_ ?_ hsome
        · exact hperm.nodup_iff.mpr (members.distinct.filter _)
        · exact hperm.length_eq ▸ Nat.le_trans (length_filter_le _ _) members.size
    · exact h

theorem AllRolls.of_eq {q : Party} (hrolls : q.rolls = p.rolls)
    (hresolved : q.resolved = p.resolved) : AllRolls active ended q :=
  ⟨hrolls ▸ h.running, hresolved ▸ h.past⟩

theorem AllRolls.groupLoot (rule : RollRule active ended) (members : Members)
    (target : Nat) (method : LootMethod) : AllRolls active ended (p.groupLoot view members.guids target method) :=
  groupLoot_invariant (fun _ => AllRolls active ended) (fun _ _ hq => hq)
    (fun _ slot _ _ _ _ hq => hq.startLootRoll rule members target method slot) (fun _ _ hq => hq.of_eq rfl rfl) h

theorem AllRolls.openLoot (rule : RollRule active ended) (members : Members)
    (target player : Nat) : AllRolls active ended (p.openLoot view members.guids target player) := by
  have hset : AllRolls active ended (p.setOpened target) := h.of_eq rfl rfl
  have hbody : AllRolls active ended (p.openBody view members.guids target) := by
    unfold Party.openBody
    split_ifs
    · exact hset.groupLoot rule members target p.lootMethod
    · exact hset
  have hopened : AllRolls active ended
      (if (p.targets target).lootForBody then p else p.openBody view members.guids target) := by
    split_ifs
    · exact h
    · exact hbody
  unfold Party.openLoot
  simp only []
  generalize (if (p.targets target).lootForBody then p else p.openBody view members.guids target) = opened at hopened
  split_ifs
  · exact hopened.of_eq rfl rfl
  · exact hopened
  · exact h.of_eq rfl rfl

theorem AllRolls.removeRolls {guid : Nat}
    (hleave : ∀ roll ∈ p.rolls, active (roll.removeVoter guid)) : AllRolls active ended (p.removeRolls guid) := by
  refine ⟨fun roll hroll => ?_, h.past⟩
  obtain ⟨old, hold, rfl⟩ := mem_map.mp hroll
  exact hleave old hold

theorem AllRolls.clearLoot (rule : RollRule active ended) (target : Nat) (t : Target) :
    AllRolls active ended (p.clearLoot target t) := by
  refine ⟨fun roll hroll => ?_, h.past⟩
  obtain ⟨old, hold, rfl⟩ := mem_map.mp hroll
  split_ifs
  · exact rule.cut old (h.running old hold)
  · exact h.running old hold

theorem AllRolls.receive (rule : RollRule active ended) {m : Message}
    (honce : VotesOnce p m)
    (hleave : ∀ guid, m.op = .removeMember guid → ∀ roll ∈ p.rolls, active (roll.removeVoter guid))
    (hend : m.op = .disband → ∀ roll ∈ p.rolls, roll.valid = true → ended ⟨roll, false⟩) :
    AllRolls active ended (p.receive m) := by
  obtain ⟨view, op⟩ := m
  cases op with
  | fill target creature lootForBody drops gold owner members => exact h.clearLoot rule target _
  | openLoot target player members => exact h.openLoot rule members target player
  | autostore target player slot => exact h.of_eq rfl rfl
  | masterGive target player slot receiver =>
    simp only [Party.receive, Party.masterGive]
    split_ifs
    · exact h.of_eq rfl rfl
    · exact h
  | rollVote target slot player rollType => exact h.countRollVote rule honce
  | endRoll target => exact h.endRoll rule target p.rolls.length
  | removeMember guid => exact h.removeRolls (hleave guid rfl)
  | disband => exact h.disband (hend rfl) p.rolls.length
  | setLootMethod method looter threshold => exact h.of_eq rfl rfl
  | lootMoney target => exact h.of_eq rfl rfl
  | clear target => exact h.clearLoot rule target _

end

theorem tallied_rule : RollRule Roll.Tallied fun entry => entry.timeout = false → entry.roll.AllVoted where
  start target slot itemid voters hdistinct hfew _ := Roll.tallied_start target slot itemid hdistinct hfew
  cut roll h := ⟨h.distinct, h.few, h.rolling, h.need, h.greed, h.pass⟩
  vote roll player vote h hnone _ := h.register hnone vote
  full roll player vote h hnone hfull _ := (h.register hnone vote).allVoted hfull
  timeout roll h htimeout := by cases htimeout

theorem allTallied_receive (h : AllRolls Roll.Tallied (fun _ => True) p) {m : Message} (honce : VotesOnce p m) :
    AllRolls Roll.Tallied (fun _ => True) (p.receive m) :=
  h.receive { tallied_rule with full := fun _ _ _ _ _ _ => trivial, timeout := fun _ _ => trivial } honce
    (fun guid _ roll hroll => (h.running roll hroll).removeVoter guid) fun _ _ _ _ => trivial

theorem KeepsTallies.votesOnce {m : Message} (h : KeepsTallies p m) : VotesOnce p m := by
  obtain ⟨view, op⟩ := m
  cases op with
  | rollVote target slot player rollType => exact h
  | _ => trivial

theorem Kept.receive (h : Kept p) {m : Message} (hok : KeepsTallies p m) : Kept (p.receive m) := by
  have hrolls : AllRolls Roll.Tallied (fun entry => entry.timeout = false → entry.roll.AllVoted) (p.receive m) := by
    refine AllRolls.receive ⟨h.tallied, h.resolved⟩ tallied_rule hok.votesOnce ?_ ?_
    · intro guid _ roll hroll
      exact (h.tallied roll hroll).removeVoter guid
    · intro hop roll hroll hvalid _
      rw [KeepsTallies, hop] at hok
      exact hok roll hroll hvalid
  exact ⟨hrolls.running, hrolls.past⟩

end

theorem tallied_run {p : Party} {messages : List Message} (hstart : p.rolls = [] ∧ p.resolved = [])
    (hruns : Run.Guarded Party.receive KeepsTallies p messages) : Kept (Run.run Party.receive p messages) := by
  refine Run.run_invariant Party.receive KeepsTallies Kept (fun _ _ h hok => h.receive hok) ?_ hruns
  exact ⟨by simp [hstart.1], by simp [hstart.2]⟩

instance (p : Party) (m : Message) : Decidable (KeepsTallies p m) := by
  unfold KeepsTallies
  exact match m.op with
  | .rollVote target slot player rollType =>
    inferInstanceAs (Decidable (p.repeatsVote target slot player rollType = false))
  | .disband => inferInstanceAs (Decidable (∀ roll ∈ p.rolls, roll.valid = true → roll.AllVoted))
  | .fill .. | .openLoot .. | .autostore .. | .masterGive .. | .endRoll .. | .removeMember .. | .setLootMethod ..
  | .lootMoney .. | .clear .. => inferInstanceAs (Decidable True)

end Party

def sampleView : View :=
  { partyLoot := fun _ => false, quality := fun _ => some 2, eligible := fun _ _ _ _ => true,
    inWorld := fun _ => true, near := fun _ => true, canUse := fun _ _ => true, member := fun _ => true,
    otherMethod := fun _ => none, canStore := fun _ _ => true, dice := fun _ player => player }

def sampleParty : Party :=
  { lootMethod := .groupLoot, looterGuid := 1, lootThreshold := 2, rolls := [], resolved := [],
    targets := fun _ => { creature := false, lootForBody := false, loot := Loot.new } }

def sampleMembers : Members := ⟨[3, 1, 2], by decide, by decide⟩

def sampleDrop : List Message :=
  [⟨sampleView, .fill 9 true false [{ itemid := 25, conditionId := 0, needsQuest := false, count := 1 }] 0 1
      (some sampleMembers)⟩,
    ⟨sampleView, .openLoot 9 1 sampleMembers⟩]

def sampleVote (player rollType : Nat) : Message := ⟨sampleView, .rollVote 9 0 player rollType⟩

theorem Party.tallied_run_votes :
    Party.Kept (Run.run Party.receive sampleParty
      (sampleDrop ++ [sampleVote 1 1, sampleVote 2 2, ⟨sampleView, .removeMember 3⟩])) :=
  Party.tallied_run (by decide) (by decide)

-- Player 1 votes need twice.
theorem Party.not_tallied_run : ¬∀ (p : Party) (messages : List Message), p.rolls = [] ∧ p.resolved = [] →
    Party.Kept (Run.run Party.receive p messages) := by
  intro h
  have hkept := h sampleParty (sampleDrop ++ [sampleVote 1 1, sampleVote 1 1]) (by decide)
  have hneed := fun roll hroll => (hkept.tallied roll hroll).need
  revert hneed
  decide

end TurtleWow.Looting

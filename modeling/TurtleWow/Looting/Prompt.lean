import TurtleWow.Looting.Tallies

namespace TurtleWow.Looting

-- Whether a roll is resolved as soon as nobody has to vote any more.

namespace Roll

variable {roll : Roll} {player : Nat}

theorem not_allVoted_iff : ¬roll.AllVoted ↔ ∃ entry ∈ roll.playerVote, entry.2 = .notEmitedYet := by
  simp [AllVoted]

theorem Tallied.full_iff (h : Tallied roll) : roll.full = true ↔ roll.AllVoted := by
  refine ⟨h.allVoted, fun hvoted => ?_⟩
  have hsum := roll.votes_add
  rw [(allVoted_iff roll).mp hvoted] at hsum
  simp only [full, decide_eq_true_eq, h.rolling, h.pass, h.need, h.greed]
  omega

theorem not_allVoted_start (target slot itemid : Nat) {voters : List Nat} (hsome : 0 < Word.u8 voters.length) :
    ¬(Roll.start target slot itemid voters).AllVoted := by
  cases voters with
  | nil => simp [Word.u8] at hsome
  | cons first rest => simp [AllVoted, start]

theorem voteOf_none_iff : roll.voteOf player = none ↔ player ∉ roll.voters := by
  simp [voteOf, voters]
  aesop

theorem valid_removeVoter (player : Nat) (roll : Roll) : (roll.removeVoter player).valid = roll.valid := by
  unfold removeVoter
  split
  · rfl
  · rfl

theorem mem_eraseVote (hdistinct : roll.voters.Nodup) {entry : Nat × RollVote} :
    entry ∈ eraseVote player roll.playerVote ↔ entry ∈ roll.playerVote ∧ entry.1 ≠ player := by
  rw [eraseVote, Lists.eraseP_eq_filter_key hdistinct (b := player) (by simp)]
  simp

def WaitsWithout (roll : Roll) (player : Nat) : Prop :=
  ∃ entry ∈ roll.playerVote, entry.1 ≠ player ∧ entry.2 = .notEmitedYet

instance (roll : Roll) (player : Nat) : Decidable (roll.WaitsWithout player) :=
  inferInstanceAs (Decidable (∃ entry ∈ roll.playerVote, entry.1 ≠ player ∧ entry.2 = .notEmitedYet))

theorem not_allVoted_removeVoter (h : Tallied roll) (hvoter : player ∈ roll.voters) :
    ¬(roll.removeVoter player).AllVoted ↔ roll.WaitsWithout player := by
  have hsome : roll.voteOf player ≠ none := fun hnone => voteOf_none_iff.mp hnone hvoter
  obtain ⟨vote, hvote⟩ := Option.ne_none_iff_exists'.mp hsome
  have hvotes : (roll.removeVoter player).playerVote = eraseVote player roll.playerVote := by
    simp [removeVoter, hvote]
  rw [not_allVoted_iff, hvotes, WaitsWithout]
  simp only [mem_eraseVote h.distinct, and_assoc]

theorem removeVoter_of_notMem (hvoter : player ∉ roll.voters) : roll.removeVoter player = roll := by
  simp [removeVoter, voteOf_none_iff.mpr hvoter]

structure Pending (roll : Roll) : Prop where
  tallied : roll.Tallied
  waits : roll.valid = true → ¬roll.AllVoted

end Roll

namespace Party

def Waiting (p : Party) : Prop := ∀ roll ∈ p.rolls, roll.valid = true → ¬roll.AllVoted

-- Who leaves the group leaves somebody to wait for in each roll he took part in.
def LeavesVoter (p : Party) (m : Message) : Prop :=
  match m.op with
  | .removeMember guid => ∀ roll ∈ p.rolls, roll.valid = true → guid ∈ roll.voters → roll.WaitsWithout guid
  | _ => True

variable {p : Party} {messages : List Message}

theorem pending_rule : RollRule Roll.Pending fun _ => True where
  start target slot itemid voters hdistinct hfew hsome :=
    ⟨Roll.tallied_start target slot itemid hdistinct hfew, fun _ => Roll.not_allVoted_start target slot itemid hsome⟩
  cut roll h := by
    refine ⟨tallied_rule.cut roll h.tallied, fun hvalid => ?_⟩
    simp at hvalid
  vote roll player vote h hnone hopen := by
    have htallied := h.tallied.register hnone vote
    refine ⟨htallied, fun _ hvoted => ?_⟩
    rw [htallied.full_iff.mpr hvoted] at hopen
    cases hopen
  full _ _ _ _ _ _ := trivial
  timeout _ _ := trivial

-- Only a removal can leave a roll without anyone to wait for, and it does so
-- when the member was the last one.
theorem waiting_receive (h : AllRolls Roll.Tallied (fun _ => True) p) (hwaiting : Waiting p) {m : Message}
    (honce : VotesOnce p m) : Waiting (p.receive m) ↔ LeavesVoter p m := by
  have hpending : AllRolls Roll.Pending (fun _ => True) p :=
    ⟨fun roll hroll => ⟨h.running roll hroll, hwaiting roll hroll⟩, fun _ _ => trivial⟩
  constructor
  · intro hafter
    obtain ⟨view, op⟩ := m
    cases op with
    | removeMember guid =>
      intro roll hroll hvalid hvoter
      refine (Roll.not_allVoted_removeVoter (h.running roll hroll) hvoter).mp ?_
      refine hafter (roll.removeVoter guid) (List.mem_map_of_mem hroll) ?_
      rw [Roll.valid_removeVoter]
      exact hvalid
    | _ => trivial
  · intro hleaves
    have hnext : AllRolls Roll.Pending (fun _ => True) (p.receive m) := by
      refine hpending.receive pending_rule honce (fun guid hop roll hroll => ?_) fun _ _ _ _ => trivial
      rw [LeavesVoter, hop] at hleaves
      refine ⟨(h.running roll hroll).removeVoter guid, fun hvalid => ?_⟩
      rw [Roll.valid_removeVoter] at hvalid
      by_cases hvoter : guid ∈ roll.voters
      · exact (Roll.not_allVoted_removeVoter (h.running roll hroll) hvoter).mpr (hleaves roll hroll hvalid hvoter)
      · rw [Roll.removeVoter_of_notMem hvoter]
        exact hwaiting roll hroll hvalid
    exact fun roll hroll => (hnext.running roll hroll).waits

-- In a run in which nobody votes in a roll again, the rolls are resolved with
-- their last vote throughout exactly when no member takes the last vote that a
-- roll waits for away with him.
theorem resolved_run_iff (hrolls : p.rolls = []) (hruns : Run.Guarded Party.receive VotesOnce p messages) :
    (∀ before, before <+: messages → Waiting (Run.run Party.receive p before)) ↔
      Run.Guarded Party.receive LeavesVoter p messages := by
  refine Run.prefixes_iff_guarded Party.receive VotesOnce LeavesVoter (AllRolls Roll.Tallied fun _ => True) Waiting
    (fun _ _ h honce => allTallied_receive h honce) (fun _ _ h hwaiting honce => waiting_receive h hwaiting honce)
    ?_ ?_ hruns
  · exact ⟨by simp [hrolls], fun _ _ => trivial⟩
  · simp [Waiting, hrolls]

instance (p : Party) (m : Message) : Decidable (VotesOnce p m) := by
  unfold VotesOnce
  exact match m.op with
  | .rollVote target slot player rollType =>
    inferInstanceAs (Decidable (p.repeatsVote target slot player rollType = false))
  | .fill .. | .openLoot .. | .autostore .. | .masterGive .. | .endRoll .. | .removeMember .. | .disband
  | .setLootMethod .. | .lootMoney .. | .clear .. => inferInstanceAs (Decidable True)

-- Two vote and the third stays away: the first may leave.
theorem resolved_run_iff_votes :
    let messages := sampleDrop ++ [sampleVote 1 1, sampleVote 2 2, ⟨sampleView, .removeMember 1⟩]
    (∀ before, before <+: messages → Waiting (Run.run Party.receive sampleParty before)) ↔
      Run.Guarded Party.receive LeavesVoter sampleParty messages :=
  resolved_run_iff (by decide) (by decide)

-- Two of three have voted, and the third leaves: nobody is left to vote, and the
-- roll goes on until its time is over.
theorem not_resolved_run : ¬∀ (p : Party) (messages : List Message), p.rolls = [] →
    Run.Guarded Party.receive VotesOnce p messages →
    ∀ before, before <+: messages → Waiting (Run.run Party.receive p before) := by
  intro h
  have hwaiting := h sampleParty (sampleDrop ++ [sampleVote 1 1, sampleVote 2 2, ⟨sampleView, .removeMember 3⟩])
    (by decide) (by decide) _ List.prefix_rfl
  unfold Waiting at hwaiting
  revert hwaiting
  decide

end Party

end TurtleWow.Looting

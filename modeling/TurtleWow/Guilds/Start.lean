import TurtleWow.Guilds.Runs

namespace TurtleWow.Guilds

open Run

-- How a guild begins: by its charter, or from the tables.

namespace Guild

variable {g g' : Guild} {view : View}

theorem rankOf_ne {guid rank : Nat} (h : ∀ entry ∈ g.members.entries, entry.2.rankId ≠ rank) : g.rankOf guid ≠ some rank := by
  intro hrank
  obtain ⟨slot, hslot, heq⟩ := Option.map_eq_some_iff.mp hrank
  exact h _ (OrderedMap.mem_of_find hslot) heq

theorem empty_kept {leader : Nat} {ranks : List Nat} {inGuild : Nat → Bool} (hfew : GUILD_RANKS_MIN_COUNT ≤ ranks.length)
    (hmany : ranks.length ≤ GUILD_RANKS_MAX_COUNT) : Kept ⟨leader, ranks, .empty, inGuild⟩ :=
  ⟨hfew, hmany, fun _ _ h => absurd h.symm (Option.some_ne_none _),
    fun _ _ h => absurd h.symm (Option.some_ne_none _), fun _ h => Bool.noConfusion h⟩

theorem Sound.sign (h : g.Sound) (guid : Nat) : (sign view g guid).Sound := by
  unfold Guild.sign
  split
  · exact h
  · exact h.addLowest view guid

theorem Sound.signs (h : g.Sound) (signatures : List Nat) : (signatures.foldl (Guild.sign view) g).Sound := by
  induction signatures generalizing g with
  | nil => exact h
  | cons guid rest ih => exact ih (h.sign guid)

theorem sound_create {inGuild : Nat → Bool} {leader : Nat} {signatures : List Nat}
    (h : create view inGuild leader signatures = some g) : g.Sound := by
  obtain ⟨first, hfirst, rfl⟩ := Option.map_eq_some_iff.mp h
  have hempty : Kept ⟨leader, defaultRanks, .empty, inGuild⟩ := empty_kept (by decide) (by decide)
  obtain ⟨-, rfl⟩ := addMember_some hfirst hempty
  have hmaster : GR_GUILDMASTER < defaultRanks.length := by decide
  refine Sound.signs ⟨hempty.joined leader _ hmaster, rankOf_joined.trans (if_pos rfl), fun other hother => ?_⟩ signatures
  rw [rankOf_joined] at hother
  by_cases heq : other = leader
  · exact heq
  · rw [if_neg heq] at hother
    cases hother

theorem loadRanks_few (rankRows : Option (List Nat)) : GUILD_RANKS_MIN_COUNT ≤ (loadRanks rankRows).length := by
  cases rankRows with
  | none => decide
  | some rows =>
    cases rows with
    | nil => decide
    | cons rights rest =>
      unfold loadRanks
      dsimp only
      split
      · decide
      · rename_i hlen
        exact Nat.le_of_not_lt hlen

theorem loadRanks_many {rankRows : Option (List Nat)} (h : ∀ rows, rankRows = some rows → rows.length ≤ GUILD_RANKS_MAX_COUNT) :
    (loadRanks rankRows).length ≤ GUILD_RANKS_MAX_COUNT := by
  cases rankRows with
  | none => decide
  | some rows =>
    have hrows := h rows rfl
    cases rows with
    | nil => decide
    | cons rights rest =>
      unfold loadRanks
      dsimp only
      split
      · decide
      · exact hrows

theorem Kept.loadMember (h : g.Kept) (row : MemberRow) : (loadMember g row).Kept := by
  unfold Guild.loadMember
  split
  · refine h.joined row.guid row.name ?_
    split
    · exact h.getLowestRank_lt
    · rename_i hrank
      exact Nat.lt_of_not_ge hrank
  · exact h

theorem Kept.loadMembers (h : g.Kept) (memberRows : List MemberRow) : (memberRows.foldl Guild.loadMember g).Kept := by
  induction memberRows generalizing g with
  | nil => exact h
  | cons row rest ih => exact ih (h.loadMember row)

theorem checkLeader_some (h : g.Kept) (hcheck : g.checkLeader view = some g') :
    g'.Kept ∧ g'.rankOf g'.leaderGuid = some GR_GUILDMASTER := by
  unfold checkLeader at hcheck
  cases hfind : g.members.find g.leaderGuid with
  | none =>
    rw [hfind] at hcheck
    obtain ⟨hflag, rfl⟩ := remains_some hcheck
    have hold : g.oldLeaderSlot = none := by
      unfold oldLeaderSlot isMember
      rw [hfind]
      rfl
    unfold delMember at hflag ⊢
    simp only [if_true, hold] at hflag ⊢
    cases hbest : g.getSuitableNewLeader view false with
    | none =>
      rw [hbest] at hflag
      exact Bool.noConfusion hflag
    | some best =>
      obtain ⟨hmember, hne⟩ := getSuitableNewLeader_some hbest
      obtain ⟨hkept, hleader, -, hrankOf⟩ := h.setLeader hmember
      refine ⟨hkept.erase view _, rankOf_erase.trans ?_⟩
      have hleader : (((g.setNewLeader best none).erase view g.leaderGuid)).leaderGuid = best := hleader
      rw [hleader, if_neg hne]
      exact (hrankOf best).trans (if_pos rfl)
  | some slot =>
    rw [hfind] at hcheck
    cases hcheck
    split
    · obtain ⟨hkept, hleader, -, hrankOf⟩ := h.setLeader (isMember_of_rankOf (rankOf_find hfind))
      exact ⟨hkept, by rw [hleader, hrankOf, if_pos rfl]⟩
    · rename_i hmaster
      exact ⟨h, by rw [rankOf_find hfind, not_ne_iff.mp hmaster]⟩

theorem demoteOthers {leader : Nat} (entries : List (Nat × MemberSlot)) (h : g.Kept) (hleader : g.leaderGuid = leader)
    (hmaster : g.rankOf leader = some GR_GUILDMASTER) (hkeyed : ∀ entry ∈ entries, entry.2.guid = entry.1)
    (hleft : ∀ guid, g.rankOf guid = some GR_GUILDMASTER →
      guid = leader ∨ ∃ slot, (guid, slot) ∈ entries ∧ slot.rankId = GR_GUILDMASTER) :
    (entries.foldl (demoteOther leader) g).Sound := by
  induction entries generalizing g with
  | nil =>
    refine ⟨h, hleader.symm ▸ hmaster, fun guid hguid => ?_⟩
    rcases hleft guid hguid with heq | ⟨slot, hmem, -⟩
    · exact heq.trans hleader.symm
    · cases hmem
  | cons entry rest ih =>
    have hkeyed' : ∀ other ∈ rest, other.2.guid = other.1 := fun other hother => hkeyed other (List.mem_cons_of_mem _ hother)
    have hentry := hkeyed entry List.mem_cons_self
    rw [List.foldl_cons]
    unfold demoteOther
    by_cases hother : entry.2.rankId = GR_GUILDMASTER ∧ leader ≠ entry.2.guid
    · rw [if_pos hother]
      obtain ⟨hfields, -, -⟩ := changeRank_fields g entry.1 GR_OFFICER
      have hne : leader ≠ entry.1 := hentry ▸ hother.2
      refine ih (h.changeRank entry.1 h.officer_lt) (hfields.trans hleader) ?_ hkeyed' fun guid hguid => ?_
      · rw [rankOf_changeRank, if_neg hne]
        exact hmaster
      · rw [rankOf_changeRank] at hguid
        by_cases heq : guid = entry.1
        · rw [if_pos heq] at hguid
          obtain ⟨_, -, hsame⟩ := Option.map_eq_some_iff.mp hguid
          exact absurd hsame (by decide)
        · rw [if_neg heq] at hguid
          refine (hleft guid hguid).imp_right fun ⟨slot, hmem, hslot⟩ => ⟨slot, ?_, hslot⟩
          exact (List.mem_cons.mp hmem).resolve_left fun hsame => heq (congrArg Prod.fst hsame)
    · rw [if_neg hother]
      refine ih h hleader hmaster hkeyed' fun guid hguid => ?_
      rcases hleft guid hguid with heq | ⟨slot, hmem, hslot⟩
      · exact .inl heq
      · rcases List.mem_cons.mp hmem with hsame | hmem
        · obtain rfl := hsame
          exact .inl (hentry.symm.trans (not_ne_iff.mp fun hne => hother ⟨hslot, Ne.symm hne⟩))
        · exact .inr ⟨slot, hmem, hslot⟩

theorem sound_load {inGuild : Nat → Bool} {leader : Nat} {rankRows : Option (List Nat)} {memberRows : List MemberRow}
    (hrows : ∀ rows, rankRows = some rows → rows.length ≤ GUILD_RANKS_MAX_COUNT)
    (h : load view inGuild leader rankRows memberRows = some g) : g.Sound := by
  unfold load at h
  dsimp only at h
  have hempty : Kept ⟨leader, loadRanks rankRows, .empty, inGuild⟩ := empty_kept (loadRanks_few rankRows) (loadRanks_many hrows)
  have hkept := hempty.loadMembers memberRows
  split at h
  · cases h
  · obtain ⟨led, hled, rfl⟩ := Option.map_eq_some_iff.mp h
    obtain ⟨hkept, hmaster⟩ := checkLeader_some hkept hled
    refine demoteOthers _ hkept rfl hmaster (fun entry hentry => ?_) fun guid hguid => .inr ?_
    · exact hkept.keyed entry.1 entry.2 (OrderedMap.find_of_mem ((view.walk_perm _).mem_iff.mp hentry))
    · obtain ⟨slot, hslot, hrank⟩ := Option.map_eq_some_iff.mp hguid
      exact ⟨slot, (view.walk_perm _).mem_iff.mpr (OrderedMap.mem_of_find hslot), hrank⟩

end Guild

def Start.Meets : Start → Prop
  | .create _ _ _ _ => True
  | .load _ _ _ rankRows _ => ∀ rows, rankRows = some rows → rows.length ≤ GUILD_RANKS_MAX_COUNT

theorem Start.sound {start : Start} {g : Guild} (hmeets : start.Meets) (h : start.guild = some g) : g.Sound := by
  cases start with
  | create view inGuild leader signatures => exact Guild.sound_create h
  | load view inGuild leader rankRows memberRows => exact Guild.sound_load hmeets h

theorem ranked_run (start : Start) (inputs : List (View × Op)) (hstart : start.Meets)
    (hmeets : Guarded step Guild.Meets start.guild inputs) (g : Guild) (hg : run step start.guild inputs = some g) :
    g.Ranked := by
  have hsound : ∀ state ∈ run step start.guild inputs, Guild.Sound state := by
    refine run_invariant step Guild.Meets (fun state => ∀ g ∈ state, Guild.Sound g) (fun state input hstate hok => ?_)
      (fun first hfirst => Start.sound hstart hfirst) hmeets
    rintro next hnext
    obtain ⟨before, hbefore, hstep⟩ := Option.bind_eq_some_iff.mp hnext
    subst hbefore
    exact (hstate before rfl).step hok hstep
  exact (hsound g hg).ranked

-- A leader creates a guild, adds a rank, takes in a second member at that rank,
-- and deletes the rank again.

def quiet : View :=
  ⟨id, fun list => .refl list, 0, fun _ => false, fun _ => false, fun _ => true, fun guid => toString guid, fun _ => false,
    true, []⟩

def charter : Start := .create quiet (fun _ => false) 1 [2]

theorem ranked_run_promoted :
    ∃ g, run step charter.guild [(quiet, .addRank 1), (quiet, .accept 3), (quiet, .promote 1 "3"), (quiet, .delRank 1)] = some g ∧
      g.Ranked := by
  refine ⟨_, rfl, ranked_run charter [(quiet, .addRank 1), (quiet, .accept 3), (quiet, .promote 1 "3"), (quiet, .delRank 1)]
    trivial ⟨trivial, trivial, trivial, fun _ _ guid => Guild.rankOf_ne ?_, trivial⟩ _ rfl⟩
  decide

theorem not_ranked_run :
    ¬∀ (start : Start) (inputs : List (View × Op)) (g : Guild), run step start.guild inputs = some g → g.Ranked := by
  intro h
  have hranked := h charter [(quiet, .addRank 1), (quiet, .accept 3), (quiet, .delRank 1)] _ rfl
  exact absurd (hranked.existing 3 5 (by decide)) (by decide)

end TurtleWow.Guilds

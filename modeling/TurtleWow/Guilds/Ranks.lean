import TurtleWow.Guilds.Guild
import TurtleWow.Lib.Run

namespace TurtleWow.Guilds

-- The leader is the one guildmaster, and every member has a rank that exists.

namespace Guild

def rankOf (g : Guild) (guid : Nat) : Option Nat := (g.members.find guid).map MemberSlot.rankId

structure Ranked (g : Guild) : Prop where
  master : g.rankOf g.leaderGuid = some GR_GUILDMASTER
  only : ∀ guid, g.rankOf guid = some GR_GUILDMASTER → guid = g.leaderGuid
  few : GUILD_RANKS_MIN_COUNT ≤ g.ranks.length
  many : g.ranks.length ≤ GUILD_RANKS_MAX_COUNT
  existing : ∀ guid rank, g.rankOf guid = some rank → rank < g.ranks.length

structure Kept (g : Guild) : Prop where
  few : GUILD_RANKS_MIN_COUNT ≤ g.ranks.length
  many : g.ranks.length ≤ GUILD_RANKS_MAX_COUNT
  existing : ∀ guid rank, g.rankOf guid = some rank → rank < g.ranks.length
  keyed : ∀ guid slot, g.members.find guid = some slot → slot.guid = guid
  listed : ∀ guid, g.isMember guid = true → g.inGuild guid = true

structure Sound (g : Guild) : Prop extends Kept g where
  master : g.rankOf g.leaderGuid = some GR_GUILDMASTER
  only : ∀ guid, g.rankOf guid = some GR_GUILDMASTER → guid = g.leaderGuid

variable {g : Guild} {view : View} {guid other rank : Nat}

theorem Sound.ranked (h : g.Sound) : g.Ranked := ⟨h.master, h.only, h.few, h.many, h.existing⟩

theorem isMember_iff_rankOf : g.isMember guid = true ↔ g.rankOf guid ≠ none := by
  unfold isMember rankOf
  cases g.members.find guid with
  | none => simp
  | some slot => simp

theorem isMember_of_rankOf (h : g.rankOf guid = some rank) : g.isMember guid = true := by
  rw [isMember_iff_rankOf, h]
  exact Option.some_ne_none rank

theorem find_changeRank : (g.changeRank guid rank).members.find other =
    if other = guid then (g.members.find guid).map (fun slot => { slot with rankId := rank })
    else g.members.find other := by
  unfold changeRank
  cases hfind : g.members.find guid with
  | none =>
    by_cases h : other = guid
    · simp [h, hfind]
    · simp [h]
  | some slot => exact OrderedMap.find_insert _

theorem rankOf_changeRank : (g.changeRank guid rank).rankOf other =
    if other = guid then (g.rankOf guid).map (fun _ => rank) else g.rankOf other := by
  unfold rankOf
  rw [find_changeRank]
  by_cases h : other = guid
  · simp only [if_pos h, Option.map_map]
    rfl
  · simp only [if_neg h]

variable (g guid rank) in
theorem changeRank_fields : (g.changeRank guid rank).leaderGuid = g.leaderGuid ∧
    (g.changeRank guid rank).ranks = g.ranks ∧ (g.changeRank guid rank).inGuild = g.inGuild := by
  unfold changeRank
  cases g.members.find guid <;> exact ⟨rfl, rfl, rfl⟩

theorem isMember_changeRank : (g.changeRank guid rank).isMember other = g.isMember other := by
  unfold isMember
  rw [find_changeRank]
  by_cases h : other = guid
  · rw [if_pos h, Option.isSome_map, h]
  · rw [if_neg h]

theorem Kept.changeRank (h : g.Kept) (guid : Nat) (hrank : rank < g.ranks.length) : (g.changeRank guid rank).Kept := by
  obtain ⟨-, hranks, hin⟩ := changeRank_fields g guid rank
  refine ⟨hranks ▸ h.few, hranks ▸ h.many, fun other found hfound => ?_, fun other slot hslot => ?_, fun other hother => ?_⟩
  · rw [rankOf_changeRank] at hfound
    rw [hranks]
    by_cases heq : other = guid
    · rw [if_pos heq] at hfound
      obtain ⟨_, -, rfl⟩ := Option.map_eq_some_iff.mp hfound
      exact hrank
    · rw [if_neg heq] at hfound
      exact h.existing other found hfound
  · rw [find_changeRank] at hslot
    by_cases heq : other = guid
    · rw [if_pos heq] at hslot
      obtain ⟨old, hold, rfl⟩ := Option.map_eq_some_iff.mp hslot
      rw [heq]
      exact h.keyed guid old hold
    · rw [if_neg heq] at hslot
      exact h.keyed other slot hslot
  · rw [isMember_changeRank] at hother
    rw [hin]
    exact h.listed other hother

theorem Sound.changeRank (h : g.Sound) (hguid : guid ≠ g.leaderGuid) (hrank : rank < g.ranks.length)
    (hmaster : rank ≠ GR_GUILDMASTER) : (g.changeRank guid rank).Sound := by
  obtain ⟨hleader, -, -⟩ := changeRank_fields g guid rank
  refine ⟨h.toKept.changeRank guid hrank, ?_, fun other hother => ?_⟩
  · rw [hleader, rankOf_changeRank, if_neg (Ne.symm hguid)]
    exact h.master
  · rw [rankOf_changeRank] at hother
    rw [hleader]
    by_cases heq : other = guid
    · rw [if_pos heq] at hother
      obtain ⟨_, -, hsame⟩ := Option.map_eq_some_iff.mp hother
      exact absurd hsame hmaster
    · rw [if_neg heq] at hother
      exact h.only other hother

theorem getMemberSlot_some {name : String} {slot : MemberSlot} (h : g.getMemberSlot view name = some slot)
    (hkept : g.Kept) : g.members.find slot.guid = some slot := by
  obtain ⟨entry, hentry, rfl⟩ := Option.map_eq_some_iff.mp h
  have hmem := (view.walk_perm _).mem_iff.mp (List.mem_of_find?_eq_some hentry)
  have hfind : g.members.find entry.1 = some entry.2 := OrderedMap.find_of_mem hmem
  rw [hkept.keyed entry.1 entry.2 hfind]
  exact hfind

theorem setLeader_eq (h : g.Kept) {slot : MemberSlot} (hslot : g.members.find guid = some slot) :
    g.setLeader guid = { g with leaderGuid := guid }.changeRank guid GR_GUILDMASTER := by
  unfold setLeader
  simp only [hslot, h.keyed guid slot hslot]

theorem Kept.setLeader (h : g.Kept) (hmember : g.isMember guid = true) :
    (g.setLeader guid).Kept ∧ (g.setLeader guid).leaderGuid = guid ∧ (g.setLeader guid).ranks = g.ranks ∧
      ∀ other, (g.setLeader guid).rankOf other = if other = guid then some GR_GUILDMASTER else g.rankOf other := by
  obtain ⟨slot, hslot⟩ := Option.isSome_iff_exists.mp hmember
  rw [setLeader_eq h hslot]
  have hled : Kept { g with leaderGuid := guid } := ⟨h.few, h.many, h.existing, h.keyed, h.listed⟩
  have hfew := h.few
  obtain ⟨hleader, hranks, -⟩ :=
    changeRank_fields { g with leaderGuid := guid } guid GR_GUILDMASTER
  refine ⟨hled.changeRank guid ?_, hleader, hranks, fun other => ?_⟩
  · exact Nat.lt_of_lt_of_le (by decide) hfew
  · rw [rankOf_changeRank]
    by_cases heq : other = guid
    · rw [if_pos heq, if_pos heq]
      simp [rankOf, hslot]
    · rw [if_neg heq, if_neg heq]
      rfl

theorem Sound.setNewLeader (h : g.Sound) (hmember : g.isMember guid = true) (hne : guid ≠ g.leaderGuid) :
    (g.setNewLeader guid (some g.leaderGuid)).Sound ∧
      (g.setNewLeader guid (some g.leaderGuid)).leaderGuid = guid := by
  obtain ⟨hkept, hleader, hranks, hrankOf⟩ := h.toKept.setLeader hmember
  unfold Guild.setNewLeader
  obtain ⟨hleader', hranks', -⟩ :=
    changeRank_fields (g.setLeader guid) g.leaderGuid GR_OFFICER
  have hfew := hkept.few
  refine ⟨⟨hkept.changeRank _ (Nat.lt_of_lt_of_le (by decide) hfew), ?_, fun other hother => ?_⟩,
    hleader'.trans hleader⟩
  · rw [hleader', hleader, rankOf_changeRank, if_neg hne, hrankOf, if_pos rfl]
  · rw [hleader', hleader]
    rw [rankOf_changeRank] at hother
    by_cases hold : other = g.leaderGuid
    · rw [if_pos hold] at hother
      obtain ⟨_, -, hsame⟩ := Option.map_eq_some_iff.mp hother
      exact absurd hsame (by decide)
    · rw [if_neg hold, hrankOf] at hother
      by_cases heq : other = guid
      · exact heq
      · rw [if_neg heq] at hother
        exact absurd (h.only other hother) hold

theorem better_mem {leader : Nat} (list : List (Nat × MemberSlot)) (best : Option (Nat × MemberSlot))
    {entry : Nat × MemberSlot} (h : list.foldl (better leader) best = some entry) :
    best = some entry ∨ entry ∈ list ∧ entry.1 ≠ leader := by
  induction list generalizing best with
  | nil => exact .inl h
  | cons head rest ih =>
    rcases ih _ h with hbest | ⟨hmem, hne⟩
    · unfold better at hbest
      by_cases hleader : head.1 = leader
      · rw [if_pos hleader] at hbest
        exact .inl hbest
      · rw [if_neg hleader] at hbest
        have hhead : some head = some entry → entry ∈ head :: rest ∧ entry.1 ≠ leader := by
          intro heq
          cases heq
          exact ⟨List.mem_cons_self, hleader⟩
        cases best with
        | none => exact .inr (hhead hbest)
        | some slot =>
          dsimp only at hbest
          by_cases hrank : slot.2.rankId > head.2.rankId
          · rw [if_pos hrank] at hbest
            exact .inr (hhead hbest)
          · rw [if_neg hrank] at hbest
            exact .inl hbest
    · exact .inr ⟨List.mem_cons_of_mem _ hmem, hne⟩

theorem getSuitableNewLeader_some {prefer : Bool} (h : g.getSuitableNewLeader view prefer = some guid) :
    g.isMember guid = true ∧ guid ≠ g.leaderGuid := by
  have hbest (hfold : ((view.walk g.members.entries).foldl (better g.leaderGuid) none).map (fun entry => entry.1) =
      some guid) : g.isMember guid = true ∧ guid ≠ g.leaderGuid := by
    obtain ⟨entry, hentry, rfl⟩ := Option.map_eq_some_iff.mp hfold
    rcases better_mem _ _ hentry with hnone | ⟨hmem, hne⟩
    · cases hnone
    · have hfind : g.members.find entry.1 = some entry.2 := OrderedMap.find_of_mem ((view.walk_perm _).mem_iff.mp hmem)
      exact ⟨by rw [isMember, hfind]; rfl, hne⟩
  unfold getSuitableNewLeader at h
  cases prefer with
  | false => exact hbest h
  | true =>
    simp only [if_true] at h
    split at h
    · rename_i oldest holdest
      cases h
      have hfound := List.find?_some holdest
      simp only [ne_eq, decide_eq_true_eq] at hfound
      exact ⟨isMember_of_rankOf hfound.2, hfound.1⟩
    · exact hbest h

end Guild

end TurtleWow.Guilds

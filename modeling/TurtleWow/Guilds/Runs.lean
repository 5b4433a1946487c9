import TurtleWow.Guilds.Ranks

namespace TurtleWow.Guilds

open Run Function OrderedMap

namespace Guild

variable {g g' : Guild} {view : View} {guid other rank actor : Nat} {name : String}

theorem Sound.ne_leaderGuid (h : g.Sound) (hguid : g.rankOf guid = some rank) (hrank : rank ≠ GR_GUILDMASTER) :
    guid ≠ g.leaderGuid := by
  rintro rfl
  exact hrank (Option.some.inj (hguid.symm.trans h.master))

theorem rankOf_find {slot : MemberSlot} (h : g.members.find guid = some slot) : g.rankOf guid = some slot.rankId := by
  rw [rankOf, h]
  rfl

theorem Kept.getLowestRank_lt (h : g.Kept) : g.getLowestRank < g.ranks.length := by
  have hfew := h.few
  unfold GUILD_RANKS_MIN_COUNT at hfew
  unfold getLowestRank
  omega

theorem Kept.getLowestRank_ne (h : g.Kept) : g.getLowestRank ≠ GR_GUILDMASTER := by
  have hfew := h.few
  unfold GUILD_RANKS_MIN_COUNT at hfew
  unfold getLowestRank GR_GUILDMASTER
  omega

theorem Kept.officer_lt (h : g.Kept) : GR_OFFICER < g.ranks.length :=
  Nat.lt_of_lt_of_le (by decide) h.few

def joined (g : Guild) (guid : Nat) (name : String) (rank : Nat) : Guild :=
  { g with members := g.members.insert guid ⟨guid, name, rank⟩, inGuild := Function.update g.inGuild guid true }

theorem rankOf_joined : (g.joined guid name rank).rankOf other = if other = guid then some rank else g.rankOf other := by
  unfold rankOf joined
  rw [find_insert]
  by_cases h : other = guid
  · rw [if_pos h, if_pos h]
    rfl
  · rw [if_neg h, if_neg h]

variable (guid name) in
theorem Kept.joined (h : g.Kept) (hrank : rank < g.ranks.length) : (g.joined guid name rank).Kept := by
  refine ⟨h.few, h.many, fun other found hfound => ?_, fun other slot hslot => ?_, fun other hother => ?_⟩
  · rw [rankOf_joined] at hfound
    by_cases heq : other = guid
    · rw [if_pos heq] at hfound
      exact Option.some.inj hfound ▸ hrank
    · rw [if_neg heq] at hfound
      exact h.existing other found hfound
  · unfold Guild.joined at hslot
    rw [find_insert] at hslot
    by_cases heq : other = guid
    · rw [if_pos heq] at hslot
      rw [← Option.some.inj hslot, heq]
    · rw [if_neg heq] at hslot
      exact h.keyed other slot hslot
  · unfold Guild.joined
    dsimp only
    by_cases heq : other = guid
    · rw [heq, update_self]
    · rw [isMember_iff_rankOf, rankOf_joined, if_neg heq, ← isMember_iff_rankOf] at hother
      rw [update_of_ne heq]
      exact h.listed other hother

variable (name) in
theorem Sound.joined (h : g.Sound) (hguid : g.isMember guid = false) (hrank : rank < g.ranks.length)
    (hmaster : rank ≠ GR_GUILDMASTER) : (g.joined guid name rank).Sound := by
  have hne : g.leaderGuid ≠ guid := by
    rintro rfl
    rw [isMember_of_rankOf h.master] at hguid
    exact Bool.noConfusion hguid
  refine ⟨h.toKept.joined guid name hrank, ?_, fun other hother => ?_⟩
  · exact rankOf_joined.trans ((if_neg hne).trans h.master)
  · rw [rankOf_joined] at hother
    by_cases heq : other = guid
    · rw [if_pos heq] at hother
      exact absurd (Option.some.inj hother) hmaster
    · rw [if_neg heq] at hother
      exact h.only other hother

theorem addMember_some (h : g.addMember view guid rank = some g') (hkept : g.Kept) :
    g.isMember guid = false ∧ g' = g.joined guid (view.name guid) rank := by
  unfold addMember at h
  by_cases hin : (if view.loaded guid then g.inGuild guid else g.isMember guid) = true
  · rw [if_pos hin] at h
    cases h
  · rw [if_neg hin] at h
    by_cases hknown : (!view.loaded guid && !view.knownPlayer guid) = true
    · rw [if_pos hknown] at h
      cases h
    · rw [if_neg hknown] at h
      refine ⟨?_, (Option.some.inj h).symm⟩
      cases hmember : g.isMember guid with
      | false => rfl
      | true =>
        refine absurd ?_ hin
        rw [hkept.listed guid hmember, hmember]
        exact ite_self true

theorem Sound.addLowest (h : g.Sound) (view : View) (guid : Nat) :
    ((g.addMember view guid g.getLowestRank).getD g).Sound := by
  cases hadd : g.addMember view guid g.getLowestRank with
  | none => exact h
  | some g' =>
    obtain ⟨hmember, rfl⟩ := addMember_some hadd h.toKept
    exact h.joined (view.name guid) hmember h.getLowestRank_lt h.getLowestRank_ne

theorem rankOf_erase : (g.erase view guid).rankOf other = if other = guid then none else g.rankOf other := by
  unfold rankOf erase
  rw [find_erase]
  by_cases h : other = guid
  · rw [if_pos h, if_pos h]
    rfl
  · rw [if_neg h, if_neg h]

theorem Kept.erase (h : g.Kept) (view : View) (guid : Nat) : (g.erase view guid).Kept := by
  refine ⟨h.few, h.many, fun other found hfound => ?_, fun other slot hslot => ?_, fun other hother => ?_⟩
  · rw [rankOf_erase] at hfound
    by_cases heq : other = guid
    · rw [if_pos heq] at hfound
      cases hfound
    · rw [if_neg heq] at hfound
      exact h.existing other found hfound
  · unfold Guild.erase at hslot
    rw [find_erase] at hslot
    by_cases heq : other = guid
    · rw [if_pos heq] at hslot
      cases hslot
    · rw [if_neg heq] at hslot
      exact h.keyed other slot hslot
  · rw [isMember_iff_rankOf, rankOf_erase] at hother
    by_cases heq : other = guid
    · exact absurd (if_pos heq) hother
    · rw [if_neg heq, ← isMember_iff_rankOf] at hother
      unfold Guild.erase
      dsimp only
      rw [update_of_ne heq]
      exact h.listed other hother

theorem Sound.erase (h : g.Sound) (view : View) (hguid : guid ≠ g.leaderGuid) : (g.erase view guid).Sound := by
  refine ⟨h.toKept.erase view guid, ?_, fun other hother => ?_⟩
  · exact rankOf_erase.trans ((if_neg (Ne.symm hguid)).trans h.master)
  · rw [rankOf_erase] at hother
    by_cases heq : other = guid
    · rw [if_pos heq] at hother
      cases hother
    · rw [if_neg heq] at hother
      exact h.only other hother

theorem Sound.oldLeaderSlot (h : g.Sound) : g.oldLeaderSlot = some g.leaderGuid :=
  if_pos (isMember_of_rankOf h.master)

theorem remains_some {result : Guild × Bool} (h : remains result = some g) : result.2 = false ∧ result.1 = g := by
  unfold remains at h
  cases hflag : result.2 with
  | false =>
    rw [hflag] at h
    exact ⟨rfl, Option.some.inj h⟩
  | true =>
    rw [hflag] at h
    cases h

section

variable (h : g.Sound)

include h

theorem Sound.delMember (hdel : remains (g.delMember view guid) = some g') : g'.Sound := by
  obtain ⟨hflag, rfl⟩ := remains_some hdel
  unfold Guild.delMember at hflag ⊢
  by_cases hleader : g.leaderGuid = guid
  · simp only [if_pos hleader] at hflag ⊢
    cases hbest : g.getSuitableNewLeader view false with
    | none =>
      rw [hbest] at hflag
      exact Bool.noConfusion hflag
    | some best =>
      obtain ⟨hmember, hne⟩ := getSuitableNewLeader_some hbest
      rw [h.oldLeaderSlot]
      obtain ⟨hsound, hnew⟩ := h.setNewLeader hmember hne
      refine hsound.erase view ?_
      rw [hnew, ← hleader]
      exact hne.symm
  · simp only [if_neg hleader]
    exact h.erase view (Ne.symm hleader)

theorem Sound.handleAccept : (g.handleAccept view guid).Sound := by
  unfold Guild.handleAccept
  split
  · exact h
  · split
    · exact h
    · exact h.addLowest view guid

theorem Sound.handleLeave (hstep : g.handleLeave view guid = some g') : g'.Sound := by
  unfold Guild.handleLeave at hstep
  split at hstep
  · exact Option.some.inj hstep ▸ h
  · split at hstep
    · cases hstep
    · exact h.delMember hstep

theorem Sound.handleRemove (hstep : g.handleRemove view name = some g') : g'.Sound := by
  unfold Guild.handleRemove at hstep
  split at hstep
  · exact Option.some.inj hstep ▸ h
  · split at hstep
    · exact Option.some.inj hstep ▸ h
    · split at hstep
      · exact Option.some.inj hstep ▸ h
      · split at hstep
        · exact Option.some.inj hstep ▸ h
        · exact h.delMember hstep

theorem Sound.handlePromote : (g.handlePromote view actor name).Sound := by
  unfold Guild.handlePromote
  split
  · exact h
  · split
    · exact h
    · rename_i slot hslot
      split
      · exact h
      · split
        · exact h
        · rename_i hhigher
          have hrank := rankOf_find (getMemberSlot_some hslot h.toKept)
          have hlt := h.existing _ _ hrank
          have hlow : 1 < slot.rankId := by omega
          refine h.changeRank (h.ne_leaderGuid hrank ?_) ?_ ?_
          · unfold GR_GUILDMASTER
            omega
          · omega
          · unfold GR_GUILDMASTER
            omega

theorem Sound.handleDemote : (g.handleDemote view actor name).Sound := by
  unfold Guild.handleDemote
  split
  · exact h
  · split
    · exact h
    · rename_i slot hslot
      split
      · exact h
      · split
        · exact h
        · rename_i hhigher
          split
          · exact h
          · rename_i hlowest
            have hrank := rankOf_find (getMemberSlot_some hslot h.toKept)
            unfold getLowestRank at hlowest
            refine h.changeRank (h.ne_leaderGuid hrank ?_) ?_ (Nat.succ_ne_zero _)
            · unfold GR_GUILDMASTER
              omega
            · omega

theorem Sound.handleLeader : (g.handleLeader view actor name).Sound := by
  unfold Guild.handleLeader
  split
  · exact h
  · rename_i hactor
    split
    · exact h
    · split
      · exact h
      · rename_i slot hslot
        split
        · exact h
        · rename_i hne
          obtain rfl := not_ne_iff.mp hactor
          exact (h.setNewLeader (isMember_of_rankOf (rankOf_find (getMemberSlot_some hslot h.toKept))) hne).1

theorem Sound.handleAddRank : (g.handleAddRank actor).Sound := by
  unfold Guild.handleAddRank
  split
  · exact h
  · split
    · exact h
    · rename_i hlt
      have hlen : (g.ranks ++ [GR_RIGHT_GCHATLISTEN ||| GR_RIGHT_GCHATSPEAK]).length = g.ranks.length + 1 :=
        List.length_append
      refine ⟨⟨?_, ?_, fun other found hfound => ?_, h.keyed, h.listed⟩, h.master, h.only⟩
      · exact hlen ▸ Nat.le_succ_of_le h.few
      · exact hlen ▸ Nat.lt_of_not_ge hlt
      · exact hlen ▸ Nat.lt_succ_of_lt (h.existing other found hfound)

theorem Sound.delRank (hempty : GUILD_RANKS_MIN_COUNT < g.ranks.length → ∀ guid, g.rankOf guid ≠ some g.getLowestRank) :
    g.delRank.Sound := by
  unfold Guild.delRank
  split
  · exact h
  · rename_i hmore
    have hlt := Nat.lt_of_not_ge hmore
    have hlen : g.ranks.dropLast.length = g.ranks.length - 1 := List.length_dropLast
    refine ⟨⟨?_, ?_, fun other found hfound => ?_, h.keyed, h.listed⟩, h.master, h.only⟩
    · exact hlen ▸ Nat.le_sub_one_of_lt hlt
    · exact hlen ▸ Nat.le_trans (Nat.sub_le _ _) h.many
    · have hexisting := h.existing other found hfound
      have hne : found ≠ g.getLowestRank := fun heq => hempty hlt other (heq ▸ hfound)
      unfold getLowestRank at hne
      dsimp only
      omega

theorem Sound.permKill : (g.permKill view guid).Sound := by
  unfold Guild.permKill
  split
  · cases hbest : g.getSuitableNewLeader view true with
    | none => exact h
    | some best =>
      obtain ⟨hmember, hne⟩ := getSuitableNewLeader_some hbest
      rw [h.oldLeaderSlot]
      exact (h.setNewLeader hmember hne).1
  · exact h

theorem Sound.loadPlayer : (g.loadPlayer view guid).Sound := by
  refine ⟨⟨h.few, h.many, h.existing, h.keyed, fun other hother => ?_⟩, h.master, h.only⟩
  unfold Guild.loadPlayer
  dsimp only
  by_cases heq : other = guid
  · obtain rfl := heq
    have hmember : g.isMember other = true := hother
    rw [update_self, hmember, Bool.true_or]
  · rw [update_of_ne heq]
    exact h.listed other hother

end

-- A deleted rank has no members left.
def Meets : Option Guild → View × Op → Prop
  | some g, (_, .delRank actor) =>
    actor = g.leaderGuid → GUILD_RANKS_MIN_COUNT < g.ranks.length → ∀ guid, g.rankOf guid ≠ some g.getLowestRank
  | _, _ => True

theorem Sound.step {op : Op} (h : g.Sound) (hmeets : Meets (some g) (view, op)) (hstep : g.step view op = some g') :
    g'.Sound := by
  cases op with
  | accept guid => exact Option.some.inj hstep ▸ h.handleAccept
  | leave guid => exact h.handleLeave hstep
  | remove name => exact h.handleRemove hstep
  | promote actor name => exact Option.some.inj hstep ▸ h.handlePromote
  | demote actor name => exact Option.some.inj hstep ▸ h.handleDemote
  | leader actor name => exact Option.some.inj hstep ▸ h.handleLeader
  | addRank actor => exact Option.some.inj hstep ▸ h.handleAddRank
  | delRank actor =>
    refine Option.some.inj hstep ▸ ?_
    unfold Guild.handleDelRank
    split
    · exact h
    · rename_i hactor
      exact h.delRank (hmeets (not_ne_iff.mp hactor))
  | deleteCharacter guid =>
    have hstep : g.deleteCharacter view guid = some g' := hstep
    unfold Guild.deleteCharacter at hstep
    split at hstep
    · exact h.delMember hstep
    · exact Option.some.inj hstep ▸ h
  | permKill guid => exact Option.some.inj hstep ▸ h.permKill
  | loadPlayer guid => exact Option.some.inj hstep ▸ h.loadPlayer

end Guild

end TurtleWow.Guilds

import TurtleWow.Reputation.States
import Mathlib.Tactic.MkIffOfInductiveProp

namespace TurtleWow.Reputation

-- What a save and a load make of the reputation of a player

def Tables.hostile (t : Tables) (e : FactionEntry) (faction : FactionState) : Bool :=
  decide (reputationToRank (t.getBaseReputation e + faction.standing) ≤ REP_HOSTILE)

-- A faction before and after. Loading does not put the war state back: it makes
-- it anew, with what is visible, with peace and with the rank; and an inactive
-- default comes back.
structure Relogged (t : Tables) (e : FactionEntry) (before after : FactionState) : Prop where
  standing : after.standing = before.standing
  others : after.flags &&& ~~~(FACTION_FLAG_AT_WAR ||| FACTION_FLAG_INACTIVE) =
    before.flags &&& ~~~(FACTION_FLAG_AT_WAR ||| FACTION_FLAG_INACTIVE)
  inactive : after.has FACTION_FLAG_INACTIVE =
    (Flags.has (t.getDefaultStateFlags e) FACTION_FLAG_INACTIVE || before.has FACTION_FLAG_INACTIVE)
  atWar : after.has FACTION_FLAG_AT_WAR =
    if before.has FACTION_FLAG_AT_WAR then Flags.has (t.getDefaultStateFlags e) FACTION_FLAG_AT_WAR || !before.peaceful
    else !before.has FACTION_FLAG_VISIBLE && Flags.has (t.getDefaultStateFlags e) FACTION_FLAG_AT_WAR ||
      t.hostile e before && !before.peaceful

-- Where nothing changes
@[mk_iff]
structure Steady (t : Tables) (e : FactionEntry) (faction : FactionState) : Prop where
  inactive : Flags.has (t.getDefaultStateFlags e) FACTION_FLAG_INACTIVE = true → faction.has FACTION_FLAG_INACTIVE = true
  atWar : faction.has FACTION_FLAG_AT_WAR = true →
    Flags.has (t.getDefaultStateFlags e) FACTION_FLAG_AT_WAR = true ∨ faction.peaceful = false
  atPeace : faction.has FACTION_FLAG_AT_WAR = false →
    (Flags.has (t.getDefaultStateFlags e) FACTION_FLAG_AT_WAR = true → faction.has FACTION_FLAG_VISIBLE = true) ∧
      (t.hostile e faction = true → faction.peaceful = true)

variable {t : Tables} {e : FactionEntry} {m : ReputationMgr} {before after faction : FactionState} {row : Row}

theorem bit_others (flags : FactionFlags) (j : Nat) :
    Flags.bit (flags &&& ~~~(FACTION_FLAG_AT_WAR ||| FACTION_FLAG_INACTIVE)) j =
      (decide (j ≠ 1 ∧ j ≠ 5) && Flags.bit flags j) := by
  have hnot : ~~~(FACTION_FLAG_AT_WAR ||| FACTION_FLAG_INACTIVE) = ~~~BitVec.twoPow 32 1 &&& ~~~BitVec.twoPow 32 5 := by decide
  rw [hnot, ← BitVec.and_assoc, Flags.bit_clear _ (by decide), Flags.bit_clear _ (by decide)]
  by_cases hwar : j = 1 <;> by_cases hinactive : j = 5 <;> simp [hwar, hinactive]

theorem Relogged.flags_eq_iff (h : Relogged t e before after) : after.flags = before.flags ↔ Steady t e before := by
  have hiff : after.flags = before.flags ↔ Flags.bit after.flags 1 = Flags.bit before.flags 1 ∧
      Flags.bit after.flags 5 = Flags.bit before.flags 5 := by
    refine ⟨fun heq => by simp [heq], fun heq => Flags.eq_of_bit fun j => ?_⟩
    by_cases hone : j = 1
    · exact hone ▸ heq.1
    · by_cases hfive : j = 5
      · exact hfive ▸ heq.2
      · simpa [bit_others, hone, hfive] using congrArg (fun flags => Flags.bit flags j) h.others
  have hinactive := h.inactive
  have hwar := h.atWar
  simp only [FactionState.has, has_inactive, has_atWar, has_visible] at hinactive hwar
  have hsteady : Steady t e before ↔
      (Flags.bit (t.getDefaultStateFlags e) 5 = true → Flags.bit before.flags 5 = true) ∧
        (Flags.bit before.flags 1 = true → Flags.bit (t.getDefaultStateFlags e) 1 = true ∨ before.peaceful = false) ∧
        (Flags.bit before.flags 1 = false → (Flags.bit (t.getDefaultStateFlags e) 1 = true → Flags.bit before.flags 0 = true) ∧
          (t.hostile e before = true → before.peaceful = true)) := by
    simpa only [FactionState.has, has_inactive, has_atWar, has_visible] using steady_iff t e before
  rw [hiff, hinactive, hwar, hsteady]
  cases Flags.bit before.flags 1 with
  | true => cases Flags.bit before.flags 5 <;> simp [and_comm]
  | false =>
    cases Flags.bit before.flags 5 <;> cases Flags.bit before.flags 0 <;> simp [and_comm]

namespace ReputationMgr

theorem bit_forceAtWar (hnone : m.forcedReactions.find e.id = none) (faction : FactionState) (j : Nat) :
    Flags.bit (m.forceAtWar t e faction).flags j =
      if j = 1 then Flags.bit faction.flags 1 || t.hostile e faction && !faction.peaceful else Flags.bit faction.flags j := by
  unfold forceAtWar Tables.hostile
  rw [hnone]
  dsimp only
  by_cases hj : j = 1
  · subst hj
    split
    · simp [FactionState.bit_setAtWar, *]
    · simp [*]
  · split
    · simp [FactionState.bit_setAtWar, hj]
    · simp

theorem bit_restore (row : Row) (faction : FactionState) (j : Nat) :
    Flags.bit (m.restore t e row faction).flags j =
      Flags.bit (m.forceAtWar t e ((faction.restoreShown row).restoreAtWar row)).flags j := by
  unfold restore
  dsimp only
  split <;> rfl

theorem moved_forceAtWar (faction : FactionState) : Moved faction (m.forceAtWar t e faction) := by
  unfold forceAtWar
  split
  · split
    · exact faction.moved_setAtWar true
    · exact .refl _
  · split
    · exact faction.moved_setAtWar true
    · exact .refl _

theorem standing_forceAtWar (faction : FactionState) : (m.forceAtWar t e faction).standing = faction.standing := by
  unfold forceAtWar
  split <;> split <;> simp

theorem standing_restore (row : Row) (faction : FactionState) : (m.restore t e row faction).standing = row.standing := by
  have hstanding : (m.forceAtWar t e ((faction.restoreShown row).restoreAtWar row)).standing = row.standing := by
    rw [standing_forceAtWar, FactionState.standing_restoreAtWar, FactionState.standing_restoreShown]
  unfold restore
  dsimp only
  split <;> exact hstanding

theorem relogged_restore (hnone : m.forcedReactions.find e.id = none) (hwithin : Within (t.getDefaultStateFlags e) before.flags)
    (hdefault : faction.flags = t.getDefaultStateFlags e) (hflags : row.flags = before.flags)
    (hstanding : row.standing = before.standing) : Relogged t e before (m.restore t e row faction) := by
  generalize hd : t.getDefaultStateFlags e = default at hwithin hdefault
  have hshown (j : Nat) : Flags.bit (faction.restoreShown row).flags j =
      if j = 5 then Flags.bit default 5 || Flags.bit before.flags 5
      else if j = 1 then Flags.bit default 1 else Flags.bit before.flags j := by
    rw [FactionState.bit_restoreShown, hdefault, hflags, hwithin.shown_eq, hwithin.inactive_eq]
    by_cases hzero : j = 0
    · simp [hzero]
    · by_cases hfive : j = 5
      · simp [hfive]
      · by_cases hone : j = 1
        · simp [hone]
        · simpa [hzero, hfive, hone] using (hwithin.kept j hzero hone hfive).symm
  have hpeaceful : (faction.restoreShown row).peaceful = before.peaceful :=
    FactionState.peaceful_congr (by simp [hshown]) (by simpa using hstanding)
  have hwar (j : Nat) : Flags.bit ((faction.restoreShown row).restoreAtWar row).flags j =
      if j = 1 then
        if Flags.bit before.flags 1 then Flags.bit default 1 || !before.peaceful
        else !Flags.bit before.flags 0 && Flags.bit default 1
      else if j = 5 then Flags.bit default 5 || Flags.bit before.flags 5 else Flags.bit before.flags j := by
    rw [FactionState.bit_restoreAtWar, hpeaceful, hflags, hshown j, hshown 0, hshown 1]
    by_cases hone : j = 1 <;> simp [hone]
  have hpeaceful' : ((faction.restoreShown row).restoreAtWar row).peaceful = before.peaceful :=
    FactionState.peaceful_congr (by simp [hwar]) (by simpa using hstanding)
  have hhostile : t.hostile e ((faction.restoreShown row).restoreAtWar row) = t.hostile e before := by
    simp [Tables.hostile, hstanding]
  have hafter (j : Nat) : Flags.bit (m.restore t e row faction).flags j =
      if j = 1 then
        if Flags.bit before.flags 1 then Flags.bit default 1 || !before.peaceful
        else !Flags.bit before.flags 0 && Flags.bit default 1 || t.hostile e before && !before.peaceful
      else if j = 5 then Flags.bit default 5 || Flags.bit before.flags 5 else Flags.bit before.flags j := by
    rw [bit_restore, bit_forceAtWar hnone, hpeaceful', hhostile, hwar 1, hwar j]
    by_cases hone : j = 1
    · cases Flags.bit before.flags 1 <;> cases before.peaceful <;> simp [hone]
    · simp [hone]
  refine ⟨(standing_restore row faction).trans hstanding, Flags.eq_of_bit fun j => ?_, ?_, ?_⟩
  · rw [bit_others, bit_others, hafter j]
    by_cases hone : j = 1 <;> by_cases hfive : j = 5 <;> simp [hone, hfive]
  · simp [FactionState.has, hafter, hd]
  · simp [FactionState.has, hafter, hd]

theorem moved_restore (m : ReputationMgr) (t : Tables) (e : FactionEntry) (row : Row) (faction : FactionState) :
    (m.restore t e row faction).id = faction.id ∧
      (∀ default, Within default faction.flags → Within default (m.restore t e row faction).flags) ∧
      (faction.needSave = true → (m.restore t e row faction).needSave = false →
        (m.restore t e row faction).flags = row.flags) := by
  have hmoved : Moved { faction with standing := row.standing }
      (m.forceAtWar t e ((faction.restoreShown row).restoreAtWar row)) :=
    ((faction.moved_restoreShown row).trans (FactionState.moved_restoreAtWar _ row)).trans (moved_forceAtWar _)
  unfold restore
  dsimp only
  split
  · exact ⟨hmoved.id, hmoved.within, fun _ _ => by assumption⟩
  · exact ⟨hmoved.id, hmoved.within, fun hnew hsaved => absurd (hmoved.needSave hnew) (by simp [hsaved])⟩

theorem restore_congr {m' : ReputationMgr} (h : m'.forcedReactions = m.forcedReactions) (row : Row) (faction : FactionState) :
    m'.restore t e row faction = m.restore t e row faction := by
  unfold restore forceAtWar
  rw [h]

end ReputationMgr

end TurtleWow.Reputation

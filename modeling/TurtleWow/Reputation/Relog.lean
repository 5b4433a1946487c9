import TurtleWow.Reputation.Restored
import TurtleWow.Lib.Lists
import TurtleWow.Lib.Run

namespace TurtleWow.Reputation

open Run List OrderedMap

-- A player's reputation over any run, and after a save and a load

variable {t : Tables} {e : FactionEntry} {m : ReputationMgr} {before after faction : FactionState} {row : Row} {rows : List Row}

-- The faction whose state has an id: of several, the last of the map

def Tables.owner (t : Tables) (id : Nat) : Option FactionEntry :=
  (t.factions.filter fun e => e.canHaveReputation && decide (e.repListID = id)).getLast?

def Tables.newFaction (t : Tables) (e : FactionEntry) : FactionState := ⟨e.id, t.getDefaultStateFlags e, 0, true⟩

variable {id : Nat}

theorem Tables.of_owner (h : t.owner id = some e) :
    t.getFactionEntry e.id = some e ∧ e.canHaveReputation = true ∧ e.repListID = id := by
  obtain ⟨hmem, hcan⟩ := mem_filter.mp (mem_of_getLast? h)
  rw [Bool.and_eq_true, decide_eq_true_eq] at hcan
  exact ⟨Lists.find?_key t.distinct hmem, hcan⟩

theorem Tables.id_of_getFactionEntry (h : t.getFactionEntry id = some e) : e.id = id := by
  simpa using List.find?_some h

-- Rows as a save leaves them: one for each faction, and of factions whose states
-- are kept
structure Readable (t : Tables) (rows : List Row) : Prop where
  key : (rows.map fun row => row.faction).Nodup
  owned : ∀ row ∈ rows, ∀ e, t.getFactionEntry row.faction = some e → e.canHaveReputation = true →
    t.owner e.repListID = some e

theorem Readable.perm {result : List Row} (h : Readable t rows) (hperm : result.Perm rows) : Readable t result :=
  ⟨(hperm.map _).nodup_iff.mpr h.key, fun row hrow => h.owned row (hperm.mem_iff.mp hrow)⟩

theorem Readable.tail (h : Readable t (row :: rows)) : Readable t rows :=
  ⟨(nodup_cons.mp h.key).2, fun other hother => h.owned other (mem_cons_of_mem row hother)⟩

namespace ReputationMgr

theorem find_initializeFactions (m : ReputationMgr) (t : Tables) (id : Nat) :
    (m.initializeFactions t).factions.find id = (t.owner id).map t.newFaction := by
  have hfold (list : List FactionEntry) (factions : OrderedMap Nat FactionState) :
      (list.foldl (fun factions e =>
        if e.canHaveReputation then factions.insert e.repListID (t.newFaction e) else factions) factions).find id =
        ((list.filter fun e => e.canHaveReputation && decide (e.repListID = id)).getLast?.map t.newFaction).or
          (factions.find id) := by
    induction list generalizing factions with
    | nil => rfl
    | cons e rest ih =>
      rw [foldl_cons, ih, filter_cons]
      cases hcan : e.canHaveReputation with
      | false => simp
      | true =>
        by_cases hid : e.repListID = id
        · simp [hid, find_insert, List.getLast?_cons]
        · simp [hid, find_insert, Ne.symm hid]
  exact (hfold t.factions .empty).trans (by simp [Tables.owner])

theorem forcedReactions_loadRow (m : ReputationMgr) (row : Row) : (loadRow t m row).forcedReactions = m.forcedReactions := by
  unfold loadRow
  split
  · rfl
  · split <;> rfl

-- A row changes the state of its own faction only.

variable {id : Nat}

theorem find_loadRow_self (m : ReputationMgr) (howner : t.owner id = some e) (hrow : row.faction = e.id) :
    (loadRow t m row).factions.find id = some (m.restore t e row ((m.factions.find id).getD ⟨0, 0, 0, false⟩)) := by
  obtain ⟨hentry, hcan, rfl⟩ := Tables.of_owner howner
  unfold loadRow
  rw [hrow, hentry]
  dsimp only
  rw [if_pos hcan, put, find_insert, if_pos rfl]

theorem find_loadRow_other (m : ReputationMgr) (howned : ∀ e, t.getFactionEntry row.faction = some e →
    e.canHaveReputation = true → t.owner e.repListID = some e) (hrow : ∀ e, t.owner id = some e → row.faction ≠ e.id) :
    (loadRow t m row).factions.find id = m.factions.find id := by
  unfold loadRow
  split
  · rfl
  · rename_i e hentry
    split
    · rename_i hcan
      have hother : id ≠ e.repListID := by
        rintro rfl
        exact hrow e (howned e hentry hcan) (Tables.id_of_getFactionEntry hentry).symm
      rw [put, find_insert, if_neg hother]
    · rfl

section

variable (hrows : Readable t rows)

include hrows

theorem find_foldl_loadRow (m : ReputationMgr) (howner : t.owner id = some e) :
    (rows.foldl (loadRow t) m).factions.find id =
      match rows.find? fun row => decide (row.faction = e.id) with
      | none => m.factions.find id
      | some row => some (m.restore t e row ((m.factions.find id).getD ⟨0, 0, 0, false⟩)) := by
  induction rows generalizing m with
  | nil => rfl
  | cons row rest ih =>
    rw [foldl_cons, ih hrows.tail, List.find?_cons]
    by_cases hrow : row.faction = e.id
    · have hnone : rest.find? (fun row => decide (row.faction = e.id)) = none := by
        refine List.find?_eq_none.mpr fun other hother => ?_
        have hnotin := (nodup_cons.mp hrows.key).1
        simpa [hrow] using fun hsame : other.faction = e.id => hnotin (mem_map.mpr ⟨other, hother, hsame.trans hrow.symm⟩)
      rw [hnone, find_loadRow_self m howner hrow]
      simp [hrow]
    · have hother : ∀ e', t.owner id = some e' → row.faction ≠ e'.id := by
        intro e' he'
        obtain rfl := Option.some.inj (howner.symm.trans he')
        exact hrow
      rw [find_loadRow_other m (hrows.owned row mem_cons_self) hother]
      simp only [hrow, decide_false, restore_congr (forcedReactions_loadRow m row)]

theorem find_foldl_loadRow_none (m : ReputationMgr) (howner : t.owner id = none) :
    (rows.foldl (loadRow t) m).factions.find id = m.factions.find id := by
  induction rows generalizing m with
  | nil => rfl
  | cons row rest ih =>
    rw [foldl_cons, ih hrows.tail, find_loadRow_other m (hrows.owned row mem_cons_self) (by simp [howner])]

theorem find_loadFromDB_none (m : ReputationMgr) (howner : t.owner id = none) :
    (m.loadFromDB t rows).factions.find id = none := by
  rw [loadFromDB, find_foldl_loadRow_none hrows _ howner, find_initializeFactions, howner, Option.map_none]

theorem find_loadFromDB (m : ReputationMgr) (howner : t.owner id = some e) :
    (m.loadFromDB t rows).factions.find id = some
      (match rows.find? fun row => decide (row.faction = e.id) with
        | none => t.newFaction e
        | some row => m.restore t e row (t.newFaction e)) := by
  have hinitial : (m.initializeFactions t).factions.find id = some (t.newFaction e) := by
    rw [find_initializeFactions, howner, Option.map_some]
  rw [loadFromDB, find_foldl_loadRow hrows _ howner, hinitial]
  split
  · rfl
  · exact congrArg some (restore_congr rfl _ _)

end

end ReputationMgr

-- A manager and its rows while the setters run

structure Kept (t : Tables) (m : ReputationMgr) (rows : List Row) : Prop where
  owned : ∀ id, t.owner id = none → m.factions.find id = none
  states : ∀ id e, t.owner id = some e →
    ∃ faction, m.factions.find id = some faction ∧ faction.id = e.id ∧ Within (t.getDefaultStateFlags e) faction.flags
  saved : ∀ id faction, m.factions.find id = some faction → faction.needSave = false →
    ⟨faction.id, faction.standing, faction.flags⟩ ∈ rows

theorem kept_loadFromDB (hrows : Readable t rows) (m : ReputationMgr) : Kept t (m.loadFromDB t rows) rows := by
  refine ⟨fun id => ReputationMgr.find_loadFromDB_none hrows m, fun id e howner => ?_, fun id faction hfind hsaved => ?_⟩
  · refine ⟨_, ReputationMgr.find_loadFromDB hrows m howner, ?_⟩
    split
    · exact ⟨rfl, .refl _⟩
    · rename_i row hrow
      obtain ⟨hid, hwithin, -⟩ := m.moved_restore t e row (t.newFaction e)
      exact ⟨hid, hwithin _ (.refl _)⟩
  · cases howner : t.owner id with
    | none =>
      rw [ReputationMgr.find_loadFromDB_none hrows m howner] at hfind
      simp at hfind
    | some e =>
      rw [ReputationMgr.find_loadFromDB hrows m howner] at hfind
      cases hfind
      split at hsaved
      · simp [Tables.newFaction] at hsaved
      · rename_i row hrow
        obtain ⟨hid, -, hflags⟩ := m.moved_restore t e row (t.newFaction e)
        have hrestored : (⟨(m.restore t e row (t.newFaction e)).id, (m.restore t e row (t.newFaction e)).standing,
            (m.restore t e row (t.newFaction e)).flags⟩ : Row) = row := by
          have hfaction : row.faction = e.id := by simpa using List.find?_some hrow
          rw [hid, hflags rfl hsaved, ReputationMgr.standing_restore, Tables.newFaction, ← hfaction]
        rw [hrestored]
        exact mem_of_find?_eq_some hrow

theorem Kept.put (h : Kept t m rows) (hfind : m.factions.find id = some before) (hmoved : Moved before after) :
    Kept t (m.put id after) rows := by
  have hput (other : Nat) : (m.put id after).factions.find other = if other = id then some after else m.factions.find other :=
    find_insert after
  refine ⟨fun other howner => ?_, fun other e howner => ?_, fun other faction hother hsaved => ?_⟩
  · have hnone := h.owned other howner
    rw [hput, if_neg fun heq => by simp [heq, hfind] at hnone]
    exact hnone
  · obtain ⟨faction, hfaction, hid, hwithin⟩ := h.states other e howner
    by_cases heq : other = id
    · rw [heq, hfind] at hfaction
      cases hfaction
      exact ⟨after, by rw [hput, if_pos heq], hmoved.id.trans hid, hmoved.within _ hwithin⟩
    · exact ⟨faction, by rw [hput, if_neg heq, hfaction], hid, hwithin⟩
  · rw [hput] at hother
    split at hother
    · cases hother
      rcases hmoved.saved with rfl | hneeds
      · exact h.saved id _ hfind hsaved
      · exact absurd hneeds (by simp [hsaved])
    · exact h.saved other faction hother hsaved

section

variable (h : Kept t m rows)
include h

theorem Kept.setVisible (factionEntry : Nat) : Kept t (m.setVisible t factionEntry) rows := by
  unfold ReputationMgr.setVisible
  split
  · exact h
  · split
    · split
      · exact h
      · exact h.put (by assumption) (FactionState.moved_setVisible _)
    · exact h

theorem Kept.setAtWar (repListID : Nat) (on : Bool) : Kept t (m.setAtWar repListID on).1 rows := by
  unfold ReputationMgr.setAtWar
  split
  · exact h
  · exact h.put (by assumption) (FactionState.moved_setAtWarById _ on)

theorem Kept.setInactive (repListID : Nat) (on : Bool) : Kept t (m.setInactive repListID on) rows := by
  unfold ReputationMgr.setInactive
  split
  · exact h
  · exact h.put (by assumption) (FactionState.moved_setInactive _ on)

section

variable (hook : Nat → Int → Int)

include hook

theorem Kept.setOneFactionReputation (e : FactionEntry) (standing : Int) (incremental noBase : Bool) :
    Kept t (m.setOneFactionReputation t hook e standing incremental noBase).1 rows := by
  unfold ReputationMgr.setOneFactionReputation
  split
  · exact h
  · exact h.put (by assumption) (FactionState.moved_setOne _ t e _ standing incremental noBase)

theorem Kept.spill (standing : Int) (incremental noBase : Bool) (spillover : Spillover) :
    Kept t (ReputationMgr.spill t hook standing incremental noBase m spillover) rows := by
  unfold ReputationMgr.spill
  split
  · exact h
  · split
    · exact h
    · split
      · exact h.setOneFactionReputation hook _ _ incremental noBase
      · exact h

theorem Kept.spillAll (standing : Int) (incremental noBase : Bool) (spillovers : List Spillover) :
    Kept t (spillovers.foldl (ReputationMgr.spill t hook standing incremental noBase) m) rows := by
  induction spillovers generalizing m with
  | nil => exact h
  | cons spillover rest ih => exact ih (h.spill hook standing incremental noBase spillover)

theorem Kept.setReputation (factionEntry : Nat) (standing : Int)
    (incremental noSpillover noBase : Bool) :
    Kept t (m.setReputation t hook factionEntry standing incremental noSpillover noBase).1 rows := by
  unfold ReputationMgr.setReputation
  split
  · exact h
  · dsimp only
    split
    · exact h.setOneFactionReputation hook _ standing incremental noBase
    · exact (h.spillAll hook standing incremental noBase _).setOneFactionReputation hook _ standing incremental noBase

end

end

theorem mem_saveFaction_self (h : faction.needSave = false → ⟨faction.id, faction.standing, faction.flags⟩ ∈ rows) :
    ⟨faction.id, faction.standing, faction.flags⟩ ∈ ReputationMgr.saveFaction rows faction := by
  unfold ReputationMgr.saveFaction
  split
  · exact mem_append_right _ mem_cons_self
  · rename_i hsaved
    exact h (Bool.eq_false_iff.mpr hsaved)

theorem mem_saveFaction_other (hrow : row ∈ rows) (hother : row.faction ≠ faction.id) :
    row ∈ ReputationMgr.saveFaction rows faction := by
  unfold ReputationMgr.saveFaction
  split
  · exact mem_append_left _ (mem_filter.mpr ⟨hrow, decide_eq_true hother⟩)
  · exact hrow

theorem mem_saveFactions_other {list : List (Nat × FactionState)} (hrow : row ∈ rows)
    (hother : ∀ entry ∈ list, row.faction ≠ entry.2.id) :
    row ∈ list.foldl (fun rows entry => ReputationMgr.saveFaction rows entry.2) rows := by
  induction list generalizing rows with
  | nil => exact hrow
  | cons entry rest ih =>
    obtain ⟨hentry, hrest⟩ := forall_mem_cons.mp hother
    exact ih (mem_saveFaction_other hrow hentry) hrest

theorem mem_saveFactions {list : List (Nat × FactionState)}
    (hapart : list.Pairwise fun first second => first.2.id ≠ second.2.id) (hmem : (id, faction) ∈ list)
    (h : faction.needSave = false → ⟨faction.id, faction.standing, faction.flags⟩ ∈ rows) :
    ⟨faction.id, faction.standing, faction.flags⟩ ∈
      list.foldl (fun rows entry => ReputationMgr.saveFaction rows entry.2) rows := by
  induction list generalizing rows with
  | nil => exact absurd hmem not_mem_nil
  | cons entry rest ih =>
    obtain ⟨hentry, hrest⟩ := pairwise_cons.mp hapart
    rcases mem_cons.mp hmem with rfl | hmem
    · rw [foldl_cons]
      exact mem_saveFactions_other (mem_saveFaction_self h) hentry
    · exact ih hrest hmem fun hsaved => mem_saveFaction_other (h hsaved) (hentry _ hmem).symm

theorem Readable.saveFaction (h : Readable t rows) (howner : ∀ e, t.getFactionEntry faction.id = some e →
    e.canHaveReputation = true → t.owner e.repListID = some e) : Readable t (ReputationMgr.saveFaction rows faction) := by
  unfold ReputationMgr.saveFaction
  split
  · refine ⟨?_, fun row hrow => ?_⟩
    · rw [map_append]
      refine Lists.nodup_concat (h.key.sublist (filter_sublist.map _)) fun hin => ?_
      obtain ⟨row, hrow, hid⟩ := mem_map.mp hin
      exact absurd hid (by simpa using (mem_filter.mp hrow).2)
    · rcases mem_append.mp hrow with hrow | hrow
      · exact h.owned row (mem_filter.mp hrow).1
      · rw [mem_singleton.mp hrow]
        exact howner
  · exact h

theorem Kept.owner_entry (h : Kept t m rows) (hfind : m.factions.find id = some faction) :
    ∃ e, t.owner id = some e ∧ faction.id = e.id ∧ Within (t.getDefaultStateFlags e) faction.flags := by
  cases howner : t.owner id with
  | none => simp [h.owned id howner] at hfind
  | some e =>
    obtain ⟨state, hstate, hid, hwithin⟩ := h.states id e howner
    obtain rfl := Option.some.inj (hstate.symm.trans hfind)
    exact ⟨e, rfl, hid, hwithin⟩

theorem Kept.readable_saveToDB (h : Kept t m rows) (hrows : Readable t rows) : Readable t (m.saveToDB rows).2 := by
  have hfold (list : List (Nat × FactionState)) (hlist : ∀ entry ∈ list, entry ∈ m.factions.entries) {rows : List Row}
      (hrows : Readable t rows) :
      Readable t (list.foldl (fun rows entry => ReputationMgr.saveFaction rows entry.2) rows) := by
    induction list generalizing rows with
    | nil => exact hrows
    | cons entry rest ih =>
      obtain ⟨hentry, hrest⟩ := forall_mem_cons.mp hlist
      refine ih hrest (hrows.saveFaction fun e he _ => ?_)
      obtain ⟨e', howner, hid, -⟩ := h.owner_entry (find_of_mem hentry)
      obtain ⟨hentry, -, hlist⟩ := Tables.of_owner howner
      rw [hid, hentry] at he
      cases he
      rw [hlist, howner]
  exact hfold _ (fun _ hentry => hentry) hrows

theorem Kept.mem_saveToDB (h : Kept t m rows) (hfind : m.factions.find id = some faction) :
    ⟨faction.id, faction.standing, faction.flags⟩ ∈ (m.saveToDB rows).2 := by
  refine mem_saveFactions (m.factions.sorted.imp_of_mem fun {first second} hfirst hsecond hless hsame => ?_)
    (mem_of_find hfind) (h.saved id faction hfind)
  obtain ⟨e, howner, hid, -⟩ := h.owner_entry (find_of_mem hfirst)
  obtain ⟨e', howner', hid', -⟩ := h.owner_entry (find_of_mem hsecond)
  obtain ⟨hentry, -, hlist⟩ := Tables.of_owner howner
  obtain ⟨hentry', -, hlist'⟩ := Tables.of_owner howner'
  rw [← hid, hsame, hid', hentry'] at hentry
  cases hentry
  exact absurd (hlist.symm.trans hlist') hless.ne

theorem find_saveToDB (m : ReputationMgr) (rows : List Row) (id : Nat) :
    (m.saveToDB rows).1.factions.find id = (m.factions.find id).map fun faction => { faction with needSave := false } := by
  refine Option.ext fun faction => ?_
  rw [find_eq_some_iff, Option.map_eq_some_iff]
  refine mem_map.trans ⟨?_, ?_⟩
  · rintro ⟨entry, hentry, heq⟩
    cases heq
    exact ⟨entry.2, find_of_mem hentry, rfl⟩
  · rintro ⟨state, hstate, rfl⟩
    exact ⟨(id, state), mem_of_find hstate, rfl⟩

theorem Kept.saveToDB (h : Kept t m rows) : Kept t (m.saveToDB rows).1 (m.saveToDB rows).2 := by
  refine ⟨fun id howner => ?_, fun id e howner => ?_, fun id faction hfind _ => ?_⟩
  · rw [find_saveToDB, h.owned id howner, Option.map_none]
  · obtain ⟨faction, hfind, hfaction⟩ := h.states id e howner
    exact ⟨{ faction with needSave := false }, by rw [find_saveToDB, hfind, Option.map_some], hfaction⟩
  · rw [find_saveToDB] at hfind
    obtain ⟨state, hstate, rfl⟩ := Option.map_eq_some_iff.mp hfind
    have hmem := h.mem_saveToDB hstate
    exact hmem

namespace Stored

theorem kept_run (hrows : Readable t rows) (ops : List Op) :
    Kept t (run (step t) (load t rows) ops).mgr (run (step t) (load t rows) ops).rows ∧
      Readable t (run (step t) (load t rows) ops).rows := by
  refine run_invariant _ (fun _ _ => True) (fun s : Stored => Kept t s.mgr s.rows ∧ Readable t s.rows) (fun s op hs _ => ?_)
    ⟨kept_loadFromDB hrows _, hrows⟩ (guarded_of_forall _ _ (fun _ _ => trivial) _ _)
  obtain ⟨hkept, hreadable⟩ := hs
  cases op with
  | setReputation hook factionEntry standing incremental noSpillover noBase =>
    exact ⟨hkept.setReputation hook factionEntry standing incremental noSpillover noBase, hreadable⟩
  | setAtWar repListID on => exact ⟨hkept.setAtWar repListID on, hreadable⟩
  | setInactive repListID on => exact ⟨hkept.setInactive repListID on, hreadable⟩
  | setVisible factionEntry => exact ⟨hkept.setVisible factionEntry, hreadable⟩
  | save => exact ⟨hkept.saveToDB, hkept.readable_saveToDB hreadable⟩

-- However the rows are ordered, a fresh manager has for every faction the same
-- standing, and flags that are the same exactly where they are steady.
theorem relogged_run (t : Tables) (rows : List Row) (hrows : Readable t rows) (ops : List Op) (s : Stored)
    (hs : s = run (step t) (load t rows) ops) (result : List Row) (hresult : result.Perm (s.mgr.saveToDB s.rows).2) (id : Nat) :
    Option.Rel (fun before after => ∃ e, t.getFactionEntry before.id = some e ∧ Relogged t e before after ∧
      (after.flags = before.flags ↔ Steady t e before))
      (s.mgr.factions.find id) ((ReputationMgr.fresh.loadFromDB t result).factions.find id) := by
  obtain ⟨hkept, hreadable⟩ := kept_run hrows ops
  rw [← hs] at hkept hreadable
  have hread : Readable t result := (hkept.readable_saveToDB hreadable).perm hresult
  cases hfind : s.mgr.factions.find id with
  | none =>
    have howner : t.owner id = none := by
      cases howner : t.owner id with
      | none => rfl
      | some e =>
        obtain ⟨faction, hfaction, -⟩ := hkept.states id e howner
        simp [hfind] at hfaction
    rw [ReputationMgr.find_loadFromDB_none hread _ howner]
    exact .none
  | some before =>
    obtain ⟨e, howner, hid, hwithin⟩ := hkept.owner_entry hfind
    have hrow := Lists.find?_key hread.key (hresult.mem_iff.mpr (hkept.mem_saveToDB hfind))
    rw [hid] at hrow
    rw [ReputationMgr.find_loadFromDB hread _ howner, hrow]
    have hrelogged : Relogged t e before (ReputationMgr.fresh.restore t e ⟨e.id, before.standing, before.flags⟩ (t.newFaction e)) :=
      ReputationMgr.relogged_restore rfl hwithin rfl rfl rfl
    exact .some ⟨e, hid ▸ (Tables.of_owner howner).1, hrelogged, hrelogged.flags_eq_iff⟩

-- A player is no longer at war with a hated faction, and is again after a relog.

def enemy : FactionEntry := ⟨21, 0, fun _ => 0, fun _ => 0, fun _ => -10000, fun _ => FACTION_FLAG_VISIBLE ||| FACTION_FLAG_AT_WAR⟩

def enemyOnly : Tables := ⟨[enemy], nodup_singleton _, fun _ => none, 1, 1⟩

def atPeace : Stored := run (step enemyOnly) (load enemyOnly []) [.setAtWar 0 false]

theorem readable_nil : Readable t [] := ⟨nodup_nil, fun _ h => absurd h not_mem_nil⟩

theorem relogged_run_enemy : (atPeace.mgr.factions.find 0).isSome = true ∧
    Option.Rel (fun before after => ∃ e, enemyOnly.getFactionEntry before.id = some e ∧ Relogged enemyOnly e before after ∧
      (after.flags = before.flags ↔ Steady enemyOnly e before))
      (atPeace.mgr.factions.find 0)
      ((ReputationMgr.fresh.loadFromDB enemyOnly (atPeace.mgr.saveToDB atPeace.rows).2).factions.find 0) :=
  ⟨by decide +kernel, relogged_run enemyOnly [] readable_nil [.setAtWar 0 false] atPeace rfl _ (.refl _) 0⟩

theorem not_same_run : ¬∀ (t : Tables) (rows : List Row), Readable t rows → ∀ (ops : List Op) (s : Stored),
    s = run (step t) (load t rows) ops → ∀ result : List Row, result.Perm (s.mgr.saveToDB s.rows).2 → ∀ id,
      Option.Rel (fun before after => after.standing = before.standing ∧ after.flags = before.flags)
        (s.mgr.factions.find id) ((ReputationMgr.fresh.loadFromDB t result).factions.find id) := by
  intro h
  have hsame := h enemyOnly [] readable_nil [.setAtWar 0 false] atPeace rfl _ (.refl _) 0
  have hbefore : (atPeace.mgr.factions.find 0).map (fun faction => faction.flags) = some FACTION_FLAG_VISIBLE := by decide +kernel
  have hafter : ((ReputationMgr.fresh.loadFromDB enemyOnly (atPeace.mgr.saveToDB atPeace.rows).2).factions.find 0).map
      (fun faction => faction.flags) = some (FACTION_FLAG_VISIBLE ||| FACTION_FLAG_AT_WAR) := by decide +kernel
  revert hsame hbefore hafter
  cases atPeace.mgr.factions.find 0 with
  | none => simp
  | some before =>
    cases (ReputationMgr.fresh.loadFromDB enemyOnly (atPeace.mgr.saveToDB atPeace.rows).2).factions.find 0 with
    | none => simp
    | some after =>
      rintro ⟨-, hflags⟩ hbefore hafter
      rw [Option.map_some, Option.some.injEq] at hbefore hafter
      rw [hflags, hbefore] at hafter
      exact absurd hafter (by decide)

end Stored

end TurtleWow.Reputation

import Mathlib.Data.List.Dedup
import Mathlib.Data.List.Forall2
import TurtleWow.Instances.PackInstances

namespace TurtleWow.Instances

open Table List

-- The renaming loop, and the renumbering of tables without leftovers

namespace Tables

variable {t after : Tables} {table : TableName} {i number : Nat} {ids : List Nat}

-- The rest of the loop: its ids are above the next number, and no row has a
-- number that is still to be given.
structure Ready (ids : List Nat) (number : Nat) (t : Tables) : Prop where
  sorted : ids.Pairwise (· < ·)
  above : ∀ i ∈ ids, number < i
  instanceKeys : Keyed Instance.id t.instances
  instances : ∀ old ∈ t.instances, old.id ∈ ids ∨ old.id < number
  keys : ∀ table, Keyed table.key (t.rows table)
  rows : ∀ table, ∀ row ∈ t.rows table,
    row.instanceId < number ∨ row.instanceId ∈ ids ∨ number + ids.length ≤ row.instanceId

def finalId (ids : List Nat) (number id : Nat) : Nat := if id ∈ ids then number + ids.idxOf id else id

def final (ids : List Nat) (number : Nat) (t : Tables) : Tables where
  instances := t.instances.map fun old => { old with id := finalId ids number old.id }
  rows := fun table => (t.rows table).map fun row => { row with instanceId := finalId ids number row.instanceId }

theorem finalId_nil (number id : Nat) : finalId [] number id = id := if_neg not_mem_nil

theorem finalId_cons (hnot : number ∉ ids) (id : Nat) :
    finalId ids (number + 1) (if id = i then number else id) = finalId (i :: ids) number id := by
  rw [finalId, finalId]
  by_cases hi : id = i
  · rw [if_pos hi, if_neg hnot, if_pos (hi ▸ mem_cons_self), hi, idxOf_cons_self]
    rfl
  · rw [if_neg hi]
    by_cases hin : id ∈ ids
    · rw [if_pos hin, if_pos (mem_cons_of_mem i hin), idxOf_cons_ne ids (Ne.symm hi)]
      omega
    · rw [if_neg hin, if_neg fun hmem => (mem_cons.mp hmem).elim hi hin]

theorem Ready.free_instances (h : Ready (i :: ids) number t) : ∀ old ∈ t.instances, old.id ≠ number := by
  intro old hold hsame
  rcases h.instances old hold with hin | hless
  · exact absurd (h.above _ hin) (by omega)
  · omega

theorem Ready.free_rows (h : Ready (i :: ids) number t) (table : TableName) :
    ∀ row ∈ t.rows table, row.instanceId ≠ number := by
  intro row hrow hsame
  rcases h.rows table row hrow with hless | hin | hge
  · omega
  · exact absurd (h.above _ hin) (by omega)
  · rw [length_cons] at hge
    omega

theorem remappedInstance_cases (i number : Nat) (old : Instance) :
    old.id = i ∧ (remappedInstance i number old).id = number ∨
      old.id ≠ i ∧ (remappedInstance i number old).id = old.id := by
  rw [remappedInstance]
  split
  · next hi => exact .inl ⟨hi, rfl⟩
  · next hi => exact .inr ⟨hi, rfl⟩

theorem remappedRow_cases (i number : Nat) (row : Row) :
    row.instanceId = i ∧ (remappedRow i number row).instanceId = number ∨
      row.instanceId ≠ i ∧ (remappedRow i number row).instanceId = row.instanceId := by
  rw [remappedRow]
  split
  · next hi => exact .inl ⟨hi, rfl⟩
  · next hi => exact .inr ⟨hi, rfl⟩

theorem Ready.next (h : Ready (i :: ids) number t) : Ready ids (number + 1) (remapped i number t) := by
  obtain ⟨hless, hsorted⟩ := pairwise_cons.mp h.sorted
  have hi := h.above i mem_cons_self
  refine ⟨hsorted, fun later hlater => ?_, ?_, fun new hnew => ?_, fun table => ?_, fun table new hnew => ?_⟩
  · have := hless later hlater
    omega
  · refine keyed_map h.instanceKeys fun old hold other hother hne hsame => ?_
    have hfree := h.free_instances old hold
    have hfree' := h.free_instances other hother
    rcases remappedInstance_cases i number old with ⟨heq, hid⟩ | ⟨heq, hid⟩
    · rcases remappedInstance_cases i number other with ⟨heq', hid'⟩ | ⟨heq', hid'⟩
      · omega
      · omega
    · rcases remappedInstance_cases i number other with ⟨heq', hid'⟩ | ⟨heq', hid'⟩
      · omega
      · omega
  · obtain ⟨old, hold, rfl⟩ := mem_map.mp hnew
    rcases remappedInstance_cases i number old with ⟨heq, hid⟩ | ⟨heq, hid⟩
    · exact .inr (by omega)
    · rw [hid]
      rcases h.instances old hold with hin | hlower
      · exact .inl ((mem_cons.mp hin).resolve_left heq)
      · exact .inr (by omega)
  · exact keyed_map (h.keys table) fun row hrow other hother hne =>
      key_ne_of_injective (remappedRow_guid i number)
        (remappedRow_injective (h.free_rows table row hrow) (h.free_rows table other hother)) hne
  · obtain ⟨row, hrow, rfl⟩ := mem_map.mp hnew
    rcases remappedRow_cases i number row with ⟨heq, hid⟩ | ⟨heq, hid⟩
    · exact .inl (by omega)
    · rw [hid]
      rcases h.rows table row hrow with hlower | hin | hge
      · exact .inl (by omega)
      · exact .inr (.inl ((mem_cons.mp hin).resolve_left heq))
      · rw [length_cons] at hge
        exact .inr (.inr (by omega))

theorem remapAll_eq (h : Ready ids number t) :
    remapAll ids number t = final ids number t ∧ Ready [] (number + ids.length) (remapAll ids number t) := by
  induction ids generalizing number t with
  | nil =>
    refine ⟨?_, h⟩
    rw [remapAll, final]
    simp only [finalId_nil, map_id']
  | cons i rest ih =>
    have hi := h.above i mem_cons_self
    have hstep : remapAll (i :: rest) number t = remapAll rest (number + 1) (remapped i number t) := by
      rw [remapAll, if_pos (by omega), transaction_remap h.instanceKeys h.keys h.free_instances h.free_rows]
    obtain ⟨heq, hready⟩ := ih h.next
    rw [hstep]
    refine ⟨heq.trans ?_, ?_⟩
    · have hnot : number ∉ rest := fun hin => Nat.lt_irrefl _ (h.above number (mem_cons_of_mem i hin))
      rw [final, final, remapped, Tables.mk.injEq]
      refine ⟨?_, funext fun table => ?_⟩
      · rw [map_map]
        refine map_congr_left fun old _ => ?_
        rw [← finalId_cons (i := i) hnot old.id]
        show ({ remappedInstance i number old with id := _ } : Instance) = _
        rw [remappedInstance]
        split
        · rfl
        · rfl
      · dsimp only
        rw [map_map]
        refine map_congr_left fun row _ => ?_
        rw [← finalId_cons (i := i) hnot row.instanceId]
        show ({ remappedRow i number row with instanceId := _ } : Row) = _
        rw [remappedRow]
        split
        · rfl
        · rfl
    · rw [length_cons, Nat.add_comm rest.length 1, ← Nat.add_assoc]
      exact hready

theorem movedRow_spared (table : TableName) (row : Row) :
    (movedRow table row).instanceId = row.instanceId + reservedInstancesLast ∧
        (reservedInstancesLast ≤ row.instanceId ∨ spares table = false) ∨
      (movedRow table row).instanceId = row.instanceId ∧ row.instanceId < reservedInstancesLast := by
  rw [movedRow]
  split
  · next h =>
      refine .inl ⟨rfl, ?_⟩
      cases table with
      | creatureRespawn | gameobjectRespawn => exact .inl (of_decide_eq_true h)
      | corpse | characterInstance | groupInstance => exact .inr rfl
  · next h => exact .inr ⟨rfl, Nat.lt_of_not_le fun hle => h (moves_of_reserved table hle)⟩

def movedIds (t : Tables) : List Nat := t.moved.instanceSet

variable {id : Nat}

theorem mem_movedIds : id ∈ t.movedIds ↔ ∃ i ∈ t.kept, i.id + reservedInstancesLast = id := by
  rw [movedIds, instanceSet, mem_insertionSort, mem_dedup, moved, map_map, mem_map]
  rfl

theorem mem_movedIds_add : id + reservedInstancesLast ∈ t.movedIds ↔ t.Keeps id := by
  rw [mem_movedIds, Keeps]
  refine exists_congr fun i => and_congr_right fun _ => ?_
  omega

theorem nodup_movedIds (t : Tables) : t.movedIds.Nodup :=
  (perm_insertionSort (· ≤ ·) _).nodup_iff.mpr (nodup_dedup _)

theorem sorted_movedIds (t : Tables) : t.movedIds.Pairwise (· < ·) :=
  ((pairwise_insertionSort (· ≤ ·) _).and (nodup_movedIds t)).imp fun h => Nat.lt_of_le_of_ne h.1 h.2

section

variable (h : t.WellFormed)

include h

theorem keyed_moved_instances : Keyed Instance.id t.moved.instances :=
  keyed_map (h.ids.filter _) fun _ _ _ _ hne hsame => hne (Nat.add_right_cancel hsame)

theorem length_movedIds : t.movedIds.length = t.kept.length := by
  have hnodup : (t.moved.instances.map (·.id)).Nodup := keyed_moved_instances h
  rw [movedIds, instanceSet, length_insertionSort, hnodup.dedup, length_map, moved, length_map]

theorem reserved_of_keeps (hid : t.Keeps id) : reservedInstancesLast ≤ id := by
  obtain ⟨i, hi, rfl⟩ := hid
  exact h.reserved i (mem_of_mem_filter hi)

theorem ready_moved (hpackable : t.Packable) : Ready t.movedIds reservedInstancesLast t.moved where
  sorted := sorted_movedIds t
  above := fun id hid => by
    obtain ⟨i, hi, rfl⟩ := mem_movedIds.mp hid
    have hreserved := reserved_of_keeps h ⟨i, hi, rfl⟩
    have hpositive : 0 < reservedInstancesLast := by decide
    omega
  instanceKeys := keyed_moved_instances h
  instances := fun old hold => by
    obtain ⟨i, hi, rfl⟩ := mem_map.mp hold
    exact .inl (mem_movedIds.mpr ⟨i, hi, rfl⟩)
  keys := keyed_moved h
  rows := fun table new hnew => by
    obtain ⟨row, hrow, rfl⟩ := mem_map.mp hnew
    rcases movedRow_spared table row with ⟨hid, hmoves⟩ | ⟨hid, hsmall⟩
    · have hreserved : reservedInstancesLast ≤ row.instanceId :=
        hmoves.elim id fun hspared => hpackable.outside table hspared row hrow
      rw [hid]
      by_cases hkeeps : t.Keeps row.instanceId
      · exact .inr (.inl (mem_movedIds_add.mpr hkeeps))
      · have hleft := hpackable.leftover table row hrow hreserved hkeeps
        rw [length_movedIds h]
        exact .inr (.inr (by omega))
    · exact .inl (by omega)

theorem packInstances_eq (hpackable : t.Packable) : t.packInstances = final t.movedIds reservedInstancesLast t.moved ∧
      Ready [] (reservedInstancesLast + t.kept.length) t.packInstances := by
  have hready := remapAll_eq (ready_moved h hpackable)
  rw [length_movedIds h] at hready
  rw [packInstances, transaction_moveAll h]
  exact hready

end

def newId (t : Tables) (id : Nat) : Nat := reservedInstancesLast + t.movedIds.idxOf (id + reservedInstancesLast)

theorem finalId_of_keeps (h : t.Keeps id) :
    finalId t.movedIds reservedInstancesLast (id + reservedInstancesLast) = t.newId id :=
  if_pos (mem_movedIds_add.mpr h)

theorem newId_bounds (h : t.WellFormed) (hid : t.Keeps id) :
    reservedInstancesLast ≤ t.newId id ∧ t.newId id < reservedInstancesLast + t.kept.length := by
  have hlength := idxOf_lt_length_iff.mpr (mem_movedIds_add.mpr hid)
  rw [length_movedIds h] at hlength
  rw [newId]
  omega

theorem newId_surjective (h : t.WellFormed) (hlow : reservedInstancesLast ≤ id)
    (hhigh : id < reservedInstancesLast + t.kept.length) : ∃ i ∈ t.kept, t.newId i.id = id := by
  have hlt : id - reservedInstancesLast < t.movedIds.length := by
    rw [length_movedIds h]
    omega
  obtain ⟨i, hi, hid⟩ := mem_movedIds.mp (getElem_mem hlt)
  refine ⟨i, hi, ?_⟩
  rw [newId, hid, (nodup_movedIds t).idxOf_getElem]
  omega

theorem newId_less {i j : Instance} (hi : i ∈ t.kept) (hj : j ∈ t.kept) (h : i.id < j.id) : t.newId i.id < t.newId j.id := by
  have hi' : i.id + reservedInstancesLast ∈ t.movedIds := mem_movedIds.mpr ⟨i, hi, rfl⟩
  have hj' : j.id + reservedInstancesLast ∈ t.movedIds := mem_movedIds.mpr ⟨j, hj, rfl⟩
  have hltI := idxOf_lt_length_iff.mpr hi'
  have hltJ := idxOf_lt_length_iff.mpr hj'
  have hsorted := pairwise_iff_getElem.mp (sorted_movedIds t)
  rw [newId, newId]
  rcases Nat.lt_trichotomy (t.movedIds.idxOf (i.id + reservedInstancesLast))
    (t.movedIds.idxOf (j.id + reservedInstancesLast)) with hless | heq | hgreater
  · omega
  · have hsame := getElem_idxOf hltI
    simp only [heq, getElem_idxOf] at hsame
    omega
  · have hback := hsorted _ _ hltJ hltI hgreater
    rw [getElem_idxOf, getElem_idxOf] at hback
    omega

theorem not_mem_movedIds (h : t.WellFormed) (hid : id < reservedInstancesLast) : id ∉ t.movedIds := by
  intro hmem
  obtain ⟨i, hi, hsame⟩ := mem_movedIds.mp hmem
  have hreserved := reserved_of_keeps h ⟨i, hi, rfl⟩
  omega

theorem refers_final (h : t.WellFormed) (hpackable : t.Packable) {row : Row} (hrow : row ∈ t.rows table) :
    t.Refers t.newId row { movedRow table row with
      instanceId := finalId t.movedIds reservedInstancesLast (movedRow table row).instanceId } := by
  rcases movedRow_spared table row with ⟨hid, hmoves⟩ | ⟨hid, hsmall⟩
  · have hreserved : reservedInstancesLast ≤ row.instanceId :=
      hmoves.elim id fun hspared => hpackable.outside table hspared row hrow
    refine ⟨movedRow_guid table row, fun hkeeps => ?_, fun hnot i hi => ?_, fun hsmall => ?_⟩
    · show finalId _ _ (movedRow table row).instanceId = _
      rw [hid, finalId_of_keeps hkeeps]
    · show finalId _ _ (movedRow table row).instanceId ≠ _
      rw [hid, finalId, if_neg fun hmem => hnot (mem_movedIds_add.mp hmem)]
      have hleft := hpackable.leftover table row hrow hreserved hnot
      have hbounds := newId_bounds h ⟨i, hi, rfl⟩
      omega
    · omega
  · have hfinal : finalId t.movedIds reservedInstancesLast (movedRow table row).instanceId = row.instanceId := by
      rw [hid, finalId, if_neg (not_mem_movedIds h hsmall)]
    refine ⟨movedRow_guid table row, fun hkeeps => ?_, fun _ i hi => ?_, fun _ => hfinal⟩
    · have hreserved := reserved_of_keeps h hkeeps
      omega
    · show finalId _ _ (movedRow table row).instanceId ≠ _
      rw [hfinal]
      have hbounds := newId_bounds h ⟨i, hi, rfl⟩
      omega

theorem renumberedBy_packInstances (h : t.WellFormed) (hpackable : t.Packable) :
    RenumberedBy t.newId t t.packInstances := by
  rw [(packInstances_eq h hpackable).1]
  refine ⟨?_, fun id => ⟨?_, fun hbounds => newId_surjective h hbounds.1 hbounds.2⟩,
    fun i hi j hj => newId_less hi hj, fun table => ?_⟩
  · rw [final, moved, map_map]
    refine map_congr_left fun i hi => ?_
    show ({ i with id := finalId _ _ (i.id + reservedInstancesLast) } : Instance) = _
    rw [finalId_of_keeps ⟨i, hi, rfl⟩]
  · rintro ⟨i, hi, rfl⟩
    exact newId_bounds h ⟨i, hi, rfl⟩
  · rw [final, moved]
    dsimp only
    rw [map_map, forall₂_map_right_iff, forall₂_same]
    exact fun row hrow => refers_final h hpackable hrow

end Tables

end TurtleWow.Instances

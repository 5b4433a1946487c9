import TurtleWow.Instances.Renumbered

namespace TurtleWow.Instances

open Run Table List

-- When the renumbering keeps the references, over any number of restarts

namespace Tables

variable {t middle after : Tables} {table : TableName} {i number : Nat} {ids : List Nat}

-- Rows change in place, only those of the ids, and stay behind the reserved ones.
def InPlace (ids : List Nat) (t after : Tables) : Prop :=
  ∀ table, ∃ change : Row → Row, after.rows table = (t.rows table).map change ∧
    (∀ row, row.instanceId ∉ ids → change row = row) ∧
    ∀ row, reservedInstancesLast ≤ row.instanceId → reservedInstancesLast ≤ (change row).instanceId

theorem inPlace_of_rows (h : after.rows = t.rows) : InPlace ids t after := fun table =>
  ⟨id, by rw [h, map_id], fun _ _ => rfl, fun _ h => h⟩

theorem InPlace.trans (h : InPlace ids t middle) (h' : InPlace ids middle after) : InPlace ids t after := by
  intro table
  obtain ⟨first, hfirst, hsame, hreserved⟩ := h table
  obtain ⟨second, hsecond, hsame', hreserved'⟩ := h' table
  refine ⟨fun row => second (first row), ?_, fun row hrow => ?_, fun row hrow => hreserved' _ (hreserved row hrow)⟩
  · rw [hsecond, hfirst, map_map]
    rfl
  · show second (first row) = row
    rw [hsame row hrow, hsame' row hrow]

theorem InPlace.mono {more : List Nat} (h : InPlace ids t after) (hsub : ∀ id ∈ ids, id ∈ more) : InPlace more t after := by
  intro table
  obtain ⟨change, hrows, hsame, hreserved⟩ := h table
  exact ⟨change, hrows, fun row hrow => hsame row fun hmem => hrow (hsub _ hmem), hreserved⟩

theorem inPlace_remapTable (hnumber : reservedInstancesLast ≤ number) :
    InPlace [i] t (remapTable table i number t).1 := by
  rw [remapTable, updateTable]
  split
  · exact inPlace_of_rows rfl
  · intro other
    by_cases hsame : other = table
    · subst hsame
      obtain ⟨change, hrows, hkeep, hpreserve⟩ := updateRows_map other.key
        (fun row => { row with instanceId := number })
        (((t.rows other).filter fun row => row.instanceId = i).insertionSort unordered) (t.rows other)
      refine ⟨change, (if_pos rfl).trans hrows, fun row hrow => hkeep row fun hmem => hrow ?_, ?_⟩
      · exact mem_singleton.mpr (of_decide_eq_true (mem_affected.mp hmem).2)
      · exact hpreserve (fun row => reservedInstancesLast ≤ row.instanceId) fun _ _ => hnumber
    · exact ⟨id, (if_neg hsame).trans (map_id _).symm, fun _ _ => rfl, fun _ h => h⟩

theorem inPlace_execute {start : Tables} {statements : List Statement}
    (hstatements : ∀ statement ∈ statements, ∀ t, InPlace ids t (statement t).1) (h : InPlace ids start t) :
    InPlace ids start (execute start statements t) := by
  induction statements generalizing t with
  | nil => exact h
  | cons statement rest ih =>
    have hfirst := h.trans (hstatements statement mem_cons_self t)
    rw [execute]
    split
    · next ok heq =>
        rw [heq] at hfirst
        exact ih (fun next hnext => hstatements next (mem_cons_of_mem statement hnext)) hfirst
    · next failed heq =>
        rw [heq] at hfirst
        intro table
        cases htransactional : table.transactional with
        | true => exact ⟨id, by simp only [htransactional, if_true, map_id], fun _ _ => rfl, fun _ h => h⟩
        | false =>
          obtain ⟨change, hrows, hsame, hreserved⟩ := hfirst table
          refine ⟨change, ?_, hsame, hreserved⟩
          simp only [htransactional, Bool.false_eq_true, if_false]
          exact hrows

theorem inPlace_remap (hnumber : reservedInstancesLast ≤ number) : InPlace [i] t (transaction (remap i number) t) := by
  refine inPlace_execute (fun statement hstatement other => ?_) (inPlace_of_rows rfl)
  simp only [remap, mem_cons, not_mem_nil, or_false] at hstatement
  rcases hstatement with rfl | rfl | rfl | rfl | rfl | rfl
  · exact inPlace_remapTable hnumber
  · exact inPlace_remapTable hnumber
  · exact inPlace_remapTable hnumber
  · exact inPlace_remapTable hnumber
  · exact inPlace_of_rows rfl
  · exact inPlace_remapTable hnumber

theorem inPlace_remapAll (hnumber : reservedInstancesLast ≤ number) : InPlace ids t (remapAll ids number t) := by
  induction ids generalizing number t with
  | nil => exact inPlace_of_rows rfl
  | cons i rest ih =>
    have hrest : ∀ other, InPlace (i :: rest) other (remapAll rest (number + 1) other) := fun other =>
      (ih (t := other) (Nat.le_succ_of_le hnumber)).mono fun _ hid => mem_cons_of_mem i hid
    rw [remapAll]
    split
    · exact ((inPlace_remap hnumber).mono fun id hid => mem_singleton.mp hid ▸ mem_cons_self).trans (hrest _)
    · exact hrest _

theorem inPlace_packInstances (h : t.WellFormed) : InPlace t.movedIds t.moved t.packInstances := by
  rw [packInstances, transaction_moveAll h]
  exact inPlace_remapAll (Nat.le_refl _)

theorem movedRow_of_not_spared (hspared : spares table = false) (row : Row) :
    (movedRow table row).instanceId = row.instanceId + reservedInstancesLast := by
  cases table with
  | creatureRespawn | gameobjectRespawn => cases hspared
  | corpse | characterInstance | groupInstance => rfl

-- A row that the renumbering must leave alone, or that is left over below the
-- number of kept instances, breaks it whether a statement fails or not.
theorem packable_of_renumbered (h : t.WellFormed) (hrenumbered : Renumbered t t.packInstances) : t.Packable := by
  obtain ⟨newId, hnew⟩ := hrenumbered
  have hplace := inPlace_packInstances h
  have hrefers : ∀ table, ∃ change : Row → Row,
      (∀ row, row.instanceId ∉ t.movedIds → change row = row) ∧
      (∀ row, reservedInstancesLast ≤ row.instanceId → reservedInstancesLast ≤ (change row).instanceId) ∧
      ∀ row ∈ t.rows table, t.Refers newId row (change (movedRow table row)) := by
    intro table
    obtain ⟨change, hrows, hsame, hreserved⟩ := hplace table
    have hforall := hnew.rows table
    rw [hrows, moved] at hforall
    rw [map_map, forall₂_map_right_iff, forall₂_same] at hforall
    exact ⟨change, hsame, hreserved, hforall⟩
  constructor
  · intro table hspared row hrow
    obtain ⟨change, -, hreserved, hrefers⟩ := hrefers table
    refine Nat.le_of_not_lt fun hsmall => ?_
    have houtside := (hrefers row hrow).outside hsmall
    have hmoved := movedRow_of_not_spared hspared row
    have hkept := hreserved (movedRow table row) (by omega)
    omega
  · intro table row hrow hlarge hnot
    obtain ⟨change, hsame, -, hrefers⟩ := hrefers table
    refine Nat.le_of_not_lt fun hless => ?_
    rcases movedRow_spared table row with ⟨hid, -⟩ | ⟨-, hsmall⟩
    · have hchange : change (movedRow table row) = movedRow table row :=
        hsame _ fun hmem => hnot (mem_movedIds_add.mp (hid ▸ hmem))
      obtain ⟨i, hi, hplace⟩ := (hnew.ids (row.instanceId + reservedInstancesLast)).mpr ⟨by omega, by omega⟩
      have hother := (hrefers row hrow).other hnot i hi
      rw [hchange, hid, hplace] at hother
      exact hother rfl
    · omega

variable {newId : Nat → Nat}

theorem mem_kept_renumbered (h : RenumberedBy newId t after) :
    after.kept = t.kept.map fun i => { i with id := newId i.id } := by
  rw [Tables.kept, h.instances, filter_map]
  refine congrArg (List.map _) (filter_eq_self.mpr fun i hi => ?_)
  exact (mem_filter.mp hi).2

theorem keeps_renumbered (h : RenumberedBy newId t after) {id : Nat} :
    after.Keeps id ↔ ∃ i ∈ t.kept, newId i.id = id := by
  rw [Keeps, mem_kept_renumbered h]
  constructor
  · rintro ⟨_, hmem, rfl⟩
    obtain ⟨i, hi, rfl⟩ := mem_map.mp hmem
    exact ⟨i, hi, rfl⟩
  · rintro ⟨i, hi, rfl⟩
    exact ⟨_, mem_map.mpr ⟨i, hi, rfl⟩, rfl⟩

theorem Refers.trans {newId' : Nat → Nat} (h : RenumberedBy newId t middle) {row new last : Row}
    (hrow : t.Refers newId row new) (hnew : middle.Refers newId' new last) :
    t.Refers (fun id => newId' (newId id)) row last where
  guid := hnew.guid.trans hrow.guid
  kept := fun hkeeps => by
    have hid := hrow.kept hkeeps
    obtain ⟨i, hi, heq⟩ := hkeeps
    rw [hnew.kept ((keeps_renumbered h).mpr ⟨i, hi, by rw [heq, hid]⟩), hid]
  other := fun hnot i hi => by
    have hother : ¬ middle.Keeps new.instanceId := by
      intro hkeeps
      obtain ⟨j, hj, heq⟩ := (keeps_renumbered h).mp hkeeps
      exact hrow.other hnot j hj heq.symm
    have hmem : ({ i with id := newId i.id } : Instance) ∈ middle.kept := by
      rw [mem_kept_renumbered h]
      exact mem_map.mpr ⟨i, hi, rfl⟩
    exact hnew.other hother _ hmem
  outside := fun hsmall => by
    have hfirst := hrow.outside hsmall
    rw [hnew.outside (hfirst ▸ hsmall), hfirst]

theorem forall₂_trans {α β γ : Type*} {R : α → β → Prop} {S : β → γ → Prop} {T : α → γ → Prop}
    (h : ∀ a b c, R a b → S b c → T a c) {first : List α} {second : List β} {third : List γ}
    (hfirst : List.Forall₂ R first second) (hsecond : List.Forall₂ S second third) : List.Forall₂ T first third := by
  induction hfirst generalizing third with
  | nil =>
    cases hsecond
    exact .nil
  | cons hhead htail ih =>
    cases hsecond with
    | cons hhead' htail' => exact .cons (h _ _ _ hhead hhead') (ih htail')

theorem RenumberedBy.trans {newId' : Nat → Nat} (h : RenumberedBy newId t middle)
    (h' : RenumberedBy newId' middle after) : RenumberedBy (fun id => newId' (newId id)) t after := by
  have hkept := mem_kept_renumbered h
  have hmem : ∀ i ∈ t.kept, ({ i with id := newId i.id } : Instance) ∈ middle.kept := fun i hi => by
    rw [hkept]
    exact mem_map.mpr ⟨i, hi, rfl⟩
  refine ⟨?_, fun id => ?_, fun i hi j hj hless => ?_, fun table => ?_⟩
  · rw [h'.instances, hkept, map_map]
    rfl
  · have hlength : middle.kept.length = t.kept.length := by rw [hkept, length_map]
    rw [← hlength, ← h'.ids id]
    constructor
    · rintro ⟨i, hi, heq⟩
      exact ⟨_, hmem i hi, heq⟩
    · rintro ⟨j, hj, heq⟩
      rw [hkept] at hj
      obtain ⟨i, hi, rfl⟩ := mem_map.mp hj
      exact ⟨i, hi, heq⟩
  · exact h'.order _ (hmem i hi) _ (hmem j hj) (h.order i hi j hj hless)
  · exact forall₂_trans (fun _ _ _ hrow hnew => hrow.trans h hnew) (h.rows table) (h'.rows table)

theorem wellFormed_packInstances (h : t.WellFormed) (hpackable : t.Packable) :
    t.packInstances.WellFormed ∧ t.packInstances.Packable := by
  have hready := (packInstances_eq h hpackable).2
  have hby := renumberedBy_packInstances h hpackable
  refine ⟨⟨hready.instanceKeys, fun i hi => ?_, hready.keys⟩,
    ⟨fun table hspared new hnew => ?_, fun table new _ hlarge hnot => ?_⟩⟩
  · rw [hby.instances] at hi
    obtain ⟨old, hold, rfl⟩ := mem_map.mp hi
    exact (newId_bounds h ⟨old, hold, rfl⟩).1
  · obtain ⟨change, hrows, -, hreserved⟩ := inPlace_packInstances h table
    rw [hrows] at hnew
    obtain ⟨_, hmoved, rfl⟩ := mem_map.mp hnew
    obtain ⟨row, -, rfl⟩ := mem_map.mp hmoved
    refine hreserved _ ?_
    have hid := movedRow_of_not_spared hspared row
    omega
  · have hlength : t.packInstances.kept.length = t.kept.length := by rw [mem_kept_renumbered hby, length_map]
    rw [hlength]
    refine Nat.le_of_not_lt fun hless => hnot ((keeps_renumbered hby).mpr ?_)
    exact newId_surjective h hlarge (by omega)

theorem wellFormed_cleanupInstances (h : t.WellFormed) (bound : Bound) : (t.cleanupInstances bound).WellFormed where
  ids := h.ids.filter _
  reserved := fun i hi => h.reserved i (mem_of_mem_filter hi)
  keys := fun table => by
    cases table with
    | corpse => exact h.keys .corpse
    | characterInstance => exact (h.keys .characterInstance).filter _
    | groupInstance => exact (h.keys .groupInstance).filter _
    | creatureRespawn => exact (h.keys .creatureRespawn).filter _
    | gameobjectRespawn => exact (h.keys .gameobjectRespawn).filter _

theorem renumbered_packInstances (h : t.WellFormed) : Renumbered t t.packInstances ↔ t.Packable :=
  ⟨packable_of_renumbered h, fun hpackable => ⟨t.newId, renumberedBy_packInstances h hpackable⟩⟩

theorem renumbered_iterate (h : t.WellFormed) (hpackable : t.Packable) (n : Nat) :
    Renumbered t (packInstances^[n + 1] t) := by
  induction n generalizing t with
  | zero => exact ⟨t.newId, renumberedBy_packInstances h hpackable⟩
  | succ n ih =>
    obtain ⟨hwell, hpackable'⟩ := wellFormed_packInstances h hpackable
    obtain ⟨newId, hlater⟩ := ih hwell hpackable'
    rw [Function.iterate_succ_apply]
    exact ⟨_, (renumberedBy_packInstances h hpackable).trans hlater⟩

-- The renumbering keeps the references, however often it is repeated, of the
-- tables that are packable, and at each restart of a run if what it finds is.
theorem renumbered_iff (t : Tables) (h : t.WellFormed) :
    ((∀ n, Renumbered t (packInstances^[n + 1] t)) ↔ t.Packable) ∧
      ∀ restarts : List Bound,
        Guarded restart (fun t bound => Renumbered (t.cleanupInstances bound) (t.restart bound)) t restarts ↔
          Guarded restart (fun t bound => (t.cleanupInstances bound).Packable) t restarts := by
  refine ⟨⟨fun hall => packable_of_renumbered h (hall 0), renumbered_iterate h⟩, fun restarts => ?_⟩
  induction restarts generalizing t with
  | nil => exact Iff.rfl
  | cons bound rest ih =>
    have hclean := wellFormed_cleanupInstances h bound
    have hfirst := renumbered_packInstances hclean
    rw [guarded_cons, guarded_cons]
    constructor
    · rintro ⟨hrenumbered, hrest⟩
      have hpackable := hfirst.mp hrenumbered
      exact ⟨hpackable, (ih _ (wellFormed_packInstances hclean hpackable).1).mp hrest⟩
    · rintro ⟨hpackable, hrest⟩
      exact ⟨hfirst.mpr hpackable, (ih _ (wellFormed_packInstances hclean hpackable).1).mpr hrest⟩

def gaps : Tables where
  instances := [⟨107, 33⟩, ⟨102, 36⟩, ⟨105, 1⟩]
  rows := fun
    | .characterInstance => [⟨5, 107⟩, ⟨6, 102⟩]
    | .groupInstance => [⟨5, 107⟩]
    | .corpse => [⟨8, 102⟩]
    | .creatureRespawn => [⟨40, 0⟩, ⟨40, 107⟩]
    | .gameobjectRespawn => []

theorem renumbered_gaps :
    Renumbered gaps (packInstances gaps) ∧ Renumbered gaps (packInstances (packInstances (packInstances gaps))) := by
  have hwell : gaps.WellFormed := ⟨by decide, by decide, fun table => by cases table <;> decide⟩
  have hpackable : gaps.Packable := ⟨fun table => by cases table <;> decide, fun table => by cases table <;> decide⟩
  have hall := (renumbered_iff gaps hwell).1.mpr hpackable
  exact ⟨hall 0, hall 2⟩

def ghost : Tables where
  instances := [⟨100, 33⟩]
  rows := fun
    | .characterInstance => [⟨5, 100⟩]
    | .corpse => [⟨8, 0⟩]
    | _ => []

theorem not_renumbered_ghost :
    ¬ ∀ t : Tables, t.WellFormed → ∀ n, Renumbered t (packInstances^[n + 1] t) := by
  intro hall
  have hwell : ghost.WellFormed := ⟨by decide, by decide, fun table => by cases table <;> decide⟩
  obtain ⟨newId, hby⟩ := hall ghost hwell 0
  have hrows := hby.rows .corpse
  have hafter : (packInstances^[0 + 1] ghost).rows .corpse = [⟨8, 100⟩] := by decide
  rw [hafter] at hrows
  cases hrows with
  | cons hrefers _ => exact absurd (hrefers.outside (by decide)) (by decide)

end Tables

end TurtleWow.Instances

import Mathlib.Algebra.Order.Ring.Int
import Mathlib.Data.List.Sort

namespace TurtleWow.Table

open List

-- A table with a unique key. An UPDATE changes its rows one after the other and
-- fails at the first one whose new key another row has.

variable {α κ : Type*} {key : α → κ} {rows : List α}

-- The keys of a table, seen as unique
def Keyed (key : α → κ) (rows : List α) : Prop := (rows.map key).Nodup

instance [DecidableEq κ] (key : α → κ) (rows : List α) : Decidable (Keyed key rows) :=
  inferInstanceAs (Decidable (rows.map key).Nodup)

theorem Keyed.ne (h : Keyed key rows) {row other : α} (hrow : row ∈ rows) (hother : other ∈ rows) (hne : row ≠ other) :
    key row ≠ key other := fun hsame => hne (inj_on_of_nodup_map h hrow hother hsame)

theorem Keyed.filter (h : Keyed key rows) (p : α → Bool) : Keyed key (rows.filter p) :=
  (filter_sublist.map key).nodup h

theorem keyed_map (h : Keyed key rows) {f : α → α}
    (hf : ∀ row ∈ rows, ∀ other ∈ rows, key row ≠ key other → key (f row) ≠ key (f other)) : Keyed key (rows.map f) := by
  rw [Keyed, map_map]
  refine pairwise_map.mpr ?_
  exact (pairwise_map.mp h).imp_of_mem fun hrow hother hne => hf _ hrow _ hother hne

theorem mem_affected {condition : α → Bool} {order : α → α → Prop} [DecidableRel order] {row : α} :
    row ∈ (rows.filter condition).insertionSort order ↔ row ∈ rows ∧ condition row = true := by
  rw [mem_insertionSort, mem_filter]

variable [DecidableEq α] [DecidableEq κ]

def replace (old new : α) (rows : List α) : List α := rows.map fun row => if row = old then new else row

def updateRows (key : α → κ) (set : α → α) : List α → List α → List α × Bool
  | [], rows => (rows, true)
  | row :: rest, rows =>
    if ∃ other ∈ rows, other ≠ row ∧ key other = key (set row) then (rows, false)
    else updateRows key set rest (replace row (set row) rows)

-- The rows in the order in which the statement goes through them
def update (key : α → κ) (set : α → α) (condition : α → Bool) (order : α → α → Prop) [DecidableRel order]
    (rows : List α) : List α × Bool :=
  updateRows key set ((rows.filter condition).insertionSort order) rows

variable {set : α → α} {affected : List α}

-- No key is in the way when the new keys differ from each other, from those of
-- the rows that stay, and from the old ones of the rows that come later.
theorem updateRows_eq (hkeys : ∀ row ∈ rows, ∀ other ∈ rows, row ≠ other →
      key (if row ∈ affected then set row else row) ≠ key (if other ∈ affected then set other else other))
    (hlater : affected.Pairwise fun row later => key (set row) ≠ key later) (hmem : ∀ row ∈ affected, row ∈ rows)
    (hnodup : affected.Nodup) :
    updateRows key set affected rows = (rows.map fun row => if row ∈ affected then set row else row, true) := by
  induction affected generalizing rows with
  | nil =>
    rw [updateRows]
    simp only [not_mem_nil, if_false, map_id']
  | cons row rest ih =>
    obtain ⟨hrow, hrest⟩ := pairwise_cons.mp hlater
    obtain ⟨hnot, hnodup⟩ := nodup_cons.mp hnodup
    have hfree : ¬ ∃ other ∈ rows, other ≠ row ∧ key other = key (set row) := by
      rintro ⟨other, hother, hne, hsame⟩
      have hdiffer := hkeys other hother row (hmem row mem_cons_self) hne
      rw [if_pos mem_cons_self] at hdiffer
      by_cases hin : other ∈ rest
      · exact hrow other hin hsame.symm
      · have hout : other ∉ row :: rest := fun hmem => (mem_cons.mp hmem).elim hne hin
        rw [if_neg hout] at hdiffer
        exact hdiffer hsame
    have hset : set row ∉ rest := fun hin => hrow (set row) hin rfl
    -- what the rest does to a row is what the whole does to the row before
    have hvalue : ∀ old : α, (if (if old = row then set row else old) ∈ rest
        then set (if old = row then set row else old) else if old = row then set row else old) =
          if old ∈ row :: rest then set old else old := by
      intro old
      by_cases hold : old = row
      · rw [if_pos hold, if_neg hset, hold, if_pos mem_cons_self]
      · rw [if_neg hold]
        by_cases hin : old ∈ rest
        · rw [if_pos hin, if_pos (mem_cons_of_mem row hin)]
        · rw [if_neg hin, if_neg fun hmem => (mem_cons.mp hmem).elim hold hin]
    rw [updateRows, if_neg hfree, ih ?_ hrest ?_ hnodup]
    · rw [replace, map_map]
      exact congrArg (·, true) (map_congr_left fun old _ => hvalue old)
    · intro first hfirst second hsecond hne
      obtain ⟨old, hold, rfl⟩ := mem_map.mp hfirst
      obtain ⟨other, hother, rfl⟩ := mem_map.mp hsecond
      rw [hvalue old, hvalue other]
      exact hkeys old hold other hother fun hsame => hne (by rw [hsame])
    · intro later hin
      have hne : later ≠ row := fun hsame => hnot (hsame ▸ hin)
      refine mem_map.mpr ⟨later, hmem later (mem_cons_of_mem row hin), ?_⟩
      rw [if_neg hne]

theorem updateRows_map (key : α → κ) (set : α → α) (affected rows : List α) :
    ∃ change : α → α, (updateRows key set affected rows).1 = rows.map change ∧
      (∀ row, row ∉ affected → change row = row) ∧
      ∀ P : α → Prop, (∀ row, P row → P (set row)) → ∀ row, P row → P (change row) := by
  induction affected generalizing rows with
  | nil => exact ⟨id, (map_id rows).symm, fun _ _ => rfl, fun _ _ _ h => h⟩
  | cons row rest ih =>
    rw [updateRows]
    split
    · exact ⟨id, (map_id rows).symm, fun _ _ => rfl, fun _ _ _ h => h⟩
    · obtain ⟨change, hrows, hsame, hkeep⟩ := ih (replace row (set row) rows)
      refine ⟨fun old => change (if old = row then set row else old), ?_, fun old hold => ?_, fun P hP old hold => ?_⟩
      · rw [hrows, replace, map_map]
        rfl
      · rw [mem_cons, not_or] at hold
        dsimp only
        rw [if_neg hold.1]
        exact hsame old hold.2
      · refine hkeep P hP _ ?_
        split
        · next heq => exact heq ▸ hP old hold
        · exact hold

section

variable {condition : α → Bool} {order : α → α → Prop} [DecidableRel order]

theorem update_eq [Std.Total order] [IsTrans α order] (h : Keyed key rows)
    (hset : ∀ row ∈ rows, ∀ other ∈ rows, key row ≠ key other →
      key (if condition row then set row else row) ≠ key (if condition other then set other else other))
    (hlater : ∀ row ∈ rows, ∀ later ∈ rows, condition row = true → condition later = true → key row ≠ key later →
      order row later → key (set row) ≠ key later) :
    update key set condition order rows = (rows.map fun row => if condition row then set row else row, true) := by
  have hnodup : ((rows.filter condition).insertionSort order).Nodup :=
    ((perm_insertionSort order _).nodup_iff).mpr ((List.Nodup.of_map key h).filter condition)
  have hvalue : ∀ row ∈ rows, (if row ∈ (rows.filter condition).insertionSort order then set row else row) =
      if condition row then set row else row := by
    intro row hrow
    simp only [mem_affected, hrow, true_and]
  rw [update, updateRows_eq]
  · exact congrArg (·, true) (map_congr_left hvalue)
  · intro row hrow other hother hne
    rw [hvalue row hrow, hvalue other hother]
    exact hset row hrow other hother (h.ne hrow hother hne)
  · refine (List.Pairwise.and (pairwise_insertionSort order _) hnodup).imp_of_mem ?_
    intro row later hrow hlater' hand
    obtain ⟨hrow, hcondition⟩ := mem_affected.mp hrow
    obtain ⟨hlater', hcondition'⟩ := mem_affected.mp hlater'
    exact hlater row hrow later hlater' hcondition hcondition' (h.ne hrow hlater' hand.2) hand.1
  · exact fun row hrow => (mem_affected.mp hrow).1
  · exact hnodup

end

end TurtleWow.Table

import Mathlib.Algebra.Order.Ring.Int
import Mathlib.Data.List.AList

namespace TurtleWow.Ledger

open List

-- Weighted totals of an association list. A store keyed by positions or by
-- player guids is an `AList`; what it holds of one kind is a `total`.

universe u v

variable {α : Type u} {β : α → Type v}

def total (weight : (a : α) → β a → Nat) (l : AList β) : Nat :=
  (l.entries.map fun entry => weight entry.1 entry.2).sum

section

variable [DecidableEq α]

-- What one key contributes to the total.
def heldAt (weight : (a : α) → β a → Nat) (l : AList β) (a : α) : Nat :=
  match l.lookup a with
  | some b => weight a b
  | none => 0

variable (weight : (a : α) → β a → Nat)

variable {l : AList β}

theorem heldAt_of_lookup {a : α} {b : β a} (h : l.lookup a = some b) :
    heldAt weight l a = weight a b := by
  simp only [heldAt, h]

theorem heldAt_of_none {a : α} (h : l.lookup a = none) : heldAt weight l a = 0 := by
  simp only [heldAt, h]

theorem entries_erase (l : AList β) (a : α) : (l.erase a).entries = l.entries.kerase a := rfl

theorem total_erase (l : AList β) (a : α) : total weight l = heldAt weight l a + total weight (l.erase a) := by
  by_cases hmem : a ∈ l
  · obtain ⟨b, before, after, hnot, hentries, herase⟩ := exists_of_kerase (AList.mem_keys.mp hmem)
    have hlookup : l.lookup a = some b := by
      rw [← Option.mem_def, AList.mem_lookup_iff, hentries]
      simp
    simp only [heldAt_of_lookup weight hlookup, total, entries_erase]
    rw [herase, hentries]
    simp only [map_append, map_cons, sum_append, sum_cons]
    omega
  · have hnone : l.lookup a = none := AList.lookup_eq_none.mpr hmem
    have herase : l.erase a = l := by
      apply AList.ext
      exact kerase_of_notMem_keys (fun h => hmem (AList.mem_keys.mpr h))
    rw [herase, heldAt_of_none weight hnone, Nat.zero_add]

theorem total_insert (l : AList β) (a : α) (b : β a) :
    total weight (l.insert a b) = weight a b + total weight (l.erase a) := by
  simp only [total, AList.entries_insert, entries_erase, map_cons, sum_cons]

theorem total_insert_add (l : AList β) (a : α) (b : β a) :
    total weight (l.insert a b) + heldAt weight l a = weight a b + total weight l := by
  rw [total_insert, total_erase weight l a]
  omega

theorem total_insert_of_none {a : α} (h : l.lookup a = none) (b : β a) :
    total weight (l.insert a b) = weight a b + total weight l := by
  have hadd := total_insert_add weight l a b
  rw [heldAt_of_none weight h] at hadd
  exact hadd

theorem total_insert_of_some {a : α} {old : β a} (h : l.lookup a = some old) (b : β a) :
    total weight (l.insert a b) + weight a old = weight a b + total weight l := by
  rw [← heldAt_of_lookup weight h]
  exact total_insert_add weight l a b

theorem total_erase_of_some {a : α} {b : β a} (h : l.lookup a = some b) :
    total weight l = weight a b + total weight (l.erase a) := by
  rw [← heldAt_of_lookup weight h]
  exact total_erase weight l a

-- Erasing a list of keys.
def eraseAll (l : AList β) (keys : List α) : AList β := keys.foldl (fun acc a => acc.erase a) l

@[simp] theorem eraseAll_cons (l : AList β) (a : α) (keys : List α) :
    eraseAll l (a :: keys) = eraseAll (l.erase a) keys := rfl

theorem lookup_eraseAll_of_notMem {keys : List α} {a : α} (h : a ∉ keys) :
    (eraseAll l keys).lookup a = l.lookup a := by
  induction keys generalizing l with
  | nil => rfl
  | cons key rest ih =>
    rw [mem_cons, not_or] at h
    rw [eraseAll_cons, ih h.2, AList.lookup_erase_ne h.1]

theorem lookup_eraseAll_of_mem {keys : List α} {a : α} (h : a ∈ keys) :
    (eraseAll l keys).lookup a = none := by
  induction keys generalizing l with
  | nil => simp at h
  | cons key rest ih =>
    rw [eraseAll_cons]
    by_cases hrest : a ∈ rest
    · exact ih hrest
    · obtain rfl : a = key := by
        rcases mem_cons.mp h with rfl | h
        · rfl
        · exact absurd h hrest
      rw [lookup_eraseAll_of_notMem hrest, AList.lookup_erase]

end

end TurtleWow.Ledger

import Mathlib.Algebra.Order.Ring.Int
import Mathlib.Data.List.Basic
import Mathlib.Data.List.Perm.Basic

namespace TurtleWow

open List

-- A map whose keys may have several entries: they stand in the order of the
-- keys, and those of one key in the order they came.
structure Multimap (κ α : Type*) [LinearOrder κ] where
  entries : List (κ × α)
  sorted : entries.Pairwise fun first second => first.1 ≤ second.1

namespace Multimap

variable {κ α : Type*} [LinearOrder κ]

def empty : Multimap κ α := ⟨[], List.Pairwise.nil⟩

def insertIn (key : κ) (value : α) : List (κ × α) → List (κ × α)
  | [] => [(key, value)]
  | entry :: rest => if key < entry.1 then (key, value) :: entry :: rest else entry :: insertIn key value rest

theorem insertIn_perm (key : κ) (value : α) (list : List (κ × α)) :
    (insertIn key value list).Perm ((key, value) :: list) := by
  induction list with
  | nil => exact List.Perm.refl _
  | cons entry rest ih =>
    unfold insertIn
    split
    · exact List.Perm.refl _
    · exact (ih.cons entry).trans (List.Perm.swap _ _ _)

theorem sorted_insertIn (key : κ) (value : α) {list : List (κ × α)}
    (h : list.Pairwise fun first second => first.1 ≤ second.1) :
    (insertIn key value list).Pairwise fun first second => first.1 ≤ second.1 := by
  induction list with
  | nil => exact pairwise_singleton _ _
  | cons entry rest ih =>
    obtain ⟨habove, hrest⟩ := pairwise_cons.mp h
    unfold insertIn
    split
    · next hless =>
        refine pairwise_cons.mpr ⟨fun other hmem => ?_, h⟩
        rcases mem_cons.mp hmem with rfl | hmem
        · exact hless.le
        · exact hless.le.trans (habove other hmem)
    · next hnot =>
        refine pairwise_cons.mpr ⟨fun other hmem => ?_, ih hrest⟩
        rcases mem_cons.mp ((insertIn_perm key value rest).mem_iff.mp hmem) with rfl | hmem
        · exact not_lt.mp hnot
        · exact habove other hmem

variable (m : Multimap κ α)

def insert (key : κ) (value : α) : Multimap κ α := ⟨insertIn key value m.entries, sorted_insertIn key value m.sorted⟩

def insertAll (list : List (κ × α)) : Multimap κ α := list.foldl (fun m entry => m.insert entry.1 entry.2) m

-- The entry of the smallest key that came first
def begin : Option (κ × α) := m.entries.head?

def eraseBegin : Multimap κ α := ⟨m.entries.tail, m.sorted.sublist (tail_sublist _)⟩

def setFirst (value : α) : List (κ × α) → List (κ × α)
  | [] => []
  | entry :: rest => (entry.1, value) :: rest

theorem sorted_setFirst (value : α) {list : List (κ × α)}
    (h : list.Pairwise fun first second => first.1 ≤ second.1) :
    (setFirst value list).Pairwise fun first second => first.1 ≤ second.1 := by
  cases list with
  | nil => exact h
  | cons entry rest => exact pairwise_cons.mpr (pairwise_cons.mp h)

-- An edit in place
def setBegin (value : α) : Multimap κ α := ⟨setFirst value m.entries, sorted_setFirst value m.sorted⟩

def eraseFirst (condition : κ × α → Bool) : Multimap κ α :=
  ⟨m.entries.eraseP condition, m.sorted.sublist eraseP_sublist⟩

variable {m} {key : κ} {value : α}

theorem insert_perm (m : Multimap κ α) (key : κ) (value : α) :
    (m.insert key value).entries.Perm ((key, value) :: m.entries) :=
  insertIn_perm key value m.entries

theorem insertAll_perm (m : Multimap κ α) (list : List (κ × α)) :
    (m.insertAll list).entries.Perm (list ++ m.entries) := by
  induction list generalizing m with
  | nil => exact List.Perm.refl _
  | cons entry rest ih =>
    have h := (ih (m.insert entry.1 entry.2)).trans ((insert_perm m entry.1 entry.2).append_left rest)
    exact h.trans perm_middle

@[simp] theorem entries_insert : (m.insert key value).entries = insertIn key value m.entries := rfl

@[simp] theorem entries_eraseBegin : m.eraseBegin.entries = m.entries.tail := rfl

variable {entry : κ × α}

section

variable (h : m.begin = some entry)

include h

theorem entries_of_begin : m.entries = entry :: m.entries.tail :=
  eq_cons_of_mem_head? h

theorem begin_setBegin (value : α) :
    (m.setBegin value).begin = some (entry.1, value) ∧ (m.setBegin value).entries.tail = m.entries.tail := by
  have hentries : (m.setBegin value).entries = (entry.1, value) :: m.entries.tail := by
    change setFirst value m.entries = _
    rw [entries_of_begin h]
    rfl
  rw [begin, hentries]
  exact ⟨rfl, rfl⟩

theorem begin_insert (hkey : entry.1 ≤ key) :
    (m.insert key value).begin = some entry ∧
      (m.insert key value).entries.tail = insertIn key value m.entries.tail := by
  have hentries : (m.insert key value).entries = entry :: insertIn key value m.entries.tail := by
    rw [entries_insert, entries_of_begin h, insertIn, if_neg (not_lt.mpr hkey), tail_cons]
  rw [begin, hentries]
  exact ⟨rfl, rfl⟩

-- A loop that handles the first entry, inserts its successor and erases the first
-- entry keeps one of the two: the old one only when the new key is the smaller.
theorem insert_eraseBegin_perm (key : κ) (value : α) :
    (m.insert key value).eraseBegin.entries.Perm ((key, value) :: m.entries.tail) ∨
      key < entry.1 ∧ (m.insert key value).eraseBegin.entries = entry :: m.entries.tail := by
  by_cases hkey : key < entry.1
  · refine .inr ⟨hkey, ?_⟩
    rw [entries_eraseBegin, entries_insert, entries_of_begin h, insertIn, if_pos hkey, tail_cons]
    rfl
  · refine .inl ?_
    rw [entries_eraseBegin, (begin_insert h (not_lt.mp hkey)).2]
    exact insertIn_perm key value _

theorem begin_insertAll {list : List (κ × α)}
    (hlist : ∀ other ∈ list, entry.1 ≤ other.1) :
    (m.insertAll list).begin = some entry ∧
      (m.insertAll list).entries.tail.Perm (list ++ m.entries.tail) := by
  have hbegin : (m.insertAll list).begin = some entry := by
    induction list generalizing m with
    | nil => exact h
    | cons other rest ih =>
      obtain ⟨hother, hrest⟩ := forall_mem_cons.mp hlist
      exact ih (begin_insert h hother).1 hrest
  refine ⟨hbegin, ?_⟩
  have hperm := insertAll_perm m list
  rw [entries_of_begin hbegin, entries_of_begin h] at hperm
  exact (perm_cons entry).mp (hperm.trans perm_middle)

end

end Multimap

-- A map that is walked in the order of its keys: its entries ascend, so no key
-- has two.
structure OrderedMap (κ α : Type*) [LinearOrder κ] where
  entries : List (κ × α)
  sorted : entries.Pairwise fun first second => first.1 < second.1

namespace OrderedMap

variable {κ α : Type*} [LinearOrder κ]

def empty : OrderedMap κ α := ⟨[], List.Pairwise.nil⟩

def findIn (key : κ) : List (κ × α) → Option α
  | [] => none
  | entry :: rest => if key = entry.1 then some entry.2 else findIn key rest

def insertIn (key : κ) (value : α) : List (κ × α) → List (κ × α)
  | [] => [(key, value)]
  | entry :: rest =>
    if key < entry.1 then (key, value) :: entry :: rest
    else if key = entry.1 then (key, value) :: rest
    else entry :: insertIn key value rest

variable {list : List (κ × α)}

theorem mem_insertIn {key : κ} {value : α} {entry : κ × α}
    (h : entry ∈ insertIn key value list) : entry = (key, value) ∨ entry ∈ list := by
  induction list with
  | nil => simpa [insertIn] using h
  | cons head rest ih =>
    unfold insertIn at h
    by_cases hless : key < head.1
    · rw [if_pos hless] at h
      exact mem_cons.mp h
    rw [if_neg hless] at h
    by_cases hsame : key = head.1
    · rw [if_pos hsame] at h
      exact (mem_cons.mp h).imp_right fun hmem => mem_cons_of_mem _ hmem
    rw [if_neg hsame] at h
    rcases mem_cons.mp h with rfl | hmem
    · exact .inr mem_cons_self
    · exact (ih hmem).imp_right fun hmem => mem_cons_of_mem _ hmem

theorem sorted_insertIn (key : κ) (value : α)
    (h : list.Pairwise fun first second => first.1 < second.1) :
    (insertIn key value list).Pairwise fun first second => first.1 < second.1 := by
  induction list with
  | nil => exact pairwise_singleton _ _
  | cons head rest ih =>
    obtain ⟨habove, hrest⟩ := pairwise_cons.mp h
    unfold insertIn
    by_cases hless : key < head.1
    · rw [if_pos hless, pairwise_cons]
      refine ⟨fun entry hmem => ?_, h⟩
      rcases mem_cons.mp hmem with rfl | hmem
      · exact hless
      · exact hless.trans (habove entry hmem)
    rw [if_neg hless]
    by_cases hsame : key = head.1
    · rw [if_pos hsame, pairwise_cons]
      exact ⟨fun entry hmem => hsame ▸ habove entry hmem, hrest⟩
    rw [if_neg hsame, pairwise_cons]
    refine ⟨fun entry hmem => ?_, ih hrest⟩
    rcases mem_insertIn hmem with rfl | hmem
    · exact lt_of_le_of_ne (not_lt.mp hless) (Ne.symm hsame)
    · exact habove entry hmem

variable (m : OrderedMap κ α)

def find (key : κ) : Option α := findIn key m.entries

def insert (key : κ) (value : α) : OrderedMap κ α := ⟨insertIn key value m.entries, sorted_insertIn key value m.sorted⟩

def erase (key : κ) : OrderedMap κ α := ⟨m.entries.filter fun entry => entry.1 ≠ key, m.sorted.filter _⟩

def keys : List κ := m.entries.map fun entry => entry.1

def size : Nat := m.entries.length

variable {m} {key other : κ}

@[simp] theorem find_empty : (empty : OrderedMap κ α).find key = none := rfl

theorem find_insert (value : α) : (m.insert key value).find other = if other = key then some value else m.find other := by
  obtain ⟨list, hsorted⟩ := m
  show findIn other (insertIn key value list) = if other = key then some value else findIn other list
  clear hsorted
  induction list with
  | nil => rfl
  | cons head rest ih =>
    unfold insertIn
    by_cases hless : key < head.1
    · rw [if_pos hless]
      rfl
    rw [if_neg hless]
    by_cases hsame : key = head.1
    · rw [if_pos hsame]
      by_cases hother : other = key
      · simp [findIn, hother]
      · simp [findIn, hother, ← hsame]
    rw [if_neg hsame, findIn, ih, findIn]
    by_cases hother : other = head.1
    · have hne : other ≠ key := fun heq => hsame (heq.symm.trans hother)
      simp [hother, Ne.symm hsame]
    · simp [hother]

theorem of_find_insert {value found : α} (h : (m.insert key value).find other = some found) :
    other = key ∧ found = value ∨ other ≠ key ∧ m.find other = some found := by
  rw [find_insert] at h
  by_cases hsame : other = key
  · rw [if_pos hsame] at h
    exact .inl ⟨hsame, (Option.some.inj h).symm⟩
  · rw [if_neg hsame] at h
    exact .inr ⟨hsame, h⟩

theorem insertIn_perm {value : α} (h : findIn key list = none) :
    (insertIn key value list).Perm ((key, value) :: list) := by
  induction list with
  | nil => exact List.Perm.refl _
  | cons head rest ih =>
    unfold findIn at h
    unfold insertIn
    have hne : key ≠ head.1 := by
      rintro hsame
      simp [hsame] at h
    rw [if_neg hne] at h
    by_cases hless : key < head.1
    · rw [if_pos hless]
    · rw [if_neg hless, if_neg hne]
      exact ((ih h).cons head).trans (List.Perm.swap _ _ _)

theorem entries_insert_perm {value : α} (h : m.find key = none) :
    (m.insert key value).entries.Perm ((key, value) :: m.entries) := insertIn_perm h

theorem size_insert (value : α) (h : m.find key = none) : (m.insert key value).size = m.size + 1 :=
  (entries_insert_perm h).length_eq

theorem entries_insertAll_perm (hnodup : (list.map fun entry => entry.1).Nodup)
    (hnew : ∀ entry ∈ list, m.find entry.1 = none) :
    (list.foldl (fun m entry => m.insert entry.1 entry.2) m).entries.Perm (list ++ m.entries) := by
  induction list generalizing m with
  | nil => exact List.Perm.refl _
  | cons head rest ih =>
    obtain ⟨hhead, hrest⟩ := nodup_cons.mp hnodup
    obtain ⟨hfree, hnewRest⟩ := forall_mem_cons.mp hnew
    have hstill : ∀ entry ∈ rest, (m.insert head.1 head.2).find entry.1 = none := by
      intro entry hentry
      have hne : entry.1 ≠ head.1 := by
        intro heq
        apply hhead
        show head.1 ∈ rest.map fun entry => entry.1
        rw [← heq]
        exact mem_map_of_mem hentry
      rw [find_insert, if_neg hne]
      exact hnewRest entry hentry
    refine (ih hrest hstill).trans ?_
    refine ((entries_insert_perm hfree).append_left rest).trans ?_
    exact perm_middle

theorem find_erase : (m.erase key).find other = if other = key then none else m.find other := by
  obtain ⟨list, hsorted⟩ := m
  show findIn other (list.filter fun entry => entry.1 ≠ key) = if other = key then none else findIn other list
  clear hsorted
  induction list with
  | nil => simp [findIn]
  | cons head rest ih =>
    by_cases hsame : head.1 = key
    · rw [filter_cons_of_neg (by simpa using hsame), ih]
      by_cases hother : other = key
      · rw [if_pos hother, if_pos hother]
      · have hne : other ≠ head.1 := fun heq => hother (heq.trans hsame)
        simp [findIn, hother, hne]
    · rw [filter_cons_of_pos (by simpa using hsame), findIn, ih, findIn]
      by_cases hother : other = head.1
      · have hne : other ≠ key := fun heq => hsame (hother.symm.trans heq)
        simp [hother, hsame]
      · simp [hother]

theorem mem_of_find {value : α} (h : m.find key = some value) : (key, value) ∈ m.entries := by
  obtain ⟨list, hsorted⟩ := m
  replace h : findIn key list = some value := h
  show (key, value) ∈ list
  clear hsorted
  induction list with
  | nil => cases h
  | cons head rest ih =>
    unfold findIn at h
    by_cases hsame : key = head.1
    · rw [if_pos hsame] at h
      cases h
      rw [hsame]
      exact mem_cons_self
    · rw [if_neg hsame] at h
      exact mem_cons_of_mem _ (ih h)

theorem find_of_mem {value : α} (h : (key, value) ∈ m.entries) : m.find key = some value := by
  obtain ⟨list, hsorted⟩ := m
  replace h : (key, value) ∈ list := h
  show findIn key list = some value
  induction list with
  | nil => cases h
  | cons head rest ih =>
    obtain ⟨habove, hrest⟩ := pairwise_cons.mp hsorted
    unfold findIn
    rcases mem_cons.mp h with rfl | hmem
    · rw [if_pos rfl]
    · rw [if_neg (ne_of_gt (habove _ hmem))]
      exact ih hrest hmem

theorem find_eq_some_iff {value : α} : m.find key = some value ↔ (key, value) ∈ m.entries :=
  ⟨mem_of_find, find_of_mem⟩

theorem mem_keys : key ∈ m.keys ↔ m.find key ≠ none := by
  rw [Option.ne_none_iff_exists', keys, mem_map]
  constructor
  · rintro ⟨⟨found, value⟩, hmem, rfl⟩
    exact ⟨value, find_of_mem hmem⟩
  · rintro ⟨value, hfind⟩
    exact ⟨(key, value), mem_of_find hfind, rfl⟩

theorem nodup_keys : m.keys.Nodup := by
  rw [keys, nodup_iff_pairwise_ne, pairwise_map]
  exact m.sorted.imp fun hless => ne_of_lt hless

theorem foldl_entries {σ β : Type*} (read : σ → κ → β) (work : σ → κ × α → σ) (effect : β → α → β)
    (hself : ∀ state entry, read (work state entry) entry.1 = effect (read state entry.1) entry.2)
    (hother : ∀ state entry key, key ≠ entry.1 → read (work state entry) key = read state key)
    (m : OrderedMap κ α) (state : σ) (key : κ) :
    read (m.entries.foldl work state) key = ((m.find key).map (effect (read state key))).getD (read state key) := by
  obtain ⟨list, hsorted⟩ := m
  show read (list.foldl work state) key = ((findIn key list).map (effect (read state key))).getD (read state key)
  induction list generalizing state with
  | nil => rfl
  | cons head rest ih =>
    obtain ⟨habove, hrest⟩ := pairwise_cons.mp hsorted
    rw [foldl_cons, ih (work state head) hrest, findIn]
    by_cases hsame : key = head.1
    · have hnone : findIn key rest = none := by
        rw [← Option.not_isSome_iff_eq_none, Option.isSome_iff_exists]
        rintro ⟨value, hfind⟩
        have hmem : (key, value) ∈ rest := mem_of_find (m := ⟨rest, hrest⟩) hfind
        exact (habove (key, value) hmem).ne' hsame
      rw [if_pos hsame, hnone]
      show read (work state head) key = effect (read state key) head.2
      rw [hsame, hself]
    · rw [if_neg hsame, hother state head key hsame]

theorem find_insertAll (added : OrderedMap κ α) :
    (added.entries.foldl (fun m entry => m.insert entry.1 entry.2) m).find key = (added.find key).or (m.find key) := by
  have hfind := foldl_entries find (fun m (entry : κ × α) => m.insert entry.1 entry.2) (fun _ value => some value)
    (fun m entry => by rw [find_insert, if_pos rfl]) (fun m entry other hne => by rw [find_insert, if_neg hne])
    added m key
  rw [hfind]
  cases added.find key <;> simp

end OrderedMap

end TurtleWow

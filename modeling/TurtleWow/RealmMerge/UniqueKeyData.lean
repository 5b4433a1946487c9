import Mathlib.Data.List.Perm.Subperm
import Mathlib.Data.Nat.Basic
import TurtleWow.Lib.Multimap

namespace TurtleWow.RealmMerge

open List

structure UniqueKeyData where
  existingKeys1 : List ℕ
  existingKeys2 : List ℕ
  replacedKeys : OrderedMap ℕ ℕ := OrderedMap.empty
  counter : ℕ := 0

namespace UniqueKeyData

variable (data : UniqueKeyData)

def Taken (key : ℕ) : Prop := key ∈ data.existingKeys1 ∨ key ∈ data.existingKeys2

instance (key : ℕ) : Decidable (data.Taken key) := inferInstanceAs (Decidable (_ ∨ _))

-- while the counter is taken: ++counter
def skip : ℕ → ℕ → ℕ
  | 0, counter => counter
  | fuel + 1, counter => if data.Taken counter then skip fuel (counter + 1) else counter

def nextCounter : ℕ :=
  data.skip (data.existingKeys1.length + data.existingKeys2.length) (data.counter + 1)

def replaceKeyIfNeeded (key : ℕ) : (ℕ × Bool) × UniqueKeyData :=
  match data.replacedKeys.find key with
  | some newKey => ((newKey, false), data)
  | none =>
    if key ∉ data.existingKeys1 then ((key, false), data)
    else
      let counter := data.nextCounter
      ((counter, true), { data with counter, replacedKeys := data.replacedKeys.insert key counter })

-- The keys for which a new one is given out, with the new ones
def replacements : UniqueKeyData → List ℕ → List (ℕ × ℕ)
  | _, [] => []
  | data, key :: rest =>
    let ((newKey, replaced), data') := data.replaceKeyIfNeeded key
    if replaced then (key, newKey) :: replacements data' rest else replacements data' rest

variable {data} {key : ℕ}

theorem le_skip (fuel counter : ℕ) : counter ≤ data.skip fuel counter := by
  induction fuel generalizing counter with
  | zero => exact le_refl _
  | succ fuel ih =>
    unfold skip
    split
    · exact (Nat.le_succ counter).trans (ih (counter + 1))
    · exact le_refl _

theorem taken_of_lt_skip {fuel counter : ℕ} (hle : counter ≤ key) (hlt : key < data.skip fuel counter) :
    data.Taken key := by
  induction fuel generalizing counter with
  | zero => exact absurd hle (not_le.mpr hlt)
  | succ fuel ih =>
    unfold skip at hlt
    by_cases htaken : data.Taken counter
    · rw [if_pos htaken] at hlt
      rcases Nat.eq_or_lt_of_le hle with rfl | hless
      · exact htaken
      · exact ih hless hlt
    · rw [if_neg htaken] at hlt
      exact absurd hle (not_le.mpr hlt)

theorem skip_eq_add {fuel counter : ℕ} (h : data.Taken (data.skip fuel counter)) :
    data.skip fuel counter = counter + fuel := by
  induction fuel generalizing counter with
  | zero => rfl
  | succ fuel ih =>
    unfold skip at h ⊢
    by_cases htaken : data.Taken counter
    · rw [if_pos htaken] at h ⊢
      rw [ih h]
      omega
    · rw [if_neg htaken] at h
      exact absurd h htaken

theorem length_le_of_taken (first count : ℕ) (h : ∀ key, first ≤ key → key < first + count → data.Taken key) :
    count ≤ data.existingKeys1.length + data.existingKeys2.length := by
  have hsubset : List.range' first count ⊆ data.existingKeys1 ++ data.existingKeys2 := by
    intro key hmem
    rw [mem_range'_1] at hmem
    exact mem_append.mpr (h key hmem.1 hmem.2)
  have hlength := (subperm_of_subset nodup_range' hsubset).length_le
  rwa [length_range', length_append] at hlength

theorem not_taken_nextCounter : ¬ data.Taken data.nextCounter := by
  intro htaken
  have hlast := skip_eq_add htaken
  have hlength := length_le_of_taken (data.counter + 1)
    (data.existingKeys1.length + data.existingKeys2.length + 1) fun key hle hlt => by
      rcases Nat.eq_or_lt_of_le (Nat.le_of_lt_succ hlt) with rfl | hless
      · rw [nextCounter, hlast] at htaken
        exact htaken
      · exact taken_of_lt_skip hle (by rw [hlast]; exact hless)
  omega

theorem counter_lt_nextCounter : data.counter < data.nextCounter := le_skip _ _

theorem replaceKeyIfNeeded_of_mem (hfind : data.replacedKeys.find key = none) (hkey : key ∈ data.existingKeys1) :
    data.replaceKeyIfNeeded key = ((data.nextCounter, true), { data with
      counter := data.nextCounter, replacedKeys := data.replacedKeys.insert key data.nextCounter }) := by
  rw [replaceKeyIfNeeded, hfind]
  exact if_neg (not_not_intro hkey)

theorem replaceKeyIfNeeded_of_not_mem (hfind : data.replacedKeys.find key = none) (hkey : key ∉ data.existingKeys1) :
    data.replaceKeyIfNeeded key = ((key, false), data) := by
  rw [replaceKeyIfNeeded, hfind]
  exact if_pos hkey

-- The keys still to come were not given a new one yet.
def Fresh (data : UniqueKeyData) (keys : List ℕ) : Prop := keys.Nodup ∧ ∀ key ∈ keys, data.replacedKeys.find key = none

variable {keys : List ℕ} {pair : ℕ × ℕ}

section

variable (h : data.Fresh (key :: keys))

include h

theorem Fresh.tail : data.Fresh keys :=
  ⟨h.1.of_cons, fun other hmem => h.2 other (mem_cons_of_mem _ hmem)⟩

theorem Fresh.insert (newKey counter : ℕ) :
    ({ data with counter, replacedKeys := data.replacedKeys.insert key newKey } : UniqueKeyData).Fresh keys := by
  refine ⟨h.1.of_cons, fun other hmem => ?_⟩
  have hne : other ≠ key := fun hsame => (nodup_cons.mp h.1).1 (hsame ▸ hmem)
  exact (OrderedMap.find_insert _).trans ((if_neg hne).trans (h.2 other (mem_cons_of_mem _ hmem)))

theorem replacements_of_mem (hkey : key ∈ data.existingKeys1) :
    replacements data (key :: keys) = (key, data.nextCounter) :: replacements { data with
      counter := data.nextCounter, replacedKeys := data.replacedKeys.insert key data.nextCounter } keys := by
  rw [replacements, replaceKeyIfNeeded_of_mem (h.2 key mem_cons_self) hkey]
  rfl

theorem replacements_of_not_mem (hkey : key ∉ data.existingKeys1) :
    replacements data (key :: keys) = replacements data keys := by
  rw [replacements, replaceKeyIfNeeded_of_not_mem (h.2 key mem_cons_self) hkey]
  rfl

end

theorem of_mem_replacements (h : data.Fresh keys) (hmem : pair ∈ replacements data keys) :
    pair.1 ∈ keys ∧ pair.1 ∈ data.existingKeys1 ∧ data.counter < pair.2 ∧ ¬ data.Taken pair.2 := by
  induction keys generalizing data with
  | nil => cases hmem
  | cons key keys ih =>
    by_cases hkey : key ∈ data.existingKeys1
    · rw [replacements_of_mem h hkey] at hmem
      rcases mem_cons.mp hmem with rfl | hmem
      · exact ⟨mem_cons_self, hkey, counter_lt_nextCounter, not_taken_nextCounter⟩
      · obtain ⟨hold, hexisting, hless, hfree⟩ := ih (h.insert _ _) hmem
        exact ⟨mem_cons_of_mem _ hold, hexisting, counter_lt_nextCounter.trans hless, hfree⟩
    · rw [replacements_of_not_mem h hkey] at hmem
      obtain ⟨hold, hrest⟩ := ih h.tail hmem
      exact ⟨mem_cons_of_mem _ hold, hrest⟩

theorem exists_mem_replacements (h : data.Fresh keys) (hmem : key ∈ keys) (hkey : key ∈ data.existingKeys1) :
    ∃ newKey, (key, newKey) ∈ replacements data keys := by
  induction keys generalizing data with
  | nil => cases hmem
  | cons head keys ih =>
    by_cases hhead : head ∈ data.existingKeys1
    · rw [replacements_of_mem h hhead]
      rcases mem_cons.mp hmem with rfl | hmem
      · exact ⟨_, mem_cons_self⟩
      · obtain ⟨newKey, hnew⟩ := ih (h.insert _ _) hmem hkey
        exact ⟨newKey, mem_cons_of_mem _ hnew⟩
    · rw [replacements_of_not_mem h hhead]
      rcases mem_cons.mp hmem with rfl | hmem
      · exact absurd hkey hhead
      · exact ih h.tail hmem hkey

theorem replacements_pairwise (h : data.Fresh keys) :
    (replacements data keys).Pairwise fun first second => first.1 ≠ second.1 ∧ first.2 < second.2 := by
  induction keys generalizing data with
  | nil => exact List.Pairwise.nil
  | cons key keys ih =>
    by_cases hkey : key ∈ data.existingKeys1
    · rw [replacements_of_mem h hkey, pairwise_cons]
      refine ⟨fun pair hmem => ?_, ih (h.insert _ _)⟩
      obtain ⟨hold, -, hless, -⟩ := of_mem_replacements (h.insert _ _) hmem
      refine ⟨fun hsame => (nodup_cons.mp h.1).1 ?_, hless⟩
      rw [show key = pair.1 from hsame]
      exact hold
    · rw [replacements_of_not_mem h hkey]
      exact ih h.tail

end UniqueKeyData

end TurtleWow.RealmMerge

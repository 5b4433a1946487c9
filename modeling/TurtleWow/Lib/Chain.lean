import Mathlib.Algebra.Order.Ring.Int
import Mathlib.Data.Finset.Card
import Mathlib.Data.Finset.Lattice.Fold
import Mathlib.Data.Finset.Range
import Mathlib.Data.Int.CardIntervalMod
import Mathlib.Data.List.Basic
import Mathlib.Data.List.Nodup
import Mathlib.Data.List.Rotate
import Mathlib.Logic.Relation
import Mathlib.Order.Bounds.Basic

namespace TurtleWow.Chain

-- A partial map of each element to the next one up: chains that come to an
-- end, and links that are cut.

variable {α : Type*}

def Up (next : α → Option α) (a b : α) : Prop := next a = some b

inductive Ends (next : α → Option α) : α → Prop
  | root {a : α} : next a = none → Ends next a
  | step {a b : α} : next a = some b → Ends next b → Ends next a

-- Each link stands as it did or is gone.
def Cut (next fewer : α → Option α) : Prop := ∀ a, fewer a = next a ∨ fewer a = none

variable {next fewer : α → Option α} {a b c : α}

theorem Cut.refl (next : α → Option α) : Cut next next := fun _ => .inl rfl

theorem Cut.trans {more : α → Option α} (h : Cut next fewer) (hm : Cut fewer more) : Cut next more := by
  intro a
  rcases hm a with heq | hnone
  · rcases h a with heq' | hnone
    · exact .inl (heq.trans heq')
    · exact .inr (heq.trans hnone)
  · exact .inr hnone

theorem Cut.antisymm (h : Cut next fewer) (h' : Cut fewer next) : fewer = next := by
  funext a
  rcases h a with heq | hnone
  · exact heq
  · rcases h' a with heq | hnone'
    · exact heq.symm
    · exact hnone.trans hnone'.symm

theorem Cut.of_some (h : Cut next fewer) (hcut : fewer a = some b) : next a = some b := by
  rcases h a with heq | hnone
  · exact heq.symm.trans hcut
  · rw [hnone] at hcut
    cases hcut

theorem Ends.of_cut (h : Ends next a) (hcut : Cut next fewer) : Ends fewer a := by
  induction h with
  | @root a hroot =>
    rcases hcut a with heq | hnone
    · exact .root (heq.trans hroot)
    · exact .root hnone
  | @step a b hstep _ ih =>
    rcases hcut a with heq | hnone
    · exact .step (heq.trans hstep) ih
    · exact .root hnone

theorem rotate (hup : Up next a b) (h : Relation.TransGen (Up next) a a) : Relation.TransGen (Up next) b b := by
  obtain ⟨first, hfirst, hrest⟩ := Relation.TransGen.head'_iff.mp h
  have hsame : first = b := Option.some.inj (hfirst.symm.trans hup)
  subst hsame
  exact Relation.TransGen.tail' hrest hup

theorem Ends.irrefl (h : Ends next a) : ¬Relation.TransGen (Up next) a a := by
  induction h with
  | root hroot =>
    intro hcycle
    obtain ⟨first, hfirst, -⟩ := Relation.TransGen.head'_iff.mp hcycle
    exact absurd (hroot.symm.trans hfirst) (Option.some_ne_none first).symm
  | step hstep _ ih => exact fun hcycle => ih (rotate hstep hcycle)

-- How far an element is from the end of its chain
inductive Depth (next : α → Option α) : α → Nat → Prop
  | root {a : α} : next a = none → Depth next a 0
  | step {a b : α} {n : Nat} : next a = some b → Depth next b n → Depth next a (n + 1)

theorem Ends.depth (h : Ends next a) : ∃ n, Depth next a n := by
  induction h with
  | root hroot => exact ⟨0, .root hroot⟩
  | step hstep _ ih =>
    obtain ⟨n, hn⟩ := ih
    exact ⟨n + 1, .step hstep hn⟩

theorem Depth.of_some {n : Nat} (h : Depth next a n) (hstep : next a = some b) : ∃ m, n = m + 1 ∧ Depth next b m := by
  cases h with
  | root hroot => exact absurd (hroot.symm.trans hstep) (Option.some_ne_none b).symm
  | @step _ other m hother hdepth =>
    rw [hstep] at hother
    cases hother
    exact ⟨m, rfl, hdepth⟩

theorem Depth.unique {m n : Nat} (h : Depth next a m) (h' : Depth next a n) : m = n := by
  induction h generalizing n with
  | root hroot =>
    cases h' with
    | root _ => rfl
    | step hstep _ => exact absurd (hroot.symm.trans hstep) (Option.some_ne_none _).symm
  | step hstep _ ih =>
    obtain ⟨k, rfl, hk⟩ := h'.of_some hstep
    rw [ih hk]

-- Where all chains end and few elements have a next one, the way down is
-- finite too: there is a measure that falls with each step down.
theorem exists_height (h : ∀ a, Ends next a) (keys : Finset α) (hkeys : ∀ a, next a ≠ none → a ∈ keys) :
    ∃ height : α → Nat, ∀ a b, next a = some b → height a < height b := by
  choose depth hdepth using fun a => (h a).depth
  obtain ⟨bound, hbound⟩ : ∃ bound, ∀ a ∈ keys, depth a ≤ bound := ⟨keys.sup depth, fun a => Finset.le_sup⟩
  refine ⟨fun a => bound - depth a, fun a b hstep => ?_⟩
  obtain ⟨m, hm, hb⟩ := (hdepth a).of_some hstep
  have hsame : depth b = m := (hdepth b).unique hb
  have hle := hbound a (hkeys a (by simp [hstep]))
  show bound - depth a < bound - depth b
  omega

theorem length_le_of_lt {list : List Nat} {n : Nat} (hnodup : list.Nodup) (hlt : ∀ a ∈ list, a < n) :
    list.length ≤ n := by
  have hsub : list.toFinset ⊆ Finset.range n := by
    intro a ha
    exact Finset.mem_range.mpr (hlt a (List.mem_toFinset.mp ha))
  have hcard := Finset.card_le_card hsub
  rwa [List.toFinset_card_of_nodup hnodup, Finset.card_range] at hcard

end TurtleWow.Chain

namespace TurtleWow.Cycle

open List

-- A list that is gone through around and around.

variable {α : Type*} {l : List α} {p : α → Bool}

-- The elements from a position on, as many as are asked for
def lap (l : List α) (start count : Nat) : List α :=
  (List.range count).filterMap fun i => l[(start + i) % l.length]?

theorem lap_succ {start count : Nat} {a : α} (h : l[start % l.length]? = some a) :
    lap l start (count + 1) = a :: lap l (start + 1) count := by
  rw [lap, range_succ_eq_map, filterMap_cons_some (by rw [Nat.add_zero]; exact h), filterMap_map, lap]
  refine congrArg _ (filterMap_congr fun i _ => ?_)
  simp only [Function.comp_apply, Nat.succ_eq_add_one]
  rw [show start + (i + 1) = start + 1 + i by omega]

theorem lap_mod (l : List α) (start count : Nat) : lap l (start % l.length) count = lap l start count := by
  refine filterMap_congr fun i _ => ?_
  rw [Nat.mod_add_mod]

theorem filter_rotate {i : Nat} (hi : i ≤ l.length) :
    (l.rotate i).filter p = (l.filter p).rotate ((l.take i).countP p) := by
  have hsplit : l.filter p = (l.take i).filter p ++ (l.drop i).filter p := by
    rw [← filter_append, take_append_drop]
  rw [rotate_eq_drop_append_take hi, filter_append, hsplit, countP_eq_length_filter,
    rotate_append_length_eq]

theorem find?_rotate {i : Nat} (hi : i ≤ l.length) (hne : l.filter p ≠ []) :
    (l.rotate i).find? p = (l.filter p)[(l.take i).countP p % (l.filter p).length]? := by
  have hpos := length_pos_iff.mpr hne
  rw [← List.head?_filter, filter_rotate hi, List.head?_eq_getElem?, List.getElem?_rotate hpos, Nat.zero_add]

section

variable [DecidableEq α]

-- The order of the list that ends with `a`, where it is in the list
def after (l : List α) (a : α) : List α := if a ∈ l then l.rotate (l.idxOf a + 1) else l

theorem after_eq_rotate (l : List α) (a : α) :
    ∃ i ≤ l.length, after l a = l.rotate i ∧ (a ∈ l → i = l.idxOf a + 1) := by
  unfold after
  split
  · rename_i hmem
    exact ⟨_, idxOf_lt_length_iff.mpr hmem, rfl, fun _ => rfl⟩
  · rename_i hnot
    exact ⟨0, Nat.zero_le _, (rotate_zero l).symm, fun hmem => absurd hmem hnot⟩

theorem mem_after {a b : α} : b ∈ after l a ↔ b ∈ l := by
  unfold after
  split
  · exact mem_rotate
  · exact Iff.rfl

theorem find?_after_mem (hne : l.filter p ≠ []) (a : α) :
    ∃ j < (l.filter p).length, (after l a).find? p = (l.filter p)[j]? := by
  obtain ⟨i, hi, heq, -⟩ := after_eq_rotate l a
  exact ⟨_, Nat.mod_lt _ (length_pos_iff.mpr hne), by rw [heq, find?_rotate hi hne]⟩

theorem find?_after_ring (hl : l.Nodup) {j : Nat} {a : α} (hj : (l.filter p)[j]? = some a) :
    (after l a).find? p = (l.filter p)[(j + 1) % (l.filter p).length]? := by
  obtain ⟨hmem, hp⟩ := mem_filter.mp (mem_of_getElem? hj)
  obtain ⟨i, hi, heq, hindex⟩ := after_eq_rotate l a
  have hpassed : (l.take i).countP p = j + 1 := by
    obtain ⟨before, rest, rfl, hbefore⟩ := eq_append_cons_of_mem hmem
    have hring : (before ++ a :: rest).filter p = before.filter p ++ a :: rest.filter p := by
      rw [filter_append, filter_cons_of_pos hp]
    have hplace : ((before ++ a :: rest).filter p)[(before.filter p).length]? = some a := by
      rw [hring, List.getElem?_append_right (Nat.le_refl _), Nat.sub_self]
      rfl
    have hsame : j = (before.filter p).length :=
      (List.getElem?_inj (List.getElem?_eq_some_iff.mp hj).1 (hl.filter p)).mp (hj.trans hplace.symm)
    have htake : (before ++ a :: rest).take i = before ++ [a] := by
      rw [hindex hmem, idxOf_append_of_notMem hbefore, idxOf_cons_self, Nat.add_zero,
        append_cons, take_left' (by simp)]
    rw [htake, countP_append, hsame, countP_eq_length_filter]
    simp [hp]
  rw [heq, find?_rotate hi (ne_nil_of_mem (mem_of_getElem? hj)), hpassed]

theorem alone_of_find?_after (hl : l.Nodup) {a : α} (ha : a ∈ l) (h : (after l a).find? p = some a) :
    ∀ b ∈ l, p b → b = a := by
  intro b hb hpb
  obtain ⟨j, hj⟩ := List.getElem?_of_mem (mem_filter.mpr ⟨ha, List.find?_some h⟩)
  obtain ⟨i, hi⟩ := List.getElem?_of_mem (mem_filter.mpr ⟨hb, hpb⟩)
  obtain ⟨hjlt, -⟩ := List.getElem?_eq_some_iff.mp hj
  obtain ⟨hilt, -⟩ := List.getElem?_eq_some_iff.mp hi
  rw [find?_after_ring hl hj, ← hj] at h
  have hsame : j = (j + 1) % (l.filter p).length := (List.getElem?_inj hjlt (hl.filter p)).mp h.symm
  have hzero : i = j := by
    rcases Nat.lt_or_ge (j + 1) (l.filter p).length with hlt | hge
    · rw [Nat.mod_eq_of_lt hlt] at hsame
      omega
    · rw [show j + 1 = (l.filter p).length by omega, Nat.mod_self] at hsame
      omega
  exact Option.some.inj (hi.symm.trans ((congrArg _ hzero).trans hj))

theorem count_lap (hl : l.Nodup) {j : Nat} {a : α} (hj : l[j]? = some a) (start count : Nat) :
    ∃ extra ≤ 1, (lap l start count).count a = count / l.length + extra := by
  obtain ⟨hlt, -⟩ := List.getElem?_eq_some_iff.mp hj
  have hpos : 0 < l.length := by omega
  -- the turn that is `a`'s, counted from `start`
  let turn := j + (l.length - start % l.length)
  have hsum : turn + start ≡ j [MOD l.length] := by
    have heq : turn + start = j + l.length * (start / l.length + 1) := by
      have hdiv := Nat.div_add_mod start l.length
      have hmod := Nat.mod_lt start hpos
      rw [Nat.mul_add, Nat.mul_one]
      omega
    rw [heq]
    exact Nat.ModEq.symm (Nat.modEq_iff_dvd' (Nat.le_add_right _ _) |>.mpr (by simp))
  have hturn : ∀ i, l[(start + i) % l.length]? = some a ↔ i ≡ turn [MOD l.length] := by
    intro i
    rw [← hj, List.getElem?_inj (Nat.mod_lt _ hpos) hl, Nat.add_comm]
    constructor
    · intro h
      refine Nat.ModEq.add_right_cancel' start (Nat.ModEq.trans ?_ hsum.symm)
      rw [Nat.ModEq, h, Nat.mod_eq_of_lt hlt]
    · intro h
      have hboth := (h.add_right start).trans hsum
      rwa [Nat.ModEq, Nat.mod_eq_of_lt hlt] at hboth
  have hcount : (lap l start count).count a = count.count (· ≡ turn [MOD l.length]) := by
    induction count with
    | zero => rfl
    | succ count ih =>
      rw [Nat.count_succ, ← ih, lap, range_succ, filterMap_append, count_append, lap]
      congr 1
      by_cases hmine : count ≡ turn [MOD l.length]
      · rw [if_pos hmine]
        simp [(hturn count).mpr hmine]
      · rw [if_neg hmine]
        cases hget : l[(start + count) % l.length]? with
        | none => simp [hget]
        | some b =>
          have hne : b ≠ a := fun heq => hmine ((hturn count).mp (hget.trans (congrArg some heq)))
          simp [hget, hne]
  rw [hcount, Nat.count_modEq_card count hpos]
  exact ⟨_, by split <;> omega, rfl⟩

theorem count_lap_le (hl : l.Nodup) {a b : α} (ha : a ∈ l) (hb : b ∈ l) (start count : Nat) :
    (lap l start count).count a ≤ (lap l start count).count b + 1 := by
  obtain ⟨i, hi⟩ := List.getElem?_of_mem ha
  obtain ⟨j, hj⟩ := List.getElem?_of_mem hb
  obtain ⟨extra, hextra, ha⟩ := count_lap hl hi start count
  obtain ⟨_, -, hb⟩ := count_lap hl hj start count
  rw [ha, hb]
  omega

end

end TurtleWow.Cycle

import Mathlib.Algebra.Order.Ring.Int
import Mathlib.Data.List.Nodup
import Mathlib.Logic.Function.Iterate
import Mathlib.Tactic.SplitIfs

namespace TurtleWow.Lists

open List

-- Lists that are edited in place, seen through a projection.

variable {α β γ : Type*}

variable {i : Nat}

section

variable (f : α → β)

theorem getElem_map_of_getElem? {l : List α} {a : α} (h : l[i]? = some a)
    (hlt : i < (l.map f).length) : (l.map f)[i] = f a := by
  obtain ⟨hlen, hget⟩ := List.getElem?_eq_some_iff.mp h
  rw [getElem_map, hget]

theorem lt_length_map {l : List α} {a : α} (h : l[i]? = some a) : i < (l.map f).length := by
  rw [length_map]
  exact (List.getElem?_eq_some_iff.mp h).1

theorem map_set_same {l : List α} {old new : α} (h : l[i]? = some old)
    (hf : f new = f old) : (l.set i new).map f = l.map f := by
  rw [map_set, hf, ← getElem_map_of_getElem? f h (lt_length_map f h), set_getElem_self]

theorem map_exchange {l : List α} {j : Nat} {a b a' b' : α} (hi : l[i]? = some a)
    (hj : l[j]? = some b) (ha : f a' = f b) (hb : f b' = f a) :
    (((l.set i a').set j b').map f).Perm (l.map f) := by
  rw [map_set, map_set, ha, hb, ← getElem_map_of_getElem? f hi (lt_length_map f hi),
    ← getElem_map_of_getElem? f hj (lt_length_map f hj)]
  exact set_set_perm _ _

theorem map_exchange_same {l : List α} {j : Nat} {a b a' b' : α} (hi : l[i]? = some a)
    (hj : l[j]? = some b) (hne : i ≠ j) (ha : f a' = f a) (hb : f b' = f b) :
    ((l.set i a').set j b').map f = l.map f := by
  rw [map_set_same f (by rw [List.getElem?_set_ne hne]; exact hj) hb, map_set_same f hi ha]

end

theorem eq_of_key {f : α → β} {l : List α} (hnodup : (l.map f).Nodup) {a b : α} (ha : a ∈ l) (hb : b ∈ l)
    (h : f a = f b) : a = b := inj_on_of_nodup_map hnodup ha hb h

theorem find?_key [DecidableEq β] {f : α → β} {l : List α} (hnodup : (l.map f).Nodup) {a : α} (ha : a ∈ l) :
    l.find? (fun b => decide (f b = f a)) = some a := by
  cases hfind : l.find? fun b => decide (f b = f a) with
  | none => simpa using List.find?_eq_none.mp hfind a ha
  | some b =>
    have hkey : f b = f a := by simpa using List.find?_some hfind
    exact congrArg some (eq_of_key hnodup (mem_of_find?_eq_some hfind) ha hkey)

theorem length_filter_key_le_one [DecidableEq β] {f : α → β} {l : List α} (hnodup : (l.map f).Nodup)
    (b : β) : (l.filter fun a => decide (f a = b)).length ≤ 1 := by
  have hcount := nodup_iff_count_le_one.mp hnodup b
  rw [List.count, countP_map, countP_eq_length_filter] at hcount
  refine Nat.le_trans (Nat.le_of_eq (congrArg List.length (filter_congr fun a _ => ?_))) hcount
  exact (beq_eq_decide (f a) b).symm

theorem eq_of_perm {l l' : List α} (h : l.Perm l') (hone : l.length ≤ 1) : l = l' := by
  match l, hone with
  | [], _ => exact h.nil_eq
  | [a], _ => exact singleton_perm.mp h

theorem set_eq_map_key [DecidableEq β] {f : α → β} {l : List α} {old new : α}
    (hnodup : (l.map f).Nodup) (hi : l[i]? = some old) :
    l.set i new = l.map fun a => if f a = f old then new else a := by
  obtain ⟨hlt, hget⟩ := List.getElem?_eq_some_iff.mp hi
  refine ext_getElem (by simp) fun j hj hj' => ?_
  rw [getElem_set, getElem_map]
  have hjlt : j < l.length := by simpa using hj
  by_cases hij : i = j
  · subst hij
    rw [if_pos rfl, if_pos (by rw [hget])]
  · rw [if_neg hij, if_neg]
    intro hkey
    refine hij ?_
    have hi' : i < (l.map f).length := by simpa using hlt
    have hj' : j < (l.map f).length := by simpa using hjlt
    have hkeys : (l.map f)[i] = (l.map f)[j] := by
      rw [getElem_map, getElem_map, hget, hkey]
    exact (hnodup.getElem_inj_iff).mp hkeys

theorem eraseIdx_eq_filter_key [DecidableEq β] {f : α → β} {l : List α} {old : α}
    (hnodup : (l.map f).Nodup) (hi : l[i]? = some old) :
    l.eraseIdx i = l.filter fun a => decide (f a ≠ f old) := by
  induction l generalizing i with
  | nil => simp at hi
  | cons a rest ih =>
    rw [map_cons, nodup_cons] at hnodup
    cases i with
    | zero =>
      simp only [List.getElem?_cons_zero, Option.some.injEq] at hi
      subst hi
      rw [eraseIdx_cons_zero, filter_cons_of_neg (by simp)]
      refine (filter_eq_self.mpr fun b hb => ?_).symm
      have hne : f b ≠ f a := fun h => hnodup.1 (h ▸ mem_map_of_mem hb)
      simpa using hne
    | succ i =>
      rw [List.getElem?_cons_succ] at hi
      have hne : f a ≠ f old := fun h =>
        hnodup.1 (h ▸ mem_map_of_mem (mem_of_getElem? hi))
      rw [eraseIdx_cons_succ, ih hnodup.2 hi, filter_cons_of_pos (by simpa using hne)]

theorem flatMap_pages (l : List α) (width count : Nat) :
    ((List.range count).flatMap fun page => (l.drop (width * page)).take width) = l.take (width * count) := by
  induction count with
  | zero => simp
  | succ count ih => rw [range_succ, flatMap_append, ih, Nat.mul_succ, take_add, flatMap_singleton]

theorem eraseP_eq_filter_key [DecidableEq β] {f : α → β} {l : List α} {p : α → Bool} {b : β}
    (hnodup : (l.map f).Nodup) (hp : ∀ a ∈ l, p a = true ↔ f a = b) :
    l.eraseP p = l.filter fun a => f a ≠ b := by
  induction l with
  | nil => rfl
  | cons head rest ih =>
    obtain ⟨hhead, hrest⟩ := nodup_cons.mp hnodup
    obtain ⟨hpHead, hpRest⟩ := forall_mem_cons.mp hp
    by_cases hsame : f head = b
    · rw [eraseP_cons_of_pos (hpHead.mpr hsame), filter_cons_of_neg (by simpa using hsame)]
      refine (filter_eq_self.mpr fun a ha => ?_).symm
      have hne : f a ≠ b := fun heq => hhead (hsame.trans heq.symm ▸ mem_map_of_mem ha)
      simpa using hne
    · rw [eraseP_cons_of_neg (fun h => hsame (hpHead.mp h)), filter_cons_of_pos (by simpa using hsame),
        ih hrest hpRest]

theorem notMem_filterMap_eraseIdx {f : α → Option β} {l : List α} {a : α} {b : β}
    (hnodup : (l.filterMap f).Nodup) (hi : l[i]? = some a) (hb : f a = some b) :
    b ∉ (l.eraseIdx i).filterMap f := by
  obtain ⟨hlt, hget⟩ := List.getElem?_eq_some_iff.mp hi
  have hsplit : l = l.take i ++ a :: l.drop (i + 1) := by
    rw [← hget, getElem_cons_drop, take_append_drop]
  rw [hsplit, filterMap_append, filterMap_cons_some hb, nodup_append] at hnodup
  obtain ⟨-, htail, hdisjoint⟩ := hnodup
  rw [eraseIdx_eq_take_drop_succ, filterMap_append, mem_append]
  rintro (hleft | hright)
  · exact hdisjoint b hleft b mem_cons_self rfl
  · exact (nodup_cons.mp htail).1 hright

theorem map_modify_same (f : α → β) {g : α → α} (hg : ∀ a, f (g a) = f a) (l : List α) (i : Nat) :
    (l.modify i g).map f = l.map f := by
  induction l generalizing i with
  | nil => simp
  | cons head rest ih =>
    cases i with
    | zero => simp [hg]
    | succ i => simp [ih]

theorem countP_modify (q : α → Bool) {g : α → α} {l : List α} {a : α} (hi : l[i]? = some a) :
    (l.modify i g).countP q + (if q a then 1 else 0) = l.countP q + if q (g a) then 1 else 0 := by
  induction l generalizing i with
  | nil => simp at hi
  | cons head rest ih =>
    cases i with
    | zero =>
      simp only [List.getElem?_cons_zero, Option.some.injEq] at hi
      subst hi
      rw [modify_zero_cons, countP_cons, countP_cons]
      omega
    | succ i =>
      rw [List.getElem?_cons_succ] at hi
      have ih := ih hi
      rw [modify_succ_cons, countP_cons, countP_cons]
      omega

theorem countP_flip {f g : α → Bool} {l : List α} {a : α} (hnodup : l.Nodup) (ha : a ∈ l) (hf : f a = false)
    (hg : g a = true) (hrest : ∀ b ∈ l, b ≠ a → g b = f b) : l.countP g = l.countP f + 1 := by
  induction l with
  | nil => simp at ha
  | cons head rest ih =>
    obtain ⟨hhead, hnodup⟩ := nodup_cons.mp hnodup
    rw [countP_cons, countP_cons]
    rcases mem_cons.mp ha with rfl | ha
    · have hsame : rest.countP g = rest.countP f := countP_congr fun b hb => by
        rw [hrest b (mem_cons_of_mem _ hb) fun h => hhead (h ▸ hb)]
      simp [hsame, hf, hg]
    · have hne : head ≠ a := fun h => hhead (h ▸ ha)
      have ih := ih hnodup ha fun b hb => hrest b (mem_cons_of_mem _ hb)
      rw [ih, hrest head mem_cons_self hne]
      omega

theorem sublist_map_filterMap {f : α → Option β} {key : α → γ} {key' : β → γ} {l : List α}
    (h : ∀ a ∈ l, ∀ b, f a = some b → key' b = key a) : ((l.filterMap f).map key').Sublist (l.map key) := by
  induction l with
  | nil => exact List.Sublist.slnil
  | cons head rest ih =>
    have hrest := ih fun a ha => h a (mem_cons_of_mem head ha)
    rw [map_cons]
    cases hf : f head with
    | none =>
      rw [filterMap_cons_none hf]
      exact hrest.cons _
    | some b =>
      rw [filterMap_cons_some hf, map_cons, h head mem_cons_self b hf]
      exact hrest.cons_cons _

theorem nodup_concat {l : List α} {a : α} (hl : l.Nodup) (ha : a ∉ l) : (l ++ [a]).Nodup :=
  hl.append (nodup_singleton a) (by simpa using ha)

-- The first element that satisfies a test, rewritten or erased: what a search
-- by key followed by a write leaves.

def updateFirst (p : α → Bool) (f : α → α) : List α → List α
  | [] => []
  | a :: rest => if p a then f a :: rest else a :: updateFirst p f rest

section

variable {p : α → Bool} {f : α → α} {l : List α} {a : α}

theorem map_updateFirst (key : α → β) (hkey : ∀ a, key (f a) = key a) (l : List α) :
    (updateFirst p f l).map key = l.map key := by
  induction l with
  | nil => rfl
  | cons head rest ih =>
    unfold updateFirst
    split_ifs
    · simp [hkey]
    · simp [ih]

theorem mem_updateFirst {b : α} (h : b ∈ updateFirst p f l) : b ∈ l ∨ ∃ a ∈ l, p a ∧ b = f a := by
  induction l with
  | nil => simp [updateFirst] at h
  | cons head rest ih =>
    unfold updateFirst at h
    split_ifs at h with hp
    · rcases mem_cons.mp h with rfl | h
      · exact .inr ⟨head, mem_cons_self, hp, rfl⟩
      · exact .inl (mem_cons_of_mem _ h)
    · rcases mem_cons.mp h with rfl | h
      · exact .inl mem_cons_self
      · rcases ih h with h | ⟨a, ha, hp, heq⟩
        · exact .inl (mem_cons_of_mem _ h)
        · exact .inr ⟨a, mem_cons_of_mem _ ha, hp, heq⟩

theorem find_updateFirst_of_not {q : α → Bool} (hq : ∀ a, p a = true → q a = false ∧ q (f a) = false) :
    (updateFirst p f l).find? q = l.find? q := by
  induction l with
  | nil => rfl
  | cons head rest ih =>
    unfold updateFirst
    split_ifs with hp
    · obtain ⟨hhead, hnew⟩ := hq head hp
      simp [hhead, hnew]
    · simp only [List.find?_cons, ih]

theorem countP_updateFirst (q : α → Bool) (h : l.find? p = some a) :
    (updateFirst p f l).countP q + (if q a then 1 else 0) = l.countP q + if q (f a) then 1 else 0 := by
  induction l with
  | nil => simp at h
  | cons head rest ih =>
    unfold updateFirst
    cases hp : p head with
    | true =>
      simp only [List.find?_cons, hp, Option.some.injEq] at h
      subst h
      rw [if_pos rfl, countP_cons, countP_cons]
      omega
    | false =>
      simp only [List.find?_cons, hp] at h
      have ih := ih h
      rw [if_neg Bool.false_ne_true, countP_cons, countP_cons]
      omega

theorem countP_eraseP (q : α → Bool) (h : l.find? p = some a) :
    (l.eraseP p).countP q + (if q a then 1 else 0) = l.countP q := by
  induction l with
  | nil => simp at h
  | cons head rest ih =>
    cases hp : p head with
    | true =>
      simp only [List.find?_cons, hp, Option.some.injEq] at h
      subst h
      rw [eraseP_cons_of_pos hp, countP_cons]
    | false =>
      simp only [List.find?_cons, hp] at h
      have ih := ih h
      rw [eraseP_cons_of_neg (by rw [hp]; decide), countP_cons, countP_cons]
      omega

theorem length_eraseP (h : l.find? p = some a) : (l.eraseP p).length + 1 = l.length := by
  have hcount := countP_eraseP (fun _ => true) h
  simpa using hcount

end

theorem filterMap_eq_self_iff {f : α → Option α} {list : List α} :
    list.filterMap f = list ↔ ∀ a ∈ list, f a = some a := by
  induction list with
  | nil => simp
  | cons head rest ih =>
    rw [filterMap_cons, forall_mem_cons, ← ih]
    split
    · rename_i hnone
      have hlength := length_filterMap_le f rest
      refine iff_of_false (fun heq => ?_) fun h => ?_
      · have hcons := congrArg List.length heq
        rw [length_cons] at hcons
        omega
      · rw [hnone] at h
        cases h.1
    · rename_i found hfound
      rw [hfound, List.cons.injEq, Option.some.injEq]

-- The first of those that satisfy `p` with the highest score

def FirstMax [LinearOrder β] (score : α → β) (p : α → Prop) (l : List α) (a : α) : Prop :=
  ∃ before after, l = before ++ a :: after ∧ p a ∧ (∀ b ∈ before, p b → score b < score a) ∧
    ∀ b ∈ after, p b → score b ≤ score a

section

variable [LinearOrder β] {score : α → β} {p : α → Prop} {l : List α} {a : α}

theorem FirstMax.mem (h : FirstMax score p l a) : a ∈ l ∧ p a := by
  obtain ⟨before, after, rfl, ha, -, -⟩ := h
  exact ⟨by simp, ha⟩

theorem FirstMax.le (h : FirstMax score p l a) {b : α} (hb : b ∈ l) (hpb : p b) : score b ≤ score a := by
  obtain ⟨before, after, rfl, -, hbefore, hafter⟩ := h
  rcases mem_append.mp hb with hb | hb
  · exact le_of_lt (hbefore b hb hpb)
  · rcases mem_cons.mp hb with rfl | hb
    · exact le_refl _
    · exact hafter b hb hpb

theorem exists_firstMax (h : ∃ a ∈ l, p a) : ∃ a, FirstMax score p l a := by
  induction l with
  | nil => simp at h
  | cons head rest ih =>
    by_cases hrest : ∃ a ∈ rest, p a
    · obtain ⟨a, hmax⟩ := ih hrest
      have hle := fun b (hb : b ∈ rest) (hpb : p b) => hmax.le hb hpb
      obtain ⟨before, after, rfl, ha, hbefore, hafter⟩ := hmax
      by_cases hhead : p head ∧ score a ≤ score head
      · refine ⟨head, [], _, rfl, hhead.1, by simp, fun b hb hpb => ?_⟩
        exact le_trans (hle b hb hpb) hhead.2
      · refine ⟨a, head :: before, after, rfl, ha, fun b hb hpb => ?_, hafter⟩
        rcases mem_cons.mp hb with rfl | hb
        · exact lt_of_not_ge fun hge => hhead ⟨hpb, hge⟩
        · exact hbefore b hb hpb
    · obtain ⟨a, ha, hpa⟩ := h
      rcases mem_cons.mp ha with rfl | ha
      · exact ⟨a, [], rest, rfl, hpa, by simp, fun b hb hpb => absurd ⟨b, hb, hpb⟩ hrest⟩
      · exact absurd ⟨a, ha, hpa⟩ hrest

variable {key : α → γ} [DecidablePred p]

-- The loop that keeps the best one so far
def best (score : α → β) (key : α → γ) (p : α → Prop) [DecidablePred p] (start : γ × β) (l : List α) : γ × β :=
  l.foldl (fun best a => if p a ∧ best.2 < score a then (key a, score a) else best) start

theorem best_lt {start : γ × β} {bound : β} (hstart : start.2 < bound) (h : ∀ a ∈ l, p a → score a < bound) :
    (best score key p start l).2 < bound := by
  unfold best
  induction l generalizing start with
  | nil => exact hstart
  | cons head rest ih =>
    obtain ⟨hhead, hrest⟩ := forall_mem_cons.mp h
    rw [foldl_cons]
    refine ih ?_ hrest
    split
    · rename_i htaken
      exact hhead htaken.1
    · exact hstart

theorem best_of_le {start : γ × β} (h : ∀ a ∈ l, p a → score a ≤ start.2) : best score key p start l = start := by
  unfold best
  induction l with
  | nil => rfl
  | cons head rest ih =>
    obtain ⟨hhead, hrest⟩ := forall_mem_cons.mp h
    rw [foldl_cons, if_neg fun htaken => not_lt_of_ge (hhead htaken.1) htaken.2]
    exact ih hrest

theorem best_of_firstMax {start : γ × β} (h : FirstMax score p l a) (hstart : start.2 < score a) :
    best score key p start l = (key a, score a) := by
  obtain ⟨before, after, rfl, ha, hbefore, hafter⟩ := h
  have hlt : (best score key p start before).2 < score a := best_lt hstart hbefore
  have hsplit : best score key p start (before ++ a :: after) =
      best score key p (best score key p start before) (a :: after) := foldl_append
  have htake : best score key p (best score key p start before) (a :: after) =
      best score key p (key a, score a) after := by
    simp [best, ha, show (before.foldl _ start).2 < score a from hlt]
  rw [hsplit, htake]
  exact best_of_le hafter

end

-- Keyed updates one after the other reach each key as often as it is listed.
theorem foldl_update [DecidableEq α] (f : α → β → β) (keys : List α) (m : α → β) (key : α) :
    keys.foldl (fun m key => Function.update m key (f key (m key))) m key = (f key)^[keys.count key] (m key) := by
  induction keys generalizing m with
  | nil => rfl
  | cons first rest ih =>
    rw [foldl_cons, ih]
    by_cases h : first = key
    · subst h
      rw [Function.update_self, count_cons_self, Function.iterate_succ_apply]
    · rw [Function.update_of_ne (Ne.symm h), count_cons_of_ne h]

theorem iterate_count [DecidableEq α] {f : β → β} {p : β → Prop} (hf : ∀ b, p (f b)) {keys : List α} {key : α}
    (hmem : key ∈ keys) (b : β) : p (f^[keys.count key] b) := by
  obtain ⟨n, hn⟩ := Nat.exists_eq_succ_of_ne_zero (count_pos_iff.mpr hmem).ne'
  rw [hn, Function.iterate_succ_apply']
  exact hf _

theorem mem_of_conjugate {first middle last : List α} (hne : first ≠ []) (h : first ++ middle = middle ++ last) :
    (∀ a ∈ middle, a ∈ first) ∧ (first.length ∣ middle.length → last = first) := by
  induction hn : middle.length using Nat.strong_induction_on generalizing middle with
  | _ n ih =>
    subst hn
    rcases append_eq_append_iff.mp h with ⟨more, hmiddle, hlast⟩ | ⟨more, hfirst, hlast⟩
    · have hless : more.length < middle.length := by
        have hpos := length_pos_iff.mpr hne
        rw [hmiddle, length_append]
        omega
      have hmore : first ++ more = more ++ last := hmiddle.symm.trans hlast
      obtain ⟨hmem, hdvd⟩ := ih more.length hless hmore rfl
      refine ⟨fun a ha => ?_, fun hlength => hdvd ?_⟩
      · rw [hmiddle] at ha
        rcases mem_append.mp ha with ha | ha
        · exact ha
        · exact hmem a ha
      · rw [hmiddle, length_append] at hlength
        exact (Nat.dvd_add_right (dvd_refl _)).mp hlength
    · refine ⟨fun a ha => by rw [hfirst]; exact mem_append_left _ ha, fun hlength => ?_⟩
      rcases middle.eq_nil_or_concat with rfl | ⟨init, a, hconcat⟩
      · simpa using h.symm
      · have hpos : 0 < middle.length := by simp [hconcat]
        have hle := Nat.le_of_dvd hpos hlength
        have hmore : more = [] := by
          rw [hfirst, length_append] at hle
          exact eq_nil_of_length_eq_zero (by omega)
        subst hmore
        simp_all

end TurtleWow.Lists

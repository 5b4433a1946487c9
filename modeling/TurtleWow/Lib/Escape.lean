import Mathlib.Algebra.Order.Ring.Int
import Mathlib.Data.List.Basic

namespace TurtleWow.Escape

open List

-- Fields that are joined with a delimiter and escaped, and the loop that takes
-- them apart: an escape lets the next symbol through as it is, and one at the
-- very end stands for itself.

variable {α : Type*} [DecidableEq α]

def escape (esc : α) (special : α → Bool) : List α → List α
  | [] => []
  | c :: rest => if special c then esc :: c :: escape esc special rest else c :: escape esc special rest

def splitFrom (esc delimiter : α) (current : List α) : Bool → List α → List (List α)
  | escaped, [] => [if escaped then current ++ [esc] else current]
  | true, c :: rest => splitFrom esc delimiter (current ++ [c]) false rest
  | false, c :: rest =>
    if c = esc then splitFrom esc delimiter current true rest
    else if c = delimiter then current :: splitFrom esc delimiter [] false rest
    else splitFrom esc delimiter (current ++ [c]) false rest

def split (esc delimiter : α) (text : List α) : List (List α) := splitFrom esc delimiter [] false text

section

variable {esc delimiter : α} {special : α → Bool} {current : List α}

theorem splitFrom_plain {c : α} (hesc : c ≠ esc) (hdelimiter : c ≠ delimiter) (rest : List α) :
    splitFrom esc delimiter current false (c :: rest) = splitFrom esc delimiter (current ++ [c]) false rest := by
  simp [splitFrom, hesc, hdelimiter]

theorem splitFrom_plains {text : List α} (hplain : ∀ c ∈ text, c ≠ esc ∧ c ≠ delimiter) (rest : List α) :
    splitFrom esc delimiter current false (text ++ rest) = splitFrom esc delimiter (current ++ text) false rest := by
  induction text generalizing current with
  | nil => simp
  | cons c text ih =>
    obtain ⟨hc, htext⟩ := forall_mem_cons.mp hplain
    rw [cons_append, splitFrom_plain hc.1 hc.2, ih htext, append_assoc]
    rfl

theorem splitFrom_delimiter (hne : delimiter ≠ esc) (rest : List α) :
    splitFrom esc delimiter current false (delimiter :: rest) = current :: split esc delimiter rest := by
  simp [splitFrom, split, hne]

-- Where the escape and the delimiter are special, an escaped text comes back
-- as it was.
theorem splitFrom_escape (hesc : special esc = true) (hdelimiter : special delimiter = true) (text rest : List α) :
    splitFrom esc delimiter current false (escape esc special text ++ rest) =
      splitFrom esc delimiter (current ++ text) false rest := by
  induction text generalizing current with
  | nil => simp [escape]
  | cons c text ih =>
    rw [escape]
    split
    · have hstep : splitFrom esc delimiter current false (esc :: c :: escape esc special text ++ rest) =
          splitFrom esc delimiter (current ++ [c]) false (escape esc special text ++ rest) := by
        simp [splitFrom]
      rw [hstep, ih, append_assoc]
      rfl
    · rename_i hplain
      have hc : c ≠ esc ∧ c ≠ delimiter := by
        constructor <;> rintro rfl <;> contradiction
      rw [cons_append, splitFrom_plain hc.1 hc.2, ih, append_assoc]
      rfl

def firstField (esc delimiter : α) : Bool → List α → List α
  | escaped, [] => if escaped then [esc] else []
  | true, c :: rest => c :: firstField esc delimiter false rest
  | false, c :: rest =>
    if c = esc then firstField esc delimiter true rest
    else if c = delimiter then []
    else c :: firstField esc delimiter false rest

theorem head_splitFrom (escaped : Bool) (text : List α) :
    (splitFrom esc delimiter current escaped text).head? = some (current ++ firstField esc delimiter escaped text) := by
  induction text generalizing current escaped with
  | nil => cases escaped <;> simp [splitFrom, firstField]
  | cons c rest ih =>
    cases escaped with
    | true => simp [splitFrom, firstField, ih]
    | false =>
      simp only [splitFrom, firstField]
      split
      · exact ih true
      · split
        · simp
        · simp [ih]

-- A text that is not escaped loses an escape in front, and no text makes up for it.
theorem firstField_ne (hne : delimiter ≠ esc) (rest : List α) : ∀ (text : List α) (count : Nat),
    firstField esc delimiter false (text ++ delimiter :: rest) ≠ List.replicate (count + 1) esc ++ text
  | [], count => by simp [firstField, hne, replicate_succ]
  | [c], count => by
    by_cases hesc : c = esc
    · simp [firstField, hesc, hne, replicate_succ]
    · by_cases hdelimiter : c = delimiter
      · simp [firstField, hdelimiter, hne, replicate_succ]
      · simp [firstField, hdelimiter, hesc, replicate_succ]
  | c :: d :: text, count => by
    by_cases hesc : c = esc
    · intro heq
      simp only [cons_append, firstField, hesc, if_true] at heq
      rw [replicate_succ, cons_append] at heq
      obtain ⟨hd, htext⟩ := List.cons.inj heq
      refine firstField_ne hne rest text (count + 1) (htext.trans ?_)
      simp [hd, replicate_succ', append_assoc]
    · by_cases hdelimiter : c = delimiter
      · simp [firstField, hdelimiter, hne, replicate_succ]
      · simp [firstField, hdelimiter, hesc, replicate_succ]

def Plain (esc delimiter : α) (text : List α) : Prop := ∀ c ∈ text, c ≠ esc ∧ c ≠ delimiter

theorem firstField_eq_iff (hne : delimiter ≠ esc) (text rest : List α) :
    firstField esc delimiter false (text ++ delimiter :: rest) = text ↔ Plain esc delimiter text := by
  induction text with
  | nil => simp [firstField, hne, Plain]
  | cons c text ih =>
    by_cases hesc : c = esc
    · subst hesc
      refine iff_of_false (fun heq => ?_) (by simp [Plain])
      cases text with
      | nil => simp [firstField, hne] at heq
      | cons d text =>
        simp only [cons_append, firstField, if_true] at heq
        obtain ⟨hd, htext⟩ := List.cons.inj heq
        subst hd
        exact firstField_ne hne rest text 0 (by simpa using htext)
    · by_cases hdelimiter : c = delimiter
      · subst hdelimiter
        simp [firstField, hesc, Plain]
      · rw [cons_append, firstField, if_neg hesc, if_neg hdelimiter, cons_inj_right, ih]
        simp [Plain, hesc, hdelimiter]

theorem head_split_iff (hne : delimiter ≠ esc) (text rest : List α) :
    (split esc delimiter (text ++ delimiter :: rest)).head? = some text ↔ Plain esc delimiter text := by
  rw [split, head_splitFrom, nil_append, Option.some.injEq, firstField_eq_iff hne]

theorem split_plain (hne : delimiter ≠ esc) {text : List α} (hplain : Plain esc delimiter text) (rest : List α) :
    split esc delimiter (text ++ delimiter :: rest) = text :: split esc delimiter rest := by
  rw [split, splitFrom_plains hplain, splitFrom_delimiter hne, nil_append]

theorem split_last {text : List α} (hplain : Plain esc delimiter text) : split esc delimiter text = [text] := by
  have h : splitFrom esc delimiter [] false (text ++ []) = splitFrom esc delimiter ([] ++ text) false [] :=
    splitFrom_plains hplain []
  rw [append_nil, nil_append] at h
  rw [split, h]
  simp [splitFrom]

end

end TurtleWow.Escape

import Mathlib.Algebra.Order.Ring.Int
import Mathlib.Data.List.Basic
import Mathlib.Data.List.Induction

namespace TurtleWow.Run

-- A deterministic machine: `step` takes one input, `run` a list of them.
-- `Guarded` says that every step of a run meets a condition on the state
-- before it and its input.

variable {σ ι : Type*}

def run (step : σ → ι → σ) (start : σ) (inputs : List ι) : σ :=
  inputs.foldl step start

def Guarded (step : σ → ι → σ) (ok : σ → ι → Prop) : σ → List ι → Prop
  | _, [] => True
  | state, input :: rest => ok state input ∧ Guarded step ok (step state input) rest

-- Some step of the run is one that `mark` names.
def Sometime (step : σ → ι → σ) (mark : σ → ι → Prop) : σ → List ι → Prop
  | _, [] => False
  | state, input :: rest => mark state input ∨ Sometime step mark (step state input) rest

instance instDecidableGuarded (step : σ → ι → σ) (ok : σ → ι → Prop) [hok : ∀ state input, Decidable (ok state input)] :
    ∀ start inputs, Decidable (Guarded step ok start inputs)
  | _, [] => inferInstanceAs (Decidable True)
  | state, input :: rest =>
    have := instDecidableGuarded step ok (step state input) rest
    inferInstanceAs (Decidable (ok state input ∧ Guarded step ok (step state input) rest))

section

variable (step : σ → ι → σ)

@[simp] theorem run_nil (start : σ) : run step start [] = start := rfl

@[simp] theorem run_cons (start : σ) (input : ι) (rest : List ι) :
    run step start (input :: rest) = run step (step start input) rest := rfl

theorem run_append (start : σ) (first second : List ι) :
    run step start (first ++ second) = run step (run step start first) second :=
  List.foldl_append

section

variable (ok : σ → ι → Prop)

@[simp] theorem guarded_nil (start : σ) : Guarded step ok start [] := trivial

@[simp] theorem guarded_cons (start : σ) (input : ι) (rest : List ι) : Guarded step ok start (input :: rest) ↔
      ok start input ∧ Guarded step ok (step start input) rest := Iff.rfl

theorem guarded_append (start : σ) (first second : List ι) : Guarded step ok start (first ++ second) ↔
      Guarded step ok start first ∧ Guarded step ok (run step start first) second := by
  induction first generalizing start with
  | nil => simp
  | cons input rest ih => simp [ih, and_assoc]

theorem guarded_of_forall (h : ∀ state input, ok state input)
    (start : σ) (inputs : List ι) : Guarded step ok start inputs := by
  induction inputs generalizing start with
  | nil => trivial
  | cons input rest ih => exact ⟨h start input, ih _⟩

end

variable {start : σ} {inputs : List ι}

theorem Guarded.mono {ok weaker : σ → ι → Prop} (h : ∀ state input, ok state input → weaker state input)
    (hg : Guarded step ok start inputs) :
    Guarded step weaker start inputs := by
  induction inputs generalizing start with
  | nil => trivial
  | cons input rest ih => exact ⟨h _ _ hg.1, ih hg.2⟩

theorem guarded_congr {first second : σ → ι → Prop} (invariant : σ → Prop)
    (hstep : ∀ state input, invariant state → invariant (step state input))
    (h : ∀ state input, invariant state → (first state input ↔ second state input))
    (hs : invariant start) :
    Guarded step first start inputs ↔ Guarded step second start inputs := by
  induction inputs generalizing start with
  | nil => exact Iff.rfl
  | cons input rest ih => rw [guarded_cons, guarded_cons, h start input hs, ih (hstep start input hs)]

theorem Guarded.and_mem {ok : σ → ι → Prop} {allowed : ι → Prop}
    (hg : Guarded step ok start inputs) (h : ∀ input ∈ inputs, allowed input) :
    Guarded step (fun state input => ok state input ∧ allowed input) start inputs := by
  induction inputs generalizing start with
  | nil => trivial
  | cons input rest ih =>
    obtain ⟨hinput, hrest⟩ := List.forall_mem_cons.mp h
    exact ⟨⟨hg.1, hinput⟩, ih hg.2 hrest⟩

theorem Guarded.and {first second : σ → ι → Prop} (h : Guarded step first start inputs)
    (h' : Guarded step second start inputs) :
    Guarded step (fun state input => first state input ∧ second state input) start inputs := by
  induction inputs generalizing start with
  | nil => trivial
  | cons input rest ih => exact ⟨⟨h.1, h'.1⟩, ih h.2 h'.2⟩

-- The invariant rule: what the guarded steps preserve holds after the run.
theorem run_invariant (ok : σ → ι → Prop) (invariant : σ → Prop)
    (hstep : ∀ state input, invariant state → ok state input → invariant (step state input))
    (hs : invariant start) (hg : Guarded step ok start inputs) :
    invariant (run step start inputs) := by
  induction inputs generalizing start with
  | nil => exact hs
  | cons input rest ih => exact ih (hstep _ _ hs hg.1) hg.2

-- A marked step reaches the goal, and the steps after it keep it.
theorem run_reaches (ok mark : σ → ι → Prop) (invariant goal : σ → Prop)
    (hstep : ∀ state input, invariant state → ok state input → invariant (step state input))
    (hmark : ∀ state input, invariant state → ok state input → mark state input → goal (step state input))
    (hkeep : ∀ state input, invariant state → ok state input → goal state → goal (step state input))
    (hs : invariant start) (hg : Guarded step ok start inputs)
    (h : goal start ∨ Sometime step mark start inputs) : goal (run step start inputs) := by
  induction inputs generalizing start with
  | nil => exact h.resolve_right id
  | cons input rest ih =>
    refine ih (hstep start input hs hg.1) hg.2 ?_
    rcases h with h | h | h
    · exact .inl (hkeep start input hs hg.1 h)
    · exact .inl (hmark start input hs hg.1 h)
    · exact .inr h

theorem sometime_of_mem {mark : ι → Prop} {input : ι} (hmark : mark input) (start : σ)
    (h : input ∈ inputs) : Sometime step (fun _ input => mark input) start inputs := by
  induction inputs generalizing start with
  | nil => cases h
  | cons first rest ih =>
    rcases List.mem_cons.mp h with rfl | h
    · exact .inl hmark
    · exact .inr (ih _ h)

theorem run_concat (start : σ) (inputs : List ι) (input : ι) :
    run step start (inputs ++ [input]) = step (run step start inputs) input := by
  rw [run_append, run_cons, run_nil]

-- The rule for what relates a state to the whole run before it
theorem run_trace_invariant (ok : σ → ι → Prop) (invariant : List ι → σ → Prop)
    (hstep : ∀ inputs input, invariant inputs (run step start inputs) → ok (run step start inputs) input →
      invariant (inputs ++ [input]) (step (run step start inputs) input))
    (hs : invariant [] start) (hg : Guarded step ok start inputs) :
    invariant inputs (run step start inputs) := by
  induction inputs using List.reverseRecOn with
  | nil => exact hs
  | append_singleton before input ih =>
    rw [guarded_append, guarded_cons] at hg
    rw [run_concat]
    exact hstep before input (ih hg.1) hg.2.1

-- A run that leaves a set of states does so at some input.
theorem exists_exit (inside : σ → Prop) (hs : inside start)
    (h : ¬ inside (run step start inputs)) :
    ∃ before input after, inputs = before ++ input :: after ∧ inside (run step start before) ∧
      ¬ inside (step (run step start before) input) := by
  induction inputs generalizing start with
  | nil => exact absurd hs h
  | cons input rest ih =>
    by_cases hnext : inside (step start input)
    · obtain ⟨before, last, after, hrest, hin, hout⟩ := ih hnext h
      exact ⟨input :: before, last, after, by rw [hrest]; rfl, hin, hout⟩
    · exact ⟨[], input, rest, rfl, hs, hnext⟩

-- When a step from a good state ends well exactly under a condition, a run
-- passes through good states only exactly when every step meets it.
theorem prefixes_iff_guarded (ok extra : σ → ι → Prop) (invariant good : σ → Prop)
    (hstep : ∀ state input, invariant state → ok state input → invariant (step state input))
    (hgood : ∀ state input, invariant state → good state → ok state input →
      (good (step state input) ↔ extra state input))
    (hs : invariant start) (hstart : good start) (hg : Guarded step ok start inputs) :
    (∀ before, before <+: inputs → good (run step start before)) ↔ Guarded step extra start inputs := by
  induction inputs generalizing start with
  | nil =>
    refine iff_of_true (fun before hbefore => ?_) trivial
    rw [List.prefix_nil.mp hbefore]
    exact hstart
  | cons input rest ih =>
    have hnext := hgood start input hs hstart hg.1
    have hinv := hstep start input hs hg.1
    rw [guarded_cons]
    constructor
    · intro hall
      have hend : good (step start input) := hall [input] (by simp)
      refine ⟨hnext.mp hend, (ih hinv hend hg.2).mp fun before hbefore => ?_⟩
      exact hall (input :: before) (by simpa using hbefore)
    · intro hextra before hbefore
      have hend := hnext.mpr hextra.1
      cases before with
      | nil => exact hstart
      | cons first after =>
        obtain ⟨rfl, hafter⟩ := List.cons_prefix_cons.mp hbefore
        exact (ih hinv hend hg.2).mpr hextra.2 after hafter

-- What a step keeps exactly under a condition, and never wins back, holds after
-- the run exactly when every step meets it.
theorem run_iff_guarded (extra : σ → ι → Prop) (invariant good : σ → Prop)
    (hstep : ∀ state input, invariant state → invariant (step state input))
    (hgood : ∀ state input, invariant state → (good (step state input) ↔ good state ∧ extra state input))
    (hs : invariant start) :
    good (run step start inputs) ↔ good start ∧ Guarded step extra start inputs := by
  induction inputs generalizing start with
  | nil => simp
  | cons input rest ih => rw [run_cons, ih (hstep start input hs), hgood start input hs, guarded_cons, and_assoc]

-- The relational form: a preorder that every guarded step respects relates
-- the two ends of the run.
theorem run_rel (ok : σ → ι → Prop) (invariant : σ → Prop) (rel : σ → σ → Prop)
    (hrefl : ∀ state, rel state state)
    (htrans : ∀ first second third, rel first second → rel second third → rel first third)
    (hstep : ∀ state input, invariant state → ok state input →
      invariant (step state input) ∧ rel state (step state input))
    (hs : invariant start) (hg : Guarded step ok start inputs) :
    rel start (run step start inputs) := by
  induction inputs generalizing start with
  | nil => exact hrefl _
  | cons input rest ih =>
    obtain ⟨hinv, hrel⟩ := hstep _ _ hs hg.1
    exact htrans _ _ _ hrel (ih hinv hg.2)

-- A potential that never falls, and that rises at the steps that miss the
-- condition, stands still over the guarded runs only.
theorem potential_le (invariant : σ → Prop) (potential : σ → Int)
    (hinvariant : ∀ state input, invariant state → invariant (step state input))
    (hle : ∀ state input, invariant state → potential state ≤ potential (step state input))
    (hs : invariant start) : potential start ≤ potential (run step start inputs) := by
  induction inputs generalizing start with
  | nil => exact Int.le_refl _
  | cons input rest ih => exact Int.le_trans (hle start input hs) (ih (hinvariant start input hs))

theorem potential_eq_iff (ok : σ → ι → Prop) (invariant : σ → Prop) (potential : σ → Int)
    (hinvariant : ∀ state input, invariant state → invariant (step state input))
    (hsame : ∀ state input, invariant state → ok state input → potential (step state input) = potential state)
    (hless : ∀ state input, invariant state → ¬ ok state input → potential state < potential (step state input))
    (hs : invariant start) :
    potential (run step start inputs) = potential start ↔ Guarded step ok start inputs := by
  have hle : ∀ state input, invariant state → potential state ≤ potential (step state input) := by
    intro state input hstate
    by_cases hok : ok state input
    · exact Int.le_of_eq (hsame state input hstate hok).symm
    · exact Int.le_of_lt (hless state input hstate hok)
  induction inputs generalizing start with
  | nil => exact iff_of_true rfl trivial
  | cons input rest ih =>
    have hnext := hinvariant start input hs
    rw [run_cons, guarded_cons]
    by_cases hok : ok start input
    · rw [← hsame start input hs hok]
      exact (ih hnext).trans (and_iff_right hok).symm
    · have hrise := hless start input hs hok
      have hrest : potential (step start input) ≤ potential (run step (step start input) rest) :=
        potential_le step invariant potential hinvariant hle hnext
      refine iff_of_false (fun heq => ?_) fun h => hok h.1
      omega

end

end TurtleWow.Run

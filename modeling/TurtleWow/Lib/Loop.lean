import Mathlib.Algebra.Order.Ring.Int
import Mathlib.Data.List.Basic

namespace TurtleWow.Loop

-- A loop with exits in the middle: one execution of its body goes on with
-- another state, or leaves with the last one. `Ends` is a run of the loop that
-- comes to its end.

variable {σ : Type*}

inductive Ends (body : σ → σ ⊕ σ) : σ → σ → Prop
  | leave {state last : σ} (h : body state = .inr last) : Ends body state last
  | onward {state next last : σ} (h : body state = .inl next) (hrest : Ends body next last) : Ends body state last

-- The same with a bound on the number of executions
def iterate (body : σ → σ ⊕ σ) : Nat → σ → σ
  | 0, state => state
  | rounds + 1, state =>
    match body state with
    | .inl next => iterate body rounds next
    | .inr last => last

variable {body : σ → σ ⊕ σ}

-- The rule for a loop: what the body keeps while it goes on, and establishes
-- where it leaves
theorem Ends.post (invariant post : σ → Prop)
    (honward : ∀ state next, invariant state → body state = .inl next → invariant next)
    (hleave : ∀ state last, invariant state → body state = .inr last → post last)
    {state last : σ} (hs : invariant state) (h : Ends body state last) : post last := by
  induction h with
  | leave h => exact hleave _ _ hs h
  | onward h _ ih => exact ih (honward _ _ hs h)

-- A loop ends where a measure decreases whenever its body goes on, and the
-- measure bounds the executions.
theorem ends_iterate (invariant : σ → Prop) (measure : σ → Nat)
    (honward : ∀ state next, invariant state → body state = .inl next → invariant next ∧ measure next < measure state)
    {rounds : Nat} {state : σ} (hs : invariant state) (hrounds : measure state < rounds) :
    Ends body state (iterate body rounds state) := by
  induction rounds generalizing state with
  | zero => exact absurd hrounds (Nat.not_lt_zero _)
  | succ rounds ih =>
    cases hbody : body state with
    | inl next =>
      obtain ⟨hnext, hless⟩ := honward state next hs hbody
      have hrest : Ends body next (iterate body rounds next) := by
        apply ih hnext
        omega
      rw [iterate, hbody]
      exact .onward hbody hrest
    | inr last =>
      rw [iterate, hbody]
      exact .leave hbody

end TurtleWow.Loop

namespace TurtleWow.Early

-- A body with early returns: `.error r` has returned `r`, `.ok s` goes on
-- with the locals `s`. `Holds` is its pair of postconditions.

universe u

variable {ρ ι : Type*} {σ τ : Type u}

def Holds (returned : ρ → Prop) (goes : σ → Prop) : Except ρ σ → Prop
  | .error r => returned r
  | .ok s => goes s

def result : Except ρ ρ → ρ
  | .error r => r
  | .ok r => r

variable {returned : ρ → Prop} {goes : σ → Prop}

theorem Holds.mono {returned' : ρ → Prop} {goes' : σ → Prop}
    (hr : ∀ r, returned r → returned' r) (hg : ∀ s, goes s → goes' s) {x : Except ρ σ}
    (hx : Holds returned goes x) : Holds returned' goes' x := by
  cases x with
  | error r => exact hr r hx
  | ok s => exact hg s hx

theorem Holds.of_forall (hr : ∀ r, returned r)
    (hg : ∀ s, goes s) (x : Except ρ σ) : Holds returned goes x := by
  cases x with
  | error r => exact hr r
  | ok s => exact hg s

theorem Holds.bind {next : τ → Prop} {x : Except ρ σ}
    {f : σ → Except ρ τ} (hx : Holds returned goes x)
    (hf : ∀ s, goes s → Holds returned next (f s)) : Holds returned next (x >>= f) := by
  cases x with
  | error r => exact hx
  | ok s => exact hf s hx

theorem Holds.ite {c : Prop} [Decidable c]
    {x y : Except ρ σ} (hx : c → Holds returned goes x) (hy : ¬c → Holds returned goes y) :
    Holds returned goes (if c then x else y) := by
  split_ifs with h
  · exact hx h
  · exact hy h

theorem Holds.foldlM {f : σ → ι → Except ρ σ} {l : List ι}
    (hf : ∀ s, goes s → ∀ i ∈ l, Holds returned goes (f s i)) {s : σ} (hs : goes s) :
    Holds returned goes (l.foldlM f s) := by
  induction l generalizing s with
  | nil => exact hs
  | cons i rest ih =>
    rw [List.foldlM_cons]
    refine Holds.bind (hf s hs i List.mem_cons_self) fun s' hs' => ?_
    exact ih (fun t ht j hj => hf t ht j (List.mem_cons_of_mem _ hj)) hs'

theorem Holds.result {post : ρ → Prop} {x : Except ρ ρ} (hx : Holds post post x) :
    post (result x) := by
  cases x with
  | error r => exact hx
  | ok r => exact hx

end TurtleWow.Early

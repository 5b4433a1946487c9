import Mathlib.Algebra.Order.Ring.Int
import Mathlib.Data.List.Chain

namespace TurtleWow.Control

-- A program whose operations call out to code that may call back into it.
-- What the operations in progress have still to do is part of the state: a list
-- of instructions, the innermost operation first. An instruction that waits is
-- a callback in progress.

variable {δ κ ε ο α : Type*}

structure State (δ κ : Type*) where
  data : δ
  code : List κ
deriving DecidableEq, Repr

structure Machine (δ κ ε ο α : Type*) where
  call : ε → ο → δ → Option (δ × List κ)
  back : ε → α → κ → δ → Option (δ × List κ)
  exec : ε → κ → δ → Option (δ × List κ)
  waits : κ → Bool

inductive Input (ο α : Type*)
  -- an operation is called: from outside, or by the callback in progress
  | call (operation : ο)
  -- the callback in progress returns
  | back (answer : α)
  -- the next instruction
  | go
deriving DecidableEq, Repr

-- `none` is an execution that ends here: the state stays.
def replace (state : State δ κ) (rest : List κ) : Option (δ × List κ) → State δ κ
  | none => state
  | some (data, instrs) => ⟨data, instrs ++ rest⟩

def Machine.step (machine : Machine δ κ ε ο α) (state : State δ κ) (input : ε × Input ο α) : State δ κ :=
  match input.2, state.code with
  | .call operation, [] => replace state [] (machine.call input.1 operation state.data)
  | .call operation, instr :: rest =>
    if machine.waits instr then replace state (instr :: rest) (machine.call input.1 operation state.data) else state
  | .back answer, instr :: rest =>
    if machine.waits instr then replace state rest (machine.back input.1 answer instr state.data) else state
  | .go, instr :: rest =>
    if machine.waits instr then state else replace state rest (machine.exec input.1 instr state.data)
  | _, [] => state

-- Who may call: nobody is in an operation, or a callback is in progress
def Machine.Open (machine : Machine δ κ ε ο α) : List κ → Prop
  | [] => True
  | instr :: _ => machine.waits instr = true

section

variable (machine : Machine δ κ ε ο α) (holds : δ → List κ → Prop)
  (ok : State δ κ → ε × Input ο α → Prop)

theorem step_keeps
    (hcall : ∀ env operation data rest data' instrs, holds data rest → machine.Open rest →
      ok ⟨data, rest⟩ (env, .call operation) → machine.call env operation data = some (data', instrs) →
      holds data' (instrs ++ rest))
    (hback : ∀ env answer data instr rest data' instrs, holds data (instr :: rest) → machine.waits instr = true →
      ok ⟨data, instr :: rest⟩ (env, .back answer) → machine.back env answer instr data = some (data', instrs) →
      holds data' (instrs ++ rest))
    (hexec : ∀ env data instr rest data' instrs, holds data (instr :: rest) → machine.waits instr = false →
      ok ⟨data, instr :: rest⟩ (env, .go) → machine.exec env instr data = some (data', instrs) →
      holds data' (instrs ++ rest))
    (state : State δ κ) (input : ε × Input ο α) (h : holds state.data state.code) (hok : ok state input) :
    holds (machine.step state input).data (machine.step state input).code := by
  obtain ⟨data, code⟩ := state
  obtain ⟨env, input⟩ := input
  cases input with
  | call operation =>
    cases code with
    | nil =>
      cases hrun : machine.call env operation data with
      | none => simpa [Machine.step, hrun, replace] using h
      | some after =>
        have := hcall env operation data [] after.1 after.2 h trivial hok hrun
        simpa [Machine.step, hrun, replace] using this
    | cons instr rest =>
      by_cases hwait : machine.waits instr = true
      · cases hrun : machine.call env operation data with
        | none => simpa [Machine.step, hrun, hwait, replace] using h
        | some after =>
          have := hcall env operation data (instr :: rest) after.1 after.2 h hwait hok hrun
          simpa [Machine.step, hrun, hwait, replace] using this
      · simpa [Machine.step, hwait] using h
  | back answer =>
    cases code with
    | nil => exact h
    | cons instr rest =>
      by_cases hwait : machine.waits instr = true
      · cases hrun : machine.back env answer instr data with
        | none => simpa [Machine.step, hrun, hwait, replace] using h
        | some after =>
          have := hback env answer data instr rest after.1 after.2 h hwait hok hrun
          simpa [Machine.step, hrun, hwait, replace] using this
      · simpa [Machine.step, hwait] using h
  | go =>
    cases code with
    | nil => exact h
    | cons instr rest =>
      by_cases hwait : machine.waits instr = true
      · simpa [Machine.step, hwait] using h
      · cases hrun : machine.exec env instr data with
        | none => simpa [Machine.step, hrun, hwait, replace] using h
        | some after =>
          have hwait := Bool.eq_false_of_not_eq_true hwait
          have := hexec env data instr rest after.1 after.2 h hwait hok hrun
          simpa [Machine.step, hrun, hwait, replace] using this

end

-- Code in which each instruction fits the one after it: an instruction may be
-- replaced by code whose last instruction fits whatever it fitted.
variable {fits : κ → κ → Prop}

theorem isChain_replace {instr : κ} {instrs rest : List κ} (h : List.IsChain fits (instr :: rest))
    (hinstrs : List.IsChain fits instrs) (hlast : ∀ last ∈ instrs.getLast?, ∀ next, fits instr next → fits last next) :
    List.IsChain fits (instrs ++ rest) := by
  obtain ⟨hnext, hrest⟩ := List.isChain_cons.mp h
  exact List.isChain_append.mpr ⟨hinstrs, hrest, fun last hl next hn => hlast last hl next (hnext next hn)⟩

end TurtleWow.Control

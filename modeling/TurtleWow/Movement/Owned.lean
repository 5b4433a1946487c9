import TurtleWow.Movement.MotionMaster

namespace TurtleWow.Movement

open List

-- Which generators the operations in progress have in hand: made and not pushed
-- yet, taken off the stack and not finalised, or finalised and not yet passed on

def Instr.made : Instr → List MovementGenerator
  | .mutated mv => [mv]
  | .waypointDefault newWPMMgen _ => [newWPMMgen]
  | _ => []

def Instr.taken : Instr → List MovementGenerator
  | .finalize mv _ _ => [mv]
  | .expire curr _ => [curr]
  | .newDefault curr _ _ => [curr]
  | .waypointDefault _ curr => curr.toList
  | _ => []

def Instr.done : Instr → List MovementGenerator
  | .dispose mv _ _ => [mv]
  | _ => []

def made (code : List Instr) : List MovementGenerator := code.flatMap Instr.made

def taken (code : List Instr) : List MovementGenerator := code.flatMap Instr.taken

def done (code : List Instr) : List MovementGenerator := code.flatMap Instr.done

def MotionMaster.expiring (m : MotionMaster) : List MovementGenerator := m.expList.getD []

def inHand (code : List Instr) (mv : MovementGenerator) : Nat :=
  (made code).count mv + (taken code).count mv + (done code).count mv

def places (m : MotionMaster) (code : List Instr) (mv : MovementGenerator) : Nat :=
  m.stack.count mv + m.expiring.count mv + m.deleted.count mv + inHand code mv

section

variable (code code' : List Instr) (instr : Instr)

@[simp] theorem made_nil : made [] = [] := rfl
@[simp] theorem taken_nil : taken [] = [] := rfl
@[simp] theorem done_nil : done [] = [] := rfl

@[simp] theorem made_cons : made (instr :: code) = instr.made ++ made code := rfl
@[simp] theorem taken_cons : taken (instr :: code) = instr.taken ++ taken code := rfl
@[simp] theorem done_cons : done (instr :: code) = instr.done ++ done code := rfl

@[simp] theorem made_append : made (code ++ code') = made code ++ made code' := flatMap_append
@[simp] theorem taken_append : taken (code ++ code') = taken code ++ taken code' := flatMap_append
@[simp] theorem done_append : done (code ++ code') = done code ++ done code' := flatMap_append

variable (mvs : List MovementGenerator) (delayed tested : Bool)

@[simp] theorem made_finalizes : made (mvs.map fun mv => .finalize mv delayed tested) = [] := by
  induction mvs with
  | nil => rfl
  | cons mv rest ih => simpa [Instr.made] using ih

@[simp] theorem taken_finalizes : taken (mvs.map fun mv => .finalize mv delayed tested) = mvs := by
  induction mvs with
  | nil => rfl
  | cons mv rest ih => simpa [Instr.taken] using ih

@[simp] theorem done_finalizes : done (mvs.map fun mv => .finalize mv delayed tested) = [] := by
  induction mvs with
  | nil => rfl
  | cons mv rest ih => simpa [Instr.done] using ih

end

-- What a piece of code does to the books: every push is on the stack, in hand or
-- finalised; an allocated generator stays in as many places; and what is
-- finalised is passed on.
structure Balanced (m : MotionMaster) (code : List Instr) (m' : MotionMaster) (code' : List Instr) : Prop where
  pushes : ∀ mv, m'.pushed.count mv + (m.stack.count mv + (taken code).count mv + m.finalized.count mv) =
    m.pushed.count mv + (m'.stack.count mv + (taken code').count mv + m'.finalized.count mv)
  kept : ∀ mv, isStatic mv = false → places m' code' mv + m.allocated.count mv =
    places m code mv + m'.allocated.count mv
  passed : ∀ mv, isStatic mv = false →
    m'.finalized.count mv + (m.expiring.count mv + m.deleted.count mv + (done code).count mv) =
      m.finalized.count mv + (m'.expiring.count mv + m'.deleted.count mv + (done code').count mv)

section

variable {m m' m'' : MotionMaster} {code code' code'' : List Instr}

theorem Balanced.refl (m : MotionMaster) (code : List Instr) : Balanced m code m code :=
  ⟨fun _ => rfl, fun _ _ => rfl, fun _ _ => rfl⟩

theorem Balanced.trans (h : Balanced m code m' code') (h' : Balanced m' code' m'' code'') :
    Balanced m code m'' code'' := by
  refine ⟨fun mv => ?_, fun mv hmv => ?_, fun mv hmv => ?_⟩
  · have := h.pushes mv
    have := h'.pushes mv
    omega
  · have := h.kept mv hmv
    have := h'.kept mv hmv
    omega
  · have := h.passed mv hmv
    have := h'.passed mv hmv
    omega

theorem Balanced.of_hands (m : MotionMaster) (hmade : made code = made code') (htaken : taken code = taken code')
    (hdone : done code = done code') : Balanced m code m code' := by
  refine ⟨fun mv => ?_, fun mv _ => ?_, fun mv _ => ?_⟩
  · rw [htaken]
  · simp only [Movement.places, inHand, hmade, htaken, hdone]
  · rw [hdone]

theorem Balanced.adapt (h : Balanced m code m' code') (hmade : made code'' = made code)
    (htaken : taken code'' = taken code) (hdone : done code'' = done code) : Balanced m code'' m' code' :=
  (Balanced.of_hands m hmade htaken hdone).trans h

theorem Balanced.append (h : Balanced m code m' code') (rest : List Instr) :
    Balanced m (code ++ rest) m' (code' ++ rest) := by
  refine ⟨fun mv => ?_, fun mv hmv => ?_, fun mv hmv => ?_⟩
  · have := h.pushes mv
    simp only [taken_append, count_append]
    omega
  · have := h.kept mv hmv
    simp only [places, inHand, made_append, taken_append, done_append, count_append] at this ⊢
    omega
  · have := h.passed mv hmv
    simp only [done_append, count_append]
    omega

end

namespace MotionMaster

variable (m : MotionMaster)

theorem balanced_needExpList (code : List Instr) : Balanced m code m.needExpList code := by
  refine ⟨fun mv => rfl, fun mv _ => ?_, fun mv _ => ?_⟩
  · simp [places, needExpList, expiring]
  · simp [needExpList, expiring]

theorem balanced_flags (inUpdate toReset : Bool) (code : List Instr) :
    Balanced m code { m with inUpdate := inUpdate, toReset := toReset } code :=
  ⟨fun _ => rfl, fun _ _ => rfl, fun _ _ => rfl⟩

theorem balanced_pop (popped kept : List MovementGenerator) (h : popped ++ kept = m.stack) (delayed tested : Bool) :
    Balanced m [] { m with stack := kept } (popped.map fun mv => .finalize mv delayed tested) := by
  have hcount : ∀ mv, m.stack.count mv = popped.count mv + kept.count mv := by
    intro mv
    rw [← h, count_append]
  refine ⟨fun mv => ?_, fun mv _ => ?_, fun mv _ => ?_⟩
  · have := hcount mv
    simp only [taken_finalizes, taken_nil, count_nil]
    omega
  · have := hcount mv
    simp only [places, inHand, expiring, made_finalizes, taken_finalizes, done_finalizes, made_nil, taken_nil,
      done_nil, count_nil]
    omega
  · simp [expiring]

theorem balanced_directClean (reset all : Bool) :
    Balanced m [] (m.directClean reset all).1 (m.directClean reset all).2 := by
  have h := m.balanced_pop _ _ (take_append_drop (m.toPop all) m.stack) false true
  refine h.trans ?_
  simp only [directClean]
  refine ⟨fun mv => ?_, fun mv _ => ?_, fun mv _ => ?_⟩ <;>
    (split_ifs <;> simp [places, inHand, expiring, Instr.made, Instr.taken, Instr.done])

theorem balanced_delayedClean (reset all : Bool) :
    Balanced m [] (m.delayedClean reset all).1 (m.delayedClean reset all).2 := by
  have hflag := m.balanced_flags m.inUpdate reset []
  simp only [delayedClean]
  split_ifs with h
  · exact hflag
  · refine (hflag.trans (balanced_needExpList _ [])).trans ?_
    exact balanced_pop _ _ _ (take_append_drop _ _) true true

theorem balanced_clear (reset all : Bool) : Balanced m [] (m.clear reset all).1 (m.clear reset all).2 := by
  unfold clear
  split_ifs
  · exact m.balanced_delayedClean reset all
  · exact m.balanced_directClean reset all

theorem balanced_directExpire (reset : Bool) :
    Balanced m [] (m.directExpire reset).1 (m.directExpire reset).2 := by
  unfold directExpire
  split
  case h_1 curr under rest hstack =>
    have hpop := m.balanced_pop (curr :: (under :: rest).takeWhile (drops curr))
      ((under :: rest).dropWhile (drops curr)) (by simp [hstack]) false false
    refine hpop.trans ⟨fun mv => ?_, fun mv _ => ?_, fun mv _ => ?_⟩
    · simp [Instr.taken, count_cons]
    · simp [places, inHand, Instr.taken, Instr.made, Instr.done, count_cons]
    · simp [Instr.done]
  case h_2 => exact Balanced.refl m []

theorem balanced_delayedExpire (reset : Bool) :
    Balanced m [] (m.delayedExpire reset).1 (m.delayedExpire reset).2 := by
  have hflag := m.balanced_flags m.inUpdate reset []
  simp only [delayedExpire]
  split
  case h_1 curr under rest hstack =>
    have hneed := hflag.trans (balanced_needExpList _ [])
    have hpop := balanced_pop (MotionMaster.needExpList { m with toReset := reset })
      (curr :: (under :: rest).takeWhile (drops curr)) ((under :: rest).dropWhile (drops curr)) (by simp [needExpList, hstack]) true true
    refine (hneed.trans hpop).trans ⟨fun mv => ?_, fun mv _ => ?_, fun mv _ => ?_⟩
    · simp [Instr.taken, count_cons]
    · simp [places, inHand, Instr.taken, Instr.made, Instr.done, count_cons]
    · simp [Instr.done]
  case h_2 => exact hflag

theorem balanced_movementExpired (reset : Bool) :
    Balanced m [] (m.movementExpired reset).1 (m.movementExpired reset).2 := by
  unfold movementExpired
  split_ifs
  · exact m.balanced_delayedExpire reset
  · exact m.balanced_directExpire reset

theorem balanced_push_idle : Balanced m [] (m.push .idleMovement) [] := by
  refine ⟨fun mv => ?_, fun mv hmv => ?_, fun mv _ => rfl⟩
  · simp [push, count_cons]
    omega
  · have hne : mv ≠ .idleMovement := by simpa [isStatic] using hmv
    simp [push, places, expiring, hne.symm]

theorem balanced_push (mv : MovementGenerator) : Balanced m [.mutated mv] (m.push mv) [] := by
  refine ⟨fun other => ?_, fun other _ => ?_, fun other _ => rfl⟩
  · simp [push, Instr.taken, count_cons]
    omega
  · simp [push, places, inHand, expiring, Instr.made, Instr.taken, Instr.done, count_cons]
    omega

theorem balanced_allocate (type : MovementGeneratorType) :
    Balanced m [] (m.allocate type) [.mutated (m.next type)] := by
  refine ⟨fun mv => ?_, fun mv _ => ?_, fun mv _ => ?_⟩
  · simp [allocate, Instr.taken]
  · simp [allocate, places, inHand, expiring, Instr.made, Instr.taken, Instr.done, count_cons]
    omega
  · simp [allocate, expiring, Instr.done]

section

variable (owner : Owner)

theorem balanced_pushSelected : Balanced m [] (m.pushSelected owner) [] := by
  unfold pushSelected
  split
  case h_1 => exact m.balanced_push_idle
  case h_2 type _ => exact (m.balanced_allocate type).trans (balanced_push _ _)

theorem balanced_setDefault : Balanced m [] (m.setDefault owner) [] := by
  unfold setDefault
  split_ifs
  · exact m.balanced_pushSelected owner
  · exact m.balanced_push_idle

theorem balanced_startInitialize : Balanced m [] m.startInitialize.1 m.startInitialize.2 := by
  have h := (m.balanced_clear false true).append [.setDefault, .completed]
  exact h.adapt rfl rfl rfl

theorem balanced_take {curr : MovementGenerator} {rest : List MovementGenerator} (h : m.stack = curr :: rest)
    (alwaysReplace : Bool) (type : MovementGeneratorType) :
    Balanced m [] { m with stack := rest } [.newDefault curr alwaysReplace type] := by
  refine ⟨fun mv => ?_, fun mv _ => ?_, fun mv _ => ?_⟩
  · simp [h, Instr.taken, count_cons]
  · simp [h, places, inHand, expiring, Instr.made, Instr.taken, Instr.done, count_cons]
    omega
  · simp [expiring, Instr.done]

theorem balanced_putBack (curr : MovementGenerator) (alwaysReplace : Bool) (type : MovementGeneratorType) :
    Balanced m [.newDefault curr alwaysReplace type] (m.putBack curr) [] := by
  refine ⟨fun mv => ?_, fun mv _ => ?_, fun mv _ => ?_⟩
  · simp [putBack, Instr.taken, count_cons]
  · simp [putBack, places, inHand, expiring, Instr.made, Instr.taken, Instr.done, count_cons]
    omega
  · simp [putBack, expiring, Instr.done]

theorem balanced_initializeNewDefault (alwaysReplace : Bool) :
    Balanced m [] (m.initializeNewDefault owner alwaysReplace).1 (m.initializeNewDefault owner alwaysReplace).2 := by
  unfold initializeNewDefault
  split
  case h_1 => exact m.balanced_startInitialize
  case h_2 curr rest hstack =>
    split_ifs
    · exact Balanced.refl m []
    · exact Balanced.refl m []
    · exact (m.balanced_take hstack alwaysReplace owner.defaultMovementType).trans
        ((balanced_clear _ false true).append [_])

theorem balanced_pushNewDefault (type : MovementGeneratorType) :
    Balanced m [] (m.pushNewDefault owner type).1 [] := by
  unfold pushNewDefault
  split_ifs
  · exact m.balanced_push_idle
  · exact m.balanced_pushSelected owner

theorem balanced_newDefault (curr : MovementGenerator) (alwaysReplace : Bool) (type : MovementGeneratorType) :
    Balanced m [.newDefault curr alwaysReplace type] (m.newDefault owner curr alwaysReplace type).1
      (m.newDefault owner curr alwaysReplace type).2 := by
  have hpush := (m.balanced_pushNewDefault owner type).append [.newDefault curr alwaysReplace type]
  simp only [newDefault]
  split_ifs
  · exact hpush.trans (balanced_putBack _ curr alwaysReplace type)
  · have hfinalize := hpush.trans (balanced_needExpList _ _)
    refine hfinalize.trans ⟨fun mv => rfl, fun mv _ => rfl, fun mv _ => rfl⟩
  · exact m.balanced_putBack curr alwaysReplace type

theorem balanced_moveWaypointAsDefault :
    Balanced m [] (m.moveWaypointAsDefault owner).1 (m.moveWaypointAsDefault owner).2 := by
  have hnew := m.balanced_allocate .waypoint
  simp only [moveWaypointAsDefault]
  split_ifs
  · exact Balanced.refl m []
  · split
    case h_1 curr under rest hstack =>
      have htake := ((balanced_take _ hstack false .idle).append [.mutated (m.next .waypoint)])
      have hclear := (balanced_clear { m.allocate .waypoint with stack := under :: rest } false true).append
        [.waypointDefault (m.next .waypoint) (some curr)]
      exact (hnew.trans htake).trans (hclear.adapt rfl rfl rfl)
    case h_2 =>
      have hclear := (balanced_clear (m.allocate .waypoint) false true).append
        [.waypointDefault (m.next .waypoint) none]
      exact hnew.trans (hclear.adapt rfl rfl rfl)

end

theorem balanced_waypointDefault (newWPMMgen : MovementGenerator) (curr : Option MovementGenerator) :
    Balanced m [.waypointDefault newWPMMgen curr] (m.waypointDefault newWPMMgen curr) [] := by
  cases curr with
  | none => exact (m.balanced_push newWPMMgen).adapt rfl rfl rfl
  | some curr =>
    have hpush := (m.balanced_push newWPMMgen).append [.newDefault curr false .idle]
    have hback := (m.push newWPMMgen).balanced_putBack curr false .idle
    exact (hpush.trans hback).adapt rfl rfl rfl

theorem balanced_mutate (type : MovementGeneratorType) : Balanced m [] (m.mutate type).1 (m.mutate type).2 := by
  have hnew := m.balanced_allocate type
  simp only [mutate]
  split_ifs
  · exact hnew.trans ((balanced_movementExpired _ false).append [.mutated (m.next type)])
  · exact hnew

theorem balanced_moveIdle : Balanced m [] m.moveIdle [] := by
  unfold moveIdle
  split_ifs
  · exact m.balanced_push_idle
  · exact Balanced.refl m []

theorem clearType_absent {moveType : MovementGeneratorType} (h : ∀ mv ∈ m.stack, mv.type ≠ moveType) :
    m.clearType moveType = (m, []) := by
  have hnone : m.stack.reverse.findIdx? (·.type == moveType) = none := by
    rw [List.findIdx?_eq_none_iff]
    intro mv hmv
    simpa using h mv (mem_reverse.mp hmv)
  simp [clearType, hnone]

theorem balanced_dispose (mv : MovementGenerator) (delayed tested : Bool) (h : delayed = true → m.expList ≠ none) :
    Balanced m [.dispose mv delayed tested] (m.dispose mv delayed tested) [] := by
  unfold dispose
  split_ifs with hstatic hdelayed
  · have hidle : mv = .idleMovement := by simpa [isStatic] using (Bool.and_eq_true_iff.mp hstatic).2
    refine ⟨fun other => ?_, fun other hother => ?_, fun other hother => ?_⟩ <;>
      simp_all [places, inHand, Instr.made, Instr.taken, Instr.done, isStatic, Ne.symm]
  · cases hexp : m.expList with
    | none => exact absurd hexp (h hdelayed)
    | some list =>
      refine ⟨fun other => ?_, fun other _ => ?_, fun other _ => ?_⟩
      · simp [Instr.taken]
      · simp [places, inHand, expiring, hexp, Instr.made, Instr.taken, Instr.done]
        omega
      · simp [expiring, hexp, Instr.done]
        omega
  · refine ⟨fun other => ?_, fun other _ => ?_, fun other _ => ?_⟩
    · simp [Instr.taken]
    · simp [places, inHand, expiring, Instr.made, Instr.taken, Instr.done, count_cons]
      omega
    · simp [expiring, Instr.done, count_cons]
      omega

theorem balanced_finalize (mv : MovementGenerator) (delayed tested : Bool) :
    Balanced m [.finalize mv delayed tested] { m with finalized := mv :: m.finalized }
      [.callback .finalize, .dispose mv delayed tested] := by
  refine ⟨fun other => ?_, fun other _ => ?_, fun other _ => ?_⟩
  · simp [Instr.taken, count_cons]
    omega
  · simp [places, inHand, expiring, Instr.made, Instr.taken, Instr.done]
  · simp [expiring, Instr.done, count_cons]
    omega

theorem balanced_updated : Balanced m [.updated] m.updated.1 m.updated.2 := by
  unfold updated
  split
  case h_1 => exact Balanced.of_hands m rfl rfl rfl
  case h_2 list hexp =>
    refine ⟨fun mv => ?_, fun mv hmv => ?_, fun mv hmv => ?_⟩
    · dsimp only
      split_ifs <;> simp [Instr.taken]
    · have hcount : (list.filter (!isStatic ·)).count mv = list.count mv := count_filter (by simp [hmv])
      split_ifs <;> simp [places, inHand, expiring, hexp, hcount, Instr.made, Instr.taken, Instr.done] <;> omega
    · have hcount : (list.filter (!isStatic ·)).count mv = list.count mv := count_filter (by simp [hmv])
      split_ifs <;> simp [expiring, hexp, hcount, Instr.done]

theorem balanced_callReset (instr : Instr) {rest : List Instr} (hmade : instr.made = [] ∧ made rest = [])
    (htaken : instr.taken = [] ∧ taken rest = []) (hdone : instr.done = [] ∧ done rest = []) :
    Balanced m [instr] (m.callReset rest).1 (m.callReset rest).2 := by
  unfold callReset
  split_ifs
  · exact ⟨fun mv => by simp [htaken], fun mv _ => by simp [places, inHand, expiring, hmade, htaken, hdone],
      fun mv _ => by simp [expiring, hdone]⟩
  · apply Balanced.of_hands
    · simp only [made_cons, hmade, made_nil]
      rfl
    · simp only [taken_cons, htaken, taken_nil]
      rfl
    · simp only [done_cons, hdone, done_nil]
      rfl

end MotionMaster

end TurtleWow.Movement

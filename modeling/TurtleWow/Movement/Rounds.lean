import Mathlib.Data.List.Nodup
import TurtleWow.Lib.Run
import TurtleWow.Movement.Code

namespace TurtleWow.Movement

open List

-- No Update is running, and nothing waits for the expire list.
def quiet (code : List Instr) : Bool := code.all fun instr => !instr.updating && !instr.delayed

-- The steps the books are kept over. A ClearType finds no generator of its
-- type; an UpdateMotion that returns at once finds a generator, another one
-- does not run inside an Update or a delayed Finalize; and the Reset that an
-- UpdateMotion ends with leaves a generator on the stack.
def orderly (state : State) (input : Input) : Bool :=
  match input.2 with
  | .call (.clearType moveType) => state.data.stack.all (·.type != moveType)
  | .call .updateMotion => if input.1.canNotMove then !state.data.stack.isEmpty else quiet state.code
  | .back _ =>
    match state.code with
    | .callback .reset :: .updated :: _ | .callback .reset :: .resetDone :: _ => !state.data.stack.isEmpty
    | _ => true
  | _ => true

def Nested : List Instr → Prop
  | [] => True
  | instr :: rest => (instr.opens = true → quiet rest = true) ∧ Nested rest

-- An Update is running, and nothing above it puts a generator on the stack.
def thirsty : List Instr → Bool
  | [] => false
  | instr :: rest => !instr.refills && (instr.updating || thirsty rest)

section

variable {code rest : List Instr} {instr : Instr}

theorem plain_iff : instr.plain = true ↔ instr.opens = false ∧ instr.safe = true := by
  simp [Instr.plain]

theorem updating_of_plain (h : instr.plain = true) : instr.updating = false := by
  have := (plain_iff.mp h).1
  simp_all [Instr.opens]

theorem Nested.append (hplain : ∀ instr ∈ code, instr.plain = true) (h : Nested rest) : Nested (code ++ rest) := by
  induction code with
  | nil => exact h
  | cons instr code ih =>
    refine ⟨fun hopens => ?_, ih fun other hother => hplain other (mem_cons_of_mem _ hother)⟩
    rw [(plain_iff.mp (hplain instr (by simp))).1] at hopens
    cases hopens

theorem any_updating_append (hplain : ∀ instr ∈ code, instr.plain = true) :
    (code ++ rest).any Instr.updating = rest.any Instr.updating := by
  have : code.any Instr.updating = false := by
    rw [any_eq_false]
    intro instr hinstr
    simp [updating_of_plain (hplain instr hinstr)]
  rw [any_append, this, Bool.false_or]

theorem any_updating_of_quiet (h : quiet rest = true) : rest.any Instr.updating = false := by
  rw [any_eq_false]
  intro instr hinstr
  have := all_eq_true.mp h instr hinstr
  simp_all

theorem not_delayed_of_quiet (h : quiet rest = true) : ∀ instr ∈ rest, instr.delayed = false := by
  intro instr hinstr
  have := all_eq_true.mp h instr hinstr
  simp_all

theorem updating_of_thirsty (h : thirsty code = true) : code.any Instr.updating = true := by
  induction code with
  | nil => simp [thirsty] at h
  | cons instr code ih =>
    have hor := (Bool.and_eq_true_iff.mp h).2
    rcases Bool.or_eq_true_iff.mp hor with hupd | hrest
    · simp [hupd]
    · simp [ih hrest]

theorem thirsty_append (hplain : ∀ instr ∈ code, instr.plain = true) (h : thirsty (code ++ rest) = true) :
    thirsty rest = true ∧ ∀ instr ∈ code, instr.refills = false := by
  induction code with
  | nil => exact ⟨h, by simp⟩
  | cons instr code ih =>
    obtain ⟨hrefills, hor⟩ := Bool.and_eq_true_iff.mp h
    rw [updating_of_plain (hplain instr (by simp)), Bool.false_or] at hor
    obtain ⟨hrest, hcode⟩ := ih (fun other hother => hplain other (mem_cons_of_mem _ hother)) hor
    refine ⟨hrest, forall_mem_cons.mpr ⟨?_, hcode⟩⟩
    simpa using hrefills

end

-- The books of the generators at any moment of a run
structure Sound (m : MotionMaster) (code : List Instr) : Prop where
  runs : Runs m code
  nested : Nested code
  flag : m.inUpdate = code.any Instr.updating
  delayed : ∀ instr ∈ code, instr.delayed = true → m.expList ≠ none
  alive : thirsty code = true → Alive m
  safe : ∀ instr ∈ code, instr.safe = true
  named : Named m.allocated
  idle : .idleMovement ∉ m.deleted
  defined : m.undefined = false
  pushes : ∀ mv, m.pushed.count mv = m.stack.count mv + (taken code).count mv + m.finalized.count mv
  kept : ∀ mv, isStatic mv = false → places m code mv = m.allocated.count mv
  passed : ∀ mv, isStatic mv = false →
    m.finalized.count mv = m.expiring.count mv + m.deleted.count mv + (done code).count mv

theorem sound_start : Sound MotionMaster.fresh [] := by
  refine ⟨⟨.nil, by simp⟩, trivial, rfl, by simp, by simp [thirsty], by simp, ⟨nodup_nil, by simp [MotionMaster.fresh]⟩,
    by simp [MotionMaster.fresh], rfl, ?_, ?_, ?_⟩
  · simp [MotionMaster.fresh]
  · simp [MotionMaster.fresh, places, inHand, MotionMaster.expiring]
  · simp [MotionMaster.fresh, MotionMaster.expiring]

section

variable {m m' : MotionMaster} (before : List Instr) {code rest : List Instr}

theorem Sound.books (h : Sound m (before ++ rest)) (hbalanced : Balanced m before m' code) :
    (∀ mv, m'.pushed.count mv = m'.stack.count mv + (taken (code ++ rest)).count mv + m'.finalized.count mv) ∧
    (∀ mv, isStatic mv = false → places m' (code ++ rest) mv = m'.allocated.count mv) ∧
    (∀ mv, isStatic mv = false →
      m'.finalized.count mv = m'.expiring.count mv + m'.deleted.count mv + (done (code ++ rest)).count mv) := by
  have hall := hbalanced.append rest
  refine ⟨fun mv => ?_, fun mv hmv => ?_, fun mv hmv => ?_⟩
  · have := hall.pushes mv
    have := h.pushes mv
    omega
  · have := hall.kept mv hmv
    have := h.kept mv hmv
    omega
  · have := hall.passed mv hmv
    have := h.passed mv hmv
    omega

theorem Nested.tail (h : Nested (before ++ rest)) : Nested rest := by
  induction before with
  | nil => exact h
  | cons instr before ih => exact ih h.2

theorem Sound.replace (h : Sound m (before ++ rest)) (hbefore : ∀ instr ∈ before, instr.updating = false)
    (hbalanced : Balanced m before m' code) (hcalm : Calm m m' code) (hruns : Runs m' (code ++ rest))
    (halive : thirsty (code ++ rest) = true → Alive m') : Sound m' (code ++ rest) := by
  obtain ⟨hpushes, hkept, hpassed⟩ := h.books before hbalanced
  refine ⟨hruns, (h.nested.tail before).append hcalm.plain, ?_, ?_, halive, ?_, hcalm.named h.named, hcalm.idle h.idle,
    hcalm.defined.trans h.defined, hpushes, hkept, hpassed⟩
  · have hnone : before.any Instr.updating = false := by
      rw [any_eq_false]
      intro instr hinstr
      simp [hbefore instr hinstr]
    rw [hcalm.flag, h.flag, any_updating_append hcalm.plain, any_append, hnone, Bool.false_or]
  · intro instr hinstr hd
    rcases mem_append.mp hinstr with hmem | hmem
    · exact hcalm.delayed instr hmem hd
    · exact hcalm.keep (h.delayed instr (mem_append_right _ hmem) hd)
  · intro instr hinstr
    rcases mem_append.mp hinstr with hmem | hmem
    · exact (plain_iff.mp (hcalm.plain instr hmem)).2
    · exact h.safe instr (mem_append_right _ hmem)

end

-- With the flag up a Clear or an expiry leaves a generator or an expire list.

namespace MotionMaster

variable {m : MotionMaster}

theorem alive_clear (reset all : Bool) (hflag : m.inUpdate = true) (h : Alive m) : Alive (m.clear reset all).1 := by
  simp only [clear, hflag, if_true, delayedClean]
  split_ifs
  · exact h
  · exact .inr (by simp [needExpList])

theorem alive_movementExpired (reset : Bool) (hflag : m.inUpdate = true) (h : Alive m) :
    Alive (m.movementExpired reset).1 := by
  simp only [movementExpired, hflag, if_true, delayedExpire]
  split
  · exact .inr (by simp [needExpList])
  · exact h

theorem alive_initializeNewDefault (owner : Owner) (alwaysReplace : Bool) (hflag : m.inUpdate = true) (h : Alive m) :
    Alive (m.initializeNewDefault owner alwaysReplace).1 ∨
      ∃ instr ∈ (m.initializeNewDefault owner alwaysReplace).2, instr.refills = true := by
  unfold initializeNewDefault
  split
  · exact .inl (alive_clear false true hflag h)
  · split_ifs
    · exact .inl h
    · exact .inl h
    · exact .inr ⟨_, mem_append_right _ mem_cons_self, rfl⟩

theorem alive_moveWaypointAsDefault (owner : Owner) (h : Alive m) :
    Alive (m.moveWaypointAsDefault owner).1 ∨
      ∃ instr ∈ (m.moveWaypointAsDefault owner).2, instr.refills = true := by
  simp only [moveWaypointAsDefault]
  split_ifs
  · exact .inl h
  · split
    · exact .inr ⟨_, mem_append_right _ mem_cons_self, rfl⟩
    · exact .inr ⟨_, mem_append_right _ mem_cons_self, rfl⟩

theorem alive_mutate (type : MovementGeneratorType) (hflag : m.inUpdate = true) (h : Alive m) :
    Alive (m.mutate type).1 := by
  simp only [mutate]
  split_ifs
  · exact alive_movementExpired (m := m.allocate type) false hflag h
  · exact h

theorem alive_moveIdle (h : Alive m) : Alive m.moveIdle := by
  unfold moveIdle
  split_ifs
  · exact .inl (by simp [push])
  · exact h

theorem alive_newDefault (owner : Owner) (curr : MovementGenerator) (alwaysReplace : Bool)
    (type : MovementGeneratorType) : Alive (m.newDefault owner curr alwaysReplace type).1 := by
  simp only [newDefault]
  split_ifs
  · exact .inl (by simp [putBack])
  · exact .inr (by simp [needExpList])
  · exact .inl (by simp [putBack])

theorem alive_waypointDefault (newWPMMgen : MovementGenerator) (curr : Option MovementGenerator) :
    Alive (m.waypointDefault newWPMMgen curr) := by
  cases curr <;> exact .inl (by simp [waypointDefault, push, putBack])

theorem alive_dispose (mv : MovementGenerator) (delayed tested : Bool) (h : Alive m) :
    Alive (m.dispose mv delayed tested) := by
  unfold dispose
  split_ifs
  · exact h
  · split
    · exact h
    · exact .inr (by simp)
  · exact h

theorem alive_callReset {tail : List Instr} (h : Alive m) : Alive (m.callReset tail).1 := by
  unfold callReset
  split_ifs
  · exact h
  · exact h

end MotionMaster

section

variable {owner : Owner} {m : MotionMaster} {after : MotionMaster × List Instr}

theorem exec_kept {instr : Instr} (h : exec owner instr m = some after) (hupdated : instr ≠ .updated)
    (hready : instr.Ready m) (hsafe : instr.safe = true) (hexp : instr.delayed = true → m.expList ≠ none) :
    Balanced m [instr] after.1 after.2 ∧ Calm m after.1 after.2 ∧
      (m.inUpdate = true → (instr.refills = false → Alive m) → Alive after.1) := by
  cases instr with
  | callback kind => simp [exec] at h
  | finalize mv delayed tested =>
    cases h
    have hcalm : Calm m { m with finalized := mv :: m.finalized } [] :=
      ⟨id, id, rfl, rfl, subset_cons_self _ _, id, by simp, by simp⟩
    refine ⟨m.balanced_finalize mv delayed tested, ?_, fun _ halive => halive rfl⟩
    refine hcalm.of_code ?_ ?_
    · simpa [Instr.plain, Instr.opens, Instr.updating, Instr.safe] using hsafe
    · simpa [Instr.delayed] using hexp
  | dispose mv delayed tested =>
    cases h
    exact ⟨m.balanced_dispose mv delayed tested hexp, m.calm_dispose hsafe hexp,
      fun _ halive => MotionMaster.alive_dispose mv delayed tested (halive rfl)⟩
  | initializeMotion =>
    cases h
    exact ⟨m.balanced_startInitialize.adapt rfl rfl rfl, m.calm_startInitialize,
      fun hflag halive => MotionMaster.alive_clear false true hflag (halive rfl)⟩
  | setDefault =>
    cases h
    exact ⟨(m.balanced_setDefault owner).adapt rfl rfl rfl, m.calm_setDefault owner,
      fun _ _ => .inl (m.stack_setDefault owner)⟩
  | newDefault curr alwaysReplace type =>
    cases h
    exact ⟨m.balanced_newDefault owner curr alwaysReplace type, m.calm_newDefault owner curr alwaysReplace type,
      fun _ _ => MotionMaster.alive_newDefault owner curr alwaysReplace type⟩
  | waypointDefault newWPMMgen curr =>
    cases h
    exact ⟨m.balanced_waypointDefault newWPMMgen curr, m.calm_waypointDefault newWPMMgen curr,
      fun _ _ => MotionMaster.alive_waypointDefault newWPMMgen curr⟩
  | resetKept =>
    have hne : m.stack.isEmpty = false := by simpa [Instr.Ready] using hready
    obtain rfl : m.callReset [] = after := by simpa [exec, hne] using h
    exact ⟨m.balanced_callReset _ ⟨rfl, rfl⟩ ⟨rfl, rfl⟩ ⟨rfl, rfl⟩, m.calm_callReset (.inl rfl) hready,
      fun _ halive => MotionMaster.alive_callReset (halive rfl)⟩
  | expire curr reset =>
    cases h
    refine ⟨Balanced.of_hands m rfl rfl rfl, ?_, fun _ halive => halive rfl⟩
    refine (Calm.refl m).of_code ?_ (by simp [Instr.delayed])
    simp [Instr.plain, Instr.opens, Instr.updating, Instr.safe]
  | expired reset nowTop =>
    cases h
    refine ⟨?_, ?_, fun _ halive => halive rfl⟩
    · split_ifs <;> exact Balanced.of_hands m rfl rfl rfl
    · refine (Calm.refl m).append ?_ ?_
      · split_ifs <;> simp [Instr.plain, Instr.opens, Instr.updating, Instr.safe]
      · split_ifs <;> simp [Instr.delayed]
  | resetTop reset nowTop =>
    cases h
    split_ifs
    · exact ⟨m.balanced_callReset _ ⟨rfl, rfl⟩ ⟨rfl, rfl⟩ ⟨rfl, rfl⟩, m.calm_callReset (.inl rfl) hready,
        fun _ halive => MotionMaster.alive_callReset (halive rfl)⟩
    · exact ⟨Balanced.of_hands m rfl rfl rfl, Calm.refl m, fun _ halive => halive rfl⟩
  | mutated mv =>
    cases h
    exact ⟨m.balanced_push mv, m.calm_push mv, fun _ _ => .inl (by simp [MotionMaster.push])⟩
  | updated => exact absurd rfl hupdated
  | resetFlagged =>
    cases h
    split_ifs
    · exact ⟨m.balanced_callReset _ ⟨rfl, rfl⟩ ⟨rfl, rfl⟩ ⟨rfl, rfl⟩, m.calm_callReset (.inr rfl) hready,
        fun _ halive => MotionMaster.alive_callReset (halive rfl)⟩
    · exact ⟨Balanced.of_hands m rfl rfl rfl, Calm.refl m, fun _ halive => halive rfl⟩
  | resetDone =>
    cases h
    exact ⟨(m.balanced_flags m.inUpdate false []).adapt rfl rfl rfl, m.calm_toReset false,
      fun _ halive => halive rfl⟩
  | clearType moveType => exact hready.elim
  | erase it => exact hready.elim
  | completed =>
    cases h
    exact ⟨Balanced.of_hands m rfl rfl rfl, Calm.refl m, fun _ halive => halive rfl⟩

theorem call_kept {operation : Operation} (h : call owner operation m = some after) (hupdate : operation ≠ .updateMotion)
    (hclear : ∀ moveType, operation = .clearType moveType → ∀ mv ∈ m.stack, mv.type ≠ moveType) :
    Balanced m [] after.1 after.2 ∧ Calm m after.1 after.2 ∧ Runs after.1 after.2 ∧
      (m.inUpdate = true → Alive m → Alive after.1 ∨ ∃ instr ∈ after.2, instr.refills = true) := by
  cases operation with
  | initializeMotion =>
    cases h
    exact ⟨m.balanced_startInitialize, m.calm_startInitialize, m.runs_startInitialize,
      fun hflag halive => .inl (MotionMaster.alive_clear false true hflag halive)⟩
  | initializeNewDefault alwaysReplace =>
    cases h
    exact ⟨m.balanced_initializeNewDefault owner alwaysReplace, m.calm_initializeNewDefault owner alwaysReplace,
      m.runs_initializeNewDefault owner alwaysReplace,
      MotionMaster.alive_initializeNewDefault owner alwaysReplace⟩
  | mutate type =>
    cases h
    exact ⟨m.balanced_mutate type, m.calm_mutate type, m.runs_mutate type,
      fun hflag halive => .inl (MotionMaster.alive_mutate type hflag halive)⟩
  | clear reset all =>
    cases h
    exact ⟨m.balanced_clear reset all, m.calm_clear reset all, m.runs_clear reset all,
      fun hflag halive => .inl (MotionMaster.alive_clear reset all hflag halive)⟩
  | movementExpired reset =>
    cases h
    exact ⟨m.balanced_movementExpired reset, m.calm_movementExpired reset, (m.easy_movementExpired reset).runs,
      fun hflag halive => .inl (MotionMaster.alive_movementExpired reset hflag halive)⟩
  | clearType moveType =>
    cases h
    rw [m.clearType_absent (hclear moveType rfl)]
    exact ⟨Balanced.refl m [], Calm.refl m, Easy.runs (by simp [Easy]), fun _ halive => .inl halive⟩
  | moveWaypointAsDefault =>
    cases h
    exact ⟨m.balanced_moveWaypointAsDefault owner, m.calm_moveWaypointAsDefault owner,
      m.runs_moveWaypointAsDefault owner, fun _ halive => MotionMaster.alive_moveWaypointAsDefault owner halive⟩
  | moveIdle =>
    cases h
    exact ⟨m.balanced_moveIdle, m.calm_moveIdle, Easy.runs (by simp [Easy]),
      fun _ halive => .inl (MotionMaster.alive_moveIdle halive)⟩
  | updateMotion => exact absurd rfl hupdate

end

section

variable {owner : Owner} {m : MotionMaster} {rest : List Instr} {after : MotionMaster × List Instr}

theorem Sound.exec_updated (h : Sound m (.updated :: rest)) : Sound m.updated.1 (m.updated.2 ++ rest) := by
  have hquiet := h.nested.1 rfl
  have hplain : ∀ instr ∈ m.updated.2, instr.plain = true ∧ instr.delayed = false := by
    intro instr hinstr
    unfold MotionMaster.updated at hinstr
    split at hinstr
    · simp at hinstr
    · dsimp only at hinstr
      split_ifs at hinstr <;> simp_all [Instr.plain, Instr.opens, Instr.updating, Instr.safe, Instr.delayed]
      · rcases hinstr with rfl | rfl <;> simp
  have hfields : m.updated.1.inUpdate = m.inUpdate ∧ m.updated.1.undefined = m.undefined ∧
      m.updated.1.allocated = m.allocated ∧ (.idleMovement ∉ m.deleted → .idleMovement ∉ m.updated.1.deleted) := by
    unfold MotionMaster.updated
    split <;> simp_all [isStatic]
  obtain ⟨hpushes, hkept, hpassed⟩ := Sound.books [.updated] h m.balanced_updated
  refine ⟨h.runs.replace (m.replaces_updated (h.runs.head _ rfl)), h.nested.2.append fun instr hi => (hplain instr hi).1,
    ?_, ?_, ?_, ?_, ?_, hfields.2.2.2 h.idle, hfields.2.1.trans h.defined, hpushes, hkept, hpassed⟩
  · rw [hfields.1, h.flag, any_updating_append fun instr hi => (hplain instr hi).1]
    rfl
  · intro instr hinstr hd
    rcases mem_append.mp hinstr with hmem | hmem
    · rw [(hplain instr hmem).2] at hd
      cases hd
    · rw [not_delayed_of_quiet hquiet instr hmem] at hd
      cases hd
  · intro hthirsty
    have := updating_of_thirsty (thirsty_append (fun instr hi => (hplain instr hi).1) hthirsty).1
    rw [any_updating_of_quiet hquiet] at this
    cases this
  · intro instr hinstr
    rcases mem_append.mp hinstr with hmem | hmem
    · exact (plain_iff.mp (hplain instr hmem).1).2
    · exact h.safe instr (mem_cons_of_mem _ hmem)
  · rw [hfields.2.2.1]
    exact h.named

theorem Sound.exec {instr : Instr} (h : Sound m (instr :: rest)) (hrun : exec owner instr m = some after) :
    Sound after.1 (after.2 ++ rest) := by
  by_cases hupdated : instr = .updated
  · subst hupdated
    cases hrun
    exact h.exec_updated
  · have hready := h.runs.head instr rfl
    obtain ⟨hbalanced, hcalm, halive⟩ := exec_kept hrun hupdated hready (h.safe instr (by simp))
      (h.delayed instr (by simp))
    have hwait : instr.updating = false := by
      cases instr <;> simp_all [Instr.updating, Movement.exec]
    refine Sound.replace [instr] h (by simp [hwait]) hbalanced hcalm
      (h.runs.replace (exec_replaces hready hrun)) fun hthirsty => ?_
    have hrest := (thirsty_append hcalm.plain hthirsty).1
    have hflag : m.inUpdate = true := by
      rw [h.flag]
      simp [updating_of_thirsty hrest]
    exact halive hflag fun hrefills => h.alive (by simp [thirsty, hrefills, hrest])

theorem Sound.call_updateMotion (h : Sound m rest) (hopen : machine.Open rest) (hquiet : quiet rest = true)
    (hne : m.stack.isEmpty = false) :
    Sound { m with inUpdate := true } ([.callback .update, .updated, .completed] ++ rest) := by
  have hruns : Runs { m with inUpdate := true } [.callback .update, .updated, .completed] :=
    ⟨by simp [Fits, Instr.fits], by simp [Instr.Ready]⟩
  refine ⟨h.runs.call hopen hruns, ?_, rfl, ?_, ?_, ?_, h.named, h.idle, h.defined, h.pushes, h.kept, h.passed⟩
  · refine ⟨fun _ => ?_, fun _ => ?_, ?_, h.nested⟩
    · simpa [quiet, Instr.updating, Instr.delayed] using hquiet
    · simpa [quiet, Instr.updating, Instr.delayed] using hquiet
    · simp [Instr.opens, Instr.updating]
  · intro instr hinstr hd
    rcases mem_append.mp hinstr with hmem | hmem
    · simp at hmem
      rcases hmem with rfl | rfl | rfl <;> cases hd
    · exact h.delayed instr hmem hd
  · intro _
    exact .inl (by simpa using hne)
  · intro instr hinstr
    rcases mem_append.mp hinstr with hmem | hmem
    · simp at hmem
      rcases hmem with rfl | rfl | rfl <;> rfl
    · exact h.safe instr hmem

theorem Sound.call {operation : Operation} (h : Sound m rest) (hopen : machine.Open rest)
    (hok : orderly ⟨m, rest⟩ (owner, .call operation) = true) (hrun : call owner operation m = some after) :
    Sound after.1 (after.2 ++ rest) := by
  by_cases hupdate : operation = .updateMotion
  · subst hupdate
    simp only [Movement.call, MotionMaster.updateMotion] at hrun
    simp only [orderly] at hok
    split_ifs at hrun hok with hmove hempty
    · -- the UpdateMotion that returns at once
      cases hrun
      have hruns : Runs m [.completed] := ⟨by simp, by simpa [Instr.Ready] using hok⟩
      refine Sound.replace [] h (by simp) (Balanced.of_hands m rfl rfl rfl) ?_ (h.runs.call hopen hruns) ?_
      · exact (Calm.refl m).append (by decide) (by simp [Instr.delayed])
      · intro hthirsty
        exact h.alive (by simpa [thirsty, Instr.refills, Instr.updating] using hthirsty)
    · cases hrun
      exact h.call_updateMotion hopen hok (by simpa using hempty)
  · have hclear : ∀ moveType, operation = .clearType moveType → ∀ mv ∈ m.stack, mv.type ≠ moveType := by
      rintro moveType rfl mv hmv
      have := all_eq_true.mp hok mv hmv
      simpa using this
    obtain ⟨hbalanced, hcalm, hruns, halive⟩ := call_kept hrun hupdate hclear
    refine Sound.replace [] h (by simp) hbalanced hcalm (h.runs.call hopen hruns) fun hthirsty => ?_
    obtain ⟨hrest, hrefills⟩ := thirsty_append hcalm.plain hthirsty
    have hflag : m.inUpdate = true := h.flag.trans (updating_of_thirsty hrest)
    rcases halive hflag (h.alive hrest) with halive | ⟨instr, hinstr, hfill⟩
    · exact halive
    · rw [hrefills instr hinstr] at hfill
      cases hfill

theorem Sound.lower (h : Sound m (.callback .update :: rest)) : Sound { m with inUpdate := false } rest := by
  have hquiet := h.nested.1 rfl
  have halive : Alive m := h.alive rfl
  have hruns : Replaces { m with inUpdate := false } (.callback .update) [] :=
    Replaces.nil fun next hnext => by cases next <;> simp_all [Instr.fits, Instr.easy, Instr.Ready, Alive]
  refine ⟨h.runs.replace hruns, h.nested.2, (any_updating_of_quiet hquiet).symm, fun instr hinstr hd => ?_,
    fun hthirsty => ?_, fun instr hinstr => h.safe instr (mem_cons_of_mem _ hinstr), h.named, h.idle, h.defined,
    h.pushes, h.kept, h.passed⟩
  · rw [not_delayed_of_quiet hquiet instr hinstr] at hd
    cases hd
  · have := updating_of_thirsty hthirsty
    rw [any_updating_of_quiet hquiet] at this
    cases this

theorem replaces_movementExpired (halive : Alive m) (hflag : m.inUpdate = false) :
    Replaces (m.movementExpired true).1 (.callback .update) (m.movementExpired true).2 := by
  have hnil : Replaces m (.callback .update) [] :=
    Replaces.nil fun next hnext => by cases next <;> simp_all [Instr.fits, Instr.easy, Instr.Ready, Alive]
  have heasy := m.easy_movementExpired true
  refine ⟨heasy.isChain, fun last hlast next hnext => ?_, fun first hfirst => ?_, fun hcode => ?_⟩
  · simp only [MotionMaster.movementExpired, hflag, Bool.false_eq_true, if_false, MotionMaster.directExpire] at hlast
    split at hlast
    · rw [List.getLast?_concat] at hlast
      cases hlast
      cases next <;> simp_all [Instr.fits]
    · simp at hlast
  · exact Instr.ready_of_easy (heasy first (mem_of_mem_head? hfirst)) _
  · simp only [MotionMaster.movementExpired, hflag, Bool.false_eq_true, if_false, MotionMaster.directExpire] at hcode ⊢
    split at hcode
    · simp at hcode
    · exact hnil.empty rfl

theorem Sound.back {answer : Bool} {instr : Instr} (h : Sound m (instr :: rest))
    (hok : orderly ⟨m, instr :: rest⟩ (owner, .back answer) = true) (hrun : back owner answer instr m = some after) :
    Sound after.1 (after.2 ++ rest) := by
  cases instr with
  | callback kind =>
    cases kind with
    | update =>
      have hlower := h.lower
      cases answer with
      | true =>
        cases hrun
        exact hlower
      | false =>
        cases hrun
        have halive : Alive m := h.alive rfl
        have hruns := h.runs.replace (replaces_movementExpired (m := { m with inUpdate := false }) halive rfl)
        refine Sound.replace [] hlower (by simp) (MotionMaster.balanced_movementExpired _ true)
          (MotionMaster.calm_movementExpired _ true) hruns fun hthirsty => ?_
        have hplain := ({ m with inUpdate := false } : MotionMaster).calm_movementExpired true |>.plain
        have hrest := (thirsty_append hplain hthirsty).1
        have := updating_of_thirsty hrest
        rw [any_updating_of_quiet (h.nested.1 rfl)] at this
        cases this
    | finalize =>
      cases hrun
      have hnil : Replaces m (.callback .finalize) [] := Replaces.of_not_leaves rfl (by simp [Easy])
      have hruns := h.runs.replace hnil
      refine Sound.replace [_] h (by simp [Instr.updating]) (Balanced.of_hands m rfl rfl rfl)
        (Calm.refl m) hruns fun hthirsty => h.alive ?_
      simpa [thirsty, Instr.refills, Instr.updating] using hthirsty
    | reset =>
      cases hrun
      have hruns : Runs m ([] ++ rest) := by
        refine ⟨(isChain_cons.mp h.runs.chain).2, fun first hfirst => ?_⟩
        have hfits := (isChain_cons.mp h.runs.chain).1 first hfirst
        cases rest with
        | nil => simp at hfirst
        | cons next rest =>
          obtain rfl : next = first := by simpa using hfirst
          cases next <;> simp_all [Fits, Instr.fits, Instr.easy, Instr.Ready, orderly]
      refine Sound.replace [_] h (by simp [Instr.updating]) (Balanced.of_hands m rfl rfl rfl)
        (Calm.refl m) hruns fun hthirsty => h.alive ?_
      simpa [thirsty, Instr.refills, Instr.updating] using hthirsty
  | _ => simp [Movement.back] at hrun

end

theorem sound_step (state : State) (input : Input) (h : Sound state.data state.code)
    (hok : orderly state input = true) : Sound (step state input).data (step state input).code := by
  apply Control.step_keeps machine Sound (fun state input => orderly state input = true) _ _ _ state input h hok
  · intro owner operation m rest m' code h hopen hok hrun
    exact h.call hopen hok hrun
  · intro owner answer m instr rest m' code h _ hok hrun
    exact h.back hok hrun
  · intro owner m instr rest m' code h _ _ hrun
    exact h.exec hrun

theorem sound_run {inputs : List Input} (h : Run.Guarded step (fun state input => orderly state input = true) start inputs) :
    Sound (Run.run step start inputs).data (Run.run step start inputs).code :=
  Run.run_invariant step _ (fun state : State => Sound state.data state.code) sound_step sound_start h

-- Who owns the generators at a moment of a run. A generator that an operation
-- in progress took off the stack or has just made is in its hand.
structure Owned (m : MotionMaster) (code : List Instr) : Prop where
  -- pushed: on the stack, taken off it for now, or finalised once
  finalizedOnce : ∀ mv ∈ m.pushed, isStatic mv = false →
    m.stack.count mv + (taken code).count mv + m.finalized.count mv = 1
  -- the shared generator is finalised as often as it leaves the stack
  idleFinalized : m.pushed.count .idleMovement =
    m.stack.count .idleMovement + (taken code).count .idleMovement + m.finalized.count .idleMovement
  finalizedPassed : ∀ mv, isStatic mv = false →
    m.finalized.count mv = m.expiring.count mv + m.deleted.count mv + (done code).count mv
  onePlace : ∀ mv ∈ m.allocated, m.stack.count mv + m.expiring.count mv + m.deleted.count mv + inHand code mv = 1
  atRest : code = [] → ∀ mv ∈ m.allocated, m.stack.count mv + m.expiring.count mv + m.deleted.count mv = 1
  idleKept : .idleMovement ∉ m.deleted
  filled : code.head? = some .completed → m.stack ≠ []
  defined : m.undefined = false

section

variable {m : MotionMaster} {code : List Instr} {mv : MovementGenerator}

theorem Sound.pushed_le (h : Sound m code) (hmv : isStatic mv = false) : m.pushed.count mv ≤ m.allocated.count mv := by
  have hpushes := h.pushes mv
  have hkept := h.kept mv hmv
  have hpassed := h.passed mv hmv
  simp only [places, inHand] at hkept
  omega

theorem Sound.allocated_count (h : Sound m code) (hmv : mv ∈ m.allocated) :
    isStatic mv = false ∧ m.allocated.count mv = 1 := by
  obtain ⟨id, type, rfl, _⟩ := h.named.2 mv hmv
  exact ⟨rfl, count_eq_one_of_mem h.named.1 hmv⟩

theorem Sound.owned (h : Sound m code) : Owned m code := by
  refine ⟨fun mv hmv hstatic => ?_, h.pushes _, h.passed, fun mv hmv => ?_, fun hcode mv hmv => ?_, h.idle, fun hhead => ?_,
    h.defined⟩
  · have hle := h.pushed_le hstatic
    have hpos := count_pos_iff.mpr hmv
    have hone : m.allocated.count mv ≤ 1 := nodup_iff_count_le_one.mp h.named.1 mv
    have := h.pushes mv
    omega
  · obtain ⟨hstatic, hone⟩ := h.allocated_count hmv
    rw [← hone, ← h.kept mv hstatic]
    rfl
  · obtain ⟨hstatic, hone⟩ := h.allocated_count hmv
    have := h.kept mv hstatic
    subst hcode
    simp only [places, inHand, made_nil, taken_nil, done_nil, count_nil] at this
    omega
  · exact h.runs.head .completed hhead

theorem Sound.not_on_stack (h : Sound m code) (hstatic : isStatic mv = false) (hmv : mv ∈ m.finalized) :
    mv ∉ m.stack := by
  intro hmem
  have hfinal := count_pos_iff.mpr hmv
  have hstack := count_pos_iff.mpr hmem
  have hle := h.pushed_le hstatic
  have hone : m.allocated.count mv ≤ 1 := nodup_iff_count_le_one.mp h.named.1 mv
  have := h.pushes mv
  omega

end

theorem finalized_step (state : State) (input : Input) (h : Sound state.data state.code)
    (hok : orderly state input = true) (mv : MovementGenerator) (hmv : mv ∈ state.data.finalized) :
    mv ∈ (step state input).data.finalized := by
  have hkeep := Control.step_keeps machine (fun m code => Sound m code ∧ mv ∈ m.finalized)
    (fun state input => orderly state input = true) ?_ ?_ ?_ state input ⟨h, hmv⟩ hok
  · exact hkeep.2
  · intro owner operation m rest m' code hm hopen hok hrun
    refine ⟨hm.1.call hopen hok hrun, ?_⟩
    by_cases hupdate : operation = .updateMotion
    · subst hupdate
      simp only [machine, call, MotionMaster.updateMotion] at hrun
      split_ifs at hrun <;> (obtain ⟨rfl, -⟩ := Prod.mk.inj (Option.some.inj hrun); exact hm.2)
    · have hclear : ∀ moveType, operation = .clearType moveType → ∀ other ∈ m.stack, other.type ≠ moveType := by
        rintro moveType rfl other hother
        have := all_eq_true.mp hok other hother
        simpa using this
      exact (call_kept hrun hupdate hclear).2.1.finals hm.2
  · intro owner answer m instr rest m' code hm _ hok hrun
    refine ⟨hm.1.back hok hrun, ?_⟩
    cases instr with
    | callback kind =>
      cases kind with
      | update =>
        cases answer with
        | true =>
          cases hrun
          exact hm.2
        | false =>
          have hcalm := ({ m with inUpdate := false } : MotionMaster).calm_movementExpired true
          obtain ⟨rfl, -⟩ := Prod.mk.inj (Option.some.inj hrun)
          exact hcalm.finals hm.2
      | finalize =>
        cases hrun
        exact hm.2
      | reset =>
        cases hrun
        exact hm.2
    | _ => simp [machine, back] at hrun
  · intro owner m instr rest m' code hm _ _ hrun
    refine ⟨hm.1.exec hrun, ?_⟩
    by_cases hupdated : instr = .updated
    · subst hupdated
      obtain ⟨rfl, -⟩ := Prod.mk.inj (Option.some.inj hrun)
      split <;> exact hm.2
    · have hready := hm.1.runs.head instr rfl
      exact (exec_kept hrun hupdated hready (hm.1.safe instr (by simp)) (hm.1.delayed instr (by simp))).2.1.finals hm.2

theorem finalized_run {state : State} {inputs : List Input} (hs : Sound state.data state.code)
    (h : Run.Guarded step (fun state input => orderly state input = true) state inputs) {mv : MovementGenerator}
    (hmv : mv ∈ state.data.finalized) : mv ∈ (Run.run step state inputs).data.finalized := by
  have hboth : Sound state.data state.code ∧ mv ∈ state.data.finalized := ⟨hs, hmv⟩
  have hrun := Run.run_invariant step _ (fun state : State => Sound state.data state.code ∧ mv ∈ state.data.finalized)
    (fun state input hm hok => ⟨sound_step state input hm.1 hok, finalized_step state input hm.1 hok mv hm.2⟩) hboth h
  exact hrun.2

-- The wording that leaves no room for a generator in hand
def Placed (m : MotionMaster) (code : List Instr) : Prop :=
  (∀ mv ∈ m.finalized, isStatic mv = false → mv ∉ m.stack) ∧
    (∀ mv ∈ m.pushed, isStatic mv = false → m.stack.count mv + m.expiring.count mv + m.deleted.count mv = 1) ∧
    (code.head? = some .completed → m.stack ≠ [])

instance (m : MotionMaster) (code : List Instr) : Decidable (Placed m code) :=
  inferInstanceAs (Decidable (_ ∧ _ ∧ _))

def creature : Owner := ⟨true, true, false, false, .random, some .random⟩

-- A creature with its default generator and a confusion on top
def confused : List Input :=
  [(creature, .call .initializeMotion), (creature, .go), (creature, .go), (creature, .call (.mutate .confused)),
    (creature, .go)]

def after (operations : List (Control.Input Operation Bool)) : State :=
  Run.run step start (confused ++ operations.map (creature, ·))

def clearing : State := after [.call (.clear false false), .go]

def clearingType : State := after [.call (.clearType .confused)]

-- The UpdateMotion of a unit that cannot move finds nothing on the stack.
def unmoved : State := step start ({ creature with canNotMove := true }, .call .updateMotion)

-- The Reset that an UpdateMotion ends with clears the stack.
def clearedByReset : State :=
  after [.call .updateMotion, .back false, .go, .go, .back true, .go, .go, .go, .call (.clear false true), .go,
    .back true, .go, .back true, .go]

-- An UpdateMotion inside an Update takes the flag away from it.
def updatedTwice : State :=
  after [.call .updateMotion, .call .updateMotion, .back true, .go, .go, .call (.clear false true), .go, .back true,
    .go, .go, .back true, .go, .back true, .go]

-- An UpdateMotion inside a Finalize takes the expire list away from it.
def expiredTwice : State :=
  after [.call .updateMotion, .call (.movementExpired false), .go, .call .updateMotion, .back true, .go, .go, .go,
    .back true, .go]

theorem not_placed :
    ¬ Placed clearing.data clearing.code ∧ ¬ Placed clearingType.data clearingType.code ∧
      ¬ Placed unmoved.data unmoved.code ∧ ¬ Placed clearedByReset.data clearedByReset.code ∧
      ¬ Placed updatedTwice.data updatedTwice.code ∧ expiredTwice.data.undefined = true := by
  decide +kernel

-- At every moment of an orderly run the generators have one owner each, and a
-- finalised one never stands on the stack again.
theorem generators_owned (inputs : List Input)
    (h : Run.Guarded step (fun state input => orderly state input = true) start inputs) :
    Owned (Run.run step start inputs).data (Run.run step start inputs).code ∧
      ∀ before after, inputs = before ++ after → ∀ mv ∈ (Run.run step start before).data.finalized,
        isStatic mv = false → mv ∉ (Run.run step start inputs).data.stack := by
  refine ⟨(sound_run h).owned, ?_⟩
  rintro before after rfl mv hmv hstatic
  obtain ⟨hbefore, hafter⟩ := (Run.guarded_append step _ start before after).mp h
  apply (sound_run h).not_on_stack hstatic
  rw [Run.run_append]
  exact finalized_run (sound_run hbefore) hafter hmv

-- An Update that clears everything: the generators wait on the expire list.
def clearedByUpdate : List Input :=
  confused ++ [.call .updateMotion, .call (.clear false true), .go, .back true, .go].map (creature, ·)

theorem generators_owned_clear :
    Owned (Run.run step start clearedByUpdate).data (Run.run step start clearedByUpdate).code :=
  (generators_owned clearedByUpdate (by decide +kernel)).1

end TurtleWow.Movement

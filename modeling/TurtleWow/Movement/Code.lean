import TurtleWow.Movement.Owned

namespace TurtleWow.Movement

open List

namespace Instr

-- What an instruction finds when its turn comes: the stack is not empty where it
-- reads the top, and where UpdateMotion goes on there is a generator left or an
-- expire list that makes it look.
def Ready (m : MotionMaster) : Instr → Prop
  | resetTop _ _ | resetKept | resetFlagged | resetDone | completed => m.stack ≠ []
  | updated => m.stack ≠ [] ∨ m.expList ≠ none
  | clearType _ | erase _ => False
  | _ => True

-- Instructions that find nothing in particular
def easy : Instr → Bool
  | resetTop _ _ | resetKept | resetFlagged | resetDone | completed | updated | clearType _ | erase _ => false
  | _ => true

def fits (instr next : Instr) : Bool :=
  match next with
  | completed =>
    match instr with
    | setDefault | updated | resetFlagged | resetDone => true
    | _ => false
  | resetTop _ _ | resetKept | resetFlagged =>
    match instr with
    | completed | initializeMotion => true
    | _ => false
  | updated =>
    match instr with
    | callback .update | callback .reset | expire _ _ | expired _ _ | resetTop _ _ => true
    | _ => false
  | resetDone => instr == callback .reset
  | _ => next.easy

def leaves : Instr → Bool
  | callback .finalize | finalize _ _ _ | dispose _ _ _ | newDefault _ _ _ | waypointDefault _ _ | resetKept
  | mutated _ => false
  | _ => true

variable {m : MotionMaster} {instr next : Instr}

theorem fits_of_easy (h : next.easy = true) (instr : Instr) : instr.fits next = true := by
  cases next <;> simp_all [easy, fits]

theorem ready_of_easy (h : next.easy = true) (m : MotionMaster) : next.Ready m := by
  cases next <;> simp_all [easy, Ready]

theorem easy_of_not_leaves (h : instr.leaves = false) (hfits : instr.fits next = true) : next.easy = true := by
  cases instr with
  | callback kind => cases kind <;> cases next <;> simp_all [easy, fits, leaves]
  | _ => cases next <;> simp_all [easy, fits, leaves]

theorem ready_of_filled (hfits : instr.fits next = true) (h : m.stack ≠ []) : next.Ready m := by
  cases next <;> simp_all [easy, fits, Ready]

end Instr

abbrev Fits : Instr → Instr → Prop := fun instr next => instr.fits next = true

def Easy (code : List Instr) : Prop := ∀ instr ∈ code, instr.easy = true

theorem Easy.append {code code' : List Instr} (h : Easy code) (h' : Easy code') : Easy (code ++ code') := by
  intro instr hinstr
  rcases mem_append.mp hinstr with hmem | hmem
  · exact h instr hmem
  · exact h' instr hmem

theorem easy_finalizes (mvs : List MovementGenerator) (delayed tested : Bool) :
    Easy (mvs.map fun mv => .finalize mv delayed tested) := by
  intro instr hinstr
  obtain ⟨mv, _, rfl⟩ := mem_map.mp hinstr
  rfl

theorem Easy.isChain_append {code tail : List Instr} (h : Easy code) (htail : List.IsChain Fits tail)
    (hhead : ∀ instr ∈ tail.head?, instr.easy = true) : List.IsChain Fits (code ++ tail) := by
  induction code with
  | nil => exact htail
  | cons instr rest ih =>
    have hrest := ih fun other hother => h other (mem_cons_of_mem _ hother)
    refine isChain_cons.mpr ⟨fun next hnext => Instr.fits_of_easy ?_ instr, hrest⟩
    cases rest with
    | nil => exact hhead next hnext
    | cons second rest =>
      obtain rfl : second = next := by simpa using hnext
      exact h second (by simp)

theorem Easy.isChain {code : List Instr} (h : Easy code) : List.IsChain Fits code := by
  have := h.isChain_append List.IsChain.nil (by simp)
  rwa [append_nil] at this

-- Code that may take the place of an instruction
structure Replaces (m' : MotionMaster) (instr : Instr) (code : List Instr) : Prop where
  chain : List.IsChain Fits code
  last : ∀ last ∈ code.getLast?, ∀ next, instr.fits next = true → last.fits next = true
  head : ∀ first ∈ code.head?, first.Ready m'
  empty : code = [] → ∀ next, instr.fits next = true → next.Ready m'

section

variable {m m' : MotionMaster} {instr : Instr} {code rest : List Instr}

theorem Replaces.nil (h : ∀ next, instr.fits next = true → next.Ready m') : Replaces m' instr [] :=
  ⟨.nil, by simp, by simp, fun _ => h⟩

theorem Replaces.of_not_leaves (hinstr : instr.leaves = false) (h : Easy code) : Replaces m' instr code := by
  refine ⟨h.isChain, fun last _ next hnext => ?_, fun first hfirst => ?_, fun _ next hnext => ?_⟩
  · exact Instr.fits_of_easy (Instr.easy_of_not_leaves hinstr hnext) last
  · exact Instr.ready_of_easy (h first (mem_of_mem_head? hfirst)) m'
  · exact Instr.ready_of_easy (Instr.easy_of_not_leaves hinstr hnext) m'

-- What the first instruction of code finds, and the code fits together.
structure Runs (m : MotionMaster) (code : List Instr) : Prop where
  chain : List.IsChain Fits code
  head : ∀ first ∈ code.head?, first.Ready m

theorem Runs.replace (h : Runs m (instr :: rest)) (hcode : Replaces m' instr code) : Runs m' (code ++ rest) := by
  refine ⟨Control.isChain_replace h.chain hcode.chain hcode.last, fun first hfirst => ?_⟩
  cases code with
  | cons second code =>
    obtain rfl : second = first := by simpa using hfirst
    exact hcode.head second rfl
  | nil => exact hcode.empty rfl first ((isChain_cons.mp h.chain).1 first hfirst)

theorem Runs.call (h : Runs m rest) (hopen : machine.Open rest) (hcode : Runs m' code) : Runs m' (code ++ rest) := by
  have heasy : ∀ first ∈ rest.head?, first.easy = true := by
    intro first hfirst
    cases rest with
    | nil => simp at hfirst
    | cons instr rest =>
      obtain rfl : instr = first := by simpa using hfirst
      cases instr <;> simp_all [Control.Machine.Open, machine, Instr.waits, Instr.easy]
  refine ⟨isChain_append.mpr ⟨hcode.chain, h.chain, fun last _ next hnext => ?_⟩, fun first hfirst => ?_⟩
  · exact Instr.fits_of_easy (heasy next hnext) last
  · cases code with
    | cons second code =>
      obtain rfl : second = first := by simpa using hfirst
      exact hcode.head second rfl
    | nil => exact Instr.ready_of_easy (heasy first hfirst) m'

theorem Easy.runs (h : Easy code) : Runs m code :=
  ⟨h.isChain, fun first hfirst => Instr.ready_of_easy (h first (mem_of_mem_head? hfirst)) m⟩

end

namespace MotionMaster

variable (m : MotionMaster)

theorem easy_clear (all : Bool) : Easy (m.clear false all).2 := by
  unfold clear
  split_ifs
  · simp only [delayedClean]
    split_ifs
    · simp [Easy]
    · exact easy_finalizes _ true true
  · simp only [directClean, Bool.and_false, Bool.false_eq_true, if_false, nil_append]
    exact easy_finalizes _ false true

theorem easy_movementExpired (reset : Bool) : Easy (m.movementExpired reset).2 := by
  unfold movementExpired
  split_ifs
  · simp only [delayedExpire]
    split
    · exact (easy_finalizes _ true false).append (by simp [Easy, Instr.easy])
    · simp [Easy]
  · simp only [directExpire]
    split
    · exact (easy_finalizes _ false false).append (by simp [Easy, Instr.easy])
    · simp [Easy]

theorem runs_clear (reset all : Bool) : Runs (m.clear reset all).1 (m.clear reset all).2 := by
  by_cases hreset : (reset && !all && !m.inUpdate) = true
  · obtain ⟨⟨rfl, rfl⟩, hflag⟩ : (reset = true ∧ all = false) ∧ m.inUpdate = false := by simpa using hreset
    simp only [clear, hflag, Bool.false_eq_true, if_false, directClean, Bool.not_false, Bool.and_true, if_true]
    have hfinalize := easy_finalizes (m.stack.take (m.toPop false)) false true
    have hkept : List.IsChain Fits (.resetKept :: (m.stack.take (m.toPop false)).map fun itr => .finalize itr false true) := by
      refine isChain_cons.mpr ⟨fun next hnext => ?_, hfinalize.isChain⟩
      exact Instr.fits_of_easy (hfinalize next (mem_of_mem_head? hnext)) _
    split_ifs with hempty
    · refine ⟨isChain_cons_cons.mpr ⟨rfl, hkept⟩, fun first hfirst => ?_⟩
      obtain rfl : Instr.initializeMotion = first := by simpa using hfirst
      trivial
    · refine ⟨hkept, fun first hfirst => ?_⟩
      obtain rfl : Instr.resetKept = first := by simpa using hfirst
      simpa [Instr.Ready] using hempty
  · refine Easy.runs ?_
    unfold clear
    split_ifs with hflag
    · simp only [delayedClean]
      split_ifs
      · simp [Easy]
      · exact easy_finalizes _ true true
    · have hnone : (!all && reset) = false := by
        cases reset <;> cases all <;> simp_all
      simp only [directClean, hnone, Bool.false_eq_true, if_false, nil_append]
      exact easy_finalizes _ false true

theorem runs_startInitialize : Runs m.startInitialize.1 m.startInitialize.2 := by
  have heasy := m.easy_clear true
  refine ⟨heasy.isChain_append (by simp [Fits, Instr.fits]) (by simp [Instr.easy]), fun first hfirst => ?_⟩
  refine Instr.ready_of_easy ?_ _
  cases hcleared : (m.clear false true).2 with
  | nil =>
    obtain rfl : Instr.setDefault = first := by simpa [startInitialize, hcleared] using hfirst
    rfl
  | cons second rest =>
    obtain rfl : second = first := by simpa [startInitialize, hcleared] using hfirst
    exact heasy second (by simp [hcleared])

theorem runs_initializeNewDefault (owner : Owner) (alwaysReplace : Bool) :
    Runs (m.initializeNewDefault owner alwaysReplace).1 (m.initializeNewDefault owner alwaysReplace).2 := by
  unfold initializeNewDefault
  split
  · exact m.runs_startInitialize
  · split_ifs
    · exact Easy.runs (by simp [Easy])
    · exact Easy.runs (by simp [Easy])
    · exact Easy.runs ((easy_clear _ true).append (by simp [Easy, Instr.easy]))

theorem runs_moveWaypointAsDefault (owner : Owner) :
    Runs (m.moveWaypointAsDefault owner).1 (m.moveWaypointAsDefault owner).2 := by
  simp only [moveWaypointAsDefault]
  split_ifs
  · exact Easy.runs (by simp [Easy])
  · split
    · exact Easy.runs ((easy_clear _ true).append (by simp [Easy, Instr.easy]))
    · exact Easy.runs ((easy_clear _ true).append (by simp [Easy, Instr.easy]))

theorem runs_mutate (type : MovementGeneratorType) : Runs (m.mutate type).1 (m.mutate type).2 := by
  simp only [mutate]
  split_ifs
  · exact Easy.runs ((easy_movementExpired _ false).append (by simp [Easy, Instr.easy]))
  · exact Easy.runs (by simp [Easy, Instr.easy])

theorem stack_setDefault (owner : Owner) : (m.setDefault owner).stack ≠ [] := by
  simp only [setDefault, pushSelected]
  split_ifs
  · split <;> simp [push]
  · simp [push]

theorem replaces_callReset {instr : Instr} {tail : List Instr} (htail : tail = [] ∨ tail = [.resetDone])
    (hlast : ∀ next, instr.fits next = true → ((Instr.callback .reset :: tail).getLast (by simp)).fits next = true)
    (h : m.stack ≠ []) : Replaces (m.callReset tail).1 instr (m.callReset tail).2 := by
  have hne : m.stack.isEmpty = false := by simpa using h
  simp only [callReset, hne, Bool.false_eq_true, if_false]
  refine ⟨?_, fun last hl next hnext => ?_, fun first hfirst => ?_, by simp⟩
  · rcases htail with rfl | rfl
    · exact isChain_singleton _
    · exact isChain_cons_cons.mpr ⟨rfl, isChain_singleton _⟩
  · rw [List.getLast?_eq_some_getLast (by simp)] at hl
    cases hl
    exact hlast next hnext
  · obtain rfl : Instr.callback .reset = first := by simpa using hfirst
    trivial

theorem replaces_startInitialize : Replaces m.startInitialize.1 .initializeMotion m.startInitialize.2 := by
  have hruns := m.runs_startInitialize
  refine ⟨hruns.chain, fun last hlast next hnext => ?_, hruns.head, by simp [startInitialize]⟩
  obtain rfl : Instr.completed = last := by simpa [startInitialize] using hlast
  cases next <;> simp_all [Instr.fits]

theorem replaces_expired (reset : Bool) (nowTop : Option MovementGenerator) :
    Replaces m (.expired reset nowTop)
      ((if m.stack.isEmpty then [.initializeMotion] else []) ++ [.resetTop reset nowTop]) := by
  split_ifs with hempty
  · refine ⟨by simp [Fits, Instr.fits], fun last hlast next hnext => ?_, fun first hfirst => ?_, by simp⟩
    · obtain rfl : Instr.resetTop reset nowTop = last := by simpa using hlast
      cases next <;> simp_all [Instr.fits]
    · obtain rfl : Instr.initializeMotion = first := by simpa using hfirst
      trivial
  · refine ⟨by simp, fun last hlast next hnext => ?_, fun first hfirst => ?_, by simp⟩
    · obtain rfl : Instr.resetTop reset nowTop = last := by simpa using hlast
      cases next <;> simp_all [Instr.fits]
    · obtain rfl : Instr.resetTop reset nowTop = first := by simpa using hfirst
      simpa [Instr.Ready] using hempty

theorem replaces_updated (h : Instr.Ready m .updated) : Replaces m.updated.1 .updated m.updated.2 := by
  cases hexp : m.expList with
  | none =>
    have hfilled : m.stack ≠ [] := by simpa [Instr.Ready, hexp] using h
    simp only [updated, hexp]
    exact Replaces.nil fun next hnext => Instr.ready_of_filled hnext hfilled
  | some list =>
    simp only [updated, hexp]
    split_ifs with hempty
    · refine ⟨by simp [Fits, Instr.fits], fun last hlast next hnext => ?_, fun first hfirst => ?_, by simp⟩
      · obtain rfl : Instr.resetFlagged = last := by simpa using hlast
        cases next <;> simp_all [Instr.fits]
      · obtain rfl : Instr.initializeMotion = first := by simpa using hfirst
        trivial
    · refine ⟨by simp, fun last hlast next hnext => ?_, fun first hfirst => ?_, by simp⟩
      · obtain rfl : Instr.resetFlagged = last := by simpa using hlast
        cases next <;> simp_all [Instr.fits]
      · obtain rfl : Instr.resetFlagged = first := by simpa using hfirst
        simpa [Instr.Ready] using hempty

end MotionMaster

theorem exec_replaces {owner : Owner} {instr : Instr} {m : MotionMaster} {after : MotionMaster × List Instr}
    (hready : instr.Ready m) (h : exec owner instr m = some after) : Replaces after.1 instr after.2 := by
  cases instr with
  | callback kind => simp [exec] at h
  | finalize mv delayed tested =>
    cases h
    exact Replaces.of_not_leaves rfl (by simp [Easy, Instr.easy])
  | dispose mv delayed tested =>
    cases h
    exact Replaces.of_not_leaves rfl (by simp [Easy])
  | initializeMotion =>
    cases h
    exact m.replaces_startInitialize
  | setDefault =>
    cases h
    exact Replaces.nil fun next hnext => Instr.ready_of_filled hnext (m.stack_setDefault owner)
  | newDefault curr alwaysReplace type =>
    cases h
    refine Replaces.of_not_leaves rfl ?_
    simp only [MotionMaster.newDefault]
    split_ifs <;> simp [Easy, Instr.easy]
  | waypointDefault newWPMMgen curr =>
    cases h
    exact Replaces.of_not_leaves rfl (by simp [Easy])
  | resetKept =>
    have hne : m.stack.isEmpty = false := by simpa [Instr.Ready] using hready
    obtain rfl : m.callReset [] = after := by simpa [exec, hne] using h
    refine m.replaces_callReset (.inl rfl) (fun next hnext => ?_) hready
    exact Instr.fits_of_easy (Instr.easy_of_not_leaves rfl hnext) _
  | expire curr reset =>
    cases h
    refine ⟨by simp [Fits, Instr.fits, Instr.easy], fun last hlast next hnext => ?_, fun first hfirst => ?_, by simp⟩
    · obtain rfl : Instr.expired reset m.stack.head? = last := by simpa using hlast
      cases next <;> simp_all [Instr.fits]
    · obtain rfl : Instr.finalize curr false true = first := by simpa using hfirst
      trivial
  | expired reset nowTop =>
    cases h
    exact m.replaces_expired reset nowTop
  | resetTop reset nowTop =>
    cases h
    split_ifs
    · refine m.replaces_callReset (.inl rfl) (fun next hnext => ?_) hready
      cases next <;> simp_all [Instr.fits]
    · exact Replaces.nil fun next hnext => Instr.ready_of_filled hnext hready
  | mutated mv =>
    cases h
    exact Replaces.of_not_leaves rfl (by simp [Easy])
  | updated =>
    cases h
    exact m.replaces_updated hready
  | resetFlagged =>
    cases h
    split_ifs
    · refine m.replaces_callReset (.inr rfl) (fun next hnext => ?_) hready
      cases next <;> simp_all [Instr.fits]
    · exact Replaces.nil fun next hnext => Instr.ready_of_filled hnext hready
  | resetDone =>
    cases h
    exact Replaces.nil fun next hnext => Instr.ready_of_filled hnext hready
  | clearType moveType => exact hready.elim
  | erase it => exact hready.elim
  | completed =>
    cases h
    exact Replaces.nil fun next hnext => Instr.ready_of_filled hnext hready

namespace Instr

def updating (instr : Instr) : Bool := instr == .callback .update

-- The two instructions of an UpdateMotion that the expire list must wait for
def opens (instr : Instr) : Bool := instr.updating || instr == .updated

def delayed : Instr → Bool
  | finalize _ delayed _ | dispose _ delayed _ => delayed
  | _ => false

-- The static generator is only handled where it is tested for.
def safe : Instr → Bool
  | finalize mv _ tested | dispose mv _ tested => tested || !isStatic mv
  | _ => true

def plain (instr : Instr) : Bool := !instr.opens && instr.safe

def refills : Instr → Bool
  | newDefault _ _ _ | waypointDefault _ _ => true
  | _ => false

end Instr

def Alive (m : MotionMaster) : Prop := m.stack ≠ [] ∨ m.expList ≠ none

def Named (mvs : List MovementGenerator) : Prop :=
  mvs.Nodup ∧ ∀ mv ∈ mvs, ∃ id type, mv = .allocated id type ∧ id < mvs.length

theorem Named.next {m : MotionMaster} (h : Named m.allocated) (type : MovementGeneratorType) :
    Named (m.allocate type).allocated := by
  refine ⟨nodup_cons.mpr ⟨fun hmem => ?_, h.1⟩, fun mv hmv => ?_⟩
  · obtain ⟨id, other, heq, hid⟩ := h.2 _ hmem
    obtain ⟨rfl, _⟩ := MovementGenerator.allocated.inj heq
    exact Nat.lt_irrefl _ hid
  · rcases mem_cons.mp hmv with rfl | hmem
    · exact ⟨_, type, rfl, Nat.lt_succ_self _⟩
    · obtain ⟨id, other, heq, hid⟩ := h.2 mv hmem
      exact ⟨id, other, heq, Nat.lt_succ_of_lt hid⟩

-- What no piece of code touches, besides the books
structure Calm (m m' : MotionMaster) (code : List Instr) : Prop where
  named : Named m.allocated → Named m'.allocated
  idle : .idleMovement ∉ m.deleted → .idleMovement ∉ m'.deleted
  flag : m'.inUpdate = m.inUpdate
  defined : m'.undefined = m.undefined
  finals : m.finalized ⊆ m'.finalized
  keep : m.expList ≠ none → m'.expList ≠ none
  plain : ∀ instr ∈ code, instr.plain = true
  delayed : ∀ instr ∈ code, instr.delayed = true → m'.expList ≠ none

section

variable {m m' m'' : MotionMaster} {code tail : List Instr}

theorem Calm.refl (m : MotionMaster) : Calm m m [] := ⟨id, id, rfl, rfl, List.Subset.refl _, id, by simp, by simp⟩

theorem Calm.trans (h : Calm m m' []) (h' : Calm m' m'' code) : Calm m m'' code :=
  ⟨h'.named ∘ h.named, h'.idle ∘ h.idle, h'.flag.trans h.flag, h'.defined.trans h.defined,
    List.Subset.trans h.finals h'.finals, h'.keep ∘ h.keep, h'.plain, h'.delayed⟩

theorem Calm.append (h : Calm m m' code) (hplain : ∀ instr ∈ tail, instr.plain = true)
    (hdelayed : ∀ instr ∈ tail, instr.delayed = true → m'.expList ≠ none) : Calm m m' (code ++ tail) := by
  refine ⟨h.named, h.idle, h.flag, h.defined, h.finals, h.keep, fun instr hinstr => ?_, fun instr hinstr hd => ?_⟩
  · rcases mem_append.mp hinstr with hmem | hmem
    · exact h.plain instr hmem
    · exact hplain instr hmem
  · rcases mem_append.mp hinstr with hmem | hmem
    · exact h.delayed instr hmem hd
    · exact hdelayed instr hmem hd

theorem Calm.of_code (h : Calm m m' []) (hplain : ∀ instr ∈ tail, instr.plain = true)
    (hdelayed : ∀ instr ∈ tail, instr.delayed = true → m'.expList ≠ none) : Calm m m' tail :=
  h.append hplain hdelayed

end

namespace MotionMaster

variable (m : MotionMaster)

theorem calm_stack (stack : List MovementGenerator) : Calm m { m with stack := stack } [] :=
  ⟨id, id, rfl, rfl, List.Subset.refl _, id, by simp, by simp⟩

theorem calm_needExpList : Calm m m.needExpList [] := ⟨id, id, rfl, rfl, List.Subset.refl _, by simp [needExpList], by simp, by simp⟩

theorem calm_push (mv : MovementGenerator) : Calm m (m.push mv) [] := ⟨id, id, rfl, rfl, List.Subset.refl _, id, by simp, by simp⟩

theorem calm_allocate (type : MovementGeneratorType) : Calm m (m.allocate type) [] :=
  ⟨fun h => h.next type, id, rfl, rfl, List.Subset.refl _, id, by simp, by simp⟩

theorem calm_toReset (reset : Bool) : Calm m { m with toReset := reset } [] :=
  ⟨id, id, rfl, rfl, List.Subset.refl _, id, by simp, by simp⟩

theorem calm_finalizes (mvs : List MovementGenerator) (delayed tested : Bool)
    (hsafe : ∀ mv ∈ mvs, (tested || !isStatic mv) = true) (hexp : delayed = true → m.expList ≠ none) :
    Calm m m (mvs.map fun mv => .finalize mv delayed tested) := by
  refine ⟨id, id, rfl, rfl, List.Subset.refl _, id, fun instr hinstr => ?_, fun instr hinstr hd => ?_⟩
  · obtain ⟨mv, hmv, rfl⟩ := mem_map.mp hinstr
    simpa [Instr.plain, Instr.opens, Instr.updating, Instr.safe] using hsafe mv hmv
  · obtain ⟨mv, _, rfl⟩ := mem_map.mp hinstr
    exact hexp hd

theorem calm_clear (reset all : Bool) : Calm m (m.clear reset all).1 (m.clear reset all).2 := by
  unfold clear
  split_ifs
  · simp only [delayedClean]
    split_ifs
    · exact m.calm_toReset reset
    · refine Calm.trans ?_ (calm_finalizes _ _ _ _ (by simp) (by simp [needExpList]))
      exact ((m.calm_toReset reset).trans (calm_needExpList _)).trans (calm_stack _ _)
  · refine (m.calm_stack (m.stack.drop (m.toPop all))).trans ?_
    simp only [directClean]
    have hreset : ∀ instr ∈ (if (!all && reset) = true then
        (if (m.stack.drop (m.toPop all)).isEmpty = true then [Instr.initializeMotion] else []) ++ [.resetKept] else []),
        instr = .initializeMotion ∨ instr = .resetKept := by
      intro instr hinstr
      split_ifs at hinstr <;> simp_all
    have hcode := (Calm.refl { m with stack := m.stack.drop (m.toPop all) }).of_code
      (fun instr hinstr => by rcases hreset instr hinstr with rfl | rfl <;> rfl)
      (fun instr hinstr hd => by rcases hreset instr hinstr with rfl | rfl <;> cases hd)
    have hfinalize := calm_finalizes { m with stack := m.stack.drop (m.toPop all) } (m.stack.take (m.toPop all))
      false true (by simp) (by simp)
    exact hcode.append hfinalize.plain hfinalize.delayed

theorem static_of_drops {curr : MovementGenerator} {rest : List MovementGenerator} :
    ∀ mv ∈ rest.takeWhile (drops curr), (false || !isStatic mv) = true := by
  intro mv hmv
  have hdrop := all_eq_true.mp all_takeWhile mv hmv
  cases mv with
  | idleMovement => simp [drops, MovementGenerator.type] at hdrop
  | allocated id type => simp [isStatic]

theorem calm_movementExpired (reset : Bool) : Calm m (m.movementExpired reset).1 (m.movementExpired reset).2 := by
  unfold movementExpired
  split_ifs
  · simp only [delayedExpire]
    split
    · refine Calm.trans ?_ ((calm_finalizes _ _ _ _ static_of_drops (by simp [needExpList])).append ?_ ?_)
      · exact ((m.calm_toReset reset).trans (calm_needExpList _)).trans (calm_stack _ _)
      · simp [Instr.plain, Instr.opens, Instr.updating, Instr.safe]
      · simp [needExpList]
    · exact m.calm_toReset reset
  · simp only [directExpire]
    split
    · refine (calm_stack _ _).trans ((calm_finalizes _ _ _ _ static_of_drops (by simp)).append ?_ ?_)
      · simp [Instr.plain, Instr.opens, Instr.updating, Instr.safe]
      · simp [Instr.delayed]
    · exact Calm.refl m

section

variable (owner : Owner)

theorem calm_pushSelected : Calm m (m.pushSelected owner) [] := by
  unfold pushSelected
  split
  · exact m.calm_push _
  · exact (m.calm_allocate _).trans (calm_push _ _)

theorem calm_setDefault : Calm m (m.setDefault owner) [] := by
  unfold setDefault
  split_ifs
  · exact m.calm_pushSelected owner
  · exact m.calm_push _

theorem calm_startInitialize : Calm m m.startInitialize.1 m.startInitialize.2 := by
  refine (m.calm_clear false true).append ?_ ?_
  · simp [Instr.plain, Instr.opens, Instr.updating, Instr.safe]
  · simp [Instr.delayed]

theorem calm_initializeNewDefault (alwaysReplace : Bool) :
    Calm m (m.initializeNewDefault owner alwaysReplace).1 (m.initializeNewDefault owner alwaysReplace).2 := by
  unfold initializeNewDefault
  split
  · exact m.calm_startInitialize
  · split_ifs
    · exact Calm.refl m
    · exact Calm.refl m
    · refine (calm_stack _ _).trans ((calm_clear _ false true).append ?_ ?_)
      · simp [Instr.plain, Instr.opens, Instr.updating, Instr.safe]
      · simp [Instr.delayed]

theorem calm_newDefault (curr : MovementGenerator) (alwaysReplace : Bool) (type : MovementGeneratorType) :
    Calm m (m.newDefault owner curr alwaysReplace type).1 (m.newDefault owner curr alwaysReplace type).2 := by
  have hpush : Calm m (m.pushNewDefault owner type).1 [] := by
    unfold pushNewDefault
    split_ifs
    · exact m.calm_push _
    · exact m.calm_pushSelected owner
  simp only [newDefault]
  split_ifs
  · exact hpush.trans (calm_stack _ _)
  · refine hpush.trans ((calm_needExpList _).append ?_ (by simp [needExpList]))
    simp [Instr.plain, Instr.opens, Instr.updating, Instr.safe]
  · exact m.calm_stack _

theorem calm_moveWaypointAsDefault : Calm m (m.moveWaypointAsDefault owner).1 (m.moveWaypointAsDefault owner).2 := by
  simp only [moveWaypointAsDefault]
  split_ifs
  · exact Calm.refl m
  · refine (m.calm_allocate .waypoint).trans ?_
    split
    · refine (calm_stack _ _).trans ((calm_clear _ false true).append ?_ ?_)
      · simp [Instr.plain, Instr.opens, Instr.updating, Instr.safe]
      · simp [Instr.delayed]
    · refine (calm_clear _ false true).append ?_ ?_
      · simp [Instr.plain, Instr.opens, Instr.updating, Instr.safe]
      · simp [Instr.delayed]

end

theorem calm_waypointDefault (newWPMMgen : MovementGenerator) (curr : Option MovementGenerator) :
    Calm m (m.waypointDefault newWPMMgen curr) [] := by
  cases curr with
  | none => exact m.calm_push newWPMMgen
  | some curr => exact (m.calm_push newWPMMgen).trans (calm_stack _ _)

theorem calm_mutate (type : MovementGeneratorType) : Calm m (m.mutate type).1 (m.mutate type).2 := by
  simp only [mutate]
  split_ifs
  · refine (m.calm_allocate type).trans ((calm_movementExpired _ false).append ?_ ?_)
    · simp [Instr.plain, Instr.opens, Instr.updating, Instr.safe]
    · simp [Instr.delayed]
  · refine (m.calm_allocate type).trans ((Calm.refl _).append ?_ ?_)
    · simp [Instr.plain, Instr.opens, Instr.updating, Instr.safe]
    · simp [Instr.delayed]

theorem calm_moveIdle : Calm m m.moveIdle [] := by
  unfold moveIdle
  split_ifs
  · exact m.calm_push _
  · exact Calm.refl m

theorem calm_dispose {mv : MovementGenerator} {delayed tested : Bool} (hsafe : (tested || !isStatic mv) = true)
    (hexp : delayed = true → m.expList ≠ none) : Calm m (m.dispose mv delayed tested) [] := by
  unfold dispose
  split_ifs with hstatic hdelayed
  · exact Calm.refl m
  · cases hlist : m.expList with
    | none => exact absurd hlist (hexp hdelayed)
    | some list => exact ⟨id, id, rfl, rfl, List.Subset.refl _, by simp, by simp, by simp⟩
  · have hne : mv ≠ .idleMovement := by
      rintro rfl
      simp_all [isStatic]
    exact ⟨id, fun h => by simp [h, hne.symm], rfl, rfl, List.Subset.refl _, id, by simp, by simp⟩

theorem calm_callReset {tail : List Instr} (htail : tail = [] ∨ tail = [.resetDone]) (h : m.stack ≠ []) :
    Calm m (m.callReset tail).1 (m.callReset tail).2 := by
  have hne : m.stack.isEmpty = false := by simpa using h
  simp only [callReset, hne, Bool.false_eq_true, if_false]
  rcases htail with rfl | rfl
  · exact (Calm.refl m).append (by decide) (by simp [Instr.delayed])
  · exact (Calm.refl m).append (by decide) (by simp [Instr.delayed])

end MotionMaster

end TurtleWow.Movement

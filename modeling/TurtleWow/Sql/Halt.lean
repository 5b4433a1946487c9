import TurtleWow.Sql.Serial

namespace TurtleWow.Sql

open Run Finset

-- The final halt leaves no operation behind, and it comes to its end.

namespace Database

variable {n : Nat} {c : Database}

-- Where the bodies are while HaltDelayThread goes on
def Stage (n : Nat) (c : Database) : Halt → Prop
  | .none => ∀ j, c.body j ≠ .gone
  | .stopping i => i < n ∧ (∀ j, c.body j ≠ .gone) ∧ ∀ j < i, c.running j = false
  | .joining i => i < n ∧ (∀ j, c.body j ≠ .gone) ∧ (∀ j < n, c.running j = false) ∧ ∀ j < i, c.body j = .exited
  | .clearing i => i < n ∧ (∀ j < i, c.body j = .gone) ∧ (∀ j < n, i < j → c.body j = .exited) ∧
      (c.body i = .exited ∨ (∃ s, c.body i = .shared s) ∨
        (∃ s, c.body i = .serial s) ∧ (i + 1 = n → c.delayQueue = []))
  | .halted => (∀ j < n, c.body j = .gone) ∧ c.delayQueue = []

structure Phased (n : Nat) (c : Database) : Prop where
  stage : Stage n c c.halt
  drained : ∀ j, c.body j = .gone → c.serialDelayQueue j = []

theorem phased_initialized : Phased n initialized where
  stage := fun _ h => by cases h
  drained := fun _ h => by cases h

theorem Phased.addToDelayQueue (h : Phased n c) (op : SqlOperation) (hopen : c.sharedOpen n = true) :
    Phased n (c.addToDelayQueue op) := by
  refine ⟨?_, h.drained⟩
  have hstage := h.stage
  rw [sharedOpen] at hopen
  show Stage n (c.addToDelayQueue op) c.halt
  split at hopen
  · next i hhalt =>
      rw [hhalt] at hstage ⊢
      obtain ⟨hi, hgone, hexited, hbody⟩ := hstage
      refine ⟨hi, hgone, hexited, ?_⟩
      rcases hbody with hbody | hbody | ⟨⟨s, hbody⟩, -⟩
      · exact .inl hbody
      · exact .inr (.inl hbody)
      · rw [hbody] at hopen
        refine .inr (.inr ⟨⟨s, hbody⟩, fun hlast => ?_⟩)
        have hless := of_decide_eq_true hopen
        omega
  · cases hopen
  · cases hhalt : c.halt with
    | none => rw [hhalt] at hstage; exact hstage
    | stopping i => rw [hhalt] at hstage; exact hstage
    | joining i => rw [hhalt] at hstage; exact hstage
    | clearing i => next hnot _ => exact absurd hhalt (hnot i)
    | halted => next hnot => exact absurd hhalt hnot

theorem Phased.addSerialOperation (h : Phased n c) (op : SqlOperation) (i : Nat) (hopen : c.body i ≠ .gone) :
    Phased n (c.addSerialOperation i op) := by
  refine ⟨?_, fun j hgone => ?_⟩
  · have hstage := h.stage
    show Stage n (c.addSerialOperation i op) c.halt
    cases hhalt : c.halt with
    | none => rw [hhalt] at hstage; exact hstage
    | stopping i => rw [hhalt] at hstage; exact hstage
    | joining i => rw [hhalt] at hstage; exact hstage
    | clearing i => rw [hhalt] at hstage; exact hstage
    | halted => rw [hhalt] at hstage; exact hstage
  · have hj : j ≠ i := fun hsame => hopen (hsame ▸ hgone)
    show (c.setSerial i _).serialDelayQueue j = []
    rw [serial_setSerial_ne hj]
    exact h.drained j hgone

structure Apart (i : Nat) (c after : Database) : Prop where
  halt : after.halt = c.halt
  running : after.running = c.running
  submitted : after.submitted = c.submitted
  body : ∀ j, j ≠ i → after.body j = c.body j
  queue : ∀ j, j ≠ i → after.serialDelayQueue j = c.serialDelayQueue j

theorem apart_setBody (c : Database) (i : Nat) (body : Body) : Apart i c (c.setBody i body) :=
  ⟨rfl, rfl, rfl, fun _ hj => body_setBody_ne hj, fun _ _ => rfl⟩

theorem apart_processRequests (c : Database) (i : Nat) (last : Body) : Apart i c (c.processRequests i last) := by
  unfold processRequests
  split
  · split
    · exact apart_setBody c i _
    · exact ⟨rfl, rfl, rfl, fun _ hj => body_setBody_ne hj, fun _ _ => rfl⟩
  · exact ⟨rfl, rfl, rfl, fun _ hj => body_setBody_ne hj, fun _ _ => rfl⟩
  · split
    · exact apart_setBody c i _
    · exact ⟨rfl, rfl, rfl, fun _ hj => body_setBody_ne hj, fun _ hj => serial_setSerial_ne hj⟩
  · exact ⟨rfl, rfl, rfl, fun _ hj => body_setBody_ne hj, fun _ _ => rfl⟩
  · exact ⟨rfl, rfl, rfl, fun _ _ => rfl, fun _ _ => rfl⟩

theorem apart_runThread (c : Database) (i : Nat) : Apart i c (c.runThread i) := by
  unfold runThread
  split
  · split
    · exact apart_setBody c i _
    · exact apart_setBody c i _
  · exact apart_setBody c i _
  · exact apart_processRequests c i _

theorem apart_destroy (c : Database) (i : Nat) : Apart i c (c.destroy i) := by
  unfold destroy
  split
  · exact apart_setBody c i _
  · exact apart_processRequests c i _

theorem runThread_exited {i : Nat} (h : c.body i = .exited) : c.runThread i = c := by
  simp only [runThread, processRequests, h]

theorem runThread_ne_gone {i : Nat} (h : c.body i ≠ .gone) : (c.runThread i).body i ≠ .gone := by
  cases hbody : c.body i with
  | head =>
    simp only [runThread, hbody]
    split
    · rw [body_setBody_self]; decide
    · rw [body_setBody_self]; decide
  | sleeping => simp only [runThread, hbody, body_setBody_self, ne_eq, reduceCtorEq, not_false_eq_true]
  | shared executing =>
    cases executing with
    | none =>
      simp only [runThread, processRequests, hbody]
      split
      · rw [body_setBody_self]; decide
      · exact fun hgone => by cases body_setBody_self.symm.trans hgone
    | some s =>
      simp only [runThread, processRequests, hbody]
      exact fun hgone => by cases body_setBody_self.symm.trans hgone
  | serial executing =>
    cases executing with
    | none =>
      simp only [runThread, processRequests, hbody]
      split
      · rw [body_setBody_self]; decide
      · exact fun hgone => by cases body_setBody_self.symm.trans hgone
    | some s =>
      simp only [runThread, processRequests, hbody]
      exact fun hgone => by cases body_setBody_self.symm.trans hgone
  | exited =>
    rw [runThread_exited hbody, hbody]
    decide
  | gone => exact absurd hbody h

theorem Phased.runThread (h : Phased n c) (i : Nat) (hended : c.ended = false) : Phased n (c.runThread i) := by
  have hstage := h.stage
  have hapart := apart_runThread c i
  have hgone : (∀ j, c.body j ≠ .gone) → ∀ j, (c.runThread i).body j ≠ .gone := by
    intro hbodies j
    by_cases hj : j = i
    · rw [hj]; exact runThread_ne_gone (hbodies i)
    · rw [hapart.body j hj]; exact hbodies j
  have hbodies : ∀ j, c.body j ≠ .gone := by
    cases hhalt : c.halt with
    | none => rw [hhalt] at hstage; exact hstage
    | stopping k => rw [hhalt] at hstage; exact hstage.2.1
    | joining k => rw [hhalt] at hstage; exact hstage.2.1
    | clearing k => rw [ended, hhalt] at hended; cases hended
    | halted => rw [ended, hhalt] at hended; cases hended
  refine ⟨?_, fun j hj => absurd hj (hgone hbodies j)⟩
  rw [hapart.halt]
  cases hhalt : c.halt with
  | none => exact hgone hbodies
  | stopping k =>
    rw [hhalt] at hstage
    exact ⟨hstage.1, hgone hbodies, fun j hj => hapart.running ▸ hstage.2.2 j hj⟩
  | joining k =>
    rw [hhalt] at hstage
    obtain ⟨hk, -, hrunning, hexited⟩ := hstage
    refine ⟨hk, hgone hbodies, fun j hj => hapart.running ▸ hrunning j hj, fun j hj => ?_⟩
    by_cases hji : j = i
    · rw [← hji, runThread_exited (hexited j hj)]
      exact hexited j hj
    · rw [hapart.body j hji]
      exact hexited j hj
  | clearing k => rw [ended, hhalt] at hended; cases hended
  | halted => rw [ended, hhalt] at hended; cases hended

-- The destructor of the body goes through both queues once more.
def Destroyed (n : Nat) (i : Nat) (c : Database) : Prop :=
  (∃ s, c.body i = .shared s) ∨ (∃ s, c.body i = .serial s) ∧ (i + 1 = n → c.delayQueue = []) ∨
    c.body i = .gone ∧ c.serialDelayQueue i = [] ∧ (i + 1 = n → c.delayQueue = [])

theorem destroyed_destroy {i : Nat} (h : c.body i = .exited ∨ (∃ s, c.body i = .shared s) ∨
    (∃ s, c.body i = .serial s) ∧ (i + 1 = n → c.delayQueue = [])) : Destroyed n i (c.destroy i) := by
  rcases h with hbody | ⟨executing, hbody⟩ | ⟨⟨executing, hbody⟩, hempty⟩
  · simp only [destroy, hbody]
    exact .inl ⟨none, body_setBody_self⟩
  · cases executing with
    | none =>
      simp only [destroy, processRequests, hbody]
      split
      · next hqueue => exact .inr (.inl ⟨⟨none, body_setBody_self⟩, fun _ => hqueue⟩)
      · next s rest hqueue => exact .inl ⟨some s, body_setBody_self⟩
    | some s =>
      simp only [destroy, processRequests, hbody]
      exact .inl ⟨none, body_setBody_self⟩
  · cases executing with
    | none =>
      simp only [destroy, processRequests, hbody]
      split
      · next hqueue => exact .inr (.inr ⟨body_setBody_self, hqueue, hempty⟩)
      · next s rest hqueue => exact .inr (.inl ⟨⟨some s, body_setBody_self⟩, hempty⟩)
    | some s =>
      simp only [destroy, processRequests, hbody]
      exact .inr (.inl ⟨⟨none, body_setBody_self⟩, hempty⟩)

theorem next_cases (i : Nat) (more done : Halt) :
    i + 1 < n ∧ next n i more done = more ∨ n ≤ i + 1 ∧ next n i more done = done := by
  rw [next]
  split
  · next hless => exact .inl ⟨hless, rfl⟩
  · next hless => exact .inr ⟨Nat.le_of_not_lt hless, rfl⟩

theorem Phased.clearing (h : Phased n c) {i : Nat} (hhalt : c.halt = .clearing i) :
    Phased n (c.haltDelayThread n) := by
  have hstage := h.stage
  rw [hhalt] at hstage
  obtain ⟨hi, hgone, hexited, hbody⟩ := hstage
  have hapart := apart_destroy c i
  have hgone' : ∀ j < i, (c.destroy i).body j = .gone :=
    fun j hj => (hapart.body j (Nat.ne_of_lt hj)).trans (hgone j hj)
  have hexited' : ∀ j < n, i < j → (c.destroy i).body j = .exited :=
    fun j hj hij => (hapart.body j (Nat.ne_of_gt hij)).trans (hexited j hj hij)
  have hdestroyed := destroyed_destroy hbody
  have hdrained : ∀ j, (c.destroy i).body j = .gone → (c.destroy i).serialDelayQueue j = [] := by
    intro j hj
    by_cases hji : j = i
    · subst hji
      rcases hdestroyed with ⟨s, hs⟩ | ⟨⟨s, hs⟩, -⟩ | ⟨-, hqueue, -⟩
      · rw [hs] at hj; cases hj
      · rw [hs] at hj; cases hj
      · exact hqueue
    · rw [hapart.queue j hji]
      exact h.drained j ((hapart.body j hji).symm.trans hj)
  simp only [haltDelayThread, hhalt]
  split
  · next hover =>
      have hempty : i + 1 = n → (c.destroy i).delayQueue = [] := by
        rcases hdestroyed with ⟨s, hs⟩ | ⟨⟨s, hs⟩, -⟩ | ⟨-, -, hempty⟩
        · rw [hs] at hover; cases hover
        · rw [hs] at hover; cases hover
        · exact hempty
      have hupto : ∀ j < i + 1, (c.destroy i).body j = .gone := by
        intro j hj
        rcases Nat.lt_succ_iff_lt_or_eq.mp hj with hless | rfl
        · exact hgone' j hless
        · exact hover
      refine ⟨?_, hdrained⟩
      rcases next_cases i (.clearing (i + 1)) .halted with ⟨hless, heq⟩ | ⟨hle, heq⟩
      · rw [heq]
        exact ⟨hless, hupto, fun j hj hij => hexited' j hj (Nat.lt_of_succ_lt hij),
          .inl (hexited' (i + 1) hless (Nat.lt_succ_self i))⟩
      · rw [heq]
        exact ⟨fun j hj => hupto j (by omega), hempty (by omega)⟩
  · next hover =>
      refine ⟨?_, hdrained⟩
      rw [hapart.halt, hhalt]
      refine ⟨hi, hgone', hexited', ?_⟩
      rcases hdestroyed with hshared | hserial | ⟨hdone, -⟩
      · exact .inr (.inl hshared)
      · exact .inr (.inr hserial)
      · exact absurd hdone hover

theorem Phased.haltDelayThread (hn : 1 ≤ n) (h : Phased n c) : Phased n (c.haltDelayThread n) := by
  have hstage := h.stage
  cases hhalt : c.halt with
  | none =>
    rw [hhalt] at hstage
    simp only [Database.haltDelayThread, hhalt]
    rw [if_neg (by omega)]
    exact ⟨⟨hn, hstage, fun j hj => absurd hj (Nat.not_lt_zero j)⟩, h.drained⟩
  | stopping i =>
    rw [hhalt] at hstage
    obtain ⟨hi, hbodies, hrunning⟩ := hstage
    simp only [Database.haltDelayThread, hhalt]
    have hupto : ∀ j < i + 1, (if j = i then false else c.running j) = false := by
      intro j hj
      split
      · rfl
      · exact hrunning j (by omega)
    refine ⟨?_, h.drained⟩
    rcases next_cases i (.stopping (i + 1)) (.joining 0) with ⟨hless, heq⟩ | ⟨hle, heq⟩
    · rw [heq]
      exact ⟨hless, hbodies, hupto⟩
    · rw [heq]
      exact ⟨hn, hbodies, fun j hj => hupto j (by omega), fun j hj => absurd hj (Nat.not_lt_zero j)⟩
  | joining i =>
    rw [hhalt] at hstage
    obtain ⟨hi, hbodies, hrunning, hexited⟩ := hstage
    simp only [Database.haltDelayThread, hhalt]
    split
    · next hover =>
        have hupto : ∀ j < i + 1, c.body j = .exited := by
          intro j hj
          rcases Nat.lt_succ_iff_lt_or_eq.mp hj with hless | rfl
          · exact hexited j hless
          · exact hover
        refine ⟨?_, h.drained⟩
        rcases next_cases i (.joining (i + 1)) (.clearing 0) with ⟨hless, heq⟩ | ⟨hle, heq⟩
        · rw [heq]
          exact ⟨hless, hbodies, hrunning, hupto⟩
        · rw [heq]
          exact ⟨hn, fun j hj => absurd hj (Nat.not_lt_zero j), fun j hj _ => hupto j (by omega),
            .inl (hupto 0 (by omega))⟩
    · exact h
  | clearing i => exact h.clearing hhalt
  | halted =>
    simp only [Database.haltDelayThread, hhalt]
    exact h

theorem Phased.submit (h : Phased n c) (op : SqlOperation) (htakes : c.takes n op = true) :
    Phased n (c.addToSerialDelayQueue n op) := by
  rw [takes] at htakes
  rw [addToSerialDelayQueue]
  split
  · next hshared =>
      rw [if_pos hshared] at htakes
      exact h.addToDelayQueue op htakes
  · next hserial =>
      rw [if_neg hserial] at htakes
      exact h.addSerialOperation op _ (of_decide_eq_true htakes)

theorem Phased.step (hn : 1 ≤ n) (h : Phased n c) (action : Step) : Phased n (c.step n action) := by
  cases action with
  | execute id =>
    rw [Database.step]
    split
    · next htakes =>
        have hsubmit := h.submit ⟨id, 0⟩ htakes
        rw [addToSerialDelayQueue, if_pos (.inl rfl)] at hsubmit
        exact hsubmit
    · exact h
  | commitTransaction transaction =>
    rw [Database.step]
    split
    · next htakes =>
        have hsubmit := h.submit transaction htakes
        rw [commitTransaction]
        split
        · exact hsubmit
        · next hzero =>
            rw [addToSerialDelayQueue, if_pos (.inl (Nat.eq_zero_of_not_pos hzero))] at hsubmit
            exact hsubmit
    · exact h
  | delayQueryHolder holder =>
    rw [Database.step]
    split
    · next htakes => exact h.submit holder htakes
    · exact h
  | thread i =>
    rw [Database.step]
    split
    · exact h
    · next hended =>
        rw [Bool.or_eq_true, not_or, Bool.not_eq_true] at hended
        exact h.runThread i hended.1
  | haltDelayThread => exact h.haltDelayThread hn

end Database

end TurtleWow.Sql

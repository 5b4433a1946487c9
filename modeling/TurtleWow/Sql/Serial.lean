import Mathlib.Algebra.Order.BigOperators.Group.Finset
import TurtleWow.Sql.Once

namespace TurtleWow.Sql

open Run Finset

-- The operations of one serial id go through one queue and one body, so that
-- they are executed in the order of their submissions.

namespace Database

variable {n : Nat} {c after : Database} {s : Submission} {i : Nat}

theorem Counted.mem_of_delay (h : Counted n c) (hs : s ∈ c.delayQueue) : s ∈ c.submitted := by
  have hcounts := h.counts s
  have hpos := List.count_pos_iff.mpr hs
  exact List.count_pos_iff.mp (by omega)

theorem Counted.mem_of_load (h : Counted n c) (hi : i < n) (hs : 0 < c.load s i) : s ∈ c.submitted := by
  have hcounts := h.counts s
  have hle : c.load s i ≤ ∑ j ∈ range n, c.load s j :=
    single_le_sum (fun _ _ => Nat.zero_le _) (mem_range.mpr hi)
  exact List.count_pos_iff.mp (by omega)

theorem Counted.place (h : Counted n c) (hs : s ∈ c.submitted) :
    .finished s ∈ c.log ∨ s ∈ c.delayQueue ∨ ∃ i < n, s ∈ held (c.body i) ∨ s ∈ c.serialDelayQueue i := by
  by_contra hnot
  simp only [not_or, not_exists, not_and] at hnot
  obtain ⟨hlog, hdelay, hrest⟩ := hnot
  have hcounts := h.counts s
  have hpos := List.count_pos_iff.mpr hs
  have hzero : ∀ i ∈ range n, c.load s i = 0 := by
    intro i hi
    obtain ⟨hheld, hqueue⟩ := hrest i (mem_range.mp hi)
    rw [load, List.count_eq_zero.mpr hheld, List.count_eq_zero.mpr hqueue]
  rw [List.count_eq_zero.mpr hlog, List.count_eq_zero.mpr hdelay, sum_eq_zero hzero] at hcounts
  omega

def Lane (n : Nat) (s : Submission) (i : Nat) : Prop := s.op.serialId ≠ 0 ∧ s.op.serialId % n = i

structure Lanes (n : Nat) (c : Database) : Prop where
  delay : ∀ s ∈ c.delayQueue, s.op.serialId = 0
  serial : ∀ i, ∀ s ∈ c.serialDelayQueue i, Lane n s i
  sharedHeld : ∀ i s, c.body i = .shared (some s) → s.op.serialId = 0
  serialHeld : ∀ i s, c.body i = .serial (some s) → Lane n s i
  sorted : ∀ i, (c.serialDelayQueue i).Pairwise (·.seq < ·.seq)
  started : ∀ s, .started s ∈ c.log → s ∈ c.submitted

-- An operation is started when those of its serial id that were submitted
-- before it have been executed.
def Ordered (c : Database) : Prop :=
  ∀ first ∈ c.submitted, ∀ second, first.op.serialId = second.op.serialId → first.op.serialId ≠ 0 →
    first.seq < second.seq → ∀ before rest, c.log = before ++ .started second :: rest → .finished first ∈ before

theorem lanes_initialized : Lanes n initialized where
  delay := fun _ h => absurd h List.not_mem_nil
  serial := fun _ _ h => absurd h List.not_mem_nil
  sharedHeld := fun _ _ h => by cases h
  serialHeld := fun _ _ h => by cases h
  sorted := fun _ => List.Pairwise.nil
  started := fun _ h => absurd h List.not_mem_nil

theorem ordered_initialized : Ordered initialized := fun _ h => absurd h List.not_mem_nil

theorem Lanes.setBody (h : Lanes n c) {body : Body} (hshared : ∀ s, body = .shared (some s) → s.op.serialId = 0)
    (hserial : ∀ s, body = .serial (some s) → Lane n s i) : Lanes n (c.setBody i body) := by
  refine ⟨h.delay, h.serial, fun j s hbody => ?_, fun j s hbody => ?_, h.sorted, h.started⟩
  · by_cases hj : j = i
    · subst hj
      rw [body_setBody_self] at hbody
      exact hshared s hbody
    · rw [body_setBody_ne hj] at hbody
      exact h.sharedHeld j s hbody
  · by_cases hj : j = i
    · subst hj
      rw [body_setBody_self] at hbody
      exact hserial s hbody
    · rw [body_setBody_ne hj] at hbody
      exact h.serialHeld j s hbody

theorem Lanes.setBody_of_held (h : Lanes n c) {body : Body} (hheld : held body = []) : Lanes n (c.setBody i body) := by
  refine h.setBody (fun s hbody => ?_) fun s hbody => ?_
  · rw [hbody] at hheld
    cases hheld
  · rw [hbody] at hheld
    cases hheld

theorem Lanes.record (h : Lanes n c) {r : Record} (hr : ∀ s, r = .started s → s ∈ c.submitted) :
    Lanes n (c.record r) := by
  refine ⟨h.delay, h.serial, h.sharedHeld, h.serialHeld, h.sorted, fun s hs => ?_⟩
  rcases List.mem_append.mp hs with hold | hnew
  · exact h.started s hold
  · exact hr s (List.mem_singleton.mp hnew).symm

theorem Lanes.move (hn : 1 ≤ n) (h : Lanes n c) (hcounted : Counted n c) (hmove : Move n c after) : Lanes n after := by
  cases hmove with
  | still => exact h
  | quiet i body hbefore hafter => exact h.setBody_of_held hafter
  | takeShared i s rest hi hbody hqueue =>
    have hs : s ∈ c.delayQueue := hqueue ▸ List.mem_cons_self
    have hset : Lanes n (c.setBody i (.shared (some s))) :=
      h.setBody (fun other heq => by cases heq; exact h.delay s hs) fun _ heq => by cases heq
    have hrest : Lanes n { c.setBody i (.shared (some s)) with delayQueue := rest } :=
      ⟨fun other hother => h.delay other (hqueue ▸ List.mem_cons_of_mem s hother), hset.serial, hset.sharedHeld,
        hset.serialHeld, hset.sorted, hset.started⟩
    exact hrest.record fun other heq => by cases heq; exact hcounted.mem_of_delay hs
  | takeSerial i s rest hi hbody hqueue =>
    have hs : s ∈ c.serialDelayQueue i := hqueue ▸ List.mem_cons_self
    have hset : Lanes n (c.setBody i (.serial (some s))) :=
      h.setBody (fun _ heq => by cases heq) fun other heq => by cases heq; exact h.serial i s hs
    have hrest : Lanes n ((c.setBody i (.serial (some s))).setSerial i rest) := by
      refine ⟨hset.delay, fun j other hother => ?_, hset.sharedHeld, hset.serialHeld, fun j => ?_, hset.started⟩
      · by_cases hj : j = i
        · subst hj
          rw [serial_setSerial_self] at hother
          exact h.serial j other (hqueue ▸ List.mem_cons_of_mem s hother)
        · rw [serial_setSerial_ne hj] at hother
          exact h.serial j other hother
      · by_cases hj : j = i
        · subst hj
          rw [serial_setSerial_self]
          have hsorted := h.sorted j
          rw [hqueue] at hsorted
          exact (List.pairwise_cons.mp hsorted).2
        · rw [serial_setSerial_ne hj]
          exact h.sorted j
    refine hrest.record fun other heq => ?_
    cases heq
    refine hcounted.mem_of_load hi ?_
    have hpos := List.count_pos_iff.mpr hs
    rw [load]
    omega
  | finish i s body hi hbefore hafter =>
    exact (h.setBody_of_held hafter).record fun _ heq => by cases heq
  | addShared op hserial =>
    refine ⟨fun s hs => ?_, h.serial, h.sharedHeld, h.serialHeld, h.sorted,
      fun s hs => List.mem_append_left _ (h.started s hs)⟩
    rcases List.mem_append.mp hs with hold | hnew
    · exact h.delay s hold
    · rw [List.mem_singleton.mp hnew]
      exact hserial
  | addSerial op hserial =>
    refine ⟨h.delay, fun j s hs => ?_, h.sharedHeld, h.serialHeld, fun j => ?_,
      fun s hs => List.mem_append_left _ (h.started s hs)⟩
    · by_cases hj : j = op.serialId % n
      · subst hj
        have hs' : s ∈ (c.setSerial (op.serialId % n)
            (c.serialDelayQueue (op.serialId % n) ++ [c.submission op])).serialDelayQueue (op.serialId % n) := hs
        rw [serial_setSerial_self] at hs'
        rcases List.mem_append.mp hs' with hold | hnew
        · exact h.serial _ s hold
        · rw [List.mem_singleton.mp hnew]
          exact ⟨hserial, rfl⟩
      · have hs' : s ∈ (c.setSerial (op.serialId % n)
            (c.serialDelayQueue (op.serialId % n) ++ [c.submission op])).serialDelayQueue j := hs
        rw [serial_setSerial_ne hj] at hs'
        exact h.serial j s hs'
    · by_cases hj : j = op.serialId % n
      · subst hj
        show ((c.setSerial (op.serialId % n) _).serialDelayQueue (op.serialId % n)).Pairwise _
        rw [serial_setSerial_self]
        refine List.pairwise_append.mpr ⟨h.sorted _, List.pairwise_singleton _ _, fun s hs other hother => ?_⟩
        rw [List.mem_singleton.mp hother]
        refine hcounted.seqs s (hcounted.mem_of_load (i := op.serialId % n) (Nat.mod_lt _ hn) ?_)
        have hpos := List.count_pos_iff.mpr hs
        rw [load]
        omega
      · show ((c.setSerial (op.serialId % n) _).serialDelayQueue j).Pairwise _
        rw [serial_setSerial_ne hj]
        exact h.sorted j
  | control halt running => exact ⟨h.delay, h.serial, h.sharedHeld, h.serialHeld, h.sorted, h.started⟩

theorem append_singleton_eq {log before rest : List Record} {r last : Record}
    (h : log ++ [last] = before ++ r :: rest) :
    log = before ∧ last = r ∨ ∃ shorter, log = before ++ r :: shorter := by
  rcases List.eq_nil_or_concat rest with rfl | ⟨shorter, other, rfl⟩
  · exact .inl ⟨List.append_inj_left' h rfl, List.singleton_inj.mp (List.append_inj_right' h rfl)⟩
  · refine .inr ⟨shorter, ?_⟩
    rw [List.concat_eq_append, ← List.cons_append, ← List.append_assoc] at h
    exact List.append_inj_left' h rfl

theorem Ordered.congr (h : Ordered c) (hsubmitted : after.submitted = c.submitted) (hlog : after.log = c.log) :
    Ordered after := by
  unfold Ordered
  rw [hsubmitted, hlog]
  exact h

theorem Ordered.record (h : Ordered c) {r : Record}
    (hr : ∀ second, r = .started second → ∀ first ∈ c.submitted, first.op.serialId = second.op.serialId →
      first.op.serialId ≠ 0 → first.seq < second.seq → .finished first ∈ c.log) : Ordered (c.record r) := by
  intro first hfirst second hserial hzero hseq before rest hlog
  rcases append_singleton_eq hlog with ⟨rfl, hr'⟩ | ⟨shorter, hold⟩
  · exact hr second hr' first hfirst hserial hzero hseq
  · exact h first hfirst second hserial hzero hseq before shorter hold

theorem Ordered.submit (h : Ordered c) (hlanes : Lanes n c) (hcounted : Counted n c) (op : SqlOperation)
    (hsubmitted : after.submitted = c.submitted ++ [c.submission op]) (hlog : after.log = c.log) : Ordered after := by
  intro first hfirst second hserial hzero hseq before rest hsplit
  rw [hlog] at hsplit
  rw [hsubmitted] at hfirst
  rcases List.mem_append.mp hfirst with hold | hnew
  · exact h first hold second hserial hzero hseq before rest hsplit
  · rw [List.mem_singleton.mp hnew] at hseq
    have hstarted : .started second ∈ c.log := hsplit ▸ List.mem_append_right before List.mem_cons_self
    have hless := hcounted.seqs second (hlanes.started second hstarted)
    exact absurd hseq (Nat.lt_asymm hless)

theorem Ordered.move (h : Ordered c) (hlanes : Lanes n c) (hcounted : Counted n c) (hmove : Move n c after) :
    Ordered after := by
  cases hmove with
  | still => exact h
  | quiet i body hbefore hafter => exact h.congr rfl rfl
  | takeShared i s rest hi hbody hqueue =>
    have hzero := hlanes.delay s (hqueue ▸ List.mem_cons_self)
    refine Ordered.record (h.congr rfl rfl) fun second heq first hfirst hserial hne _ => ?_
    cases heq
    exact absurd (hserial.trans hzero) hne
  | takeSerial i s rest hi hbody hqueue =>
    have hlane := hlanes.serial i s (hqueue ▸ List.mem_cons_self)
    refine Ordered.record (h.congr rfl rfl) fun second heq first hfirst hserial hne hseq => ?_
    cases heq
    -- the first is in no queue and held by no body
    rcases hcounted.place hfirst with hfinished | hdelay | ⟨j, -, hheld | hqueued⟩
    · exact hfinished
    · exact absurd (hlanes.delay first hdelay) hne
    · have hlane' : Lane n first j := by
        cases hj : c.body j with
        | shared executing =>
          cases executing with
          | none => rw [hj] at hheld; exact absurd hheld List.not_mem_nil
          | some other =>
            rw [hj] at hheld
            rw [List.mem_singleton.mp hheld] at hne
            exact absurd (hlanes.sharedHeld j other hj) hne
        | serial executing =>
          cases executing with
          | none => rw [hj] at hheld; exact absurd hheld List.not_mem_nil
          | some other =>
            rw [hj] at hheld
            rw [List.mem_singleton.mp hheld]
            exact hlanes.serialHeld j other hj
        | head => rw [hj] at hheld; exact absurd hheld List.not_mem_nil
        | sleeping => rw [hj] at hheld; exact absurd hheld List.not_mem_nil
        | exited => rw [hj] at hheld; exact absurd hheld List.not_mem_nil
        | gone => rw [hj] at hheld; exact absurd hheld List.not_mem_nil
      have hji : j = i := by rw [← hlane'.2, hserial, hlane.2]
      rw [hji, hbody] at hheld
      cases hheld
    · have hlane' := hlanes.serial j first hqueued
      have hji : j = i := by rw [← hlane'.2, hserial, hlane.2]
      rw [hji, hqueue] at hqueued
      have hsorted := hlanes.sorted i
      rw [hqueue] at hsorted
      rcases List.mem_cons.mp hqueued with rfl | hrest
      · exact absurd hseq (Nat.lt_irrefl _)
      · exact absurd ((List.pairwise_cons.mp hsorted).1 first hrest) (Nat.lt_asymm hseq)
  | finish i s body hi hbefore hafter =>
    exact Ordered.record (h.congr rfl rfl) fun _ heq => by cases heq
  | addShared op hserial => exact h.submit hlanes hcounted op rfl rfl
  | addSerial op hserial => exact h.submit hlanes hcounted op rfl rfl
  | control halt running => exact h.congr rfl rfl

end Database

end TurtleWow.Sql

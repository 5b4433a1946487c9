import Mathlib.Algebra.BigOperators.Group.Finset.Basic
import TurtleWow.Sql.DelayThread

namespace TurtleWow.Sql

open Run Finset

-- Every submission is in a queue, held by a body, or executed, in one of these
-- only, and its serial id tells the queue.

namespace Database

variable {n : Nat} {c after : Database}

def load (c : Database) (s : Submission) (i : Nat) : Nat :=
  (held (c.body i)).count s + (c.serialDelayQueue i).count s

structure Counted (n : Nat) (c : Database) : Prop where
  counts : ∀ s, c.submitted.count s =
    c.log.count (.finished s) + c.delayQueue.count s + ∑ i ∈ range n, c.load s i
  seqs : ∀ s ∈ c.submitted, s.seq < c.submitted.length
  once : c.submitted.Nodup

theorem counted_initialized : Counted n initialized where
  counts := fun s => by
    have hzero : ∀ i ∈ range n, initialized.load s i = 0 := fun i _ => rfl
    rw [sum_eq_zero hzero]
    rfl
  seqs := fun s h => absurd h List.not_mem_nil
  once := List.nodup_nil

variable {i : Nat}

theorem sum_change {f g : Nat → Nat} (hi : i < n) (h : ∀ j, j ≠ i → g j = f j) :
    ∑ j ∈ range n, g j + f i = ∑ j ∈ range n, f j + g i := by
  have hmem : i ∈ range n := mem_range.mpr hi
  have hg : g i + ∑ j ∈ (range n).erase i, g j = ∑ j ∈ range n, g j := add_sum_erase (range n) g hmem
  have hf : f i + ∑ j ∈ (range n).erase i, f j = ∑ j ∈ range n, f j := add_sum_erase (range n) f hmem
  have hrest : ∑ j ∈ (range n).erase i, g j = ∑ j ∈ (range n).erase i, f j :=
    sum_congr rfl fun j hj => h j (ne_of_mem_erase hj)
  omega

theorem submission_fresh (h : Counted n c) (op : SqlOperation) : c.submission op ∉ c.submitted :=
  fun hmem => Nat.lt_irrefl _ (h.seqs _ hmem)

theorem body_setBody_ne {j : Nat} {body : Body} (h : j ≠ i) : (c.setBody i body).body j = c.body j := if_neg h

theorem body_setBody_self {body : Body} : (c.setBody i body).body i = body := if_pos rfl

theorem serial_setSerial_ne {j : Nat} {queue : List Submission} (h : j ≠ i) :
    (c.setSerial i queue).serialDelayQueue j = c.serialDelayQueue j := if_neg h

theorem serial_setSerial_self {queue : List Submission} :
    (c.setSerial i queue).serialDelayQueue i = queue := if_pos rfl

private theorem count_log (s : Submission) (r : Record) :
    (c.record r).log.count (.finished s) = c.log.count (.finished s) + [r].count (.finished s) :=
  List.count_append

private theorem count_started (s other : Submission) : [Record.started s].count (.finished other) = 0 := by
  rw [List.count_singleton, if_neg (by simp)]

private theorem count_finished (s other : Submission) : [Record.finished s].count (.finished other) = [s].count other := by
  rw [List.count_singleton, List.count_singleton]
  simp only [beq_iff_eq, Record.finished.injEq]

theorem Counted.submit (h : Counted n c) (op : SqlOperation) {after : Database}
    (hsubmitted : after.submitted = c.submitted ++ [c.submission op]) (hlog : after.log = c.log)
    (hcounts : ∀ s, after.delayQueue.count s + ∑ i ∈ range n, after.load s i =
      c.delayQueue.count s + ∑ i ∈ range n, c.load s i + [c.submission op].count s) : Counted n after := by
  refine ⟨fun s => ?_, fun s hs => ?_, ?_⟩
  · have hold := h.counts s
    have hnew := hcounts s
    rw [hsubmitted, hlog, List.count_append]
    omega
  · rw [hsubmitted, List.length_append]
    rw [hsubmitted] at hs
    rcases List.mem_append.mp hs with hold | hnew
    · exact Nat.lt_succ_of_lt (h.seqs s hold)
    · rw [List.mem_singleton.mp hnew]
      exact Nat.lt_succ_self _
  · rw [hsubmitted]
    refine List.nodup_append.mpr ⟨h.once, List.nodup_singleton _, fun s hs other hother heq => ?_⟩
    rw [List.mem_singleton.mp hother] at heq
    exact submission_fresh h op (heq ▸ hs)

theorem Counted.move (hn : 1 ≤ n) (h : Counted n c) (hmove : Move n c after) : Counted n after := by
  cases hmove with
  | still => exact h
  | quiet i body hbefore hafter =>
    refine ⟨fun s => (h.counts s).trans ?_, h.seqs, h.once⟩
    have hload : ∀ j, (c.setBody i body).load s j = c.load s j := by
      intro j
      by_cases hj : j = i
      · subst hj
        rw [load, load, body_setBody_self, hbefore, hafter]
        rfl
      · rw [load, load, body_setBody_ne hj]
        rfl
    rw [sum_congr rfl fun j _ => hload j]
    rfl
  | takeShared i s rest hi hbody hqueue =>
    refine ⟨fun other => (h.counts other).trans ?_, h.seqs, h.once⟩
    have hsum := sum_change (f := c.load other) (g := (c.setBody i (.shared (some s))).load other) hi
      fun j hj => by rw [load, load, body_setBody_ne hj]; rfl
    have hold : c.load other i = (c.serialDelayQueue i).count other := by
      rw [load, hbody]
      exact Nat.zero_add _
    have hnew : (c.setBody i (.shared (some s))).load other i =
        [s].count other + (c.serialDelayQueue i).count other := by
      rw [load, body_setBody_self]
      rfl
    have hcons : c.delayQueue.count other = [s].count other + rest.count other := by
      rw [hqueue, ← List.singleton_append, List.count_append]
    have hlog := count_log (c := { c.setBody i (.shared (some s)) with delayQueue := rest }) other (.started s)
    rw [count_started] at hlog
    rw [hlog, hcons]
    show c.log.count _ + _ + _ = c.log.count _ + 0 + rest.count other +
      ∑ j ∈ range n, (c.setBody i (.shared (some s))).load other j
    omega
  | takeSerial i s rest hi hbody hqueue =>
    refine ⟨fun other => (h.counts other).trans ?_, h.seqs, h.once⟩
    have hsum := sum_change (f := c.load other)
      (g := ((c.setBody i (.serial (some s))).setSerial i rest).load other) hi
      fun j hj => by
        rw [load, serial_setSerial_ne hj]
        show (held ((c.setBody i (.serial (some s))).body j)).count other + (c.serialDelayQueue j).count other = _
        rw [body_setBody_ne hj, load]
    have hold : c.load other i = [s].count other + rest.count other := by
      rw [load, hbody, hqueue, ← List.singleton_append, List.count_append]
      exact Nat.zero_add _
    have hnew : ((c.setBody i (.serial (some s))).setSerial i rest).load other i =
        [s].count other + rest.count other := by
      rw [load, serial_setSerial_self]
      show (held ((c.setBody i (.serial (some s))).body i)).count other + rest.count other = _
      rw [body_setBody_self]
      rfl
    have hlog := count_log (c := (c.setBody i (.serial (some s))).setSerial i rest) other (.started s)
    rw [count_started] at hlog
    rw [hlog]
    show c.log.count _ + _ + _ = c.log.count _ + 0 + c.delayQueue.count other +
      ∑ j ∈ range n, ((c.setBody i (.serial (some s))).setSerial i rest).load other j
    omega
  | finish i s body hi hbefore hafter =>
    refine ⟨fun other => (h.counts other).trans ?_, h.seqs, h.once⟩
    have hsum := sum_change (f := c.load other) (g := (c.setBody i body).load other) hi
      fun j hj => by rw [load, load, body_setBody_ne hj]; rfl
    have hold : c.load other i = [s].count other + (c.serialDelayQueue i).count other := by
      rw [load, hbefore]
    have hnew : (c.setBody i body).load other i = (c.serialDelayQueue i).count other := by
      rw [load, body_setBody_self, hafter]
      exact Nat.zero_add _
    have hlog := count_log (c := c.setBody i body) other (.finished s)
    rw [count_finished] at hlog
    rw [hlog]
    show c.log.count _ + _ + _ = c.log.count _ + [s].count other + c.delayQueue.count other +
      ∑ j ∈ range n, (c.setBody i body).load other j
    omega
  | addShared op hserial =>
    refine h.submit op rfl rfl fun s => ?_
    show (c.delayQueue ++ [c.submission op]).count s + ∑ i ∈ range n, c.load s i = _
    rw [List.count_append]
    omega
  | addSerial op hserial =>
    refine h.submit op rfl rfl fun s => ?_
    have hi : op.serialId % n < n := Nat.mod_lt _ hn
    have hsum := sum_change (f := c.load s)
      (g := (c.setSerial (op.serialId % n) (c.serialDelayQueue (op.serialId % n) ++ [c.submission op])).load s) hi
      fun j hj => by rw [load, load, serial_setSerial_ne hj]; rfl
    have hnew : (c.setSerial (op.serialId % n)
        (c.serialDelayQueue (op.serialId % n) ++ [c.submission op])).load s (op.serialId % n) =
          c.load s (op.serialId % n) + [c.submission op].count s := by
      rw [load, serial_setSerial_self, List.count_append, load, Nat.add_assoc]
      rfl
    show c.delayQueue.count s + ∑ i ∈ range n,
      (c.setSerial (op.serialId % n) (c.serialDelayQueue (op.serialId % n) ++ [c.submission op])).load s i = _
    omega
  | control halt running => exact ⟨h.counts, h.seqs, h.once⟩

def Begun (n : Nat) (c : Database) : Prop :=
  ∀ s, c.log.count (.started s) = c.log.count (.finished s) + ∑ i ∈ range n, (held (c.body i)).count s

theorem begun_initialized : Begun n initialized := by
  intro s
  have hzero : ∀ i ∈ range n, (held (initialized.body i)).count s = 0 := fun i _ => rfl
  rw [sum_eq_zero hzero]
  rfl

theorem Begun.setBody (hi : i < n) (body : Body) (s : Submission) :
    ∑ j ∈ range n, (held ((c.setBody i body).body j)).count s + (held (c.body i)).count s =
      ∑ j ∈ range n, (held (c.body j)).count s + (held body).count s := by
  have hsum := sum_change (f := fun j => (held (c.body j)).count s)
    (g := fun j => (held ((c.setBody i body).body j)).count s) hi fun j hj => by rw [body_setBody_ne hj]
  rw [body_setBody_self] at hsum
  exact hsum

private theorem count_log_started (s : Submission) (r : Record) :
    (c.record r).log.count (.started s) = c.log.count (.started s) + [r].count (.started s) :=
  List.count_append

private theorem count_started_self (s other : Submission) : [Record.started s].count (.started other) = [s].count other := by
  rw [List.count_singleton, List.count_singleton]
  simp only [beq_iff_eq, Record.started.injEq]

private theorem count_finished_other (s other : Submission) : [Record.finished s].count (.started other) = 0 := by
  rw [List.count_singleton, if_neg (by simp)]

theorem Begun.start (h : Begun n c) (hi : i < n) {s : Submission} {body : Body}
    (hbefore : held (c.body i) = []) (hafter : held body = [s]) {after : Database}
    (hbody : after.body = (c.setBody i body).body) (hlog : after.log = c.log ++ [.started s]) : Begun n after := by
  intro other
  have hold := h other
  have hsum := Begun.setBody (c := c) hi body other
  rw [hbefore, hafter, List.count_nil] at hsum
  rw [hbody, hlog, List.count_append, List.count_append, count_started_self, count_started]
  omega

theorem Begun.move (h : Begun n c) (hmove : Move n c after) : Begun n after := by
  cases hmove with
  | still => exact h
  | quiet i body hbefore hafter =>
    intro s
    have hsame : ∀ j ∈ range n, (held ((c.setBody i body).body j)).count s = (held (c.body j)).count s := by
      intro j _
      by_cases hj : j = i
      · rw [hj, body_setBody_self, hbefore, hafter]
      · rw [body_setBody_ne hj]
    rw [sum_congr rfl hsame]
    exact h s
  | takeShared i s rest hi hbody hqueue => exact h.start hi (by rw [hbody]; rfl) rfl rfl rfl
  | takeSerial i s rest hi hbody hqueue => exact h.start hi (by rw [hbody]; rfl) rfl rfl rfl
  | finish i s body hi hbefore hafter =>
    intro other
    have hold := h other
    have hsum := Begun.setBody (c := c) hi body other
    rw [hbefore, hafter, List.count_nil] at hsum
    rw [count_log_started, count_log, count_finished, count_finished_other]
    show c.log.count _ + 0 = c.log.count _ + [s].count other +
      ∑ j ∈ range n, (held ((c.setBody i body).body j)).count other
    omega
  | addShared op hserial => exact h
  | addSerial op hserial => exact h
  | control halt running => exact h

end Database

end TurtleWow.Sql

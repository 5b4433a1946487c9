import TurtleWow.Sql.Halt

namespace TurtleWow.Sql

open Run Finset

-- HaltDelayThread comes to its end: what is left to do decreases with every
-- step of it, and of the thread it waits for.

def Step.submits : Step → Bool
  | .thread _ => false
  | .haltDelayThread => false
  | _ => true

namespace Database

variable {n : Nat} {c after : Database}

-- The steps a body has before it, with the queues empty
def rank : Bool → Body → Nat
  | _, .gone => 0
  | _, .exited => 4
  | true, .serial _ => 2
  | true, .shared _ => 3
  | _, .head => 5
  | false, .serial _ => 6
  | false, .shared _ => 7
  | _, .sleeping => 8

def weight (ended : Bool) (c : Database) (i : Nat) : Nat :=
  2 * (c.serialDelayQueue i).length + (held (c.body i)).length + rank ended (c.body i)

def remaining (n : Nat) (ended : Bool) (c : Database) : Nat :=
  2 * c.delayQueue.length + ∑ i ∈ range n, weight ended c i

def haltCost (n : Nat) : Halt → Nat
  | .none => 2 * n + 1
  | .stopping i => 2 * n - i
  | .joining i => n - i
  | _ => 0

def cost (n : Nat) (c : Database) : Nat := haltCost n c.halt + remaining n c.ended c

theorem weight_of_body {ended : Bool} {i : Nat} {body : Body} (h : c.body i = body) :
    weight ended c i = 2 * (c.serialDelayQueue i).length + (held body).length + rank ended body := by
  rw [weight, h]

theorem weight_setBody {ended : Bool} {i : Nat} {body : Body} :
    weight ended (c.setBody i body) i = 2 * (c.serialDelayQueue i).length + (held body).length + rank ended body := by
  rw [weight, body_setBody_self]
  rfl

theorem remaining_lt {ended : Bool} {i : Nat} (hi : i < n) (hapart : Apart i c after)
    (h : 2 * after.delayQueue.length + weight ended after i < 2 * c.delayQueue.length + weight ended c i) :
    remaining n ended after < remaining n ended c := by
  have hsum := sum_change (f := weight ended c) (g := weight ended after) hi
    fun j hj => by rw [weight, weight, hapart.body j hj, hapart.queue j hj]
  rw [remaining, remaining]
  omega

theorem processRequests_less (ended : Bool) {i : Nat} (last : Body) (hheld : held last = [])
    (hlast : ∀ s, rank ended last < rank ended (.serial s))
    (h : (∃ s, c.body i = .shared s) ∨ ∃ s, c.body i = .serial s) :
    2 * (c.processRequests i last).delayQueue.length + weight ended (c.processRequests i last) i <
      2 * c.delayQueue.length + weight ended c i := by
  rcases h with ⟨executing, hbody⟩ | ⟨executing, hbody⟩
  · rw [weight_of_body hbody]
    cases executing with
    | none =>
      simp only [processRequests, hbody]
      split
      · next hqueue =>
          rw [weight_setBody, show (c.setBody i (.serial none)).delayQueue = c.delayQueue from rfl]
          cases ended
          · simp only [rank, held, List.length_nil]; omega
          · simp only [rank, held, List.length_nil]; omega
      · next s rest hqueue =>
          have hweight : weight ended (({ c.setBody i (.shared (some s)) with delayQueue := rest }).record
              (.started s)) i = weight ended (c.setBody i (.shared (some s))) i := rfl
          rw [hweight, weight_setBody, hqueue]
          show 2 * rest.length + _ < _
          cases ended
          · simp only [rank, held, List.length_nil, List.length_cons]; omega
          · simp only [rank, held, List.length_nil, List.length_cons]; omega
    | some s =>
      simp only [processRequests, hbody]
      have hweight : weight ended ((c.setBody i (.shared none)).record (.finished s)) i =
        weight ended (c.setBody i (.shared none)) i := rfl
      rw [hweight, weight_setBody]
      show 2 * c.delayQueue.length + _ < _
      cases ended
      · simp only [rank, held, List.length_nil, List.length_cons]; omega
      · simp only [rank, held, List.length_nil, List.length_cons]; omega
  · rw [weight_of_body hbody]
    cases executing with
    | none =>
      simp only [processRequests, hbody]
      split
      · next hqueue =>
          have hless := hlast none
          rw [weight_setBody, show (c.setBody i last).delayQueue = c.delayQueue from rfl, hheld]
          simp only [held, List.length_nil]
          omega
      · next s rest hqueue =>
          have hweight : weight ended (((c.setBody i (.serial (some s))).setSerial i rest).record (.started s)) i =
              2 * rest.length + 1 + rank ended (.serial (some s)) := by
            show 2 * (((c.setBody i (.serial (some s))).setSerial i rest).serialDelayQueue i).length +
              (held ((c.setBody i (.serial (some s))).body i)).length + rank ended ((c.setBody i _).body i) = _
            rw [serial_setSerial_self, body_setBody_self]
            rfl
          rw [hweight, hqueue]
          show 2 * c.delayQueue.length + _ < _
          cases ended
          · simp only [rank, held, List.length_nil, List.length_cons]; omega
          · simp only [rank, held, List.length_nil, List.length_cons]; omega
    | some s =>
      simp only [processRequests, hbody]
      have hweight : weight ended ((c.setBody i (.serial none)).record (.finished s)) i =
        weight ended (c.setBody i (.serial none)) i := rfl
      rw [hweight, weight_setBody]
      show 2 * c.delayQueue.length + _ < _
      cases ended
      · simp only [rank, held, List.length_nil, List.length_cons]; omega
      · simp only [rank, held, List.length_nil, List.length_cons]; omega

theorem runThread_less {i : Nat} (hrunning : c.running i = false) (hexited : c.body i ≠ .exited)
    (hgone : c.body i ≠ .gone) :
    2 * (c.runThread i).delayQueue.length + weight false (c.runThread i) i <
      2 * c.delayQueue.length + weight false c i := by
  have hlast : ∀ s, rank false .head < rank false (.serial s) := fun _ => by simp only [rank]; omega
  cases hbody : c.body i with
  | head =>
    simp only [runThread, hbody, hrunning]
    rw [weight_of_body hbody, if_neg (by decide), weight_setBody]
    show 2 * c.delayQueue.length + _ < _
    simp only [rank, held, List.length_nil]
    omega
  | sleeping =>
    simp only [runThread, hbody]
    rw [weight_of_body hbody, weight_setBody]
    show 2 * c.delayQueue.length + _ < _
    simp only [rank, held, List.length_nil]
    omega
  | shared executing =>
    have hless := processRequests_less _ .head rfl hlast (.inl ⟨executing, hbody⟩)
    simp only [runThread, hbody]
    exact hless
  | serial executing =>
    have hless := processRequests_less _ .head rfl hlast (.inr ⟨executing, hbody⟩)
    simp only [runThread, hbody]
    exact hless
  | exited => exact absurd hbody hexited
  | gone => exact absurd hbody hgone

theorem destroy_less {i : Nat} (h : c.body i = .exited ∨ (∃ s, c.body i = .shared s) ∨ ∃ s, c.body i = .serial s) :
    2 * (c.destroy i).delayQueue.length + weight true (c.destroy i) i <
      2 * c.delayQueue.length + weight true c i := by
  rcases h with hbody | hloops
  · simp only [destroy, hbody]
    rw [weight_of_body hbody, weight_setBody]
    show 2 * c.delayQueue.length + _ < _
    simp only [rank, held, List.length_nil]
    omega
  · have hless := processRequests_less true .gone rfl (fun _ => by simp only [rank]; omega) hloops
    rcases hloops with ⟨executing, hbody⟩ | ⟨executing, hbody⟩
    · simp only [destroy, hbody]
      exact hless
    · simp only [destroy, hbody]
      exact hless

theorem cost_control (ended' : Bool) (halt : Halt) (running : Nat → Bool)
    (h : { c with halt := halt, running := running }.ended = ended') :
    cost n { c with halt := halt, running := running } = haltCost n halt + remaining n ended' c := by
  rw [cost, h]
  rfl

theorem remaining_joined (h : ∀ j < n, c.body j = .exited) : remaining n true c = remaining n false c := by
  have hweight : ∀ j ∈ range n, weight true c j = weight false c j := by
    intro j hj
    have hbody := h j (mem_range.mp hj)
    rw [weight_of_body hbody, weight_of_body hbody]
    rfl
  rw [remaining, remaining, sum_congr rfl hweight]

theorem progress (hn : 1 ≤ n) (h : Phased n c) (hhalt : c.halt ≠ .halted) :
    ∃ action : Step, action.submits = false ∧ cost n (c.step n action) < cost n c := by
  have hstage := h.stage
  cases hc : c.halt with
  | none =>
    have hended : c.ended = false := by rw [ended, hc]
    refine ⟨.haltDelayThread, rfl, ?_⟩
    simp only [step, haltDelayThread, hc]
    rw [if_neg (by omega), cost_control false (.stopping 0) c.running rfl, cost, hended, hc, haltCost, haltCost]
    omega
  | stopping i =>
    rw [hc] at hstage
    have hi := hstage.1
    have hended : c.ended = false := by rw [ended, hc]
    refine ⟨.haltDelayThread, rfl, ?_⟩
    simp only [step, haltDelayThread, hc]
    rcases next_cases i (.stopping (i + 1)) (.joining 0) with ⟨hless, heq⟩ | ⟨hle, heq⟩
    · rw [heq, cost_control false (.stopping (i + 1)) _ rfl, cost, hended, hc, haltCost, haltCost]
      omega
    · rw [heq, cost_control false (.joining 0) _ rfl, cost, hended, hc, haltCost, haltCost]
      omega
  | joining i =>
    rw [hc] at hstage
    obtain ⟨hi, hbodies, hrunning, hexited⟩ := hstage
    have hended : c.ended = false := by rw [ended, hc]
    by_cases hbody : c.body i = .exited
    · refine ⟨.haltDelayThread, rfl, ?_⟩
      simp only [step, haltDelayThread, hc]
      rw [if_pos hbody]
      rcases next_cases i (.joining (i + 1)) (.clearing 0) with ⟨hless, heq⟩ | ⟨hle, heq⟩
      · rw [heq, cost_control false (.joining (i + 1)) c.running rfl, cost, hended, hc, haltCost, haltCost]
        omega
      · have hjoined : ∀ j < n, c.body j = .exited := by
          intro j hj
          rcases Nat.lt_or_ge j i with hless | hge
          · exact hexited j hless
          · rw [show j = i by omega]
            exact hbody
        rw [heq, cost_control true (.clearing 0) c.running rfl, remaining_joined hjoined, cost, hended, hc]
        simp only [haltCost]
        omega
    · refine ⟨.thread i, rfl, ?_⟩
      have happlies : ¬ (c.ended || decide (n ≤ i)) = true := by
        rw [hended, Bool.false_or, decide_eq_true_eq]
        omega
      have hapart := apart_runThread c i
      have hless := remaining_lt hi hapart (runThread_less (hrunning i hi) hbody (hbodies i))
      have hended' : (c.runThread i).ended = c.ended := by rw [ended, ended, hapart.halt]
      rw [step, if_neg happlies, cost, cost, hapart.halt, hended', hended]
      omega
  | clearing i =>
    rw [hc] at hstage
    obtain ⟨hi, hgone, hexited, hbody⟩ := hstage
    refine ⟨.haltDelayThread, rfl, ?_⟩
    have hapart := apart_destroy c i
    have hended : c.ended = true := by rw [ended, hc]
    have hbody' : c.body i = .exited ∨ (∃ s, c.body i = .shared s) ∨ ∃ s, c.body i = .serial s := by
      rcases hbody with hbody | hbody | ⟨hbody, -⟩
      · exact .inl hbody
      · exact .inr (.inl hbody)
      · exact .inr (.inr hbody)
    have hless := remaining_lt hi hapart (destroy_less hbody')
    simp only [step, haltDelayThread, hc]
    split
    · rcases next_cases i (.clearing (i + 1)) .halted with ⟨-, heq⟩ | ⟨-, heq⟩
      · rw [heq, cost_control true (.clearing (i + 1)) _ rfl, cost, hended, hc]
        simp only [haltCost]
        omega
      · rw [heq, cost_control true .halted _ rfl, cost, hended, hc]
        simp only [haltCost]
        omega
    · have hended' : (c.destroy i).ended = true := by rw [ended, hapart.halt, hc]
      rw [cost, cost, hended', hapart.halt, hended]
      omega
  | halted => exact absurd hc hhalt

theorem completes (hn : 1 ≤ n) (h : Phased n c) : ∃ works : List Step, (∀ work ∈ works, work.submits = false) ∧
    (run (step n) c works).halt = .halted := by
  induction hcost : cost n c using Nat.strongRecOn generalizing c with
  | ind bound ih =>
    by_cases hhalt : c.halt = .halted
    · exact ⟨[], fun _ hmem => absurd hmem List.not_mem_nil, hhalt⟩
    · obtain ⟨action, haction, hless⟩ := progress hn h hhalt
      obtain ⟨works, hworks, hend⟩ := ih _ (hcost ▸ hless) (h.step hn action) rfl
      refine ⟨action :: works, fun work hwork => ?_, hend⟩
      rcases List.mem_cons.mp hwork with rfl | hmem
      · exact haction
      · exact hworks work hmem

structure Invariant (n : Nat) (c : Database) : Prop where
  counted : Counted n c
  begun : Begun n c
  lanes : Lanes n c
  ordered : Ordered c
  phased : Phased n c

theorem invariant_initialized : Invariant n initialized where
  counted := counted_initialized
  begun := begun_initialized
  lanes := lanes_initialized
  ordered := ordered_initialized
  phased := phased_initialized

theorem Invariant.step (hn : 1 ≤ n) (h : Invariant n c) (action : Step) : Invariant n (c.step n action) := by
  have hclearing : ∀ i, c.halt = .clearing i → i < n := by
    intro i hhalt
    have hstage := h.phased.stage
    rw [hhalt] at hstage
    exact hstage.1
  obtain ⟨middle, hfirst, hsecond⟩ := moves_step hn hclearing action
  have hcounted := h.counted.move hn hfirst
  have hlanes := h.lanes.move hn h.counted hfirst
  exact ⟨hcounted.move hn hsecond, (h.begun.move hfirst).move hsecond, hlanes.move hn hcounted hsecond,
    (h.ordered.move h.lanes h.counted hfirst).move hlanes hcounted hsecond, h.phased.step hn action⟩

theorem Invariant.halted (h : Invariant n c) (hhalt : c.halt = .halted) (s : Submission) (hs : s ∈ c.submitted) :
    c.log.count (.started s) = 1 ∧ c.log.count (.finished s) = 1 := by
  have hstage := h.phased.stage
  rw [hhalt] at hstage
  obtain ⟨hgone, hempty⟩ := hstage
  have hcounts := h.counted.counts s
  have hbegun := h.begun s
  have hload : ∀ i ∈ range n, c.load s i = 0 := fun i hi => by
    have hi' := hgone i (mem_range.mp hi)
    rw [load, hi', h.phased.drained i hi']
    rfl
  have hheld : ∀ i ∈ range n, (held (c.body i)).count s = 0 := fun i hi => by
    rw [hgone i (mem_range.mp hi)]
    rfl
  rw [hempty, sum_eq_zero hload, List.count_eq_one_of_mem h.counted.once hs, List.count_nil] at hcounts
  rw [sum_eq_zero hheld] at hbegun
  omega

-- Every operation is executed once, in the order of the submissions of its
-- serial id, and a halt that has begun or not comes to its end.
theorem executed_run (n : Nat) (hn : 1 ≤ n) (steps : List Step) :
    let c := run (step n) initialized steps
    (∀ s, .started s ∈ c.log → s ∈ c.submitted) ∧
      (∀ s ∈ c.submitted, c.log.count (.finished s) ≤ 1) ∧
      (c.halt = .halted → ∀ s ∈ c.submitted, c.log.count (.started s) = 1 ∧ c.log.count (.finished s) = 1) ∧
      c.Ordered ∧
      ∃ works : List Step, (∀ work ∈ works, work.submits = false) ∧ (run (step n) c works).halt = .halted := by
  intro c
  have hinvariant : Invariant n c :=
    run_invariant (step n) (fun _ _ => True) (Invariant n) (fun _ action hc _ => hc.step hn action)
      invariant_initialized (guarded_of_forall (step n) _ (fun _ _ => trivial) initialized steps)
  refine ⟨hinvariant.lanes.started, fun s hs => ?_, hinvariant.halted, hinvariant.ordered,
    completes hn hinvariant.phased⟩
  have hcounts := hinvariant.counted.counts s
  rw [List.count_eq_one_of_mem hinvariant.counted.once hs] at hcounts
  omega

-- A load queued behind the save of its character, both executed in the last
-- destructor
theorem executed_load : let c := run (step 2) initialized ([.commitTransaction ⟨1, 7⟩, .delayQueryHolder ⟨2, 7⟩,
      .execute 3] ++ List.replicate 3 .haltDelayThread ++ [.thread 0, .thread 1] ++
        List.replicate 14 .haltDelayThread)
    c.submitted = [⟨⟨1, 7⟩, 0⟩, ⟨⟨2, 7⟩, 1⟩, ⟨⟨3, 0⟩, 2⟩] ∧ c.halt = .halted ∧
      ∀ s ∈ c.submitted, c.log.count (.started s) = 1 ∧ c.log.count (.finished s) = 1 :=
  ⟨rfl, rfl, (executed_run 2 (by decide) _).2.2.1 rfl⟩

end Database

end TurtleWow.Sql

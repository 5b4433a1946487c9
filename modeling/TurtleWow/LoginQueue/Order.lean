import Mathlib.Data.List.Nodup
import TurtleWow.LoginQueue.Accounting

namespace TurtleWow.LoginQueue

open List

-- The queues are ordered by priority as long as no tick splits the priorities of a
-- queue at 2 ^ 32.

namespace World

-- Raised by the tick, no priority of a queue passes 2 ^ 32 unless all do.
def Unsplit (config : Config) (diff : Nat) (queue : List (Nat × Nat)) : Prop :=
  ∀ first ∈ queue, ∀ second ∈ queue,
    (first.1 + u32 (diff * config.priorityPerTick)) / 2 ^ 32 = (second.1 + u32 (diff * config.priorityPerTick)) / 2 ^ 32

def UnsplitStep (w : World) : Step → Prop
  | .updateSessions config diff => ∀ region, Unsplit config diff (w.priorityQueue region)
  | _ => True

def Ordered (w : World) : Prop := ∀ region, (w.priorityQueue region).Pairwise fun first second => second.1 ≤ first.1

variable {w : World} {exempt : Option Nat} {id : Nat} {s : WorldSession}

-- The queue keeps its order, whatever else a step does.

variable {queue : List (Nat × Nat)}

theorem insertByPriority_sorted (priority id : Nat)
    (h : queue.Pairwise fun first second => second.1 ≤ first.1) :
    (insertByPriority priority id queue).Pairwise fun first second => second.1 ≤ first.1 := by
  induction queue with
  | nil => exact pairwise_singleton _ _
  | cons entry rest ih =>
    obtain ⟨hbelow, hrest⟩ := pairwise_cons.mp h
    unfold insertByPriority
    split
    · next hless =>
        refine pairwise_cons.mpr ⟨fun other hother => ?_, h⟩
        rcases mem_cons.mp hother with rfl | hother
        · exact hless.le
        · exact (hbelow other hother).trans hless.le
    · next hnot =>
        refine pairwise_cons.mpr ⟨fun other hother => ?_, ih hrest⟩
        rcases mem_cons.mp ((Accounted.insertByPriority_perm priority id rest).mem_iff.mp hother) with rfl | hother
        · exact not_lt.mp hnot
        · exact hbelow other hother

theorem raise_fst (config : Config) (diff : Nat) (entry : Nat × Nat) :
    (raise config diff entry).1 = (entry.1 + u32 (diff * config.priorityPerTick)) % 2 ^ 32 := by
  simp only [raise, u32]
  omega

theorem Unsplit.sublist {config : Config} {diff : Nat} {rest : List (Nat × Nat)} (h : Unsplit config diff queue)
    (hrest : rest.Sublist queue) : Unsplit config diff rest :=
  fun first hfirst second hsecond => h first (hrest.subset hfirst) second (hrest.subset hsecond)

theorem raise_sorted {config : Config} {diff : Nat} (hunsplit : Unsplit config diff queue)
    (h : queue.Pairwise fun first second => second.1 ≤ first.1) :
    (queue.map (raise config diff)).Pairwise fun first second => second.1 ≤ first.1 := by
  rw [pairwise_map]
  refine List.Pairwise.imp_of_mem (fun {first second} hfirst hsecond hle => ?_) h
  have hsame := hunsplit first hfirst second hsecond
  rw [raise_fst, raise_fst]
  generalize u32 (diff * config.priorityPerTick) = r at hsame ⊢
  omega

theorem priorityQueue_setInQueue (w : World) (id : Nat) (state : Bool) :
    (w.setInQueue id state).priorityQueue = w.priorityQueue := by
  unfold setInQueue
  split
  · rfl
  · rfl

theorem priorityQueue_onPassedQueue (w : World) (id : Nat) : (w.onPassedQueue id).priorityQueue = w.priorityQueue := by
  unfold onPassedQueue
  split
  · rfl
  · rfl

theorem priorityQueue_delete (w : World) (id : Nat) : (w.delete id).priorityQueue = w.priorityQueue := by
  unfold delete
  split
  · rfl
  · dsimp only
    split
    · rfl
    · rfl

theorem priorityQueue_setSessionDisconnected (w : World) (id : Nat) :
    (w.setSessionDisconnected id).priorityQueue = w.priorityQueue := by
  unfold setSessionDisconnected
  split
  · rfl
  · rfl

section

variable (h : w.Ordered)

include h

theorem Ordered.sublist {w' : World}
    (hqueue : ∀ region, (w'.priorityQueue region).Sublist (w.priorityQueue region)) : w'.Ordered :=
  fun region => (h region).sublist (hqueue region)

theorem Ordered.congr {w' : World} (hqueue : w'.priorityQueue = w.priorityQueue) : w'.Ordered :=
  h.sublist fun region => by rw [hqueue]

theorem Ordered.setQueue {region : Region}
    (hqueue : queue.Pairwise fun first second => second.1 ≤ first.1) : (w.setQueue region queue).Ordered := by
  intro other
  unfold World.setQueue
  dsimp only
  rw [Function.update_apply]
  split
  · exact hqueue
  · exact h other

theorem Ordered.removeQueuedSession (id : Nat) : (w.removeQueuedSession id).Ordered := by
  unfold World.removeQueuedSession
  split
  · exact h
  · split
    · exact (h.congr (priorityQueue_setInQueue w id false)).setQueue ((h _).sublist eraseP_sublist)
    · exact h

theorem Ordered.replaceOld (account : Nat) (delay : Bool) : (w.replaceOld account delay).Ordered := by
  unfold World.replaceOld
  split
  · exact h
  · next old _ =>
      have hremoved := h.removeQueuedSession old
      dsimp only
      split
      · exact hremoved.congr (priorityQueue_setSessionDisconnected _ _)
      · exact hremoved.congr (priorityQueue_delete _ _)

theorem Ordered.letIn (config : Config) (id : Nat) (region : Region) (skipped : Bool) :
    (w.letIn config id region skipped).Ordered :=
  h.congr (priorityQueue_onPassedQueue w id)

theorem Ordered.addQueuedSession (config : Config) (id : Nat) (arrival : Arrival) :
    (w.addQueuedSession config id arrival).Ordered := by
  unfold World.addQueuedSession
  refine Ordered.setQueue (h.congr (priorityQueue_setInQueue w id true)) ?_
  rw [priorityQueue_setInQueue]
  exact insertByPriority_sorted _ _ (h _)

theorem Ordered.addSession (config : Config) (arrival : Arrival) :
    (w.addSession config arrival).Ordered := by
  unfold World.addSession
  split
  · exact h
  · have hreplaced := h.replaceOld arrival.account arrival.delay
    generalize w.replaceOld arrival.account arrival.delay = old at hreplaced ⊢
    have hinserted : World.Ordered { old with
        session := Function.update old.session old.nextSession
          (some ⟨arrival.account, arrival.region, arrival.binaryAddress, arrival.socket, false, false, false⟩)
        nextSession := old.nextSession + 1
        sessions := old.sessions.insert arrival.account old.nextSession
        ipconnections := Function.update old.ipconnections arrival.binaryAddress
          (old.ipconnections arrival.binaryAddress + 1) } :=
      hreplaced.congr rfl
    dsimp only
    split
    · exact hinserted.addQueuedSession config _ arrival
    · exact hinserted.letIn config _ arrival.region arrival.skips

theorem Ordered.removeSession (account : Nat) : (w.removeSession account).Ordered := by
  unfold World.removeSession
  split
  · exact h
  · split
    · exact h
    · exact (h.removeQueuedSession _).congr (priorityQueue_delete _ _)

theorem Ordered.loseSocket (account : Nat) (delay : Bool) : (w.loseSocket account delay).Ordered := by
  unfold World.loseSocket
  split
  · exact h
  · split
    · exact h
    · split
      · exact h
      · split
        · exact h.congr (priorityQueue_setSessionDisconnected _ _)
        · exact h.removeSession account

end

theorem popFront_queue (w : World) (config : Config) (region other : Region) :
    (w.popFront config region).priorityQueue other =
      if other = region then (w.priorityQueue region).tail else w.priorityQueue other := by
  unfold popFront
  split
  · next hqueue =>
      split
      · next hother => rw [hother, hqueue, tail_nil]
      · rfl
  · next entry rest hqueue =>
      unfold letIn
      rw [priorityQueue_onPassedQueue, hqueue, tail_cons]
      unfold setQueue
      dsimp only
      rw [priorityQueue_setInQueue, Function.update_apply]

theorem pops_queue (config : Config) (region other : Region) (n : Nat) (w : World) :
    ((popFront config region)^[n] w).priorityQueue other =
      if other = region then (w.priorityQueue region).drop n else w.priorityQueue other := by
  induction n generalizing w with
  | zero =>
    split
    · next hother => rw [hother]; rfl
    · rfl
  | succ n ih =>
    rw [Function.iterate_succ_apply, ih, popFront_queue, popFront_queue, if_pos rfl, ← drop_one, drop_drop,
      Nat.add_comm]
    split
    · rfl
    · rfl

theorem admitRegion_queue (config : Config) (diff : Nat) (pop : Region → Int) (w : World) (region other : Region) :
    ∃ queue, queue.Sublist (w.priorityQueue other) ∧
      ((admitRegion config diff pop w region).priorityQueue other = queue ∨
        other = region ∧ (admitRegion config diff pop w region).priorityQueue other = queue.map (raise config diff)) := by
  unfold admitRegion
  split
  · dsimp only
    generalize (if full config pop w then 0 else config.loginPerTick) = n
    generalize (if full config pop w then i32 config.hardPlayerLimit else raisedLimit config pop w) = limit
    refine ⟨((popFront config region)^[n] { w with playerLimit := limit }).priorityQueue other, ?_, ?_⟩
    · rw [pops_queue]
      split
      · next hother =>
          rw [hother]
          exact drop_sublist _ _
      · exact List.Sublist.refl _
    · unfold setQueue
      dsimp only
      rw [Function.update_apply]
      split
      · next hother =>
          rw [hother]
          exact .inr ⟨rfl, rfl⟩
      · exact .inl rfl
  · exact ⟨_, List.Sublist.refl _, .inl rfl⟩

theorem Ordered.admitRegion (h : w.Ordered) {config : Config} {diff : Nat} {region : Region}
    (hunsplit : Unsplit config diff (w.priorityQueue region)) (pop : Region → Int) :
    (World.admitRegion config diff pop w region).Ordered := by
  intro other
  obtain ⟨queue, hsub, hqueue | ⟨rfl, hqueue⟩⟩ := admitRegion_queue config diff pop w region other
  · rw [hqueue]
    exact (h other).sublist hsub
  · rw [hqueue]
    exact raise_sorted (hunsplit.sublist hsub) ((h other).sublist hsub)

theorem priorityQueue_capLimit (w : World) (config : Config) : (w.capLimit config).priorityQueue = w.priorityQueue := by
  unfold capLimit
  split
  · rfl
  · rfl

theorem Ordered.step (h : w.Ordered) {input : Step} (hunsplit : w.UnsplitStep input) : (w.step input).Ordered := by
  cases input with
  | updateSessions config diff =>
    have hcapped := priorityQueue_capLimit w config
    have hw : (w.capLimit config).Ordered := h.congr hcapped
    have hunsplit' : ∀ region, Unsplit config diff ((w.capLimit config).priorityQueue region) := by
      rw [hcapped]
      exact hunsplit
    refine (hw.admitRegion (hunsplit' .regional) _).admitRegion ?_ _
    obtain ⟨queue, hsub, hqueue | ⟨hregion, -⟩⟩ :=
      admitRegion_queue config diff (w.capLimit config).logged (w.capLimit config) .regional .nonRegional
    · rw [hqueue]
      exact (hunsplit' .nonRegional).sublist hsub
    · cases hregion
  | arrive config arrival => exact h.addSession config arrival
  | login id =>
    refine h.congr ?_
    unfold World.step World.login
    dsimp only
    split
    · rfl
    · split
      · rfl
      · rfl
  | logout id =>
    refine h.congr ?_
    unfold World.step World.logout
    dsimp only
    split
    · rfl
    · rfl
  | lose account delay => exact h.loseSocket account delay
  | remove account => exact h.removeSession account
  | expire id =>
    refine h.congr ?_
    unfold World.step World.expire
    dsimp only
    split
    · exact priorityQueue_delete _ _
    · rfl

end World

end TurtleWow.LoginQueue

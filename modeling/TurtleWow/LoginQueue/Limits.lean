import TurtleWow.LoginQueue.Order

namespace TurtleWow.LoginQueue

open Run List Function

-- Whom the limits let in. An arrival is checked by itself; of the sessions that a tick
-- lets in, only the first is.

def Admission.Within (a : Admission) : Prop :=
  a.skipped = true ∨ a.count ≤ a.maxPop ∧ a.active ≤ a.hardPlayerLimit

instance (a : Admission) : Decidable a.Within := by unfold Admission.Within; infer_instance

namespace World

def Fits (config : Config) (pop : Region → Int) (w : World) (region : Region) : Prop :=
  opens config pop w region = true → full config pop w = false →
    pop region + min config.loginPerTick (w.priorityQueue region).length ≤ config.maxPop region ∧
      w.getActiveSessionCount + min config.loginPerTick (w.priorityQueue region).length ≤ config.hardPlayerLimit

def FitsStep (w : World) : Step → Prop
  | .updateSessions config diff =>
    let w := w.capLimit config
    Fits config w.logged w .regional ∧ Fits config w.logged (admitRegion config diff w.logged w .regional) .nonRegional
  | _ => True

variable {w : World} {id : Nat} {s : WorldSession}

theorem queued_le (h : Accounted none w) : w.getQueuedSessionCount ≤ w.sessions.size := by
  let ids := w.queuedIds .regional ++ w.queuedIds .nonRegional
  let account := fun id => (w.session id).elim 0 WorldSession.account
  have hmem : ∀ id ∈ ids, ∃ s, w.session id = some s ∧ s.inQueue = true := by
    intro id hid
    rcases mem_append.mp hid with hid | hid
    · obtain ⟨s, hs, -, hin⟩ := (h.queued _ _).mp hid
      exact ⟨s, hs, hin⟩
    · obtain ⟨s, hs, -, hin⟩ := (h.queued _ _).mp hid
      exact ⟨s, hs, hin⟩
  have hfind : ∀ id ∈ ids, w.sessions.find (account id) = some id := by
    intro id hid
    obtain ⟨s, hs, hin⟩ := hmem id hid
    have haccount : account id = s.account := by
      change (w.session id).elim 0 WorldSession.account = _
      rw [hs]
      rfl
    rw [haccount]
    exact (h.waiting id s hs hin).2.1
  have hnodup : ids.Nodup := by
    refine nodup_append.mpr ⟨h.once _, h.once _, fun id hfirst other hsecond heq => ?_⟩
    subst heq
    obtain ⟨s, hs, hregion, -⟩ := (h.queued _ _).mp hfirst
    obtain ⟨found, hfound, hother, -⟩ := (h.queued _ _).mp hsecond
    obtain rfl := Option.some.inj (hs.symm.trans hfound)
    rw [hregion] at hother
    cases hother
  have haccounts : (ids.map account).Nodup := by
    refine List.Nodup.map_on (fun first hfirst second hsecond heq => ?_) hnodup
    have hboth := hfind first hfirst
    rw [heq, hfind second hsecond] at hboth
    exact (Option.some.inj hboth).symm
  have hkeys : ids.map account ⊆ w.sessions.keys := by
    intro key hkey
    obtain ⟨id, hid, rfl⟩ := mem_map.mp hkey
    rw [OrderedMap.mem_keys, hfind id hid]
    nofun
  have hle := (haccounts.subperm hkeys).length_le
  change _ ≤ (w.sessions.entries.map _).length at hle
  rw [length_map, length_map, length_append, queuedIds, length_map, queuedIds, length_map] at hle
  exact hle

structure LetIn (config : Config) (region : Region) (w w' : World) : Prop where
  queue : ∃ entry, w.priorityQueue region = entry :: w'.priorityQueue region
  logged : ∀ other, w'.logged other = w.logged other + if other = region then 1 else 0
  active : w'.getActiveSessionCount = w.getActiveSessionCount + 1
  admissions : w'.admissions = w.admissions ++ [w'.admission config region false]

theorem logged_onPassedQueue (hs : w.session id = some s) :
    (w.onPassedQueue id).logged = Function.update w.logged s.region (w.logged s.region + 1) := by
  unfold onPassedQueue
  rw [hs]
  rfl

theorem admissions_letIn (w : World) (config : Config) (id : Nat) (region : Region) (skipped : Bool) :
    (w.letIn config id region skipped).admissions =
      w.admissions ++ [(w.letIn config id region skipped).admission config region skipped] := by
  have honPassed : (w.onPassedQueue id).admissions = w.admissions := by
    unfold onPassedQueue
    split
    · rfl
    · rfl
  unfold letIn
  dsimp only
  rw [honPassed]
  rfl

theorem admission_letIn (hs : w.session id = some s) {region : Region} (hregion : s.region = region) (config : Config)
    (skipped : Bool) : (w.letIn config id region skipped).admission config region skipped =
      ⟨skipped, w.logged region + 1, config.maxPop region, w.getActiveSessionCount, config.hardPlayerLimit⟩ := by
  subst hregion
  have hlogged := congrFun (logged_onPassedQueue hs) s.region
  rw [update_self] at hlogged
  have hactive : (w.onPassedQueue id).getActiveSessionCount = w.getActiveSessionCount := by
    unfold onPassedQueue
    rw [hs]
    rfl
  change (⟨skipped, (w.onPassedQueue id).logged s.region, config.maxPop s.region,
    (w.onPassedQueue id).getActiveSessionCount, config.hardPlayerLimit⟩ : Admission) = _
  rw [hlogged, hactive]

theorem popFront_letIn (h : Accounted none w) (config : Config) {region : Region} (hqueue : w.priorityQueue region ≠ []) :
    LetIn config region w (w.popFront config region) := by
  have hle := queued_le h
  have htail := popFront_queue w config region
  obtain ⟨entry, rest, hcons⟩ := exists_cons_of_ne_nil hqueue
  have hids : w.queuedIds region = entry.2 :: rest.map Prod.snd := by rw [queuedIds, hcons, map_cons]
  obtain ⟨s, hs, rfl, -⟩ := (h.queued region entry.2).mp (hids ▸ mem_cons_self)
  have hpop : w.popFront config s.region =
      (((w.setSession entry.2 { s with inQueue := false }).setQueue s.region rest).letIn config entry.2 s.region
        false) := by
    unfold popFront
    rw [hcons]
    dsimp only
    rw [setInQueue, hs]
  have hlogged : (w.popFront config s.region).logged = Function.update w.logged s.region (w.logged s.region + 1) := by
    rw [hpop]
    exact logged_onPassedQueue (s := { s with inQueue := false }) (update_self _ _ _)
  have hsessions : (w.popFront config s.region).sessions = w.sessions := by
    rw [hpop]
    unfold World.letIn onPassedQueue
    split
    · rfl
    · rfl
  refine ⟨⟨entry, ?_⟩, fun other => ?_, ?_, ?_⟩
  · rw [htail, if_pos rfl, hcons, tail_cons]
  · rw [hlogged, update_apply]
    split
    · next hother => rw [hother]
    · rw [Int.add_zero]
  · have hcount : (w.popFront config s.region).getQueuedSessionCount + 1 = w.getQueuedSessionCount := by
      unfold getQueuedSessionCount
      rw [htail, htail]
      cases hregion : s.region with
      | regional =>
        rw [hregion] at hcons
        rw [if_pos rfl, if_neg (by simp), hcons, tail_cons, length_cons]
        omega
      | nonRegional =>
        rw [hregion] at hcons
        rw [if_neg (by simp), if_pos rfl, hcons, tail_cons, length_cons]
        omega
    unfold getActiveSessionCount
    rw [hsessions]
    omega
  · rw [hpop]
    exact admissions_letIn _ config _ _ false

theorem popFront_nil (config : Config) {region : Region} (hqueue : w.priorityQueue region = []) :
    w.popFront config region = w := by
  unfold popFront
  rw [hqueue]

theorem pops_min (config : Config) (region : Region) (n : Nat) (w : World) :
    (popFront config region)^[n] w = (popFront config region)^[min n (w.priorityQueue region).length] w := by
  induction n generalizing w with
  | zero => rw [Nat.zero_min]
  | succ n ih =>
    cases hqueue : w.priorityQueue region with
    | nil =>
      rw [iterate_succ_apply, popFront_nil config hqueue, ih, hqueue, length_nil, Nat.min_zero,
        Nat.min_zero]
    | cons entry rest =>
      rw [length_cons, Nat.add_min_add_right, iterate_succ_apply, iterate_succ_apply, ih,
        popFront_queue, if_pos rfl, hqueue, tail_cons]

structure LetInAll (config : Config) (region : Region) (n : Nat) (w w' : World) : Prop where
  queue : w'.priorityQueue region = (w.priorityQueue region).drop n
  logged : ∀ other, w'.logged other = w.logged other + if other = region then (n : Int) else 0
  active : w'.getActiveSessionCount = w.getActiveSessionCount + n
  admissions : ∃ new, w'.admissions = w.admissions ++ new ∧ ((∀ a ∈ new, a.Within) ↔
    n = 0 ∨ w.logged region + n ≤ config.maxPop region ∧ w.getActiveSessionCount + n ≤ config.hardPlayerLimit)

section

variable (h : Accounted none w)

include h

theorem pops_letIn (config : Config) (region : Region) {n : Nat}
    (hn : n ≤ (w.priorityQueue region).length) : LetInAll config region n w ((popFront config region)^[n] w) := by
  induction n with
  | zero =>
    refine ⟨rfl, fun other => ?_, rfl, [], (append_nil _).symm, by simp⟩
    rw [iterate_zero_apply, Int.natCast_zero, ite_self, Int.add_zero]
  | succ n ih =>
    obtain ⟨hqueue, hlogged, hactive, new, hnew, hwithin⟩ := ih (by omega)
    have hpopped := h.pops config region n
    rw [iterate_succ_apply']
    generalize (popFront config region)^[n] w = popped at hqueue hlogged hactive hnew hpopped ⊢
    have hne : popped.priorityQueue region ≠ [] := by
      intro hnil
      have hlength := congrArg List.length hqueue
      rw [hnil, length_drop, length_nil] at hlength
      omega
    obtain ⟨⟨entry, hentry⟩, hlogged', hactive', hnew'⟩ := popFront_letIn hpopped config hne
    generalize popped.popFront config region = last at hentry hlogged' hactive' hnew' ⊢
    refine ⟨?_, fun other => ?_, by omega, new ++ [last.admission config region false], ?_, ?_⟩
    · rw [← drop_drop, ← hqueue, hentry, drop_one, tail_cons]
    · rw [hlogged', hlogged]
      split
      · push_cast
        omega
      · omega
    · rw [hnew', hnew, append_assoc]
    · have hlast : (last.admission config region false).Within ↔
          w.logged region + (n + 1 : Nat) ≤ config.maxPop region ∧
            w.getActiveSessionCount + (n + 1) ≤ config.hardPlayerLimit := by
        unfold Admission.Within admission
        rw [hlogged', hlogged, if_pos rfl, if_pos rfl, hactive', hactive]
        push_cast
        simp only [false_or]
        omega
      rw [forall_mem_append, hwithin, forall_mem_singleton, hlast]
      omega

theorem admitRegion_within (config : Config) (diff : Nat) (pop : Region → Int) (region : Region)
    (hpop : pop region = w.logged region) :
    ∃ new, (admitRegion config diff pop w region).admissions = w.admissions ++ new ∧
      ((∀ a ∈ new, a.Within) ↔ Fits config pop w region) := by
  unfold admitRegion Fits
  split
  · next hopens =>
      rw [forall_prop_of_true hopens]
      dsimp only
      generalize (if full config pop w then i32 config.hardPlayerLimit else raisedLimit config pop w) = limit
      have hlimit : Accounted none { w with playerLimit := limit } := h.congr rfl rfl rfl rfl (fun _ => rfl) rfl
      cases hfull : full config pop w with
      | true => exact ⟨[], (append_nil _).symm, by simp⟩
      | false =>
        rw [if_neg Bool.false_ne_true, pops_min]
        obtain ⟨-, -, -, new, hnew, hwithin⟩ := pops_letIn hlimit config region (Nat.min_le_right config.loginPerTick _)
        refine ⟨new, hnew, hwithin.trans ?_⟩
        have hsome : min config.loginPerTick (w.priorityQueue region).length ≠ 0 := by
          rw [opens, Bool.and_eq_true, Bool.and_eq_true, decide_eq_true_eq, decide_eq_true_eq, decide_eq_true_eq,
            ← length_pos_iff] at hopens
          omega
        rw [hpop, or_iff_right hsome, forall_prop_of_true rfl]
        rfl
  · next hopens => exact ⟨[], (append_nil _).symm, by simp [hopens]⟩

theorem admitRegion_logged (config : Config) (diff : Nat) (pop : Region → Int)
    (region : Region) {other : Region} (hother : other ≠ region) :
    (admitRegion config diff pop w region).logged other = w.logged other := by
  unfold admitRegion
  split
  · dsimp only
    generalize (if full config pop w then 0 else config.loginPerTick) = n
    generalize (if full config pop w then i32 config.hardPlayerLimit else raisedLimit config pop w) = limit
    have hlimit : Accounted none { w with playerLimit := limit } := h.congr rfl rfl rfl rfl (fun _ => rfl) rfl
    rw [pops_min]
    have hlogged := (pops_letIn hlimit config region (Nat.min_le_right n _)).logged other
    rw [if_neg hother, Int.add_zero] at hlogged
    exact hlogged
  · rfl

theorem updateSessions_within (config : Config) (diff : Nat) :
    ∃ new, (w.updateSessions config diff).admissions = w.admissions ++ new ∧
      ((∀ a ∈ new, a.Within) ↔ w.FitsStep (.updateSessions config diff)) := by
  have hcapped := h.capLimit config
  have hsame : (w.capLimit config).admissions = w.admissions := by
    unfold capLimit
    split
    · rfl
    · rfl
  unfold updateSessions FitsStep
  dsimp only
  rw [← hsame]
  generalize w.capLimit config = capped at hcapped ⊢
  obtain ⟨first, hfirst, hwithin⟩ := admitRegion_within hcapped config diff capped.logged .regional rfl
  have hlogged : (admitRegion config diff capped.logged capped .regional).logged .nonRegional
      = capped.logged .nonRegional := admitRegion_logged hcapped config diff capped.logged .regional nofun
  obtain ⟨second, hsecond, hwithin'⟩ := admitRegion_within (hcapped.admitRegion config diff capped.logged .regional)
    config diff capped.logged .nonRegional hlogged.symm
  refine ⟨first ++ second, ?_, ?_⟩
  · rw [hsecond, hfirst, append_assoc]
  · rw [forall_mem_append, hwithin, hwithin']

end

-- Nothing else than an arrival and a tick lets a session in.

section

variable (w : World)

theorem admissions_setInQueue (id : Nat) (state : Bool) : (w.setInQueue id state).admissions = w.admissions := by
  unfold setInQueue
  split
  · rfl
  · rfl

theorem admissions_delete (id : Nat) : (w.delete id).admissions = w.admissions := by
  unfold delete
  split
  · rfl
  · dsimp only
    split
    · rfl
    · rfl

theorem admissions_setSessionDisconnected (id : Nat) : (w.setSessionDisconnected id).admissions = w.admissions := by
  unfold setSessionDisconnected
  split
  · rfl
  · rfl

theorem admissions_removeQueuedSession (id : Nat) : (w.removeQueuedSession id).admissions = w.admissions := by
  unfold removeQueuedSession
  split
  · rfl
  · split
    · exact admissions_setInQueue w id false
    · rfl

theorem admissions_replaceOld (account : Nat) (delay : Bool) :
    (w.replaceOld account delay).admissions = w.admissions := by
  unfold replaceOld
  split
  · rfl
  · next old _ =>
      dsimp only
      split
      · exact (admissions_setSessionDisconnected _ _).trans (admissions_removeQueuedSession w old)
      · exact (admissions_delete _ _).trans (admissions_removeQueuedSession w old)

theorem admissions_removeSession (account : Nat) : (w.removeSession account).admissions = w.admissions := by
  unfold removeSession
  split
  · rfl
  · split
    · rfl
    · exact (admissions_delete _ _).trans (admissions_removeQueuedSession w _)

theorem admissions_loseSocket (account : Nat) (delay : Bool) :
    (w.loseSocket account delay).admissions = w.admissions := by
  unfold loseSocket
  split
  · rfl
  · split
    · rfl
    · split
      · rfl
      · split
        · exact admissions_setSessionDisconnected _ _
        · exact admissions_removeSession w account

-- The limits are read for the arrival itself, after it is counted.
theorem addSession_within (config : Config) (arrival : Arrival) :
    ∃ new, (w.addSession config arrival).admissions = w.admissions ++ new ∧ ∀ a ∈ new, a.Within := by
  unfold addSession
  split
  · exact ⟨[], (append_nil _).symm, by simp⟩
  · have hsame := admissions_replaceOld w arrival.account arrival.delay
    rw [← hsame]
    generalize w.replaceOld arrival.account arrival.delay = old
    dsimp only
    split
    · exact ⟨[], (admissions_setInQueue _ _ _).trans (append_nil _).symm, by simp⟩
    · next hroom =>
        refine ⟨_, admissions_letIn _ config _ _ arrival.skips, forall_mem_singleton.mpr ?_⟩
        cases hskips : arrival.skips with
        | true => exact .inl rfl
        | false =>
          rw [hskips, and_iff_left rfl, not_or, not_le, not_le] at hroom
          rw [admission_letIn (s := ⟨arrival.account, arrival.region, arrival.binaryAddress, arrival.socket, false, false,
            false⟩) (update_self _ _ _) rfl]
          exact .inr ⟨hroom.1, hroom.2.le⟩

end

theorem step_within (h : Accounted none w) (input : Step) :
    ∃ new, (w.step input).admissions = w.admissions ++ new ∧ ((∀ a ∈ new, a.Within) ↔ w.FitsStep input) := by
  have hquiet : (w.step input).admissions = w.admissions → w.FitsStep input →
      ∃ new, (w.step input).admissions = w.admissions ++ new ∧ ((∀ a ∈ new, a.Within) ↔ w.FitsStep input) :=
    fun hsame hfits => ⟨[], hsame.trans (append_nil _).symm, iff_of_true (by simp) hfits⟩
  cases input with
  | updateSessions config diff => exact updateSessions_within h config diff
  | arrive config arrival =>
    obtain ⟨new, hnew, hwithin⟩ := addSession_within w config arrival
    exact ⟨new, hnew, iff_of_true hwithin trivial⟩
  | login id =>
    refine hquiet ?_ trivial
    unfold step login
    dsimp only
    split
    · rfl
    · split
      · rfl
      · rfl
  | logout id =>
    refine hquiet ?_ trivial
    unfold step logout
    dsimp only
    split
    · rfl
    · rfl
  | lose account delay => exact hquiet (admissions_loseSocket w account delay) trivial
  | remove account => exact hquiet (admissions_removeSession w account) trivial
  | expire id =>
    refine hquiet ?_ trivial
    unfold step expire
    dsimp only
    split
    · exact admissions_delete _ _
    · rfl

def beyond (w : World) : Int := (w.admissions.filter fun a => ¬ a.Within).length

theorem beyond_step (h : Accounted none w) (input : Step) :
    (w.FitsStep input → (w.step input).beyond = w.beyond) ∧ (¬ w.FitsStep input → w.beyond < (w.step input).beyond) := by
  obtain ⟨new, hnew, hwithin⟩ := step_within h input
  have hbeyond : (w.step input).beyond = w.beyond + ((new.filter fun a => ¬ a.Within).length : Nat) := by
    unfold beyond
    rw [hnew, filter_append, length_append]
    rfl
  rw [← hwithin, hbeyond]
  refine ⟨fun hall => ?_, fun hnot => ?_⟩
  · rw [filter_eq_nil_iff.mpr fun a ha => by simpa using hall a ha]
    exact Int.add_zero _
  · have hpos : 0 < (new.filter fun a => ¬ a.Within).length := by
      rw [length_pos_iff, ne_eq, filter_eq_nil_iff]
      simpa using hnot
    omega

theorem beyond_eq_zero (w : World) : w.beyond = 0 ↔ ∀ a ∈ w.admissions, a.Within := by
  unfold beyond
  rw [Int.natCast_eq_zero, length_eq_zero_iff, filter_eq_nil_iff]
  simp

theorem run_ordered {inputs : List Step} (hok : Guarded step UnsplitStep initial inputs) :
    Ordered (run step initial inputs) := by
  have hinitial : Ordered initial := fun _ => List.Pairwise.nil
  exact run_invariant step UnsplitStep Ordered (fun _ _ h hunsplit => h.step hunsplit) hinitial hok

theorem run_accounted (inputs : List Step) : Accounted none (run step initial inputs) :=
  run_invariant step (fun _ _ => True) (Accounted none) (fun _ input h _ => h.step input) Accounted.initial
    (guarded_of_forall _ _ (fun _ _ => trivial) _ _)

theorem within_iff (inputs : List Step) :
    (∀ a ∈ (run step initial inputs).admissions, a.Within) ↔ Guarded step FitsStep initial inputs := by
  rw [← beyond_eq_zero, ← potential_eq_iff step FitsStep (Accounted none) beyond (fun _ input h => h.step input)
    (fun _ input h => (beyond_step h input).1) (fun _ input h => (beyond_step h input).2) Accounted.initial]
  rfl

-- In every run the queues, the flags and the counters agree. The sessions let in are
-- within the limits exactly when the batch of every tick fits, and the queues keep
-- their order as long as no tick splits one at 2 ^ 32.
theorem login_queue_accounting (inputs : List Step) :
    let w := run step initial inputs
    (∀ region id, id ∈ w.queuedIds region ↔ ∃ s, w.session id = some s ∧ s.region = region ∧ s.inQueue = true) ∧
    (∀ region, (w.queuedIds region).Nodup) ∧
    (∀ region, w.logged region = (w.letInSessions region).card) ∧
    ((∀ a ∈ w.admissions, a.Within) ↔ Guarded step FitsStep initial inputs) ∧
    (Guarded step UnsplitStep initial inputs → w.Ordered) := by
  have h := run_accounted inputs
  exact ⟨h.queued, h.once, h.logged, within_iff inputs, run_ordered⟩

-- A place for one becomes free, and a tick lets in the two that wait for it. Without a
-- place, a tick lifts the second of two priorities over 2 ^ 32 and not the first.
theorem batch_beyond_limits :
    let config : Config := ⟨100, fun _ => 1, 5, 1, false, 0⟩
    let arrival := fun account priority => Step.arrive config ⟨account, .regional, 0, true, priority, false, false, false⟩
    ¬ (∀ a ∈ (run step initial
        [arrival 1 0, arrival 2 0, arrival 3 0, .lose 1 false, .updateSessions config 50]).admissions, a.Within) ∧
    ¬ Ordered (run step initial [arrival 1 0, arrival 2 (2 ^ 32 - 1), arrival 3 (2 ^ 32 - 1), arrival 4 0, .lose 1 false,
      .updateSessions { config with loginPerTick := 1 } 1]) := by
  intro config arrival
  refine ⟨by decide, fun h => absurd (h .regional) (by decide)⟩

end World

end TurtleWow.LoginQueue

import TurtleWow.Events.Placed

namespace TurtleWow.Events

open Run List

-- The container is kept in the order of its keys, and Update takes the least.

theorem Before.trans {first second third : Entry} (h : Before first second) (h' : Before second third) :
    Before first third := by
  unfold Before at *
  omega

theorem mem_insertEntry {entry other : Entry} {entries : List Entry} :
    other ∈ insertEntry entry entries ↔ other = entry ∨ other ∈ entries := by
  rw [(insertEntry_perm entry entries).mem_iff, mem_cons]

theorem pairwise_insertEntry {entry : Entry} {entries : List Entry} (h : entries.Pairwise Before)
    (hseq : ∀ other ∈ entries, other.seq < entry.seq) : (insertEntry entry entries).Pairwise Before := by
  induction entries with
  | nil => exact pairwise_singleton _ _
  | cons head rest ih =>
    obtain ⟨hhead, hrest⟩ := pairwise_cons.mp h
    obtain ⟨hfirst, hothers⟩ := forall_mem_cons.mp hseq
    rw [insertEntry]
    split_ifs with hless
    · refine pairwise_cons.mpr ⟨fun other hother => ?_, h⟩
      rcases mem_cons.mp hother with rfl | hmem
      · exact .inl hless
      · exact Before.trans (.inl hless) (hhead other hmem)
    · refine pairwise_cons.mpr ⟨fun other hother => ?_, ih hrest hothers⟩
      rcases mem_insertEntry.mp hother with rfl | hmem
      · unfold Before
        omega
      · exact hhead other hmem

theorem insertEntry_append_left {entry head : Entry} (first rest : List Entry) (h : entry.time < head.time) :
    insertEntry entry (first ++ head :: rest) = insertEntry entry first ++ head :: rest := by
  induction first with
  | nil => exact if_pos h
  | cons other first ih =>
    simp only [cons_append, insertEntry, ih]
    split_ifs <;> rfl

theorem insertEntry_append_right {entry : Entry} (first rest : List Entry)
    (h : ∀ other ∈ first, other.time ≤ entry.time) :
    insertEntry entry (first ++ rest) = first ++ insertEntry entry rest := by
  induction first with
  | nil => rfl
  | cons other first ih =>
    obtain ⟨hother, hrest⟩ := forall_mem_cons.mp h
    rw [cons_append, insertEntry, if_neg (Nat.not_lt.mpr hother), ih hrest, cons_append]

namespace EventProcessor

variable {w after : EventProcessor} {event time : Nat} {head : Entry} {rest : List Entry} {actions : List Action}
  {answer : Answer} {log : List Entry}

def entries (w : EventProcessor) : List Entry := w.passed ++ w.events

structure Sorted (w : EventProcessor) : Prop where
  before : w.entries.Pairwise Before
  seq : ∀ entry ∈ w.entries, entry.seq < w.nextSeq

-- Something is inserted when nothing is passed, or when the iterator stands at an entry.
def Room (w : EventProcessor) : Prop :=
  (w.passed = [] ∧ ∀ force final, w.loop ≠ .killing force final) ∨ ∃ head, At head w

theorem entries_insert (h : w.Sorted) (hroom : w.Room) :
    (w.insert event time).entries = insertEntry ⟨time, event, w.nextSeq⟩ w.entries := by
  rcases hroom with ⟨hpassed, hloop⟩ | ⟨head, hat⟩
  · have hbehind : w.behind time = false := by
      rw [behind]
      split
      · next force final _ _ hkilling _ => exact absurd hkilling (hloop force final)
      · rfl
    have hentries : w.entries = w.events := by
      rw [entries, hpassed]
      rfl
    rw [hentries, insert, hbehind, entries, hpassed]
    rfl
  · have hbehind : w.behind time = decide (time < head.time) := hat.behind
    obtain ⟨rest, hevents⟩ := List.head?_eq_some_iff.mp hat.2
    rw [insert, hbehind]
    by_cases hless : time < head.time
    · rw [if_pos (decide_eq_true hless), entries, entries, hevents, insertEntry_append_left _ _ hless]
    · rw [if_neg (by rw [decide_eq_true_eq]; exact hless), entries, entries]
      refine (insertEntry_append_right _ _ fun other hother => ?_).symm
      have hsorted := h.before
      rw [entries, hevents] at hsorted
      have hbefore := (pairwise_append.mp hsorted).2.2 other hother head (mem_cons_self)
      unfold Before at hbefore
      show other.time ≤ time
      omega

theorem Sorted.insert (h : w.Sorted) (hroom : w.Room) : (w.insert event time).Sorted := by
  have hentries : (w.insert event time).entries = _ := entries_insert h hroom
  constructor
  · rw [hentries]
    exact pairwise_insertEntry h.before h.seq
  · intro entry hentry
    rw [hentries, mem_insertEntry] at hentry
    rw [nextSeq_insert]
    rcases hentry with rfl | hmem
    · exact Nat.lt_succ_self _
    · exact Nat.lt_succ_of_lt (h.seq entry hmem)

theorem Sorted.sublist (h : w.Sorted) (hentries : after.entries.Sublist w.entries) (hseq : after.nextSeq = w.nextSeq) :
    after.Sorted :=
  ⟨h.before.sublist hentries, fun entry hentry => hseq.symm ▸ h.seq entry (hentries.subset hentry)⟩

theorem Room.act (h : w.Room) {action : Action} (hlegal : w.LegalAction action) : (w.act action).Room := by
  rcases h with ⟨hpassed, hloop⟩ | ⟨head, hat⟩
  · refine .inl ⟨?_, ?_⟩
    · cases action with
      | addEvent event time =>
        have hbehind : w.behind time = false := by
          rw [behind]
          split
          · next force final _ _ hkilling _ => exact absurd hkilling (hloop force final)
          · rfl
        show (w.insert event time).passed = []
        rw [EventProcessor.insert, hbehind]
        exact hpassed
      | scheduleAbort event =>
        rw [EventProcessor.act, scheduleAbort_eq hlegal.2]
        exact hpassed
    · rw [(Calls.act hlegal).loop]
      exact hloop
  · exact .inr ⟨head, hat.act hlegal⟩

theorem Sorted.act (h : w.Sorted) (hroom : w.Room) {action : Action} (hlegal : w.LegalAction action) :
    (w.act action).Sorted := by
  cases action with
  | addEvent event time => exact (h.insert hroom).sublist (List.Sublist.refl _) rfl
  | scheduleAbort event =>
    rw [EventProcessor.act, scheduleAbort_eq hlegal.2]
    exact h.sublist (List.Sublist.refl _) rfl

theorem Sorted.run (h : w.Sorted) (hroom : w.Room) (hlegal : Guarded EventProcessor.act LegalAction w actions) :
    (run EventProcessor.act w actions).Sorted ∧ (run EventProcessor.act w actions).Room :=
  run_invariant _ LegalAction (fun w => w.Sorted ∧ w.Room)
    (fun _ _ hkept haction => ⟨hkept.1.act hkept.2 haction, hkept.2.act haction⟩) ⟨h, hroom⟩ hlegal

-- What has been executed comes before all that is left.
structure Led (log : List Entry) (w : EventProcessor) : Prop where
  before : log.Pairwise Before
  time : ∀ entry ∈ log, entry.time ≤ w.time
  seq : ∀ entry ∈ log, entry.seq < w.nextSeq
  left : ∀ entry ∈ log, ∀ other ∈ w.entries, Before entry other

theorem mem_entries_insert {other : Entry} :
    other ∈ (w.insert event time).entries ↔ other = ⟨time, event, w.nextSeq⟩ ∨ other ∈ w.entries := by
  rw [EventProcessor.insert, entries, entries]
  split_ifs
  · show other ∈ insertEntry _ w.passed ++ w.events ↔ _
    rw [mem_append, mem_insertEntry, mem_append, or_assoc]
  · show other ∈ w.passed ++ insertEntry _ w.events ↔ _
    rw [mem_append, mem_insertEntry, mem_append, or_left_comm]

theorem Led.insert (h : Led log w) (htime : w.time ≤ time) : Led log (w.insert event time) := by
  refine ⟨h.before, fun entry hentry => ?_, fun entry hentry => ?_, fun entry hentry other hother => ?_⟩
  · rw [time_insert]
    exact h.time entry hentry
  · rw [nextSeq_insert]
    exact Nat.lt_succ_of_lt (h.seq entry hentry)
  · rcases mem_entries_insert.mp hother with rfl | hmem
    · have hle := Nat.le_trans (h.time entry hentry) htime
      have hseq := h.seq entry hentry
      unfold Before
      dsimp only
      omega
    · exact h.left entry hentry other hmem

theorem Led.sublist (h : Led log w) (htime : w.time ≤ after.time) (hseq : after.nextSeq = w.nextSeq)
    (hentries : after.entries.Sublist w.entries) : Led log after :=
  ⟨h.before, fun entry hentry => Nat.le_trans (h.time entry hentry) htime,
    fun entry hentry => hseq.symm ▸ h.seq entry hentry,
    fun entry hentry other hother => h.left entry hentry other (hentries.subset hother)⟩

theorem Led.act (h : Led log w) {action : Action} (hlegal : w.LegalAction action) : Led log (w.act action) := by
  cases action with
  | addEvent event time =>
    exact (h.insert (Nat.le_of_lt hlegal.2)).sublist (Nat.le_refl _) rfl (List.Sublist.refl _)
  | scheduleAbort event =>
    rw [EventProcessor.act, scheduleAbort_eq hlegal.2]
    exact h.sublist (Nat.le_refl _) rfl (List.Sublist.refl _)

theorem Led.run (h : Led log w) (hlegal : Guarded EventProcessor.act LegalAction w actions) :
    Led log (run EventProcessor.act w actions) :=
  run_invariant _ LegalAction (Led log) (fun _ _ hled haction => hled.act haction) h hlegal

theorem Led.take (h : Led log w) (hsorted : w.Sorted) (hpassed : w.passed = []) (hevents : w.events = head :: rest)
    (hdue : head.time ≤ w.time) : Led (log ++ [head]) (w.take head rest) := by
  have hentries : w.entries = head :: rest := by rw [entries, hpassed, hevents, nil_append]
  have hleft : (w.take head rest).entries = rest := by
    show w.passed ++ rest = rest
    rw [hpassed, nil_append]
  have hmem : head ∈ w.entries := hentries ▸ mem_cons_self
  have hbefore := hsorted.before
  rw [hentries, pairwise_cons] at hbefore
  refine ⟨?_, ?_, ?_, ?_⟩
  · refine pairwise_append.mpr ⟨h.before, pairwise_singleton _ _, fun entry hentry other hother => ?_⟩
    rw [mem_singleton.mp hother]
    exact h.left entry hentry head hmem
  · intro entry hentry
    rcases mem_append.mp hentry with hold | hnew
    · exact h.time entry hold
    · rw [mem_singleton.mp hnew]
      exact hdue
  · intro entry hentry
    rcases mem_append.mp hentry with hold | hnew
    · exact h.seq entry hold
    · rw [mem_singleton.mp hnew]
      exact hsorted.seq head hmem
  · intro entry hentry other hother
    rw [hleft] at hother
    rcases mem_append.mp hentry with hold | hnew
    · exact h.left entry hold other (hentries ▸ mem_cons_of_mem head hother)
    · rw [mem_singleton.mp hnew]
      exact hbefore.1 other hother

theorem Sorted.take (h : w.Sorted) (hevents : w.events = head :: rest) : (w.take head rest).Sorted := by
  refine h.sublist ?_ rfl
  show (w.passed ++ rest).Sublist (w.passed ++ w.events)
  rw [hevents]
  exact (sublist_cons_self head rest).append_left w.passed

theorem sublist_hold (hevents : w.events = head :: rest) : (w.hold head rest).entries.Sublist w.entries := by
  show (w.passed ++ rest).Sublist (w.passed ++ w.events)
  rw [hevents]
  exact (sublist_cons_self head rest).append_left w.passed

theorem setAborted_entries : (w.setAborted event).entries = w.entries := by
  rw [setAborted]
  split_ifs <;> rfl

theorem setAborted_nextSeq : (w.setAborted event).nextSeq = w.nextSeq := by
  rw [setAborted]
  split_ifs <;> rfl

theorem setAborted_time : (w.setAborted event).time = w.time := by
  rw [setAborted]
  split_ifs <;> rfl

theorem calculateTime_one (h : w.time + 1 < 18446744073709551616) : w.calculateTime 1 = w.time + 1 :=
  Nat.mod_eq_of_lt h

-- A turn of Update keeps the container in order, and adds what it executes to
-- the executions.
structure Turned (w after : EventProcessor) : Prop where
  sorted : after.Sorted
  time : after.time = w.time
  ran : ∃ run, after.ran = w.ran ++ run ∧ after.executions = w.executions ++ run ∧
    ∀ log, Led log w → Led (log ++ run) after

theorem Turned.execute (hsorted : w.Sorted) (hloop : w.loop = .updating) (hpassed : w.passed = [])
    (hevents : w.events = head :: rest) (hdue : head.time ≤ w.time) (hlegal : w.LegalExecute head rest answer) :
    Turned w (w.execute head rest answer) := by
  have hroom : (w.take head rest).Room := by
    refine .inl ⟨hpassed, ?_⟩
    show ∀ force final, w.loop ≠ .killing force final
    rw [hloop]
    exact fun _ _ h => by cases h
  have hcalls := Calls.run hlegal.1
  have hexecutions : (w.take head rest).executions = w.executions ++ [head] := by
    show (w.record (.executed head)).executions = _
    rw [executions_record]
    rfl
  have hrun := ((hsorted.take hevents).run hroom hlegal.1).1
  have hled : ∀ log, Led log w → Led (log ++ [head]) (run act (w.take head rest) answer.actions) :=
    fun log h => (h.take hsorted hpassed hevents hdue).run hlegal.1
  rw [EventProcessor.execute]
  split_ifs with hdestroy
  · refine ⟨hrun.sublist (List.Sublist.refl _) rfl, hcalls.time, [head], hcalls.ran, ?_, fun log h => ?_⟩
    · show (EventProcessor.record _ (.deleted head.event true)).executions = _
      rw [executions_record, hcalls.executions, hexecutions]
      exact append_nil _
    · exact (hled log h).sublist (Nat.le_refl _) rfl (List.Sublist.refl _)
  · exact ⟨hrun, hcalls.time, [head], hcalls.ran, hcalls.executions.trans hexecutions, hled⟩

theorem Turned.abort (hsorted : w.Sorted) (hloop : w.loop = .updating) (hpassed : w.passed = [])
    (hevents : w.events = head :: rest) (hlegal : w.LegalAbort head rest answer) :
    Turned w (w.abort head rest answer) := by
  have hroom : ((w.hold head rest).record (.abort head.event)).Room := by
    refine .inl ⟨hpassed, ?_⟩
    show ∀ force final, w.loop ≠ .killing force final
    rw [hloop]
    exact fun _ _ h => by cases h
  have hheld : (w.hold head rest).Sorted := hsorted.sublist (sublist_hold hevents) rfl
  have hleft : ∀ log, Led log w → Led log (w.hold head rest) :=
    fun log h => h.sublist (Nat.le_refl _) rfl (sublist_hold hevents)
  rw [EventProcessor.abort]
  split_ifs with hstate
  · have hcalls := Calls.run (hlegal hstate)
    have hrecorded : ((w.hold head rest).record (.abort head.event)).Sorted :=
      hheld.sublist (List.Sublist.refl _) rfl
    have hrun := (hrecorded.run hroom (hlegal hstate)).1
    have htrace : ∀ v : EventProcessor, (v.setAborted head.event).ran = v.ran ∧
        (v.setAborted head.event).executions = v.executions := by
      intro v
      rw [setAborted]
      split_ifs <;> exact ⟨rfl, rfl⟩
    refine ⟨hrun.sublist (by rw [setAborted_entries]) setAborted_nextSeq, ?_, [], ?_, ?_, fun log h => ?_⟩
    · rw [setAborted_time]
      exact hcalls.time
    · rw [(htrace _).1, append_nil]
      exact hcalls.ran
    · rw [(htrace _).2, hcalls.executions, executions_record]
      rfl
    · rw [append_nil]
      have hled : Led log ((w.hold head rest).record (.abort head.event)) :=
        (hleft log h).sublist (Nat.le_refl _) rfl (List.Sublist.refl _)
      exact (hled.run (hlegal hstate)).sublist (Nat.le_of_eq setAborted_time.symm) setAborted_nextSeq
        (by rw [setAborted_entries])
  · exact ⟨hheld, rfl, [], (append_nil _).symm, (append_nil _).symm,
      fun log h => by rw [append_nil]; exact hleft log h⟩

theorem Turned.drop (hsorted : w.Sorted) (hroom : w.Room) (hclock : w.time + 1 < 18446744073709551616)
    (answer : Answer) : Turned w (w.drop event answer) := by
  rw [EventProcessor.drop]
  split_ifs with hdeletable
  · refine ⟨hsorted.sublist (List.Sublist.refl _) rfl, rfl, [], (append_nil _).symm, ?_, fun log h => ?_⟩
    · show (w.record (.deleted event false)).executions = _
      rw [executions_record]
      rfl
    · rw [append_nil]
      exact h.sublist (Nat.le_refl _) rfl (List.Sublist.refl _)
  · refine ⟨(hsorted.insert hroom).sublist (List.Sublist.refl _) rfl, time_insert, [], ?_, ?_, fun log h => ?_⟩
    · rw [append_nil]
      exact ran_insert
    · show (w.insert event (w.calculateTime 1)).trace.filterMap _ = _
      rw [trace_insert, append_nil]
      rfl
    · rw [append_nil]
      have htime : w.time ≤ w.calculateTime 1 := by
        rw [calculateTime_one hclock]
        exact Nat.le_succ _
      exact (h.insert htime).sublist (Nat.le_refl _) rfl (List.Sublist.refl _)

theorem Turned.trans {last : EventProcessor} (first : Turned w after) (second : Turned after last) : Turned w last := by
  obtain ⟨run, hran, hexecutions, hled⟩ := first.ran
  obtain ⟨more, hran', hexecutions', hled'⟩ := second.ran
  refine ⟨second.sorted, second.time.trans first.time, run ++ more, ?_, ?_, fun log h => ?_⟩
  · rw [hran', hran, append_assoc]
  · rw [hexecutions', hexecutions, append_assoc]
  · rw [← append_assoc]
    exact hled' _ (hled log h)

theorem Turned.quiet (hsorted : w.Sorted) (hentries : after.entries.Sublist w.entries) (hseq : after.nextSeq = w.nextSeq)
    (htime : after.time = w.time) (hran : after.ran = w.ran) (hexecutions : after.executions = w.executions) :
    Turned w after :=
  ⟨hsorted.sublist hentries hseq, htime, [], hran.trans (append_nil _).symm,
    hexecutions.trans (append_nil _).symm,
    fun log h => by rw [append_nil]; exact h.sublist (Nat.le_of_eq htime.symm) hseq hentries⟩

theorem executions_deleted {executed : Bool} : (w.record (.deleted event executed)).executions = w.executions := by
  rw [executions_record]
  exact append_nil _

theorem Turned.kill (hsorted : w.Sorted) (hat : At head w)
    (hlegal : w.abortState head.event ≠ .aborted →
      Guarded EventProcessor.act LegalAction ((w.setAborted head.event).record (.abort head.event)) answer.actions) :
    Turned w (w.kill head answer) := by
  rw [EventProcessor.kill]
  split_ifs with hstate
  · exact Turned.quiet hsorted (List.Sublist.refl _) rfl rfl rfl rfl
  · have hcalls := Calls.run (hlegal hstate)
    have hexecutions : ((w.setAborted head.event).record (.abort head.event)).executions = w.executions := by
      rw [executions_record, setAborted, if_neg hstate]
      exact append_nil _
    have hfields : (w.setAborted head.event).ran = w.ran ∧ At head (w.setAborted head.event) := by
      rw [setAborted, if_neg hstate]
      exact ⟨rfl, hat⟩
    have hmarked : Turned w ((w.setAborted head.event).record (.abort head.event)) :=
      Turned.quiet hsorted (by show (w.setAborted head.event).entries.Sublist _; rw [setAborted_entries])
        setAborted_nextSeq setAborted_time hfields.1 hexecutions
    refine hmarked.trans ⟨(hmarked.sorted.run (.inr ⟨head, hfields.2⟩) (hlegal hstate)).1, hcalls.time, [], ?_, ?_,
      fun log h => ?_⟩
    · rw [append_nil]
      exact hcalls.ran
    · rw [append_nil]
      exact hcalls.executions
    · rw [append_nil]
      exact h.run (hlegal hstate)

theorem Turned.advance (hsorted : w.Sorted) (hevents : w.events = head :: rest) (force : Bool) (answer : Answer) :
    Turned w (w.advance head force answer) := by
  have hpassed : w.passed ++ [head] ++ rest = w.entries := by
    rw [entries, hevents, append_assoc]
    rfl
  rw [EventProcessor.advance, hevents, tail_cons]
  split_ifs with hskip hforce
  · refine Turned.quiet hsorted ?_ rfl rfl rfl rfl
    show (w.passed ++ [head] ++ rest).Sublist w.entries
    rw [hpassed]
  · refine Turned.quiet hsorted ?_ rfl rfl rfl executions_deleted
    show (w.passed ++ [head] ++ rest).Sublist w.entries
    rw [hpassed]
  · exact Turned.quiet hsorted (sublist_hold hevents) rfl rfl rfl executions_deleted

theorem Turned.updateTurn (hsorted : w.Sorted) (hloop : w.loop = .updating) (hpassed : w.passed = [])
    (hclock : w.time + 1 < 18446744073709551616) (hlegal : w.LegalUpdate answer) : Turned w (w.updateTurn answer) := by
  rw [LegalUpdate] at hlegal
  rw [EventProcessor.updateTurn]
  split
  · exact Turned.quiet hsorted (List.Sublist.refl _) rfl rfl rfl rfl
  · next head rest hevents =>
      rw [hevents] at hlegal
      split_ifs with hlater hrunning
      · exact Turned.quiet hsorted (List.Sublist.refl _) rfl rfl rfl rfl
      · have hdue := Nat.le_of_not_lt hlater
        have hexecute := hlegal hdue
        rw [if_pos hrunning] at hexecute
        exact Turned.execute hsorted hloop hpassed hevents hdue hexecute
      · have habort := hlegal (Nat.le_of_not_lt hlater)
        rw [if_neg hrunning] at habort
        have hturned := Turned.abort hsorted hloop hpassed hevents habort
        obtain ⟨-, hloop', hpassed'⟩ := fields_abort hloop hpassed habort
        refine hturned.trans (Turned.drop hturned.sorted (.inl ⟨hpassed', ?_⟩) (by rw [hturned.time]; exact hclock) _)
        rw [hloop']
        exact fun _ _ h => by cases h

theorem Turned.killTurn (hsorted : w.Sorted) {force final : Bool} (hloop : w.loop = .killing force final)
    (hlegal : w.LegalKill answer) : Turned w (w.killTurn force final answer) := by
  rw [EventProcessor.killTurn]
  split
  · next hnil =>
      refine Turned.quiet hsorted ?_ rfl rfl rfl rfl
      show ([] ++ if force then [] else w.passed : List Entry).Sublist (w.passed ++ w.events)
      rw [hnil, nil_append, append_nil]
      cases force
      · exact List.Sublist.refl _
      · exact nil_sublist _
  · next head rest hevents =>
      have hat : At head w := ⟨⟨force, final, hloop⟩, by rw [hevents]; rfl⟩
      rw [LegalKill, hevents] at hlegal
      have hturned := Turned.kill hsorted hat hlegal
      obtain ⟨rest', hrest⟩ := List.head?_eq_some_iff.mp (kill_keeps hat hlegal).1.2
      exact hturned.trans (Turned.advance hturned.sorted hrest force answer)

end EventProcessor

end TurtleWow.Events

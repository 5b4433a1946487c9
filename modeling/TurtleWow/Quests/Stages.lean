import TurtleWow.Quests.Logged

namespace TurtleWow.Quests

open Run

-- A monitor of one quest: it breaks when a failed quest comes back or is rewarded
-- before it was removed from the log and accepted.

inductive Stage
  | free
  | failed
  | removed
  | broken
deriving DecidableEq

def Stage.next (quest : ℕ) : Stage → Event → Stage
  | .broken, _ => .broken
  | stage, .status other .failed => if other = quest then .failed else stage
  | stage, .status _ .none => stage
  | stage, .status other _ => if other = quest ∧ stage ≠ .free then .broken else stage
  | stage, .accepted other => if other = quest then (if stage = .failed then .broken else .free) else stage
  | stage, .removed other => if other = quest ∧ stage = .failed then .removed else stage
  | stage, .rewarded other => if other = quest ∧ stage ≠ .free then .broken else stage

def follow (quest : ℕ) (stage : Stage) (history : List Event) : Stage := run (Stage.next quest) stage history

def Event.quest : Event → ℕ
  | .status quest _ | .accepted quest | .removed quest | .rewarded quest => quest

-- What brings a quest back to life, or rewards it
def Event.Revives (quest : ℕ) (event : Event) : Prop :=
  event = .status quest .incomplete ∨ event = .status quest .complete ∨ event = .rewarded quest

theorem follow_append (quest : ℕ) (stage : Stage) (first second : List Event) :
    follow quest stage (first ++ second) = follow quest (follow quest stage first) second :=
  run_append _ _ _ _

theorem follow_cons (quest : ℕ) (stage : Stage) (event : Event) (rest : List Event) :
    follow quest stage (event :: rest) = follow quest (stage.next quest event) rest := rfl

variable {quest : ℕ} {event : Event}

theorem next_other (hother : event.quest ≠ quest) (stage : Stage) :
    stage.next quest event = stage := by
  cases event with
  | status other status =>
    have hne : other ≠ quest := hother
    cases stage <;> cases status <;> simp [Stage.next, hne]
  | accepted other =>
    have hne : other ≠ quest := hother
    cases stage <;> simp [Stage.next, hne]
  | removed other =>
    have hne : other ≠ quest := hother
    cases stage <;> simp [Stage.next, hne]
  | rewarded other =>
    have hne : other ≠ quest := hother
    cases stage <;> simp [Stage.next, hne]

theorem follow_other {events : List Event} (hother : ∀ event ∈ events, event.quest ≠ quest)
    (stage : Stage) : follow quest stage events = stage := by
  induction events generalizing stage with
  | nil => rfl
  | cons event rest ih =>
    obtain ⟨hevent, hrest⟩ := List.forall_mem_cons.mp hother
    rw [follow_cons, next_other hevent]
    exact ih hrest stage

theorem follow_broken (quest : ℕ) (events : List Event) : follow quest .broken events = .broken := by
  induction events with
  | nil => rfl
  | cons event rest ih => exact ih

theorem next_failed (stage : Stage) (quest : ℕ) (hstage : stage ≠ .broken) :
    stage.next quest (.status quest .failed) = .failed := by
  cases stage with
  | broken => exact absurd rfl hstage
  | _ => exact if_pos rfl

theorem free_of_revives {stage : Stage} (hrevives : event.Revives quest)
    (h : stage.next quest event ≠ .broken) : stage = .free := by
  cases stage with
  | free => rfl
  | broken => exact absurd rfl h
  | _ => rcases hrevives with rfl | rfl | rfl <;> exact absurd (if_pos ⟨rfl, nofun⟩) h

theorem accepted_of_next_free {stage : Stage} (hstage : stage ≠ .free)
    (h : stage.next quest event = .free) : event = .accepted quest := by
  by_cases hother : event.quest = quest
  · subst hother
    cases event with
    | accepted other => rfl
    | status other status => cases stage <;> cases status <;> simp_all [Stage.next, Event.quest]
    | removed other => cases stage <;> simp_all [Stage.next, Event.quest]
    | rewarded other => cases stage <;> simp_all [Stage.next, Event.quest]
  · exact absurd (next_other hother stage ▸ h) hstage

theorem removed_of_next (h : Stage.next quest .failed event ≠ .failed)
    (hsound : Stage.next quest .failed event ≠ .broken) : event = .removed quest := by
  by_cases hother : event.quest = quest
  · subst hother
    cases event with
    | removed other => rfl
    | status other status => cases status <;> simp_all [Stage.next, Event.quest]
    | accepted other => simp [Stage.next, Event.quest] at hsound
    | rewarded other => simp [Stage.next, Event.quest] at hsound
  · exact absurd (next_other hother _) h

theorem next_of_removed (quest : ℕ) : Stage.next quest .failed (.removed quest) = .removed := if_pos ⟨rfl, rfl⟩

theorem removed_of_left_failed {events : List Event} (h : follow quest .failed events ≠ .failed)
    (hsound : follow quest .failed events ≠ .broken) :
    ∃ before after, events = before ++ .removed quest :: after ∧
      follow quest .failed events = follow quest .removed after := by
  obtain ⟨before, event, after, rfl, hin, hout⟩ :=
    exists_exit (Stage.next quest) (fun stage => stage = .failed) (rfl : Stage.failed = .failed) h
  rw [hin] at hout
  have hevent : event = .removed quest := by
    refine removed_of_next hout fun hbroken => hsound ?_
    rw [follow_append, follow_cons, show follow quest .failed before = .failed from hin, hbroken]
    exact follow_broken quest after
  refine ⟨before, after, by rw [hevent], ?_⟩
  rw [follow_append, follow_cons, show follow quest .failed before = .failed from hin, hevent, next_of_removed]

theorem accepted_of_left_removed {events : List Event} (h : follow quest .removed events = .free) :
    ∃ before after, events = before ++ .accepted quest :: after := by
  obtain ⟨before, event, after, rfl, hin, hout⟩ :=
    exists_exit (Stage.next quest) (fun stage => stage ≠ .free) (nofun : Stage.removed ≠ .free)
      (fun hne => hne h)
  exact ⟨before, after, by rw [accepted_of_next_free hin (not_not.mp hout)]⟩

section

variable {before between after : List Event}

theorem unbroken_after_failed
    (h : follow quest .free (before ++ .status quest .failed :: between ++ event :: after) ≠ .broken) :
    (follow quest .failed between).next quest event ≠ .broken := by
  rw [follow_append, follow_append, follow_cons, follow_cons] at h
  have hbefore : follow quest .free before ≠ .broken := by
    intro hbroken
    rw [hbroken] at h
    change follow quest ((follow quest .broken between).next quest event) after ≠ .broken at h
    rw [follow_broken quest between] at h
    exact h (follow_broken quest after)
  rw [next_failed _ quest hbefore] at h
  exact fun hbroken => h (hbroken ▸ follow_broken quest after)

theorem removed_and_accepted
    (h : follow quest .free (before ++ .status quest .failed :: between ++ event :: after) ≠ .broken)
    (hrevives : event.Revives quest) :
    ∃ first second third, between = first ++ .removed quest :: second ++ .accepted quest :: third := by
  have hfree := free_of_revives hrevives (unbroken_after_failed h)
  have hleft : follow quest .failed between ≠ .failed := by rw [hfree]; exact nofun
  obtain ⟨first, rest, rfl, hrest⟩ := removed_of_left_failed hleft (by rw [hfree]; exact nofun)
  obtain ⟨second, third, rfl⟩ := accepted_of_left_removed (hrest ▸ hfree)
  exact ⟨first, second, third, by simp⟩

theorem removed_before_accepted
    (h : follow quest .free (before ++ .status quest .failed :: between ++ .accepted quest :: after) ≠ .broken) :
    .removed quest ∈ between := by
  have hnext := unbroken_after_failed h
  have hleft : follow quest .failed between ≠ .failed := fun hfailed => hnext (by simp [hfailed, Stage.next])
  obtain ⟨first, rest, rfl, -⟩ := removed_of_left_failed hleft fun hbroken => hnext (by rw [hbroken]; rfl)
  simp

end

end TurtleWow.Quests

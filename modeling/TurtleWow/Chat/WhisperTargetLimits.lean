import Mathlib.Data.List.Nodup
import Mathlib.Data.List.Perm.Subperm
import TurtleWow.Lib.Run

namespace TurtleWow.Chat

open Run List

-- The players an account may whisper to. Its limiter goes with the session, and
-- is saved through the database.

structure WhisperConfig where
  max_targets : UInt32
  bypass_level : UInt32
  decay : UInt32

-- A map from the target's guid to the time of the grant
abbrev Targets := List (UInt32 × UInt64)

namespace Targets

def assign (targets : Targets) (target_guid : UInt32) (time : UInt64) : Targets :=
  targets.filter (fun entry => entry.1 ≠ target_guid) ++ [(target_guid, time)]

def target_decay (config : WhisperConfig) (targets : Targets) (time : UInt64) : Targets :=
  targets.filter fun entry => ¬ config.decay.toUInt64 ≤ time - entry.2

def can_whisper (config : WhisperConfig) (targets : Targets) (time : UInt64) (target_guid level : UInt32) : Bool × Targets :=
  if config.bypass_level ≤ level ∨ config.max_targets = 0 then (true, targets)
  else if target_guid ∈ targets.map Prod.fst then (true, targets)
  else
    let targets := if config.max_targets.toNat ≤ targets.length then target_decay config targets time else targets
    if config.max_targets.toNat ≤ targets.length then (false, targets)
    else (true, targets.assign target_guid time)

-- From the rows of `whisper_targets`
def load_targets (rows : Targets) : Targets := rows.foldl (fun targets row => targets.assign row.1 row.2) []

end Targets

-- The rows of one account. The column of the time has 32 bits, and an INSERT of a
-- target that is there fails.
inductive Request
  | delete
  | insert (target_guid : UInt32) (time : UInt64)

-- `current` is the limiter that FindSession leads to, `leaving` counts those of
-- sessions that are no longer found and still to be destroyed, `requests` are with
-- the workers of the database. `granted` has the first true answer for each target.
structure Whispers where
  now : UInt64
  current : Option Targets
  leaving : Nat
  table : Targets
  requests : List Request
  granted : Targets

inductive WhisperStep
  | canWhisper (time : UInt64) (target_guid level : UInt32)
  | login (time : UInt64)
  | leave
  | destroy
  | complete (request : Nat)

namespace Whispers

def start : Whispers := ⟨0, none, 0, [], [], []⟩

-- The callback saves the targets of the session that it finds.
def execute (w : Whispers) : Request → Whispers
  | .delete =>
    { w with
      table := []
      requests := w.requests ++ (w.current.getD []).map fun entry => .insert entry.1 entry.2.toUInt32.toUInt64 }
  | .insert target_guid time =>
    if target_guid ∈ w.table.map Prod.fst then w else { w with table := w.table ++ [(target_guid, time)] }

def answered (w : Whispers) (time : UInt64) (target_guid : UInt32) (answer : Bool × Targets) : Whispers :=
  { w with
    now := time
    current := some answer.2
    granted :=
      if answer.1 = true ∧ target_guid ∉ w.granted.map Prod.fst then w.granted ++ [(target_guid, time)] else w.granted }

def step (config : WhisperConfig) (w : Whispers) : WhisperStep → Whispers
  | .canWhisper time target_guid level =>
    match w.current with
    | none => w
    | some targets => w.answered time target_guid (targets.can_whisper config time target_guid level)
  | .login time =>
    { w with
      now := time
      current := some (Targets.load_targets w.table)
      leaving := if w.current.isSome then w.leaving + 1 else w.leaving }
  | .leave => if w.current.isSome then { w with current := none, leaving := w.leaving + 1 } else w
  | .destroy => if w.leaving = 0 then w else { w with leaving := w.leaving - 1, requests := w.requests ++ [.delete] }
  | .complete request =>
    match w.requests[request]? with
    | none => w
    | some found => { w with requests := w.requests.eraseIdx request }.execute found

-- Levels below the bypass level, and a clock that does not go back
def Allowed (config : WhisperConfig) (w : Whispers) : WhisperStep → Prop
  | .canWhisper time _ level => w.now ≤ time ∧ level < config.bypass_level
  | .login time => w.now ≤ time
  | _ => True

-- A login finds in the table every target granted within the decay period.
def Loads (config : WhisperConfig) (w : Whispers) : WhisperStep → Prop
  | .login time => ∀ grant ∈ w.granted, time - grant.2 < config.decay.toUInt64 → grant ∈ w.table
  | _ => True

instance (config : WhisperConfig) (w : Whispers) : ∀ input, Decidable (Allowed config w input)
  | .canWhisper time _ level => inferInstanceAs (Decidable (w.now ≤ time ∧ level < config.bypass_level))
  | .login time => inferInstanceAs (Decidable (w.now ≤ time))
  | .leave => inferInstanceAs (Decidable True)
  | .destroy => inferInstanceAs (Decidable True)
  | .complete _ => inferInstanceAs (Decidable True)

instance (config : WhisperConfig) (w : Whispers) : ∀ input, Decidable (Loads config w input)
  | .login time =>
    List.decidableBAll (fun grant : UInt32 × UInt64 => time - grant.2 < config.decay.toUInt64 → grant ∈ w.table) w.granted
  | .canWhisper .. => inferInstanceAs (Decidable True)
  | .leave => inferInstanceAs (Decidable True)
  | .destroy => inferInstanceAs (Decidable True)
  | .complete _ => inferInstanceAs (Decidable True)

def within (first last : UInt64) (entry : UInt32 × UInt64) : Bool := first ≤ entry.2 ∧ entry.2 ≤ last

-- Grants in any window shorter than the decay period
def Limited (config : WhisperConfig) (w : Whispers) : Prop :=
  ∀ first last : UInt64, first ≤ last → last - first < config.decay.toUInt64 →
    w.granted.countP (within first last) ≤ config.max_targets.toNat

end Whispers

theorem sub_le_sub {first time last : UInt64} (h : first ≤ time) (h' : time ≤ last) : time - first ≤ last - first := by
  rw [UInt64.le_iff_toNat_le] at *
  rw [UInt64.toNat_sub_of_le _ _ (UInt64.le_iff_toNat_le.mpr h),
    UInt64.toNat_sub_of_le _ _ (UInt64.le_iff_toNat_le.mpr (h.trans h'))]
  omega

theorem sub_le_window {first time now last : UInt64} (h : first ≤ time) (h' : time ≤ now) (hlast : now ≤ last) :
    now - time ≤ last - first := by
  rw [UInt64.le_iff_toNat_le] at *
  rw [UInt64.toNat_sub_of_le _ _ (UInt64.le_iff_toNat_le.mpr h'),
    UInt64.toNat_sub_of_le _ _ (UInt64.le_iff_toNat_le.mpr (h.trans (h'.trans hlast)))]
  omega

namespace Targets

variable {targets rows : Targets} {target_guid : UInt32} {time : UInt64}

theorem mem_assign {entry : UInt32 × UInt64} :
    entry ∈ targets.assign target_guid time ↔ entry = (target_guid, time) ∨ entry ∈ targets ∧ entry.1 ≠ target_guid := by
  simp only [assign, mem_append, mem_filter, mem_singleton, decide_eq_true_eq]
  exact or_comm

theorem assign_of_notMem (h : target_guid ∉ targets.map Prod.fst) : targets.assign target_guid time = targets ++ [(target_guid, time)] := by
  unfold assign
  rw [filter_eq_self.mpr]
  intro entry hentry
  rw [decide_eq_true_iff]
  rintro rfl
  exact h (mem_map_of_mem hentry)

theorem load_targets_eq (h : (rows.map Prod.fst).Nodup) : load_targets rows = rows := by
  have hfold : ∀ loaded : Targets, ((loaded ++ rows).map Prod.fst).Nodup →
      rows.foldl (fun targets row => targets.assign row.1 row.2) loaded = loaded ++ rows := by
    clear h
    induction rows with
    | nil => simp
    | cons row rest ih =>
      intro loaded hnodup
      have hfresh : row.1 ∉ loaded.map Prod.fst := by
        rw [map_append, map_cons] at hnodup
        exact fun hmem => disjoint_of_nodup_append hnodup hmem mem_cons_self
      rw [foldl_cons, assign_of_notMem hfresh, ih, append_assoc, singleton_append]
      rwa [append_assoc, singleton_append]
  exact hfold [] h

theorem mem_target_decay {config : WhisperConfig} {entry : UInt32 × UInt64} :
    entry ∈ target_decay config targets time ↔ entry ∈ targets ∧ time - entry.2 < config.decay.toUInt64 := by
  simp [target_decay, mem_filter]

end Targets

namespace Whispers

variable {config : WhisperConfig} {w : Whispers}

structure Remembered (config : WhisperConfig) (w : Whispers) : Prop where
  past : ∀ grant ∈ w.granted, grant.2 ≤ w.now
  once : (w.granted.map Prod.fst).Nodup
  unique : (w.table.map Prod.fst).Nodup
  known : ∀ targets ∈ w.current, ∀ entry ∈ targets, entry.1 ∈ w.granted.map Prod.fst
  saved : ∀ entry ∈ w.table, entry.1 ∈ w.granted.map Prod.fst
  requested : ∀ target_guid time, .insert target_guid time ∈ w.requests → target_guid ∈ w.granted.map Prod.fst
  held : ∀ targets ∈ w.current, ∀ grant ∈ w.granted, w.now - grant.2 < config.decay.toUInt64 → grant ∈ targets
  limited : w.Limited config

theorem remembered_start : Remembered config start := by
  constructor <;> simp [start, Limited]

-- What the limiter drops before an answer has decayed.
def room (config : WhisperConfig) (targets : Targets) (time : UInt64) : Targets :=
  if config.max_targets.toNat ≤ targets.length then targets.target_decay config time else targets

theorem mem_room {targets : Targets} {time : UInt64} {entry : UInt32 × UInt64} (h : entry ∈ targets)
    (hfresh : time - entry.2 < config.decay.toUInt64) : entry ∈ room config targets time := by
  unfold room
  split_ifs
  · exact Targets.mem_target_decay.mpr ⟨h, hfresh⟩
  · exact h

theorem room_subset {targets : Targets} {time : UInt64} {entry : UInt32 × UInt64} (h : entry ∈ room config targets time) :
    entry ∈ targets := by
  unfold room at h
  split_ifs at h
  · exact (Targets.mem_target_decay.mp h).1
  · exact h

theorem limited_grant (h : Remembered config w) {targets : Targets} (hcurrent : targets ∈ w.current) {time : UInt64}
    {target_guid : UInt32} (htime : w.now ≤ time) (hroom : (room config targets time).length < config.max_targets.toNat)
    {first last : UInt64} (hwindow : last - first < config.decay.toUInt64) :
    (w.granted ++ [(target_guid, time)]).countP (within first last) ≤ config.max_targets.toNat ∨
      ¬ within first last (target_guid, time) = true := by
  by_cases hin : within first last (target_guid, time) = true
  · left
    have hbounds : first ≤ time ∧ time ≤ last := by simpa [within] using hin
    have hold : (w.granted.filter (within first last)).length ≤ (room config targets time).length := by
      apply List.Subperm.length_le
      apply List.Nodup.subperm
      · exact (List.Nodup.of_map Prod.fst h.once).filter _
      · intro grant hgrant
        obtain ⟨hmem, hinside⟩ := mem_filter.mp hgrant
        have hgrants : first ≤ grant.2 ∧ grant.2 ≤ last := by simpa [within] using hinside
        have hpast := h.past grant hmem
        have hfresh : time - grant.2 < config.decay.toUInt64 :=
          UInt64.lt_of_le_of_lt (sub_le_window hgrants.1 (UInt64.le_trans hpast htime) hbounds.2) hwindow
        exact mem_room (h.held targets hcurrent grant hmem (UInt64.lt_of_le_of_lt (sub_le_sub hpast htime) hfresh)) hfresh
    rw [countP_append, countP_eq_length_filter]
    simp only [countP_cons, countP_nil, hin, if_true]
    omega
  · exact .inr hin

theorem remembered_same (h : Remembered config w) {targets : Targets} {time : UInt64} (htime : w.now ≤ time)
    (hknown : ∀ entry ∈ targets, entry.1 ∈ w.granted.map Prod.fst)
    (hheld : ∀ grant ∈ w.granted, time - grant.2 < config.decay.toUInt64 → grant ∈ targets) :
    Remembered config { w with now := time, current := some targets } where
  past grant hgrant := UInt64.le_trans (h.past grant hgrant) htime
  once := h.once
  unique := h.unique
  known := by
    intro _ hcurrent
    cases hcurrent
    exact hknown
  saved := h.saved
  requested := h.requested
  held := by
    intro _ hcurrent
    cases hcurrent
    exact hheld
  limited := h.limited

theorem remembered_new (h : Remembered config w) {targets : Targets} (hcurrent : targets ∈ w.current) {time : UInt64}
    {target_guid : UInt32} (htime : w.now ≤ time) (hnew : target_guid ∉ w.granted.map Prod.fst)
    (hroom : (room config targets time).length < config.max_targets.toNat) :
    Remembered config { w with
      now := time
      current := some ((room config targets time).assign target_guid time)
      granted := w.granted ++ [(target_guid, time)] } where
  past grant hgrant := by
    rcases mem_append.mp hgrant with hold | hlast
    · exact UInt64.le_trans (h.past grant hold) htime
    · rw [mem_singleton.mp hlast]
      exact UInt64.le_refl time
  once := by
    rw [map_append, nodup_append]
    refine ⟨h.once, by simp, ?_⟩
    rintro other hother _ hlast rfl
    obtain rfl : other = target_guid := by simpa using hlast
    exact hnew hother
  unique := h.unique
  known := by
    intro _ hnext entry hentry
    cases hnext
    rw [map_append, mem_append]
    rcases Targets.mem_assign.mp hentry with rfl | ⟨hold, _⟩
    · exact .inr (mem_singleton.mpr rfl)
    · exact .inl (h.known targets hcurrent entry (room_subset hold))
  saved entry hentry := by
    rw [map_append]
    exact mem_append_left _ (h.saved entry hentry)
  requested guid saved hinsert := by
    rw [map_append]
    exact mem_append_left _ (h.requested guid saved hinsert)
  held := by
    intro _ hnext grant hgrant hfresh
    cases hnext
    rw [Targets.mem_assign]
    rcases mem_append.mp hgrant with hold | hlast
    · right
      have hpast := h.past grant hold
      refine ⟨mem_room (h.held targets hcurrent grant hold (UInt64.lt_of_le_of_lt (sub_le_sub hpast htime) hfresh)) hfresh, ?_⟩
      rintro rfl
      exact hnew (mem_map_of_mem hold)
    · exact .inl (mem_singleton.mp hlast)
  limited first last hle hwindow := by
    rcases limited_grant h hcurrent htime hroom hwindow with hcount | hout
    · exact hcount
    · have hold := h.limited first last hle hwindow
      rw [countP_append]
      simp only [countP_cons, countP_nil, hout, if_false, Bool.false_eq_true]
      omega

theorem can_whisper_eq {targets : Targets} {time : UInt64} {target_guid level : UInt32} (hmax : config.max_targets ≠ 0)
    (hlevel : level < config.bypass_level) : targets.can_whisper config time target_guid level =
      if target_guid ∈ targets.map Prod.fst then (true, targets)
      else if config.max_targets.toNat ≤ (room config targets time).length then (false, room config targets time)
      else (true, (room config targets time).assign target_guid time) := by
  have hgate : ¬ (config.bypass_level ≤ level ∨ config.max_targets = 0) := by
    rintro (hle | hzero)
    · exact absurd hlevel (UInt32.not_lt.mpr hle)
    · exact hmax hzero
  unfold Targets.can_whisper
  rw [if_neg hgate]
  rfl

theorem canWhisper_step (hmax : config.max_targets ≠ 0) (h : Remembered config w) {time : UInt64} {target_guid level : UInt32}
    (htime : w.now ≤ time) (hlevel : level < config.bypass_level) :
    Remembered config (w.step config (.canWhisper time target_guid level)) := by
  unfold step
  cases hcurrent : w.current with
  | none => exact h
  | some targets =>
    have hmem : targets ∈ w.current := hcurrent
    have hheld : ∀ grant ∈ w.granted, time - grant.2 < config.decay.toUInt64 → grant ∈ targets := fun grant hgrant hfresh =>
      h.held targets hmem grant hgrant (UInt64.lt_of_le_of_lt (sub_le_sub (h.past grant hgrant) htime) hfresh)
    dsimp only
    rw [can_whisper_eq hmax hlevel]
    unfold answered
    by_cases hfound : target_guid ∈ targets.map Prod.fst
    · have hold : target_guid ∈ w.granted.map Prod.fst := by
        obtain ⟨entry, hentry, rfl⟩ := mem_map.mp hfound
        exact h.known targets hmem entry hentry
      rw [if_pos hfound, if_neg (fun hnew => hnew.2 hold)]
      exact remembered_same h htime (h.known targets hmem) hheld
    rw [if_neg hfound]
    by_cases hfull : config.max_targets.toNat ≤ (room config targets time).length
    · rw [if_pos hfull, if_neg (by simp)]
      exact remembered_same h htime (fun entry hentry => h.known targets hmem entry (room_subset hentry))
        fun grant hgrant hfresh => mem_room (hheld grant hgrant hfresh) hfresh
    rw [if_neg hfull]
    by_cases hold : target_guid ∈ w.granted.map Prod.fst
    · rw [if_neg (fun hnew => hnew.2 hold)]
      apply remembered_same h htime
      · intro entry hentry
        rcases Targets.mem_assign.mp hentry with rfl | ⟨hkept, _⟩
        · exact hold
        · exact h.known targets hmem entry (room_subset hkept)
      · intro grant hgrant hfresh
        have hmem' := hheld grant hgrant hfresh
        refine Targets.mem_assign.mpr (.inr ⟨mem_room hmem' hfresh, ?_⟩)
        rintro rfl
        exact hfound (mem_map_of_mem hmem')
    · rw [if_pos ⟨rfl, hold⟩]
      exact remembered_new h hmem htime hold (by omega)

theorem login_step (h : Remembered config w) {time : UInt64} (htime : w.now ≤ time)
    (hloads : w.Loads config (.login time)) : Remembered config (w.step config (.login time)) := by
  have hsame := remembered_same h htime h.saved hloads
  unfold step
  rw [Targets.load_targets_eq h.unique]
  exact { hsame with }

theorem execute_step (h : Remembered config w) (request : Request)
    (hrequest : ∀ target_guid time, request = .insert target_guid time → target_guid ∈ w.granted.map Prod.fst) :
    Remembered config (w.execute request) := by
  cases request with
  | delete =>
    refine { h with unique := nodup_nil, saved := by simp [execute], requested := ?_ }
    intro target_guid time hinsert
    rcases mem_append.mp hinsert with hold | hnew
    · exact h.requested target_guid time hold
    · obtain ⟨entry, hentry, heq⟩ := mem_map.mp hnew
      cases heq
      cases hcurrent : w.current with
      | none => simp [hcurrent] at hentry
      | some targets => exact h.known targets hcurrent entry (by simpa [hcurrent] using hentry)
  | insert target_guid time =>
    simp only [execute]
    split_ifs with hthere
    · exact h
    · refine { h with unique := ?_, saved := ?_ }
      · rw [map_append, nodup_append]
        refine ⟨h.unique, by simp, ?_⟩
        rintro other hother _ hlast rfl
        obtain rfl : other = target_guid := by simpa using hlast
        exact hthere hother
      · intro entry hentry
        rcases mem_append.mp hentry with hold | hlast
        · exact h.saved entry hold
        · rw [mem_singleton.mp hlast]
          exact hrequest target_guid time rfl

theorem remembered_step (hmax : config.max_targets ≠ 0) (input : WhisperStep) (h : Remembered config w)
    (hallowed : w.Allowed config input) (hloads : w.Loads config input) : Remembered config (w.step config input) := by
  cases input with
  | canWhisper time target_guid level => exact canWhisper_step hmax h hallowed.1 hallowed.2
  | login time => exact login_step h hallowed hloads
  | leave =>
    simp only [step]
    split_ifs
    · exact { h with known := by simp, held := by simp }
    · exact h
  | destroy =>
    simp only [step]
    split_ifs
    · exact h
    · refine { h with requested := ?_ }
      intro target_guid time hinsert
      apply h.requested target_guid time
      simpa using hinsert
  | complete request =>
    simp only [step]
    cases hfound : w.requests[request]? with
    | none => exact h
    | some found =>
      have hmem : found ∈ w.requests := mem_of_getElem? hfound
      apply execute_step
      · refine { h with requested := ?_ }
        intro target_guid time hinsert
        exact h.requested target_guid time (mem_of_mem_eraseIdx hinsert)
      · rintro target_guid time rfl
        exact h.requested target_guid time hmem

def oneTarget : WhisperConfig := ⟨1, 10, 60⟩

-- The save of one session, late enough to find the targets of the next
def lateSave : List WhisperStep :=
  [.login 100, .leave, .destroy, .login 100, .canWhisper 100 1 1, .complete 0, .complete 0, .leave, .login 101,
    .canWhisper 101 2 1]

-- A save carried out before the next login
def relog : List WhisperStep :=
  [.login 100, .canWhisper 100 1 1, .leave, .destroy, .complete 0, .login 101, .canWhisper 101 2 1]

end Whispers

end TurtleWow.Chat

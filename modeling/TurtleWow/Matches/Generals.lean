import TurtleWow.Matches.Ground

namespace TurtleWow.Matches.Sunnyglade

open Battlegrounds (Team)
open Run

-- The sparks of both teams, and the generals of the final event.

-- A general that the map holds, with the health_max of its template
structure General where
  templateHealth : UInt32
  maxHealth : UInt32

structure Sparks where
  resources : Team → UInt32
  generalsActive : Bool
  general : Team → Option General
  -- how often StartFinalEvent has run
  finalEvents : Nat

-- The products and the comparison are unsigned, and the sums in between too.
def updateGeneralHealth (templateHealth ourSparks enemySparks : UInt32) : UInt32 :=
  let health := templateHealth.toInt32
  let health := (health.toUInt32 + (health / 3).toUInt32 * ourSparks - (health / 6).toUInt32 * enemySparks).toInt32
  let health := if health.toUInt32 ≤ templateHealth then templateHealth.toInt32 else health
  health.toUInt32

namespace Sparks

def updated (s : Sparks) (team : Team) (templateHealth : UInt32) : General :=
  ⟨templateHealth, updateGeneralHealth templateHealth (s.resources team) (s.resources (getOtherTeam team))⟩

def updateGenerals (s : Sparks) : Sparks :=
  { s with general := fun team => (s.general team).map fun g => s.updated team g.templateHealth }

-- `created` is what AddCreature gives: the template's health, or no creature.
def startFinalEvent (created : Team → Option UInt32) (s : Sparks) : Sparks :=
  { s with
    generalsActive := true
    finalEvents := s.finalEvents + 1
    general := fun team =>
      match created team with
      | some templateHealth => some (s.updated team templateHealth)
      | none => s.general team }

def credited (s : Sparks) (team : Team) (count : UInt32) : Sparks :=
  { s with resources := Function.update s.resources team (s.resources team + count) }

def addTeamSparks (maxSparks : UInt32) (created : Team → Option UInt32) (team : Team) (count : UInt32) (s : Sparks) :
    Sparks :=
  let s := s.credited team count
  if s.generalsActive then s.updateGenerals
  else if maxSparks ≤ s.resources .ALLIANCE + s.resources .HORDE then s.startFinalEvent created
  else s

def start : Sparks := ⟨fun _ => 0, false, fun _ => none, 0⟩

end Sparks

inductive Event where
  | sparks (team : Team) (count : UInt32) (created : Team → Option UInt32)
  -- What becomes of a general elsewhere: another maximum, or it is gone.
  | general (team : Team) (maxHealth : Option UInt32)

section

variable (maxSparks : UInt32)

def step (s : Sparks) : Event → Sparks
  | .sparks team count created => s.addTeamSparks maxSparks created team count
  | .general team maxHealth =>
    let changed := (s.general team).bind fun g => maxHealth.map fun health => { g with maxHealth := health }
    { s with general := Function.update s.general team changed }

def after (events : List Event) : Sparks := run (step maxSparks) Sparks.start events

-- What the sparks of a run are, and what they are for

def gain (team : Team) : Event → Nat
  | .sparks gainer count _ => if gainer = team then count.toNat else 0
  | .general _ _ => 0

def total (team : Team) (events : List Event) : Nat := (events.map (gain team)).sum

-- The last event is a call after which the sparks reach the maximum.
def Reaches (events : List Event) : Prop :=
  (∃ before team count created, events = before ++ [.sparks team count created]) ∧
    maxSparks.toNat ≤ total .ALLIANCE events + total .HORDE events

def First (before : List Event) (event : Event) : Prop :=
  Reaches maxSparks (before ++ [event]) ∧ ∀ earlier, earlier <+: before → ¬Reaches maxSparks earlier

end

def growth (health own enemy : Nat) : Int := health + (health / 3 : Nat) * own - (health / 6 : Nat) * enemy

structure Correct (maxSparks : UInt32) (before : List Event) (event : Event) : Prop where
  started : First maxSparks before event →
    (after maxSparks (before ++ [event])).finalEvents = (after maxSparks before).finalEvents + 1
  notStarted : ¬First maxSparks before event →
    (after maxSparks (before ++ [event])).finalEvents = (after maxSparks before).finalEvents
  health : ∀ team count created, event = .sparks team count created →
    (after maxSparks (before ++ [event])).finalEvents ≠ 0 →
    ∀ side g, (after maxSparks (before ++ [event])).general side = some g →
    let due := max (g.templateHealth.toNat : Int)
      (growth g.templateHealth.toNat (total side (before ++ [event])) (total (getOtherTeam side) (before ++ [event])))
    due < 2 ^ 31 → (g.maxHealth.toNat : Int) = due

-- No sum wraps around, and no growth is below zero and yet a large unsigned number.

def Clear (health own enemy : Nat) : Prop :=
  2 ^ 31 ≤ health ∨ 0 ≤ growth health own enemy ∨ growth health own enemy % 2 ^ 32 ≤ health

def gained (s : Sparks) (team : Team) (count : UInt32) (side : Team) : Nat :=
  (s.resources side).toNat + if team = side then count.toNat else 0

-- The template of the general that a call updates
def present (maxSparks : UInt32) (s : Sparks) (team : Team) (count : UInt32) (created : Team → Option UInt32) (side : Team) :
    Option UInt32 :=
  if s.generalsActive then (s.general side).map (·.templateHealth)
  else if maxSparks.toNat ≤ gained s team count .ALLIANCE + gained s team count .HORDE then created side
  else none

def Exact (maxSparks : UInt32) (s : Sparks) : Event → Prop
  | .sparks team count created =>
    gained s team count team < 2 ^ 32 ∧
    (s.generalsActive = false → gained s team count .ALLIANCE + gained s team count .HORDE < 2 ^ 32) ∧
    ∀ side, ∀ health ∈ present maxSparks s team count created side,
      Clear health.toNat (gained s team count side) (gained s team count (getOtherTeam side))
  | .general _ _ => True

theorem toInt_toInt32 {health : UInt32} (h : health.toNat < 2 ^ 31) : health.toInt32.toInt = health.toNat := by
  have hcond := BitVec.toInt_eq_toNat_cond health.toBitVec
  rw [if_pos (by rw [UInt32.toNat_toBitVec]; omega), UInt32.toNat_toBitVec] at hcond
  exact hcond

theorem toNat_share {health : UInt32} (h : health.toNat < 2 ^ 31) {parts : Int32} (hparts : 0 < parts.toInt) :
    (health.toInt32 / parts).toUInt32.toNat = health.toNat / parts.toInt.toNat := by
  have hle := Nat.div_le_self health.toNat parts.toInt.toNat
  have hnat : parts.toInt = (parts.toInt.toNat : Int) := (Int.toNat_of_nonneg hparts.le).symm
  have hshare : (health.toInt32 / parts).toInt = ((health.toNat / parts.toInt.toNat : Nat) : Int) := by
    rw [Int32.toInt_div, toInt_toInt32 h, hnat, ← Int.ofNat_tdiv, Int.toNat_natCast]
    generalize health.toNat / parts.toInt.toNat = share at hle ⊢
    exact Int.bmod_eq_of_le (by omega) (by omega)
  have hcond := BitVec.toInt_eq_toNat_cond (health.toInt32 / parts).toBitVec
  rw [show (health.toInt32 / parts).toBitVec.toInt = _ from hshare, Int32.toNat_toBitVec] at hcond
  have hlt := (health.toInt32 / parts).toUInt32.toNat_lt
  generalize health.toNat / parts.toInt.toNat = share at hle hcond ⊢
  split_ifs at hcond <;> omega

theorem toNat_updateGeneralHealth {health own enemy : UInt32} (h : health.toNat < 2 ^ 31) :
    ((updateGeneralHealth health own enemy).toNat : Int) =
      if growth health.toNat own.toNat enemy.toNat % 2 ^ 32 ≤ health.toNat then (health.toNat : Int)
      else growth health.toNat own.toNat enemy.toNat % 2 ^ 32 := by
  have hthird := toNat_share h (show 0 < (3 : Int32).toInt by decide)
  have hsixth := toNat_share h (show 0 < (6 : Int32).toInt by decide)
  have hsum : ((health.toInt32.toUInt32 + (health.toInt32 / 3).toUInt32 * own - (health.toInt32 / 6).toUInt32 * enemy).toNat : Int) =
      growth health.toNat own.toNat enemy.toNat % 2 ^ 32 := by
    rw [UInt32.toNat_sub, UInt32.toNat_add, UInt32.toNat_mul, UInt32.toNat_mul, hthird, hsixth, UInt32.toUInt32_toInt32]
    rw [growth, show (3 : Int32).toInt.toNat = 3 by decide, show (6 : Int32).toInt.toNat = 6 by decide, ← Int.natCast_mul,
      ← Int.natCast_mul]
    generalize health.toNat / 3 * own.toNat = gain
    generalize health.toNat / 6 * enemy.toNat = loss
    omega
  unfold updateGeneralHealth
  dsimp only
  rw [UInt32.toUInt32_toInt32, ← hsum]
  by_cases hle : health.toInt32.toUInt32 + (health.toInt32 / 3).toUInt32 * own - (health.toInt32 / 6).toUInt32 * enemy ≤ health
  · rw [if_pos hle, if_pos (by exact_mod_cast UInt32.le_iff_toNat_le.mp hle), UInt32.toUInt32_toInt32]
  · rw [if_neg hle, if_neg (by exact_mod_cast UInt32.le_iff_toNat_le.not.mp hle), UInt32.toUInt32_toInt32]

theorem updateGeneralHealth_due {health own enemy : UInt32} (hclear : Clear health.toNat own.toNat enemy.toNat)
    (hfits : max (health.toNat : Int) (growth health.toNat own.toNat enemy.toNat) < 2 ^ 31) :
    ((updateGeneralHealth health own enemy).toNat : Int) =
      max (health.toNat : Int) (growth health.toNat own.toNat enemy.toNat) := by
  have hhealth : health.toNat < 2 ^ 31 := by omega
  rw [toNat_updateGeneralHealth hhealth]
  unfold Clear at hclear
  split_ifs <;> omega

section

variable {maxSparks : UInt32} {s : Sparks} {before : List Event} {event : Event} {team : Team} {count : UInt32}
  {created : Team → Option UInt32}

theorem total_concat (side : Team) (before : List Event) (event : Event) :
    total side (before ++ [event]) = total side before + gain side event := by
  simp [total]

theorem after_concat : after maxSparks (before ++ [event]) = step maxSparks (after maxSparks before) event :=
  run_append ..

theorem not_reaches_general {maxHealth : Option UInt32} : ¬Reaches maxSparks (before ++ [.general team maxHealth]) := by
  rintro ⟨⟨earlier, _, _, _, heq⟩, -⟩
  obtain ⟨-, hevent⟩ := List.append_inj' heq rfl
  cases hevent

theorem reaches_sparks : Reaches maxSparks (before ++ [.sparks team count created]) ↔
    maxSparks.toNat ≤ total .ALLIANCE (before ++ [.sparks team count created]) +
      total .HORDE (before ++ [.sparks team count created]) :=
  and_iff_right ⟨before, team, count, created, rfl⟩

structure Counted (maxSparks : UInt32) (events : List Event) (s : Sparks) : Prop where
  resources : ∀ team, (s.resources team).toNat = total team events
  active : s.generalsActive = true ↔ ∃ earlier, earlier <+: events ∧ Reaches maxSparks earlier
  idle : s.generalsActive = false → ∀ team, s.general team = none
  finalEvents : s.finalEvents = if s.generalsActive then 1 else 0

theorem counted_start : Counted maxSparks [] Sparks.start := by
  refine ⟨fun _ => rfl, ?_, fun _ _ => rfl, rfl⟩
  simp only [Sparks.start, List.prefix_nil, exists_eq_left, Bool.false_eq_true, false_iff]
  rintro ⟨⟨earlier, _, _, _, heq⟩, -⟩
  simp at heq

theorem toNat_credited (hexact : gained s team count team < 2 ^ 32) (side : Team) :
    ((s.credited team count).resources side).toNat = gained s team count side := by
  unfold gained at *
  dsimp only [Sparks.credited]
  by_cases hside : team = side
  · subst hside
    rw [if_pos rfl] at *
    rw [Function.update_self, UInt32.toNat_add]
    exact Nat.mod_eq_of_lt hexact
  · rw [if_neg hside, Function.update_of_ne (Ne.symm hside)]
    omega

theorem gained_eq (h : Counted maxSparks before s) (side : Team) :
    gained s team count side = total side (before ++ [.sparks team count created]) := by
  rw [total_concat, gained, h.resources side, gain]

-- A call that neither wraps nor starts anything twice: what is started is what was due.
theorem addTeamSparks_cases (hexact : Exact maxSparks s (.sparks team count created)) :
    s.addTeamSparks maxSparks created team count =
      if s.generalsActive then (s.credited team count).updateGenerals
      else if maxSparks.toNat ≤ gained s team count .ALLIANCE + gained s team count .HORDE then
        (s.credited team count).startFinalEvent created
      else s.credited team count := by
  obtain ⟨hwrap, hsum, -⟩ := hexact
  have hA := toNat_credited hwrap .ALLIANCE
  have hH := toNat_credited hwrap .HORDE
  change (if s.generalsActive then (s.credited team count).updateGenerals
    else if maxSparks ≤ (s.credited team count).resources .ALLIANCE + (s.credited team count).resources .HORDE then
      (s.credited team count).startFinalEvent created
    else s.credited team count) = _
  cases hactive : s.generalsActive with
  | true => rfl
  | false =>
    have hlt := hsum hactive
    rw [← hA, ← hH] at hlt ⊢
    simp only [UInt32.le_iff_toNat_le, UInt32.toNat_add, Nat.mod_eq_of_lt hlt]

theorem prefix_reaches : (∃ earlier, earlier <+: before ++ [event] ∧ Reaches maxSparks earlier) ↔
    (∃ earlier, earlier <+: before ∧ Reaches maxSparks earlier) ∨ Reaches maxSparks (before ++ [event]) := by
  constructor
  · rintro ⟨earlier, hprefix, hreaches⟩
    rcases List.prefix_concat_iff.mp hprefix with rfl | hbefore
    · exact .inr hreaches
    · exact .inl ⟨earlier, hbefore, hreaches⟩
  · rintro (⟨earlier, hprefix, hreaches⟩ | hreaches)
    · exact ⟨earlier, hprefix.trans (List.prefix_append before [event]), hreaches⟩
    · exact ⟨_, List.prefix_rfl, hreaches⟩

theorem Counted.step (h : Counted maxSparks before s) (hexact : Exact maxSparks s event) :
    Counted maxSparks (before ++ [event]) (step maxSparks s event) := by
  cases event with
  | general team maxHealth =>
    refine ⟨fun side => ?_, ?_, fun hidle side => ?_, h.finalEvents⟩
    · rw [total_concat]
      exact h.resources side
    · rw [prefix_reaches, or_iff_left not_reaches_general]
      exact h.active
    · have hnone := h.idle hidle
      change Function.update s.general team _ side = none
      rw [hnone team, Option.bind_none]
      by_cases hside : side = team
      · rw [hside, Function.update_self]
      · rw [Function.update_of_ne hside, hnone side]
  | sparks team count created =>
    have hgained : ∀ side, gained s team count side = total side (before ++ [.sparks team count created]) := gained_eq h
    have hresources : ∀ side, ((s.credited team count).resources side).toNat = total side (before ++ [.sparks team count created]) :=
      fun side => (toNat_credited hexact.1 side).trans (hgained side)
    change Counted maxSparks _ (s.addTeamSparks maxSparks created team count)
    rw [addTeamSparks_cases hexact]
    simp only [hgained]
    split_ifs with hactive hreaches
    · exact ⟨hresources, by rw [prefix_reaches]; simp [Sparks.updateGenerals, Sparks.credited, hactive, h.active.mp hactive],
        fun hidle => absurd hactive (by simpa [Sparks.updateGenerals, Sparks.credited] using hidle), h.finalEvents⟩
    · refine ⟨hresources, ?_, fun hidle => ?_, ?_⟩
      · rw [prefix_reaches, or_iff_right_of_imp fun _ => reaches_sparks.mpr hreaches]
        exact iff_of_true rfl (reaches_sparks.mpr hreaches)
      · cases hidle
      · have hcount := h.finalEvents
        rw [if_neg hactive] at hcount
        simp [Sparks.startFinalEvent, Sparks.credited, hcount]
    · refine ⟨hresources, ?_, h.idle, h.finalEvents⟩
      rw [prefix_reaches, or_iff_left (reaches_sparks.not.mpr hreaches)]
      exact h.active

theorem counted_after {events : List Event} (h : Guarded (step maxSparks) (Exact maxSparks) Sparks.start events) :
    Counted maxSparks events (after maxSparks events) := by
  induction events using List.reverseRecOn with
  | nil => exact counted_start
  | append_singleton before event ih =>
    obtain ⟨hbefore, hevent, -⟩ := (guarded_append ..).mp h
    rw [after_concat]
    exact (ih hbefore).step hevent

section

variable (h : Counted maxSparks before s)

include h

theorem first_iff :
    First maxSparks before event ↔ s.generalsActive = false ∧ Reaches maxSparks (before ++ [event]) := by
  rw [First, and_comm, ← Bool.not_eq_true, h.active]
  simp only [not_exists, not_and]

theorem general_health (hexact : Exact maxSparks s (.sparks team count created))
    (hactive : (s.addTeamSparks maxSparks created team count).generalsActive = true) {side : Team} {g : General}
    (hg : (s.addTeamSparks maxSparks created team count).general side = some g) :
    present maxSparks s team count created side = some g.templateHealth ∧
      g = (s.credited team count).updated side g.templateHealth := by
  rw [addTeamSparks_cases hexact] at hactive hg
  unfold present
  split_ifs at hactive hg ⊢ with hbefore hreaches
  · obtain ⟨old, hold, rfl⟩ := Option.map_eq_some_iff.mp hg
    exact ⟨Option.map_eq_some_iff.mpr ⟨old, hold, rfl⟩, rfl⟩
  · change (match created side with | some templateHealth => _ | none => s.general side) = _ at hg
    cases hcreated : created side with
    | none =>
      rw [hcreated, h.idle (by simpa using hbefore) side] at hg
      cases hg
    | some templateHealth =>
      rw [hcreated] at hg
      cases hg
      exact ⟨rfl, rfl⟩
  · exact absurd hactive hbefore

theorem general_due (hexact : Exact maxSparks s (.sparks team count created))
    (hactive : (s.addTeamSparks maxSparks created team count).generalsActive = true) {side : Team} {g : General}
    (hg : (s.addTeamSparks maxSparks created team count).general side = some g) :
    let due := max (g.templateHealth.toNat : Int) (growth g.templateHealth.toNat (gained s team count side)
      (gained s team count (getOtherTeam side)))
    due < 2 ^ 31 → (g.maxHealth.toNat : Int) = due := by
  obtain ⟨hpresent, hupdated⟩ := general_health h hexact hactive hg
  have hclear := hexact.2.2 side g.templateHealth hpresent
  have hown := toNat_credited hexact.1 side
  have henemy := toNat_credited hexact.1 (getOtherTeam side)
  intro due hdue
  rw [show g.maxHealth = _ from congrArg General.maxHealth hupdated]
  dsimp only [due] at hdue ⊢
  rw [← hown, ← henemy] at hclear hdue ⊢
  exact updateGeneralHealth_due hclear hdue

end

-- The final event is started once, when the sparks are enough, and the generals' health
-- follows the sparks from then on.
theorem final_event (h : Guarded (step maxSparks) (Exact maxSparks) Sparks.start (before ++ [event])) :
    Correct maxSparks before event := by
  obtain ⟨hbefore, hexact, -⟩ := (guarded_append ..).mp h
  have hcounted := counted_after hbefore
  have hstep := hcounted.step hexact
  rw [show run (step maxSparks) Sparks.start before = after maxSparks before from rfl] at hexact
  have hactive := hstep.active
  rw [prefix_reaches, ← hcounted.active] at hactive
  refine ⟨fun hfirst => ?_, fun hfirst => ?_, ?_⟩
  · obtain ⟨hidle, hreaches⟩ := (first_iff hcounted).mp hfirst
    rw [after_concat, hstep.finalEvents, hcounted.finalEvents, if_pos (hactive.mpr (.inr hreaches)), hidle]
    rfl
  · rw [first_iff hcounted, not_and] at hfirst
    rw [after_concat, hstep.finalEvents, hcounted.finalEvents]
    cases hold : (after maxSparks before).generalsActive with
    | true => rw [if_pos (hactive.mpr (.inl hold))]; rfl
    | false =>
      rw [hold, or_iff_right (by simp)] at hactive
      rw [if_neg (hactive.not.mpr (hfirst hold))]
      rfl
  · rintro team count created rfl hstarted side g hg
    rw [after_concat] at hstarted hg
    rw [hstep.finalEvents] at hstarted
    have hnow : (step maxSparks (after maxSparks before) (.sparks team count created)).generalsActive = true := by
      by_contra hnot
      rw [if_neg hnot] at hstarted
      exact hstarted rfl
    rw [← gained_eq hcounted side, ← gained_eq hcounted (getOtherTeam side)]
    exact general_due hcounted hexact hnow hg

end

-- The call by which the generals appear
def appear (team : Team) (count : UInt32) : Event := .sparks team count fun _ => some 6000

theorem final_event_even : Correct 100 [appear .ALLIANCE 60] (appear .HORDE 50) := by
  have hidle : (step 100 Sparks.start (appear .ALLIANCE 60)).generalsActive = false := by decide
  apply final_event
  refine ⟨⟨by decide, fun _ => by decide, fun side health hhealth => ?_⟩,
    ⟨by decide, fun _ => by decide, fun side health hhealth => ?_⟩, trivial⟩
  · rw [present, if_neg (by decide), if_neg (by decide)] at hhealth
    cases hhealth
  · rw [present, if_neg (by decide), if_pos (by decide), Option.mem_some_iff] at hhealth
    subst hhealth
    cases side <;> exact .inr (.inl (by decide))

-- A hundred sparks of the enemy give the general a health of 4294873296, not his own.
theorem not_correct_behind : ¬∀ maxSparks before event, Correct maxSparks before event := by
  intro h
  have hhealth := (h 100 [] (appear .ALLIANCE 100)).health .ALLIANCE 100 (fun _ => some 6000) rfl (by decide) .HORDE
    ⟨6000, 4294873296⟩ rfl (by decide)
  revert hhealth
  decide

end TurtleWow.Matches.Sunnyglade

import Mathlib.Tactic.Ring
import TurtleWow.GameEvents.GameEventMgr

namespace TurtleWow.GameEvents

def max_ge_check_delay : Int := 86400

def uint32 (n : Int) : Int := n % 4294967296

namespace GameEventData

def shift (e : GameEventData) : Int := e.leapDays * 86400

-- The products are unsigned; a division by zero ends the program.
def checkOneGameEvent (e : GameEventData) (currenttime : Int) : Option Bool :=
  if e.start ≤ currenttime ∧ currenttime < e.finish then
    if uint32 (e.occurence * 60) = 0 then none
    else some (decide ((currenttime - e.start - e.shift).tmod (uint32 (e.occurence * 60)) < uint32 (e.length * 60)))
  else some false

def nextCheckWith (unsigned : Int → Int) (e : GameEventData) (currenttime : Int) : Option Int :=
  if currenttime > e.finish then some max_ge_check_delay
  else if e.start > currenttime then some (unsigned (e.start - currenttime))
  else if unsigned (e.occurence * 60) = 0 then none
  else
    let remainder := (currenttime - e.start - e.shift).tmod (unsigned (e.occurence * 60))
    let delay :=
      if remainder < unsigned (e.length * 60) then unsigned (unsigned (e.length * 60) - remainder)
      else unsigned (unsigned (e.occurence * 60) - remainder)
    if e.finish < currenttime + delay then some (unsigned (e.finish - currenttime)) else some delay

def nextCheck : GameEventData → Int → Option Int := nextCheckWith uint32

end GameEventData

-- What Update sleeps, given the delays of all its events
def sleep (calcDelays : List Int) : Int := calcDelays.foldl min max_ge_check_delay + 1

-- An event over which nothing is missed. Times are seconds from the epoch on.
structure WokenUp (e : GameEventData) : Prop where
  steady : ∀ t, 0 ≤ t → ∃ delay active, e.nextCheck t = some delay ∧
    ∀ s, t ≤ s → s < t + delay → e.checkOneGameEvent s = some active
  unwrapped : ∀ t, 0 ≤ t → e.nextCheck t = e.nextCheckWith id t
  periodic : ∀ t, e.start ≤ t → t < e.finish → (e.checkOneGameEvent t = some true ↔
    ∃ k : Int, e.start + e.shift + k * (e.occurence * 60) ≤ t ∧
      t < e.start + e.shift + k * (e.occurence * 60) + e.length * 60)
  observed : ∀ t, 0 ≤ t → ∀ delay ∈ e.nextCheck t, ∀ calcDelays : List Int, delay ∈ calcDelays →
    ∀ s, t ≤ s → s < t + sleep calcDelays →
      e.checkOneGameEvent s = e.checkOneGameEvent (s + 1) →
        e.checkOneGameEvent s = e.checkOneGameEvent t ∨
          e.checkOneGameEvent s = e.checkOneGameEvent (t + sleep calcDelays)

section

variable {x j period length : Int}

theorem tmod_of_nonneg (h : 0 ≤ x) : x.tmod period = x % period := Int.tmod_eq_emod_of_nonneg h

theorem tmod_of_neg (h : x ≤ 0) : x.tmod period = -(-x % period) := by
  have := Int.neg_tmod (-x) period
  rw [neg_neg] at this
  rw [this, tmod_of_nonneg (by omega)]

theorem emod_add_of_lt (hpos : 0 < period) (hj : 0 ≤ j) (hlt : x % period + j < period) : (x + j) % period = x % period + j := by
  have := Int.emod_nonneg x (Int.ne_of_gt hpos)
  rw [← Int.emod_add_emod, Int.emod_eq_of_lt (by omega) hlt]

theorem emod_le_of_nonneg (hpos : 0 < period) (hx : 0 ≤ x) : x % period ≤ x := by
  have hdiv := Int.mul_ediv_add_emod x period
  have := Int.mul_nonneg (Int.le_of_lt hpos) (Int.ediv_nonneg hx (Int.le_of_lt hpos))
  omega

theorem active_stays (hlength : 0 < length) (hle : length ≤ period) (hj : 0 ≤ j)
    (hlt : j < length - x.tmod period) : (x + j).tmod period < length := by
  by_cases hx : 0 ≤ x
  · rw [tmod_of_nonneg hx] at hlt
    rw [tmod_of_nonneg (by omega), emod_add_of_lt (by omega) hj (by omega)]
    omega
  · rw [tmod_of_neg (by omega)] at hlt
    have hsmall : -x % period ≤ -x := emod_le_of_nonneg (by omega) (by omega)
    by_cases hsum : x + j ≤ 0
    · have := Int.emod_nonneg (-(x + j)) (show period ≠ 0 by omega)
      rw [tmod_of_neg hsum]
      omega
    · rw [tmod_of_nonneg (by omega), Int.emod_eq_of_lt (by omega) (by omega)]
      omega

theorem inactive_stays (hlength : 0 < length) (hle : length ≤ period) (hactive : ¬ x.tmod period < length) (hj : 0 ≤ j)
    (hlt : j < period - x.tmod period) : ¬ (x + j).tmod period < length := by
  have hx : 0 ≤ x := by
    by_contra hneg
    have := Int.emod_nonneg (-x) (show period ≠ 0 by omega)
    rw [tmod_of_neg (by omega)] at hactive
    omega
  rw [tmod_of_nonneg hx] at hactive hlt
  rw [tmod_of_nonneg (by omega), emod_add_of_lt (by omega) hj (by omega)]
  omega

theorem exists_period_iff (hlength : 0 < length) (hle : length ≤ period) :
    (∃ k : Int, k * period ≤ x ∧ x < k * period + length) ↔ x % period < length := by
  have hdiv := Int.mul_ediv_add_emod x period
  constructor
  · rintro ⟨k, hlo, hhi⟩
    have hk : x % period = x - k * period := by
      have : x = (x - k * period) + period * k := by ring
      rw [this, Int.add_mul_emod_self_left, Int.emod_eq_of_lt (by omega) (by omega)]
      ring
    omega
  · intro hlt
    have := Int.emod_nonneg x (show period ≠ 0 by omega)
    refine ⟨x / period, ?_, ?_⟩ <;> rw [mul_comm] <;> omega

-- Before the shift has passed the remainder is negative, whatever the period
-- says. That agrees with the period for all the moments of an event, if at all,
-- because there are none, or they lie in one occurrence.
theorem negative_iff {shift width : Int} (hlength : 0 < length) (hle : length ≤ period) (hshift : 0 ≤ shift)
    (hwidth : 0 < width) :
    (∀ x, -shift ≤ x → x < 0 → x < width - shift → x % period < length) ↔
      shift = 0 ∨ length = period ∨ -shift % period + width ≤ length := by
  have hlow := Int.emod_nonneg (-shift) (show period ≠ 0 by omega)
  have hhigh := Int.emod_lt_of_pos (-shift) (b := period) (by omega)
  constructor
  · intro hall
    by_contra hcon
    simp only [not_or, not_le] at hcon
    obtain ⟨hne, hlt, hover⟩ := hcon
    have hfirst := hall (-shift) (by omega) (by omega) (by omega)
    -- where the first occurrence ends
    have hend : -shift % period + shift ≥ period := by
      have hdiv := Int.mul_ediv_add_emod (-shift) period
      have hneg : -shift / period < 0 := Int.ediv_neg_of_neg_of_pos (by omega) (by omega)
      have hmul : period * (-shift / period) ≤ period * -1 := Int.mul_le_mul_of_nonneg_left (by omega) (by omega)
      omega
    have hlast := hall (-shift + (length - -shift % period)) (by omega) (by omega) (by omega)
    rw [emod_add_of_lt (by omega) (by omega) (by omega)] at hlast
    omega
  · rintro (rfl | rfl | hshort) x hx hneg hlt
    · omega
    · exact Int.emod_lt_of_pos x (by omega)
    · obtain ⟨i, rfl⟩ : ∃ i, x = -shift + i := ⟨x + shift, by ring⟩
      rw [emod_add_of_lt (by omega) (by omega) (by omega)]
      omega

end

theorem foldl_min_le (calcDelays : List Int) (least : Int) :
    calcDelays.foldl min least ≤ least ∧ ∀ delay ∈ calcDelays, calcDelays.foldl min least ≤ delay := by
  induction calcDelays generalizing least with
  | nil => simp
  | cons delay rest ih =>
    obtain ⟨hleast, hrest⟩ := ih (min least delay)
    refine ⟨by simp only [List.foldl_cons]; omega, List.forall_mem_cons.mpr ⟨by simp only [List.foldl_cons]; omega, hrest⟩⟩

structure Scheduled (e : GameEventData) : Prop where
  epoch : 0 ≤ e.start
  ends : e.start < e.finish
  lasts : 0 < e.length
  length_le : e.length ≤ e.occurence
  leapDays_lt : e.leapDays < 256

theorem uint32_of_lt {n : Int} (h : 0 ≤ n) (hlt : n < 4294967296) : uint32 n = n := Int.emod_eq_of_lt h hlt

theorem uint32_le {n : Int} (h : 0 ≤ n) : uint32 n ≤ n := emod_le_of_nonneg (by omega) h

section

variable {e : GameEventData} (h : Scheduled e) (hfits : e.occurence * 60 < 4294967296)
include h hfits

theorem fields :
    uint32 (e.occurence * 60) = e.occurence * 60 ∧ uint32 (e.length * 60) = e.length * 60 ∧
      (0 : Int) < e.length * 60 ∧ (e.length * 60 : Int) ≤ e.occurence * 60 ∧ (e.occurence * 60 : Int) < 4294967296 := by
  have := h.lasts
  have := h.length_le
  exact ⟨uint32_of_lt (by omega) (by omega), uint32_of_lt (by omega) (by omega), by omega, by omega, by omega⟩

theorem check_eq (t : Int) :
    e.checkOneGameEvent t = some (decide (e.start ≤ t ∧ t < e.finish ∧
      (t - e.start - e.shift).tmod (e.occurence * 60) < e.length * 60)) := by
  obtain ⟨hperiod, hlength, hpos, hle, _⟩ := fields h hfits
  unfold GameEventData.checkOneGameEvent
  rw [hperiod, hlength, if_neg (by omega : ¬ (e.occurence * 60 : Int) = 0)]
  split_ifs with hin
  · simp [hin]
  · have hout : ¬ (e.start ≤ t ∧ t < e.finish ∧ (t - e.start - e.shift).tmod (e.occurence * 60) < e.length * 60) :=
      fun hall => hin ⟨hall.1, hall.2.1⟩
    simp only [hout, decide_false]

theorem nextCheck_during {unsigned : Int → Int} (hunsigned : unsigned (e.occurence * 60) = e.occurence * 60)
    (hunsigned' : unsigned (e.length * 60) = e.length * 60) {t : Int} (hstart : e.start ≤ t) (hfinish : t ≤ e.finish) :
    ∃ delay, (if (t - e.start - e.shift).tmod (e.occurence * 60) < e.length * 60
        then delay = unsigned (e.length * 60 - (t - e.start - e.shift).tmod (e.occurence * 60))
        else delay = unsigned (e.occurence * 60 - (t - e.start - e.shift).tmod (e.occurence * 60))) ∧
      e.nextCheckWith unsigned t =
        if e.finish < t + delay then some (unsigned (e.finish - t)) else some delay := by
  obtain ⟨_, _, hpos, hle, _⟩ := fields h hfits
  unfold GameEventData.nextCheckWith
  rw [if_neg (by omega), if_neg (by omega), hunsigned, hunsigned', if_neg (by omega)]
  refine ⟨_, ?_, rfl⟩
  split_ifs <;> rfl

theorem steady (t : Int) : ∃ delay active, e.nextCheck t = some delay ∧
    ∀ s, t ≤ s → s < t + delay → e.checkOneGameEvent s = some active := by
  obtain ⟨hperiod, hlength, hpos, hle, _⟩ := fields h hfits
  have hends := h.ends
  by_cases hover : t > e.finish
  · refine ⟨max_ge_check_delay, false, by simp [GameEventData.nextCheck, GameEventData.nextCheckWith, hover], ?_⟩
    intro s hs _
    rw [check_eq h hfits]
    simp
    omega
  by_cases hcome : e.start > t
  · refine ⟨uint32 (e.start - t), false, by simp [GameEventData.nextCheck, GameEventData.nextCheckWith, hover, hcome], ?_⟩
    intro s _ hs
    have := uint32_le (n := e.start - t) (by omega)
    rw [check_eq h hfits]
    simp
    omega
  obtain ⟨delay, hdelay, hnext⟩ := nextCheck_during h hfits hperiod hlength (by omega : e.start ≤ t) (by omega)
  have hcap : ∃ shown, e.nextCheck t = some shown ∧ shown ≤ delay ∧ shown ≤ e.finish - t := by
    unfold GameEventData.nextCheck
    rw [hnext]
    split_ifs with hlate
    · have := uint32_le (n := e.finish - t) (by omega)
      exact ⟨_, rfl, by omega, by omega⟩
    · exact ⟨_, rfl, Int.le_refl _, by omega⟩
  obtain ⟨shown, hshown, hle', hin⟩ := hcap
  have hmove : ∀ s, s - e.start - e.shift = (t - e.start - e.shift) + (s - t) := by
    intro s
    ring
  split_ifs at hdelay with hactive
  · refine ⟨shown, true, hshown, fun s hs hlt => ?_⟩
    have hle'' := uint32_le (n := e.length * 60 - (t - e.start - e.shift).tmod (e.occurence * 60)) (by omega)
    rw [check_eq h hfits, hmove s]
    have := active_stays hpos hle (by omega : 0 ≤ s - t)
      (by omega : s - t < e.length * 60 - (t - e.start - e.shift).tmod (e.occurence * 60))
    simp only [Option.some.injEq, decide_eq_true_eq]
    exact ⟨by omega, by omega, this⟩
  · refine ⟨shown, false, hshown, fun s hs hlt => ?_⟩
    have hlow : 0 ≤ (e.occurence * 60 : Int) - (t - e.start - e.shift).tmod (e.occurence * 60) := by
      have := Int.tmod_lt_of_pos (t - e.start - e.shift) (by omega : (0 : Int) < e.occurence * 60)
      omega
    have hle'' := uint32_le hlow
    rw [check_eq h hfits, hmove s]
    have := inactive_stays hpos hle hactive (by omega : 0 ≤ s - t) (by omega)
    simp only [Option.some.injEq, decide_eq_false_iff_not]
    exact fun hall => this hall.2.2

theorem observed (t : Int) : ∀ delay ∈ e.nextCheck t, ∀ calcDelays : List Int, delay ∈ calcDelays →
    ∀ s, t ≤ s → s < t + sleep calcDelays →
      e.checkOneGameEvent s = e.checkOneGameEvent (s + 1) →
        e.checkOneGameEvent s = e.checkOneGameEvent t ∨
          e.checkOneGameEvent s = e.checkOneGameEvent (t + sleep calcDelays) := by
  intro delay hdelay calcDelays hmem s hs hlt hlasts
  obtain ⟨shown, active, hshown, hsteady⟩ := steady h hfits t
  obtain rfl := Option.some.inj (hshown.symm.trans hdelay)
  have hle := (foldl_min_le calcDelays max_ge_check_delay).2 shown hmem
  unfold sleep at hlt ⊢
  by_cases hearly : s < t + shown
  · rw [hsteady s hs hearly, hsteady t (Int.le_refl t) (by omega)]
    exact .inl rfl
  · -- the last second before the next call
    have hlast : s + 1 = t + (calcDelays.foldl min max_ge_check_delay + 1) := by omega
    rw [← hlast]
    exact .inr hlasts

theorem periodic_iff :
    (∀ t, e.start ≤ t → t < e.finish → (e.checkOneGameEvent t = some true ↔
      ∃ k : Int, e.start + e.shift + k * (e.occurence * 60) ≤ t ∧
        t < e.start + e.shift + k * (e.occurence * 60) + e.length * 60)) ↔
      e.leapDays = 0 ∨ e.length = e.occurence ∨
        -e.shift % (e.occurence * 60) + (e.finish - e.start) ≤ e.length * 60 := by
  obtain ⟨_, _, hpos, hle, _⟩ := fields h hfits
  have hends := h.ends
  have hshift : 0 ≤ e.shift := by
    unfold GameEventData.shift
    omega
  have hsides := negative_iff hpos hle hshift (by omega : 0 < e.finish - e.start)
  have hzero : e.shift = 0 ↔ e.leapDays = 0 := by
    unfold GameEventData.shift
    omega
  have hfull : (e.length * 60 : Int) = e.occurence * 60 ↔ e.length = e.occurence := by omega
  rw [← hzero, ← hfull, ← hsides]
  -- the moments of the event by their distance from the shifted start
  have hmoment : ∀ t, e.start ≤ t → t < e.finish → ((e.checkOneGameEvent t = some true ↔
      ∃ k : Int, e.start + e.shift + k * (e.occurence * 60) ≤ t ∧
        t < e.start + e.shift + k * (e.occurence * 60) + e.length * 60) ↔
      (t - e.start - e.shift < 0 → (t - e.start - e.shift) % (e.occurence * 60) < e.length * 60)) := by
    intro t hlo hhi
    have hexists : (∃ k : Int, e.start + e.shift + k * (e.occurence * 60) ≤ t ∧
        t < e.start + e.shift + k * (e.occurence * 60) + e.length * 60) ↔
        (t - e.start - e.shift) % (e.occurence * 60) < e.length * 60 := by
      rw [← exists_period_iff hpos hle]
      constructor
      · rintro ⟨k, hk, hk'⟩
        exact ⟨k, by omega, by omega⟩
      · rintro ⟨k, hk, hk'⟩
        exact ⟨k, by omega, by omega⟩
    rw [hexists, check_eq h hfits]
    simp only [hlo, hhi, true_and, Option.some.injEq, decide_eq_true_eq]
    by_cases hneg : t - e.start - e.shift < 0
    · have := Int.emod_nonneg (-(t - e.start - e.shift)) (show (e.occurence * 60 : Int) ≠ 0 by omega)
      rw [tmod_of_neg (by omega)]
      constructor
      · exact fun hiff _ => hiff.mp (by omega)
      · exact fun hper => iff_of_true (by omega) (hper hneg)
    · rw [tmod_of_nonneg (by omega)]
      exact iff_of_true Iff.rfl fun hless => absurd hless hneg
  constructor
  · intro hall x hx hneg hlt
    have := (hmoment (x + e.start + e.shift) (by omega) (by omega)).mp (hall _ (by omega) (by omega))
    rw [show x + e.start + e.shift - e.start - e.shift = x by ring] at this
    exact this hneg
  · intro hall t hlo hhi
    exact (hmoment t hlo hhi).mpr fun hneg => hall _ (by omega) hneg (by omega)

theorem unwrapped_during {t : Int} (hstart : e.start ≤ t) (hfinish : t ≤ e.finish) :
    e.nextCheck t = e.nextCheckWith id t ↔
      (e.length * 60 - (t - e.start - e.shift).tmod (e.occurence * 60) < 4294967296 ∨
        e.finish - t + 4294967296 ≤ e.length * 60 - (t - e.start - e.shift).tmod (e.occurence * 60)) := by
  obtain ⟨hperiod, hlength, hpos, hle, hlt⟩ := fields h hfits
  obtain ⟨delay, hdelay, hnext⟩ := nextCheck_during h hfits hperiod hlength hstart hfinish
  obtain ⟨unbounded, hexact, hnext'⟩ := @nextCheck_during e h hfits id rfl rfl t hstart hfinish
  have hlow : -(e.occurence * 60 : Int) < (t - e.start - e.shift).tmod (e.occurence * 60) :=
    Int.lt_tmod_of_pos _ (by omega)
  have hhigh := Int.tmod_lt_of_pos (t - e.start - e.shift) (by omega : (0 : Int) < e.occurence * 60)
  unfold GameEventData.nextCheck
  rw [hnext, hnext']
  generalize (t - e.start - e.shift).tmod (e.occurence * 60) = remainder at *
  simp only [id] at hexact ⊢
  unfold uint32 at *
  split_ifs at hdelay hexact with hactive
  · subst hdelay hexact
    split_ifs with hlate hlate' hlate' <;> simp only [Option.some.injEq] <;> omega
  · subst hdelay hexact
    split_ifs with hlate hlate' hlate' <;> simp only [Option.some.injEq] <;> omega

theorem unwrapped_iff :
    (∀ t, 0 ≤ t → e.nextCheck t = e.nextCheckWith id t) ↔
      e.start < 4294967296 ∧ (e.length * 60 + e.shift % (e.occurence * 60) < 4294967296 ∨
        e.finish - e.start + 4294967296 ≤ e.length * 60 + e.shift % (e.occurence * 60)) := by
  obtain ⟨_, _, hpos, hle, hlt⟩ := fields h hfits
  have hepoch := h.epoch
  have hends := h.ends
  have hleap := h.leapDays_lt
  have hshift : 0 ≤ e.shift ∧ e.shift < 22118400 := by
    unfold GameEventData.shift
    omega
  constructor
  · intro hall
    constructor
    · by_cases hstart : e.start = 0
      · omega
      · have hfirst := hall 0 (Int.le_refl 0)
        unfold GameEventData.nextCheck GameEventData.nextCheckWith at hfirst
        rw [if_neg (by omega), if_pos (by omega), if_neg (by omega), if_pos (by omega)] at hfirst
        have := Int.emod_lt_of_pos (e.start - 0) (by omega : (0 : Int) < 4294967296)
        simp only [uint32, id, Option.some.injEq] at hfirst
        omega
    · have hfirst := (unwrapped_during h hfits (Int.le_refl e.start) (by omega)).mp (hall e.start hepoch)
      rw [show e.start - e.start - e.shift = -e.shift by ring, tmod_of_neg (by omega), neg_neg, sub_neg_eq_add] at hfirst
      exact hfirst
  · rintro ⟨hstart, hfirst⟩ t ht
    by_cases hlate : t > e.finish
    · simp [GameEventData.nextCheck, GameEventData.nextCheckWith, hlate]
    by_cases hcome : e.start > t
    · simp only [GameEventData.nextCheck, GameEventData.nextCheckWith, hlate, hcome, if_true, if_false, id]
      rw [uint32_of_lt (by omega) (by omega)]
    rw [unwrapped_during h hfits (by omega) (by omega)]
    by_cases hx : 0 ≤ t - e.start - e.shift
    · have := Int.emod_nonneg (t - e.start - e.shift) (show (e.occurence * 60 : Int) ≠ 0 by omega)
      rw [tmod_of_nonneg hx]
      omega
    · rw [tmod_of_neg (by omega)]
      by_cases honce : e.shift < e.occurence * 60
      · rw [Int.emod_eq_of_lt (by omega) honce] at hfirst
        rw [Int.emod_eq_of_lt (by omega) (by omega)]
        omega
      · have := Int.emod_lt_of_pos (-(t - e.start - e.shift)) (by omega : (0 : Int) < e.occurence * 60)
        omega

end

structure Kept (e : GameEventData) : Prop where
  start_lt : e.start < 4294967296
  delay_lt : e.length * 60 + e.shift % (e.occurence * 60) < 4294967296 ∨
    e.finish - e.start + 4294967296 ≤ e.length * 60 + e.shift % (e.occurence * 60)
  shifted : e.leapDays = 0 ∨ e.length = e.occurence ∨
    -e.shift % (e.occurence * 60) + (e.finish - e.start) ≤ e.length * 60

theorem wokenUp_iff {e : GameEventData} (h : Scheduled e) :
    (e.occurence * 60 < 4294967296 → Kept e → WokenUp e) ∧ (WokenUp e → e.occurence * 60 < 4294967296 → Kept e) := by
  constructor
  · intro hfits hkept
    exact {
      steady := fun t _ => steady h hfits t
      unwrapped := (unwrapped_iff h hfits).mpr ⟨hkept.start_lt, hkept.delay_lt⟩
      periodic := (periodic_iff h hfits).mpr hkept.shifted
      observed := fun t _ => observed h hfits t }
  · intro hwoken hfits
    obtain ⟨hstart, hdelay⟩ := (unwrapped_iff h hfits).mp hwoken.unwrapped
    exact ⟨hstart, hdelay, (periodic_iff h hfits).mp hwoken.periodic⟩

-- A yearly event of an hour, with and without a leap day
def yearly (leapDays : Nat) : GameEventData where
  start := 1000000
  finish := 200000000
  occurence := 525600
  length := 60
  hardcoded := false
  disabled := false
  leapDays := leapDays

theorem yearly_wokenUp : Scheduled (yearly 0) ∧ WokenUp (yearly 0) ∧ Kept (yearly 0) := by
  have h : Scheduled (yearly 0) := by
    constructor <;> decide
  have hkept : Kept (yearly 0) := ⟨by decide, .inl (by decide), .inl rfl⟩
  have hwoken := (wokenUp_iff h).1 (by decide) hkept
  exact ⟨h, hwoken, (wokenUp_iff h).2 hwoken (by decide)⟩

-- With the leap day the event starts with its table, a day early, and two hours
-- later it is still active.
theorem not_wokenUp : ¬ ∀ e : GameEventData, Scheduled e → WokenUp e := by
  intro hall
  have hearly : GameEventData.checkOneGameEvent (yearly 1) 1007200 = some true := by decide
  obtain ⟨k, hlo, hhi⟩ := ((hall (yearly 1) (by constructor <;> decide)).periodic 1007200 (by decide) (by decide)).mp hearly
  simp only [yearly, GameEventData.shift] at hlo hhi
  omega

end TurtleWow.GameEvents

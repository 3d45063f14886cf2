import TeensyI2C.Lib.Sawtooth
import TeensyI2C.Timing.DefaultProfiles
import Mathlib.Data.Finset.Max

/-!
Whether the worst case that is reported for a parameter is one. It is computed at the longest
rise time, but the latency of SCL makes the times that are counted from a rising SCL saw-toothed,
and the data setup time depends on two rise times.
-/

namespace TeensyI2C
open Truncation

/-- The parameters that the rise times make shorter. -/
inductive TimingParameter where
  | clockHigh
  | setupRepeatedStart
  | stopSetup
  | busFree
  | dataSetupRising
deriving DecidableEq, Repr

namespace TeensyConfig

def parameter (c : TeensyConfig) : TimingParameter → Parameter
  | .clockHigh => c.clockHigh
  | .setupRepeatedStart => c.setupRepeatedStart
  | .stopSetup => c.stopSetup
  | .busFree => c.busFree
  | .dataSetupRising => c.dataSetup true false

/-- The same configuration on a bus with other rise times. -/
def withRisetimes (c : TeensyConfig) (scl sda : ℚ) : TeensyConfig :=
  { c with sclRisetime := scl, sdaRisetime := sda }

/-- A rise time that the design allows for. -/
structure Allows (c : TeensyConfig) (rise : ℚ) : Prop where
  nonneg : 0 ≤ rise
  le : rise ≤ c.maxRise

/-- No bus makes the parameter shorter than the worst case that is reported for any other. -/
def WorstCaseIsWorst (c : TeensyConfig) (p : TimingParameter) : Prop :=
  ∀ scl sda scl' sda', c.Allows scl → c.Allows sda → c.Allows scl' → c.Allows sda' →
    ((c.withRisetimes scl' sda').parameter p).worstCase ≤
      ((c.withRisetimes scl sda).parameter p).i2cValue

variable {c : TeensyConfig}

/-- A time counted from a rising SCL. The bus takes 1.421 of the rise time away, and the latency
gives a tick back each time that 0.911 of it fills one. -/
def fromRise (valid : c.Valid) (ticks : ℕ) (adjustment : ℚ) : Sawtooth ℚ where
  offset := (2 + c.filtscl) / 2 ^ c.prescale
  width := c.scale / timeToRiseToTeensyTriggerVoltage
  height := c.scale
  slope := timeToRiseTo0_7Vdd
  base := c.scale * (ticks + 1) + adjustment
  width_pos := div_pos valid.scale_pos (by norm_num [timeToRiseToTeensyTriggerVoltage])
  slope_pos := by norm_num [timeToRiseTo0_7Vdd]
  drift := by
    have := valid.scale_pos
    norm_num [timeToRiseTo0_7Vdd, timeToRiseToTeensyTriggerVoltage]
    linarith

theorem value_fromRise (valid : c.Valid) (ticks : ℕ) (adjustment rise : ℚ) :
    (fromRise valid ticks adjustment).value rise = c.i2cFromRise ticks rise adjustment := by
  have latency : (fromRise valid ticks adjustment).teeth rise = c.sclLatency rise := by
    have := valid.period_pos.ne'
    have : timeToRiseToTeensyTriggerVoltage ≠ 0 := by norm_num [timeToRiseToTeensyTriggerVoltage]
    unfold Sawtooth.teeth sclLatency
    congr 1
    simp only [fromRise, scale]
    field_simp
  rw [Sawtooth.value, latency]
  simp only [fromRise, i2cFromRise, nominalFromRise]
  ring

theorem lowestAtEnd_iff (valid : c.Valid) (ticks : ℕ) (adjustment : ℚ) :
    (fromRise valid ticks adjustment).LowestAtEnd c.maxRise ↔ ∀ rise, c.Allows rise →
      trunc (c.i2cFromRise ticks c.maxRise adjustment) ≤
        trunc (c.i2cFromRise ticks rise adjustment) := by
  simp only [Sawtooth.lowestAtEnd_iff, value_fromRise]
  exact ⟨fun h rise allowed => h rise allowed.nonneg allowed.le,
    fun h rise nonneg le => h rise ⟨nonneg, le⟩⟩

/-- SDA may lengthen a time that is counted from a rising SCL, but it never shortens it. -/
theorem fromRise_worst_iff (valid : c.Valid) {p : TimingParameter} (ticks : ℕ)
    (adjustment : ℚ → ℚ) (longer : ∀ sda, 0 ≤ sda → adjustment 0 ≤ adjustment sda)
    (i2c : ∀ scl sda, ((c.withRisetimes scl sda).parameter p).i2cValue =
      trunc (c.i2cFromRise ticks scl (adjustment sda)))
    (worst : ∀ scl sda, ((c.withRisetimes scl sda).parameter p).worstCase =
      trunc (c.i2cFromRise ticks c.maxRise (adjustment 0))) :
    c.WorstCaseIsWorst p ↔ (fromRise valid ticks (adjustment 0)).LowestAtEnd c.maxRise := by
  simp only [WorstCaseIsWorst, i2c, worst, lowestAtEnd_iff]
  constructor
  · intro covered rise allowed
    have instant : c.Allows 0 := ⟨le_rfl, allowed.nonneg.trans allowed.le⟩
    exact covered rise 0 rise 0 allowed instant allowed instant
  · intro lowest scl sda _ _ allowed allowed' _ _
    exact (lowest scl allowed).trans
      (trunc_mono (add_le_add_right (longer sda allowed'.nonneg) _))

theorem clockHigh_worst_iff (valid : c.Valid) :
    c.WorstCaseIsWorst .clockHigh ↔
      (fromRise valid c.clkhi (c.fallTime * timeToFallTo0_7Vdd)).LowestAtEnd c.maxRise :=
  fromRise_worst_iff valid c.clkhi (fun _ => c.fallTime * timeToFallTo0_7Vdd)
    (fun _ _ => le_rfl) (fun _ _ => rfl) (fun _ _ => rfl)

theorem setupRepeatedStart_worst_iff (valid : c.Valid) :
    c.WorstCaseIsWorst .setupRepeatedStart ↔
      (fromRise valid c.sethold (c.fallTime * timeToFallTo0_7Vdd)).LowestAtEnd c.maxRise :=
  fromRise_worst_iff valid c.sethold (fun _ => c.fallTime * timeToFallTo0_7Vdd)
    (fun _ _ => le_rfl) (fun _ _ => rfl) (fun _ _ => rfl)

theorem stopSetup_worst_iff (valid : c.Valid) :
    c.WorstCaseIsWorst .stopSetup ↔ (fromRise valid c.sethold 0).LowestAtEnd c.maxRise := by
  have h := fromRise_worst_iff (p := .stopSetup) valid c.sethold (· * timeToRiseTo0_3Vdd)
    (fun sda nonneg => by
      have : (0 : ℚ) ≤ timeToRiseTo0_3Vdd := by norm_num [timeToRiseTo0_3Vdd]
      gcongr)
    (fun _ _ => rfl)
    (fun _ _ => by rw [zero_mul]; rfl)
  rwa [zero_mul] at h

theorem busFree_antitone (valid : c.Valid) {rise rise' : ℚ} (h : rise ≤ rise') :
    (c.getNominalAndI2CValue rise').2 ≤ (c.getNominalAndI2CValue rise).2 := by
  have tick := valid.scale_pos
  cases le_or_gt rise' 1000 with
  | inl fast' =>
      have taken : rise * timeToRiseTo0_7Vdd ≤ rise' * timeToRiseTo0_7Vdd :=
        mul_le_mul_of_nonneg_right h (by norm_num [timeToRiseTo0_7Vdd])
      rw [busFree_fast c fast', busFree_fast c (h.trans fast')]
      linarith
  | inr slow' =>
      cases le_or_gt rise 1000 with
      | inl fast =>
          have kept := mul_le_mul_of_nonneg_right (two_le_offset c.busidle) tick.le
          rw [busFree_slow valid slow', busFree_fast c fast]
          norm_num [timeToRiseTo0_7Vdd]
          linarith
      | inr slow => rw [busFree_slow valid slow', busFree_slow valid slow]

theorem busFree_worst (valid : c.Valid) : c.WorstCaseIsWorst .busFree :=
  fun _ _ _ _ _ allowed _ _ => trunc_mono (busFree_antitone valid allowed.le)

theorem lowTime_mono {scl scl' : ℚ} (h : scl ≤ scl') : c.lowTime scl ≤ c.lowTime scl' := by
  have : (0 : ℚ) ≤ timeToRiseTo0_3Vdd := by norm_num [timeToRiseTo0_3Vdd]
  unfold lowTime
  gcongr

/-- How long a master's rising SDA takes to be valid data, in whole nanoseconds. -/
def wholeValid (c : TeensyConfig) (sda : ℚ) : ℤ := trunc ((trunc (c.holdTime false sda) : ℚ) + sda)

def validLoss (c : TeensyConfig) (sda : ℚ) : ℚ := c.validTime false sda - c.wholeValid sda

theorem wholeValid_mono {sda sda' : ℚ} (h : sda ≤ sda') : c.wholeValid sda ≤ c.wholeValid sda' := by
  have : (0 : ℚ) ≤ timeToRiseTo0_3Vdd := by norm_num [timeToRiseTo0_3Vdd]
  have hold : c.holdTime false sda ≤ c.holdTime false sda' := by
    simp only [holdTime, Bool.false_eq_true, if_false]
    gcongr
  have whole : (trunc (c.holdTime false sda) : ℚ) ≤ trunc (c.holdTime false sda') := by
    exact_mod_cast trunc_mono hold
  exact trunc_mono (add_le_add whole h)

theorem dataSetup_i2cValue_eq (scl sda : ℚ) :
    ((c.withRisetimes scl sda).dataSetup true false).i2cValue =
      trunc (c.lowTime scl) - c.wholeValid sda :=
  dataSetup_i2cValue _ _ _

theorem dataSetup_worstCase_eq (scl sda : ℚ) :
    ((c.withRisetimes scl sda).dataSetup true false).worstCase =
      trunc (((trunc (c.lowTime scl) - c.wholeValid sda : ℤ) : ℚ) -
        (c.maxRise - sda) * timeToRiseTo0_7Vdd) :=
  rfl

/-- The rise times of SDA at which rounding begins to take a new nanosecond off: the whole ones,
and those at which the data hold time is a whole number. There are no others below five. -/
def roundingSteps (c : TeensyConfig) : List ℚ :=
  ((List.range 5).map fun n : ℕ => (n : ℚ)) ++ (List.range 4).map fun n : ℕ =>
    (⌊c.holdTime false 0⌋ + n - c.holdTime false 0) / timeToRiseTo0_3Vdd

/-- What the data valid time is in whole nanoseconds just before such a step. -/
def wholeBefore (c : TeensyConfig) (sda : ℚ) : ℤ :=
  truncBelow ((truncBelow (c.holdTime false sda) : ℚ) + sda)

def lossBefore (c : TeensyConfig) (sda : ℚ) : ℚ := c.validTime false sda - c.wholeBefore sda

/-- Rounding takes off the data valid time less than a nanosecond more than it does at the longest
rise time. Where the setup time is negative it takes off no more. -/
def LossCovered (c : TeensyConfig) (loss : ℚ) : Prop :=
  (c.wholeValid c.maxRise ≤ trunc (c.lowTime 0) → loss < c.validLoss c.maxRise + 1) ∧
    (trunc (c.lowTime 0) < c.wholeValid c.maxRise → loss ≤ c.validLoss c.maxRise)

/-- The same of a loss that is approached and not reached. -/
def LossApproached (c : TeensyConfig) (loss : ℚ) : Prop :=
  (c.wholeValid c.maxRise ≤ trunc (c.lowTime 0) → loss ≤ c.validLoss c.maxRise + 1) ∧
    (trunc (c.lowTime 0) < c.wholeValid c.maxRise → loss ≤ c.validLoss c.maxRise)

/-- Rounding hides the rise time of SCL, and at each step of the data valid time what it takes off
is covered, there and just before. -/
def RoundingHidesRise (c : TeensyConfig) : Prop :=
  trunc (c.lowTime c.maxRise) ≤ trunc (c.lowTime 0) ∧
    ∀ step ∈ c.roundingSteps, 0 ≤ step → step ≤ c.maxRise →
      c.LossCovered (c.validLoss step) ∧ (0 < step → c.LossApproached (c.lossBefore step))

instance (loss : ℚ) : Decidable (c.LossCovered loss) := by
  unfold LossCovered
  infer_instance

instance (loss : ℚ) : Decidable (c.LossApproached loss) := by
  unfold LossApproached
  infer_instance

instance : Decidable c.RoundingHidesRise := by
  unfold RoundingHidesRise
  infer_instance

/-- The reported worst case takes 1.421 of the missing rise time off the setup time, which is what
the data valid time would grow by but for rounding. -/
theorem worst_le_iff (sda : ℚ) :
    trunc (((trunc (c.lowTime 0) - c.wholeValid sda : ℤ) : ℚ) -
        (c.maxRise - sda) * timeToRiseTo0_7Vdd) ≤ trunc (c.lowTime 0) - c.wholeValid c.maxRise ↔
      c.LossCovered (c.validLoss sda) := by
  have loss : c.validLoss sda - c.validLoss c.maxRise =
      c.wholeValid c.maxRise - c.wholeValid sda - (c.maxRise - sda) * timeToRiseTo0_7Vdd := by
    simp only [validLoss, validTime, holdTime, timeToRiseTo0_3Vdd, timeToRiseTo0_7Vdd,
      Bool.false_eq_true, if_false]
    ring
  cases le_or_gt (c.wholeValid c.maxRise) (trunc (c.lowTime 0)) with
  | inl positive =>
      rw [trunc_le_iff_of_nonneg (by omega)]
      push_cast
      constructor
      · exact fun h => ⟨fun _ => by linarith, fun h' => absurd h' (not_lt.mpr positive)⟩
      · intro h
        have := h.1 positive
        linarith
  | inr negative =>
      rw [trunc_le_iff_of_neg (by omega)]
      push_cast
      constructor
      · exact fun h => ⟨fun h' => absurd h' (not_le.mpr negative), fun _ => by linarith⟩
      · intro h
        have := h.2 negative
        linarith

/-- The setup time is shortest when SCL rises at once and SDA as late as it may. -/
theorem dataSetup_worst_iff_covered : c.WorstCaseIsWorst .dataSetupRising ↔
    trunc (c.lowTime c.maxRise) ≤ trunc (c.lowTime 0) ∧
      ∀ sda, c.Allows sda → c.LossCovered (c.validLoss sda) := by
  simp only [WorstCaseIsWorst, parameter, dataSetup_i2cValue_eq, dataSetup_worstCase_eq,
    ← worst_le_iff]
  constructor
  · intro worst
    cases lt_or_ge c.maxRise 0 with
    | inl none =>
        exact ⟨trunc_mono (lowTime_mono none.le),
          fun sda allowed => absurd (allowed.nonneg.trans allowed.le) (not_le.mpr none)⟩
    | inr some =>
        have instant : c.Allows 0 := ⟨le_rfl, some⟩
        have slowest : c.Allows c.maxRise := ⟨some, le_rfl⟩
        have hidden := worst 0 c.maxRise c.maxRise c.maxRise instant slowest slowest slowest
        rw [sub_self, zero_mul, sub_zero, trunc_intCast] at hidden
        have same : trunc (c.lowTime c.maxRise) = trunc (c.lowTime 0) :=
          le_antisymm (by omega) (trunc_mono (lowTime_mono some))
        refine ⟨same.le, fun sda allowed => ?_⟩
        have h := worst 0 c.maxRise c.maxRise sda instant slowest slowest allowed
        rwa [same] at h
  · intro ⟨hidden, covered⟩ scl sda scl' sda' sclAllowed sdaAllowed sclAllowed' sdaAllowed'
    have low : trunc (c.lowTime scl') ≤ trunc (c.lowTime 0) :=
      (trunc_mono (lowTime_mono sclAllowed'.le)).trans hidden
    have high : trunc (c.lowTime 0) ≤ trunc (c.lowTime scl) :=
      trunc_mono (lowTime_mono sclAllowed.nonneg)
    have valid : c.wholeValid sda ≤ c.wholeValid c.maxRise := wholeValid_mono sdaAllowed.le
    calc trunc (((trunc (c.lowTime scl') - c.wholeValid sda' : ℤ) : ℚ) -
          (c.maxRise - sda') * timeToRiseTo0_7Vdd)
        ≤ trunc (((trunc (c.lowTime 0) - c.wholeValid sda' : ℤ) : ℚ) -
          (c.maxRise - sda') * timeToRiseTo0_7Vdd) := by gcongr
      _ ≤ trunc (c.lowTime 0) - c.wholeValid c.maxRise := covered sda' sdaAllowed'
      _ ≤ trunc (c.lowTime scl) - c.wholeValid sda := by omega

/-- A rise time of five nanoseconds shows through any rounding. -/
theorem maxRise_lt_of_hidden (hidden : trunc (c.lowTime c.maxRise) ≤ trunc (c.lowTime 0)) :
    c.maxRise < 5 := by
  by_contra long
  have longer : c.lowTime 0 + 2 ≤ c.lowTime c.maxRise := by
    have := not_lt.mp long
    simp only [lowTime, timeToRiseTo0_3Vdd]
    linarith
  have below := lt_trunc_add_one (c.lowTime c.maxRise)
  have above := trunc_sub_one_lt (c.lowTime 0)
  have same : (trunc (c.lowTime c.maxRise) : ℚ) ≤ trunc (c.lowTime 0) := by exact_mod_cast hidden
  linarith

theorem RoundingHidesRise.maxRise_lt (h : c.RoundingHidesRise) : c.maxRise < 5 :=
  maxRise_lt_of_hidden h.1

/-! ### Between two steps of the data valid time -/

theorem holdTime_rising (c : TeensyConfig) (sda : ℚ) :
    c.holdTime false sda = c.holdTime false 0 + sda * timeToRiseTo0_3Vdd := by
  simp [holdTime]

theorem mem_roundingSteps_of_int {n : ℤ} (nonneg : (0 : ℚ) ≤ n) (short : (n : ℚ) < 5) :
    (n : ℚ) ∈ c.roundingSteps := by
  lift n to ℕ using by exact_mod_cast nonneg
  have : n < 5 := by exact_mod_cast short
  exact List.mem_append_left _ (List.mem_map.mpr ⟨n, List.mem_range.mpr this, by simp⟩)

theorem mem_roundingSteps_of_holdTime {sda : ℚ} {n : ℤ} (nonneg : 0 ≤ sda) (short : sda < 5)
    (whole : c.holdTime false sda = n) : sda ∈ c.roundingSteps := by
  rw [holdTime_rising] at whole
  have rises : timeToRiseTo0_3Vdd = 421 / 1000 := rfl
  have below := Int.floor_le (c.holdTime false 0)
  have above := Int.lt_floor_add_one (c.holdTime false 0)
  have first : ⌊c.holdTime false 0⌋ ≤ n := by
    have : (⌊c.holdTime false 0⌋ : ℚ) ≤ n := by rw [← whole, rises]; linarith
    exact_mod_cast this
  have last : n < ⌊c.holdTime false 0⌋ + 4 := by
    have : (n : ℚ) < ⌊c.holdTime false 0⌋ + 4 := by rw [← whole, rises]; linarith
    exact_mod_cast this
  obtain ⟨k, rfl⟩ := Int.le.dest first
  have few : k < 4 := by omega
  refine List.mem_append_right _ (List.mem_map.mpr ⟨k, List.mem_range.mpr few, ?_⟩)
  push_cast at whole
  rw [← whole, div_eq_iff (by norm_num [rises])]
  ring

theorem wholeValid_eq_of_no_step {sda sda' : ℚ} (nonneg : 0 ≤ sda) (h : sda ≤ sda')
    (short : sda' < 5) (none : ∀ step ∈ c.roundingSteps, sda ≤ step → ¬ step ≤ sda') :
    c.wholeValid sda = c.wholeValid sda' := by
  have rises : timeToRiseTo0_3Vdd = 421 / 1000 := rfl
  have hold : trunc (c.holdTime false sda) = trunc (c.holdTime false sda') := by
    refine trunc_eq_of_no_int ?_ fun n above below => ?_
    · rw [holdTime_rising, holdTime_rising c sda', rises]
      linarith
    · rw [holdTime_rising, rises] at above below
      let step : ℚ := (n - c.holdTime false 0) / (421 / 1000)
      have after : sda ≤ step := by rw [le_div_iff₀ (by norm_num)]; linarith
      have before : step ≤ sda' := by rw [div_le_iff₀ (by norm_num)]; linarith
      have whole : c.holdTime false step = n := by
        rw [holdTime_rising, rises, div_mul_cancel₀ _ (by norm_num)]
        ring
      exact none step (mem_roundingSteps_of_holdTime (nonneg.trans after)
        (before.trans_lt short) whole) after before
  unfold wholeValid
  rw [hold]
  refine trunc_eq_of_no_int (add_le_add_right h _) fun n above below => ?_
  have cast : ((n - trunc (c.holdTime false sda') : ℤ) : ℚ) =
      n - trunc (c.holdTime false sda') := by push_cast; rfl
  refine none (n - trunc (c.holdTime false sda') : ℤ) (mem_roundingSteps_of_int ?_ ?_) ?_ ?_ <;>
    rw [cast] <;> linarith

theorem exists_wholeBefore {sda from' e : ℚ} (before : from' < sda) (positive : 0 < e) :
    ∃ sda', from' ≤ sda' ∧ sda' < sda ∧ sda < sda' + e ∧
      c.wholeValid sda' = c.wholeBefore sda := by
  have rises : timeToRiseTo0_3Vdd = 421 / 1000 := rfl
  let hold := c.holdTime false sda
  let valid : ℚ := (truncBelow hold : ℚ) + sda
  have holdRoom : 0 < hold - (⌈hold⌉ - 1) := by have := Int.ceil_lt_add_one hold; linarith
  have validRoom : 0 < valid - (⌈valid⌉ - 1) := by have := Int.ceil_lt_add_one valid; linarith
  obtain ⟨δ, some, little⟩ := exists_between
    (lt_min (lt_min (sub_pos.mpr before) positive) (lt_min holdRoom validRoom))
  obtain ⟨⟨inside, near⟩, nearHold, nearValid⟩ := by simpa only [lt_min_iff] using little
  refine ⟨sda - δ, by linarith, by linarith, by linarith, ?_⟩
  have held : trunc (c.holdTime false (sda - δ)) = truncBelow hold := by
    have moved : c.holdTime false (sda - δ) = hold - δ * (421 / 1000) := by
      rw [holdTime_rising, ← rises, sub_mul, ← add_sub_assoc, ← holdTime_rising]
    refine trunc_eq_truncBelow ?_ ?_ <;> rw [moved] <;> linarith
  unfold wholeValid
  rw [held]
  refine trunc_eq_truncBelow (d := valid) ?_ ?_ <;> simp only [valid] at * <;> linarith

theorem LossApproached.covered {loss loss' : ℚ} (approached : c.LossApproached loss)
    (h : loss' < loss) : c.LossCovered loss' :=
  ⟨fun some => h.trans_le (approached.1 some), fun none => h.le.trans (approached.2 none)⟩

theorem LossCovered.mono {loss loss' : ℚ} (covered : c.LossCovered loss) (h : loss' ≤ loss) :
    c.LossCovered loss' :=
  ⟨fun some => h.trans_lt (covered.1 some), fun none => h.trans (covered.2 none)⟩

theorem validLoss_rising (c : TeensyConfig) {sda sda' : ℚ} (h : sda ≤ sda') :
    c.validLoss sda ≤ c.validTime false sda' - c.wholeValid sda ∧
      (sda < sda' → c.validLoss sda < c.validTime false sda' - c.wholeValid sda) := by
  simp only [validLoss, validTime, holdTime_rising c sda, holdTime_rising c sda',
    timeToRiseTo0_3Vdd, Bool.false_eq_true, if_false]
  exact ⟨by linarith, fun _ => by linarith⟩

theorem lossBefore_le {step bound : ℚ} (allowed : c.Allows step) (some : 0 < step)
    (bounded : ∀ sda, c.Allows sda → c.validLoss sda ≤ bound) : c.lossBefore step ≤ bound := by
  by_contra more
  obtain ⟨sda, nonneg, before, near, whole⟩ :=
    exists_wholeBefore (c := c) (e := (c.lossBefore step - bound) / 2) some (by linarith)
  have here := bounded sda ⟨nonneg, before.le.trans allowed.le⟩
  rw [validLoss, whole] at here
  simp only [lossBefore, validTime, holdTime_rising c sda, holdTime_rising c step,
    timeToRiseTo0_3Vdd, Bool.false_eq_true, if_false] at here near more
  linarith

/-- Between two steps the loss grows with the rise time, so that it is greatest just before a step
or at the longest rise time. -/
theorem covered_iff (short : c.maxRise < 5) :
    (∀ sda, c.Allows sda → c.LossCovered (c.validLoss sda)) ↔
      ∀ step ∈ c.roundingSteps, 0 ≤ step → step ≤ c.maxRise →
        c.LossCovered (c.validLoss step) ∧ (0 < step → c.LossApproached (c.lossBefore step)) := by
  constructor
  · intro covered step _ nonneg le
    refine ⟨covered step ⟨nonneg, le⟩, fun some => ⟨fun sets => ?_, fun none => ?_⟩⟩
    · exact lossBefore_le ⟨nonneg, le⟩ some fun sda allowed => ((covered sda allowed).1 sets).le
    · exact lossBefore_le ⟨nonneg, le⟩ some fun sda allowed => (covered sda allowed).2 none
  · intro steps sda allowed
    by_cases here : sda ∈ c.roundingSteps
    · exact (steps sda here allowed.nonneg allowed.le).1
    · let later := c.roundingSteps.toFinset.filter fun step => sda < step ∧ step ≤ c.maxRise
      have listed {step : ℚ} : step ∈ later ↔
          step ∈ c.roundingSteps ∧ sda < step ∧ step ≤ c.maxRise := by
        simp [later]
      rcases later.eq_empty_or_nonempty with none | some
      · -- The loss grows up to the longest rise time.
        have same : c.wholeValid sda = c.wholeValid c.maxRise := by
          refine wholeValid_eq_of_no_step allowed.nonneg allowed.le short fun step member h le => ?_
          have apart : sda ≠ step := fun equal => here (equal ▸ member)
          have : step ∈ later := listed.mpr ⟨member, lt_of_le_of_ne h apart, le⟩
          simp [none] at this
        have grows := (c.validLoss_rising allowed.le).1
        rw [same] at grows
        exact ⟨fun _ => grows.trans_lt (lt_add_one _), fun _ => grows⟩
      · -- It grows up to the next step.
        obtain ⟨step, next, least⟩ := later.exists_min_image id some
        obtain ⟨member, after, le⟩ := listed.mp next
        have positive := allowed.nonneg.trans_lt after
        obtain ⟨sda', h, before, _, whole⟩ :=
          exists_wholeBefore (c := c) after one_pos
        have same : c.wholeValid sda = c.wholeBefore step := by
          rw [← whole]
          refine wholeValid_eq_of_no_step allowed.nonneg h ((before.trans_le le).trans short)
            fun other listed' h' le' => ?_
          have apart : sda ≠ other := fun equal => here (equal ▸ listed')
          have here' := least other (listed.mpr ⟨listed', lt_of_le_of_ne h' apart,
            (le'.trans before.le).trans le⟩)
          exact absurd (le'.trans_lt before) (not_lt.mpr here')
        have grows := (c.validLoss_rising after.le).2 after
        rw [same] at grows
        exact ((steps step member positive.le le).2 positive).covered grows

theorem dataSetup_worst_iff : c.WorstCaseIsWorst .dataSetupRising ↔ c.RoundingHidesRise := by
  rw [dataSetup_worst_iff_covered]
  exact and_congr_right fun hidden => covered_iff (maxRise_lt_of_hidden hidden)

/-- Rounding can hide a rise time of 2 ns. -/
example : { Profile.fastMode.config ⟨0, 0, 300, 300⟩ with maxRise := 2 }.RoundingHidesRise := by
  decide +kernel

/-- What makes the longest rise time the worst, parameter by parameter. -/
def LongestIsWorst (valid : c.Valid) : TimingParameter → Prop
  | .clockHigh => (fromRise valid c.clkhi (c.fallTime * timeToFallTo0_7Vdd)).LowestAtEnd c.maxRise
  | .setupRepeatedStart =>
      (fromRise valid c.sethold (c.fallTime * timeToFallTo0_7Vdd)).LowestAtEnd c.maxRise
  | .stopSetup => (fromRise valid c.sethold 0).LowestAtEnd c.maxRise
  | .busFree => True
  | .dataSetupRising => c.RoundingHidesRise

theorem worst_case_is_worst (c : TeensyConfig) (valid : c.Valid) (p : TimingParameter) :
    c.WorstCaseIsWorst p ↔ LongestIsWorst valid p := by
  cases p with
  | clockHigh => exact clockHigh_worst_iff valid
  | setupRepeatedStart => exact setupRepeatedStart_worst_iff valid
  | stopSetup => exact stopSetup_worst_iff valid
  | busFree => exact iff_of_true (busFree_worst valid) trivial
  | dataSetupRising => exact dataSetup_worst_iff

/-- In Standard-mode the last step of the latency is 94 ns before the longest rise time, just far
enough for the tick to be used up again. -/
theorem worst_case_is_worst_standardMode :
    (Profile.standardMode.config ⟨1100, 1100, 8, 8⟩).WorstCaseIsWorst .clockHigh :=
  (worst_case_is_worst (Profile.standardMode.config ⟨1100, 1100, 8, 8⟩)
    (Profile.config_valid .standardMode (by constructor <;> norm_num [Profile.maxRise]))
    .clockHigh).mpr (.inr (by decide +kernel))

/-- In Fast-mode it is 19 ns before: SCL is high for 896 ns where it takes 310 ns to rise, and the
worst case is 901 ns. -/
theorem worst_case_not_worst_fastMode :
    (Profile.fastMode.config ⟨330, 330, 8, 8⟩).Valid ∧
      ¬ (Profile.fastMode.config ⟨330, 330, 8, 8⟩).WorstCaseIsWorst .clockHigh ∧
      ¬ (Profile.fastMode.config ⟨330, 330, 8, 8⟩).WorstCaseIsWorst .dataSetupRising := by
  have slowest : (Profile.fastMode.config ⟨330, 330, 8, 8⟩).Allows 330 :=
    ⟨by norm_num, by norm_num [Profile.config, Profile.maxRise]⟩
  refine ⟨Profile.config_valid .fastMode (by constructor <;> norm_num [Profile.maxRise]),
    fun worst => ?_, fun worst => ?_⟩
  · have faster : (Profile.fastMode.config ⟨330, 330, 8, 8⟩).Allows 310 :=
      ⟨by norm_num, by norm_num [Profile.config, Profile.maxRise]⟩
    exact absurd (worst 310 330 330 330 faster slowest slowest slowest) (by decide +kernel)
  · have instant : (Profile.fastMode.config ⟨330, 330, 8, 8⟩).Allows 0 :=
      ⟨le_rfl, by norm_num [Profile.config, Profile.maxRise]⟩
    exact absurd (worst 0 330 330 330 instant slowest slowest slowest) (by decide +kernel)

end TeensyConfig
end TeensyI2C

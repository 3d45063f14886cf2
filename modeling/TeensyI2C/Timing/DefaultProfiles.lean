import TeensyI2C.Timing.TeensyConfig
import TeensyI2C.Master.Driver

/-!
The default master profiles against the I2C specification, over every rise time that a bus may
have and not only at the slowest one.
-/

namespace TeensyI2C
open Truncation

structure Range where
  min : ℤ
  max : ℤ
deriving DecidableEq, Repr

structure I2CSpecification where
  frequency : Range
  startHoldTime : Range
  sclLowTime : Range
  sclHighTime : Range
  startSetupTime : Range
  dataSetupTime : Range
  stopSetupTime : Range
  busFreeTime : Range
  dataValidTime : Range
deriving DecidableEq, Repr

def unlimited : ℤ := 1000000

def standardModeSpec : I2CSpecification where
  frequency := ⟨0, 100000⟩
  startHoldTime := ⟨4000, unlimited⟩
  sclLowTime := ⟨4700, unlimited⟩
  sclHighTime := ⟨4000, unlimited⟩
  startSetupTime := ⟨4700, unlimited⟩
  dataSetupTime := ⟨250, unlimited⟩
  stopSetupTime := ⟨4000, unlimited⟩
  busFreeTime := ⟨4700, unlimited⟩
  dataValidTime := ⟨0, 3450⟩

def fastModeSpec : I2CSpecification where
  frequency := ⟨0, 400000⟩
  startHoldTime := ⟨600, unlimited⟩
  sclLowTime := ⟨1300, unlimited⟩
  sclHighTime := ⟨600, unlimited⟩
  startSetupTime := ⟨600, unlimited⟩
  dataSetupTime := ⟨100, unlimited⟩
  stopSetupTime := ⟨600, unlimited⟩
  busFreeTime := ⟨1300, unlimited⟩
  dataValidTime := ⟨0, 900⟩

def fastModePlusSpec : I2CSpecification where
  frequency := ⟨0, 1000000⟩
  startHoldTime := ⟨260, unlimited⟩
  sclLowTime := ⟨500, unlimited⟩
  sclHighTime := ⟨260, unlimited⟩
  startSetupTime := ⟨260, unlimited⟩
  dataSetupTime := ⟨50, unlimited⟩
  stopSetupTime := ⟨260, unlimited⟩
  busFreeTime := ⟨500, unlimited⟩
  dataValidTime := ⟨0, 450⟩

/-- What a bus is like: how long its lines take to rise, and to fall under the master. -/
structure BusTimes where
  sclRisetime : ℚ
  sdaRisetime : ℚ
  fallTime : ℚ
  maxFall : ℚ
deriving DecidableEq, Repr

/-- The master controls the fall time, which is short; the rise times are up to the bus. -/
structure BusTimes.Within (bus : BusTimes) (maxRise : ℚ) : Prop where
  sclRisetime_nonneg : 0 ≤ bus.sclRisetime
  sclRisetime_le : bus.sclRisetime ≤ maxRise
  sdaRisetime_nonneg : 0 ≤ bus.sdaRisetime
  sdaRisetime_le : bus.sdaRisetime ≤ maxRise
  fallTime_nonneg : 0 ≤ bus.fallTime
  fallTime_le : bus.fallTime ≤ 10

inductive Profile where
  | standardMode
  | fastMode
  | fastModePlus
deriving DecidableEq, Repr

namespace Profile

/-- The longest rise time that the profile is meant for. -/
def maxRise : Profile → ℚ
  | standardMode => 1100
  | fastMode => 330
  | fastModePlus => 132

def spec : Profile → I2CSpecification
  | standardMode => standardModeSpec
  | fastMode => fastModeSpec
  | fastModePlus => fastModePlusSpec

def masterConfiguration : Profile → I2CMasterConfiguration
  | standardMode => defaultStandardModeMasterConfiguration
  | fastMode => defaultFastModeMasterConfiguration
  | fastModePlus => defaultFastModePlusMasterConfiguration

/-- The registers as the driver installs them. The LPI2C clock is set to 60 MHz. -/
def config (p : Profile) (bus : BusTimes) : TeensyConfig where
  sclRisetime := bus.sclRisetime
  sdaRisetime := bus.sdaRisetime
  fallTime := bus.fallTime
  maxFall := bus.maxFall
  maxRise := p.maxRise
  frequency := 60
  prescale := p.masterConfiguration.prescale.toNat
  datavd := p.masterConfiguration.dataVd.toNat
  sethold := p.masterConfiguration.setHold.toNat
  busidle := p.masterConfiguration.busIdle.toNat
  filtsda := p.masterConfiguration.filtSda.toNat
  filtscl := p.masterConfiguration.filtScl.toNat
  clkhi := p.masterConfiguration.clkHi.toNat
  clklo := p.masterConfiguration.clkLo.toNat

/-- The configuration that `TestDefaultMasterProfiles` checks. -/
def tested (bus : BusTimes) : Profile → TeensyConfig
  | standardMode =>
      { sclRisetime := bus.sclRisetime, sdaRisetime := bus.sdaRisetime
        fallTime := bus.fallTime, maxFall := bus.maxFall, maxRise := 1100
        frequency := 60, prescale := 3, datavd := 7, sethold := 44, busidle := 9
        filtscl := 15, filtsda := 15, clkhi := 34, clklo := 37 }
  | fastMode =>
      { sclRisetime := bus.sclRisetime, sdaRisetime := bus.sdaRisetime
        fallTime := bus.fallTime, maxFall := bus.maxFall, maxRise := 330
        frequency := 60, prescale := 1, datavd := 11, sethold := 21, busidle := 1
        filtscl := 15, filtsda := 15, clkhi := 23, clklo := 42 }
  | fastModePlus =>
      { sclRisetime := bus.sclRisetime, sdaRisetime := bus.sdaRisetime
        fallTime := bus.fallTime, maxFall := bus.maxFall, maxRise := 132
        frequency := 60, prescale := 0, datavd := 12, sethold := 19, busidle := 1
        filtscl := 6, filtsda := 6, clkhi := 14, clklo := 36 }

theorem config_eq_tested (p : Profile) (bus : BusTimes) : p.config bus = p.tested bus := by
  cases p <;> rfl

end Profile

namespace TeensyConfig

/-- What the specification asks of a master, as the other devices on the bus see it. -/
structure Meets (c : TeensyConfig) (spec : I2CSpecification) : Prop where
  clockLow : spec.sclLowTime.min ≤ c.clockLow.i2cValue
  clockHigh : spec.sclHighTime.min ≤ c.clockHigh.i2cValue
  startHold : spec.startHoldTime.min ≤ c.startHold.i2cValue
  setupRepeatedStart : spec.startSetupTime.min ≤ c.setupRepeatedStart.i2cValue
  stopSetup : spec.stopSetupTime.min ≤ c.stopSetup.i2cValue
  busFree : spec.busFreeTime.min ≤ c.busFree.i2cValue
  dataSetup : ∀ falling, spec.dataSetupTime.min ≤ (c.dataSetup true falling).i2cValue
  dataValid : ∀ falling, (c.dataValid true falling).i2cValue ≤ spec.dataValidTime.max
  clockFrequency : c.clockFrequency.i2cValue ≤ spec.frequency.max

variable {c : TeensyConfig}

/-- While SCL rises the latency makes up for 0.911 of the rise time, whatever is lost to
rounding: the filter's own two periods and the tick that is always there are kept. -/
theorem le_i2cFromRise (valid : c.Valid) (ticks : ℕ) (rise adjustment : ℚ) :
    c.scale * ticks + c.period * (2 + c.filtscl) - 51 / 100 * rise + adjustment ≤
      c.i2cFromRise ticks rise adjustment := by
  have latency := lt_latency valid rise
  simp only [i2cFromRise, nominalFromRise, timeToRiseTo0_7Vdd,
    timeToRiseToTeensyTriggerVoltage] at latency ⊢
  linarith

theorem dataValid_le_validTime {falling : Bool} (hold : 0 ≤ c.holdTime falling c.sdaRisetime)
    (fall : 0 ≤ c.fallTime) (rise : 0 ≤ c.sdaRisetime) :
    ((c.dataValid true falling).i2cValue : ℚ) ≤ c.validTime falling c.sdaRisetime := by
  have rounded := trunc_le_self hold
  have later : (0 : ℚ) ≤ if falling then c.fallTime else c.sdaRisetime := by
    split <;> assumption
  have kept : (0 : ℚ) ≤ trunc (c.holdTime falling c.sdaRisetime) :=
    Int.cast_nonneg (le_trunc (by simpa using hold))
  rw [dataValid_i2cValue]
  refine (trunc_le_self (add_nonneg kept later)).trans ?_
  exact add_le_add_left rounded _

theorem le_dataSetup {falling : Bool} {n : ℤ}
    (valid : ((c.dataValid true falling).i2cValue : ℚ) ≤ c.validTime falling c.sdaRisetime)
    (h : n ≤ c.lowTime c.sclRisetime - c.validTime falling c.sdaRisetime) :
    n ≤ (c.dataSetup true falling).i2cValue := by
  have low : c.lowTime c.sclRisetime < c.clockLow.i2cValue + 1 := by
    rw [clockLow_i2cValue]
    exact lt_trunc_add_one _
  have strict : (n : ℚ) < c.clockLow.i2cValue + 1 - (c.dataValid true falling).i2cValue := by
    linarith
  have : n < c.clockLow.i2cValue + 1 - (c.dataValid true falling).i2cValue := by
    exact_mod_cast strict
  rw [dataSetup_i2cValue]
  omega

/-- SCL never rises sooner than at once, so that no cycle is shorter than the shortest. -/
theorem clockFrequency_le {n : ℤ} (valid : c.Valid) (rise : 0 ≤ c.sclRisetime)
    (running : 0 < c.clkhi + c.clklo + 2 + c.sclLatency 0)
    (h : c.clockFrequency.worstCase ≤ n) : c.clockFrequency.i2cValue ≤ n := by
  refine le_trans (trunc_mono ?_) h
  have := valid.scale_pos
  have : (0 : ℚ) < c.clkhi + c.clklo + 2 + c.sclLatency 0 := by exact_mod_cast running
  have := sclLatency_mono valid rise
  unfold cycleFrequency
  gcongr

end TeensyConfig

namespace Profile
open TeensyConfig

theorem config_valid (p : Profile) {bus : BusTimes} (h : bus.Within p.maxRise) :
    (p.config bus).Valid where
  frequency_pos := by norm_num [config]
  fallTime_nonneg := h.fallTime_nonneg
  validate_ok := by cases p <;> rfl

@[simp] theorem config_period (p : Profile) (bus : BusTimes) : (p.config bus).period = 50 / 3 := by
  norm_num [period, config]

/-- The length of a tick. -/
def tick : Profile → ℚ
  | standardMode => 400 / 3
  | fastMode => 100 / 3
  | fastModePlus => 50 / 3

@[simp] theorem config_scale (p : Profile) (bus : BusTimes) : (p.config bus).scale = p.tick := by
  rw [scale, config_period, config_eq_tested]
  cases p <;> norm_num [tested, tick]

theorem config_latency_zero (p : Profile) (bus : BusTimes) :
    (p.config bus).sclLatency 0 = match p with | standardMode => 2 | _ => 8 := by
  rw [config_eq_tested]
  cases p <;> rw [sclLatency, Int.floor_eq_iff] <;> norm_num [tested]

/-- On a bus that rises at once every profile runs at exactly its highest frequency. -/
theorem clockFrequency_worstCase (p : Profile) (bus : BusTimes) :
    (p.config bus).clockFrequency.worstCase = p.spec.frequency.max := by
  have exact : (p.config bus).cycleFrequency 0 = (p.spec.frequency.max : ℚ) := by
    rw [cycleFrequency, config_latency_zero, config_scale, config_eq_tested]
    cases p <;> norm_num [tested, tick, spec, standardModeSpec, fastModeSpec, fastModePlusSpec]
  change trunc ((p.config bus).cycleFrequency 0) = _
  rw [exact, trunc_intCast]

section
variable {p : Profile} {bus : BusTimes}

attribute [local simp] tested tick maxRise spec standardModeSpec fastModeSpec fastModePlusSpec
  timeToFallTo0_7Vdd timeToFallTo0_3Vdd timeToRiseTo0_7Vdd timeToRiseTo0_3Vdd

theorem clockFrequency_max (h : bus.Within p.maxRise) :
    (p.config bus).clockFrequency.i2cValue ≤ p.spec.frequency.max := by
  refine clockFrequency_le (p.config_valid h) h.sclRisetime_nonneg ?_
    (p.clockFrequency_worstCase bus).le
  rw [config_latency_zero]
  cases p <;> simp only <;> positivity

theorem clockLow_min (h : bus.Within p.maxRise) :
    p.spec.sclLowTime.min ≤ (p.config bus).clockLow.i2cValue := by
  have slow := h.sclRisetime_nonneg
  have fall := h.fallTime_le
  apply le_trunc
  rw [config_scale, config_eq_tested]
  cases p <;> norm_num <;> linarith

theorem startHold_min (h : bus.Within p.maxRise) :
    p.spec.startHoldTime.min ≤ (p.config bus).startHold.i2cValue := by
  have fall := h.fallTime_le
  apply le_trunc
  rw [config_scale, config_eq_tested]
  cases p <;> norm_num <;> linarith

/-- The three times that are counted from a rising SCL, at the longest rise time. -/
theorem le_fromRise (h : bus.Within p.maxRise) {ticks : ℕ} {n : ℤ} {adjustment : ℚ}
    (more : 0 ≤ adjustment)
    (slowest : n ≤ p.tick * ticks + 50 / 3 * (2 + (p.config bus).filtscl) -
      51 / 100 * p.maxRise) :
    n ≤ trunc ((p.config bus).i2cFromRise ticks bus.sclRisetime adjustment) := by
  have bound := le_i2cFromRise (p.config_valid h) ticks bus.sclRisetime adjustment
  have rise := h.sclRisetime_le
  rw [config_scale, config_period] at bound
  apply le_trunc
  linarith

theorem clockHigh_min (h : bus.Within p.maxRise) :
    p.spec.sclHighTime.min ≤ (p.config bus).clockHigh.i2cValue := by
  apply le_fromRise h
  · exact mul_nonneg h.fallTime_nonneg (by norm_num)
  · rw [config_eq_tested]
    cases p <;> norm_num

theorem setupRepeatedStart_min (h : bus.Within p.maxRise) :
    p.spec.startSetupTime.min ≤ (p.config bus).setupRepeatedStart.i2cValue := by
  apply le_fromRise h
  · exact mul_nonneg h.fallTime_nonneg (by norm_num)
  · rw [config_eq_tested]
    cases p <;> norm_num

theorem stopSetup_min (h : bus.Within p.maxRise) :
    p.spec.stopSetupTime.min ≤ (p.config bus).stopSetup.i2cValue := by
  apply le_fromRise h
  · exact mul_nonneg h.sdaRisetime_nonneg (by norm_num)
  · rw [config_eq_tested]
    cases p <;> norm_num

theorem busFree_min (h : bus.Within p.maxRise) :
    p.spec.busFreeTime.min ≤ (p.config bus).busFree.i2cValue := by
  have rise := h.sdaRisetime_le
  have fall := h.fallTime_nonneg
  apply le_trunc
  cases lt_or_ge 1000 bus.sdaRisetime with
  | inl slow =>
      rw [show (p.config bus).sdaRisetime = bus.sdaRisetime from rfl,
        busFree_slow (p.config_valid h) slow, config_scale, config_eq_tested]
      cases p <;> norm_num at rise ⊢ <;> linarith
  | inr fast =>
      rw [show (p.config bus).sdaRisetime = bus.sdaRisetime from rfl,
        busFree_fast _ fast, config_scale, config_eq_tested]
      cases p <;> norm_num at rise ⊢ <;> linarith

theorem holdTime_nonneg (h : bus.Within p.maxRise) (falling : Bool) :
    0 ≤ (p.config bus).holdTime falling bus.sdaRisetime := by
  have rise := h.sdaRisetime_nonneg
  have fall := h.fallTime_nonneg
  have fallMax := h.fallTime_le
  rw [holdTime, config_scale, config_eq_tested]
  cases p <;> cases falling <;> norm_num <;> linarith

theorem config_dataValid_le (h : bus.Within p.maxRise) (falling : Bool) :
    (((p.config bus).dataValid true falling).i2cValue : ℚ) ≤
      (p.config bus).validTime falling bus.sdaRisetime :=
  dataValid_le_validTime (holdTime_nonneg h falling) h.fallTime_nonneg h.sdaRisetime_nonneg

theorem dataValid_max (h : bus.Within p.maxRise) (falling : Bool) :
    ((p.config bus).dataValid true falling).i2cValue ≤ p.spec.dataValidTime.max := by
  have rise := h.sdaRisetime_le
  have fall := h.fallTime_nonneg
  have limit : (p.config bus).validTime falling bus.sdaRisetime ≤ p.spec.dataValidTime.max := by
    rw [validTime, holdTime, config_scale, config_eq_tested]
    cases p <;> cases falling <;> norm_num at rise ⊢ <;> linarith
  exact_mod_cast (config_dataValid_le h falling).trans limit

/-- The data is valid a setup time before the clock rises, even when SDA takes longest to rise
and SCL rises at once. -/
theorem dataSetup_min (h : bus.Within p.maxRise) (falling : Bool) :
    p.spec.dataSetupTime.min ≤ ((p.config bus).dataSetup true falling).i2cValue := by
  have scl := h.sclRisetime_nonneg
  have sda := h.sdaRisetime_le
  have fall := h.fallTime_nonneg
  have fallMax := h.fallTime_le
  apply le_dataSetup (config_dataValid_le h falling)
  rw [lowTime, validTime, holdTime, config_scale, config_eq_tested]
  cases p <;> cases falling <;> norm_num at sda ⊢ <;> linarith

theorem default_profiles_meet (p : Profile) (bus : BusTimes) (h : bus.Within p.maxRise) :
    (p.config bus).Meets p.spec where
  clockLow := clockLow_min h
  clockHigh := clockHigh_min h
  startHold := startHold_min h
  setupRepeatedStart := setupRepeatedStart_min h
  stopSetup := stopSetup_min h
  busFree := busFree_min h
  dataSetup := dataSetup_min h
  dataValid := dataValid_max h
  clockFrequency := clockFrequency_max h

/-- Just after a step of the latency, on a bus with one slow line and one fast line. -/
theorem default_profiles_meet_uneven :
    (fastMode.config ⟨311, 20, 7, 300⟩).Meets fastModeSpec :=
  default_profiles_meet fastMode ⟨311, 20, 7, 300⟩ (by constructor <;> norm_num)

end

end Profile
end TeensyI2C

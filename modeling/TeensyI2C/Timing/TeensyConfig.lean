import TeensyI2C.Lib.Truncation
import Mathlib.Data.Rat.Floor
import Mathlib.Tactic.NormNum
import Mathlib.Tactic.Positivity
import Mathlib.Tactic.FieldSimp

/-!
`teensy_config.py`: the times, in nanoseconds, that the timing registers of a Teensy amount to on
a bus with given rise and fall times. Its floating point numbers are exact rationals here.
-/

namespace TeensyI2C
open Truncation

def timeToRiseTo0_3Vdd : ℚ := 421 / 1000
def timeToRiseTo0_7Vdd : ℚ := 1421 / 1000
def timeToRiseToTeensyTriggerVoltage : ℚ := 911 / 1000
def timeToFallTo0_7Vdd : ℚ := timeToRiseTo0_3Vdd
def timeToFallTo0_3Vdd : ℚ := timeToRiseTo0_7Vdd
def timeToFallFromTriggerTo0_3Vdd : ℚ := 603 / 1000

/-- What is reported of a time: it is cut down to whole units. -/
structure Parameter where
  i2cValue : ℤ
  nominal : ℤ
  worstCase : ℤ
deriving DecidableEq, Repr

def Parameter.ofTimes (i2c nominal worstCase : ℚ) : Parameter :=
  ⟨trunc i2c, trunc nominal, trunc worstCase⟩

structure TeensyConfig where
  sclRisetime : ℚ
  sdaRisetime : ℚ
  /-- Same for both pins when controlled by Teensy. -/
  fallTime : ℚ
  maxFall : ℚ
  maxRise : ℚ
  /-- In MHz. -/
  frequency : ℚ
  prescale : ℕ
  datavd : ℕ
  sethold : ℕ
  busidle : ℕ
  filtsda : ℕ
  filtscl : ℕ
  clkhi : ℕ
  clklo : ℕ
deriving DecidableEq, Repr

namespace TeensyConfig

def period (c : TeensyConfig) : ℚ := 1000 / c.frequency

def scale (c : TeensyConfig) : ℚ := c.period * 2 ^ c.prescale

def validate (c : TeensyConfig) : Except String Unit :=
  if 15 < c.filtscl then .error "FILTSCL is out range"
  else if 15 < c.filtsda then .error "FILTSDA is out range"
  else .ok ()

/-- As defined in the data sheet. -/
def sclLatency (c : TeensyConfig) (sclRisetime : ℚ) : ℤ :=
  ⌊(2 + c.filtscl + sclRisetime * timeToRiseToTeensyTriggerVoltage / c.period) / 2 ^ c.prescale⌋

def dataHold (c : TeensyConfig) (master falling : Bool) : Parameter :=
  let adjustment :=
    if falling then c.fallTime * timeToFallTo0_7Vdd else c.sdaRisetime * timeToRiseTo0_3Vdd
  if master then
    let nominal := c.scale * (c.datavd + 1)
    let worstCaseAdjustment :=
      if falling then c.fallTime * timeToFallTo0_7Vdd else c.maxRise * timeToRiseTo0_3Vdd
    .ofTimes (nominal - c.fallTime * timeToFallTo0_3Vdd + adjustment) nominal
      (nominal - c.fallTime * timeToFallTo0_3Vdd + worstCaseAdjustment)
  else
    let nominal := c.period * (c.filtscl + c.datavd + 3)
    .ofTimes (nominal - c.fallTime * timeToFallFromTriggerTo0_3Vdd + adjustment) nominal
      (nominal - c.maxFall * timeToFallFromTriggerTo0_3Vdd)

def dataValid (c : TeensyConfig) (master falling : Bool) : Parameter :=
  let dataHold := c.dataHold master falling
  let adjustment := if falling then c.fallTime else c.sdaRisetime
  .ofTimes (dataHold.i2cValue + adjustment) dataHold.nominal (dataHold.worstCase + adjustment)

def clockLow (c : TeensyConfig) : Parameter :=
  let nominal := c.scale * (c.clklo + 1)
  let worstCase := nominal - c.fallTime * timeToFallTo0_3Vdd
  .ofTimes (worstCase + c.sclRisetime * timeToRiseTo0_3Vdd) nominal worstCase

/-- tLow = tVD;DAT + tSU;DAT -/
def dataSetup (c : TeensyConfig) (master falling : Bool) : Parameter :=
  let low := c.clockLow
  let dv := c.dataValid master falling
  let i2cValue := low.i2cValue - dv.i2cValue
  let nominal := low.nominal - dv.nominal
  let worstCase : ℚ :=
    if falling then
      if master then i2cValue else nominal - c.maxFall * timeToFallTo0_3Vdd
    else i2cValue - (c.maxRise - c.sdaRisetime) * timeToRiseTo0_7Vdd
  .ofTimes i2cValue nominal worstCase

def startHold (c : TeensyConfig) : Parameter :=
  let nominal := (c.sethold + 1) * c.scale
  let i2cValue := nominal - c.fallTime * timeToRiseTo0_7Vdd + c.fallTime * timeToRiseTo0_3Vdd
  .ofTimes i2cValue nominal i2cValue

/-- A time that is counted from a rising SCL. -/
def nominalFromRise (c : TeensyConfig) (ticks : ℕ) (sclRisetime : ℚ) : ℚ :=
  c.scale * (ticks + 1 + c.sclLatency sclRisetime)

/-- The same time as it is on the bus, where SCL counts as high only at 0.7 Vdd. -/
def i2cFromRise (c : TeensyConfig) (ticks : ℕ) (sclRisetime adjustment : ℚ) : ℚ :=
  c.nominalFromRise ticks sclRisetime - sclRisetime * timeToRiseTo0_7Vdd + adjustment

def setupRepeatedStart (c : TeensyConfig) : Parameter :=
  .ofTimes (c.i2cFromRise c.sethold c.sclRisetime (c.fallTime * timeToFallTo0_7Vdd))
    (c.nominalFromRise c.sethold c.sclRisetime)
    (c.i2cFromRise c.sethold c.maxRise (c.fallTime * timeToFallTo0_7Vdd))

def stopSetup (c : TeensyConfig) : Parameter :=
  .ofTimes (c.i2cFromRise c.sethold c.sclRisetime (c.sdaRisetime * timeToRiseTo0_3Vdd))
    (c.nominalFromRise c.sethold c.sclRisetime)
    (c.i2cFromRise c.sethold c.maxRise 0)

def clockHigh (c : TeensyConfig) : Parameter :=
  .ofTimes (c.i2cFromRise c.clkhi c.sclRisetime (c.fallTime * timeToFallTo0_7Vdd))
    (c.nominalFromRise c.clkhi c.sclRisetime)
    (c.i2cFromRise c.clkhi c.maxRise (c.fallTime * timeToFallTo0_7Vdd))

/-- The frequency, in Hz, that a cycle of the clock amounts to. -/
def cycleFrequency (c : TeensyConfig) (sclRisetime : ℚ) : ℚ :=
  1 / (c.scale * (c.clkhi + c.clklo + 2 + c.sclLatency sclRisetime) / 10 ^ 9)

def clockFrequency (c : TeensyConfig) : Parameter :=
  .ofTimes (c.cycleFrequency c.sclRisetime) (c.cycleFrequency c.sclRisetime) (c.cycleFrequency 0)

/-- The actual algorithm is not known, but it definitely involves capping the rise time. -/
def getNominalAndI2CValue (c : TeensyConfig) (riseTime : ℚ) : ℚ × ℚ :=
  let offset : ℚ :=
    if 1000 < riseTime then (riseTime - 1000) * timeToRiseTo0_7Vdd / c.scale + 1
    else if 1 < c.busidle then c.busidle + 1
    else 2
  let nominal := 1000 + (c.clklo + 1 + offset) * c.scale
  (nominal, nominal - riseTime * timeToRiseTo0_7Vdd + c.fallTime * timeToFallTo0_7Vdd)

def busFree (c : TeensyConfig) : Parameter :=
  .ofTimes (c.getNominalAndI2CValue c.sdaRisetime).2 (c.getNominalAndI2CValue c.sdaRisetime).1
    (c.getNominalAndI2CValue c.maxRise).2

/-- A configuration that the calculator is meant for. The registers are non-negative by type. -/
structure Valid (c : TeensyConfig) : Prop where
  frequency_pos : 0 < c.frequency
  fallTime_nonneg : 0 ≤ c.fallTime
  validate_ok : c.validate = .ok ()

theorem validate_ok_iff (c : TeensyConfig) :
    c.validate = .ok () ↔ c.filtscl ≤ 15 ∧ c.filtsda ≤ 15 := by
  unfold validate
  split
  · simp; omega
  · split
    · simp; omega
    · simp; omega

theorem Valid.period_pos {c : TeensyConfig} (valid : c.Valid) : 0 < c.period :=
  div_pos (by norm_num) valid.frequency_pos

theorem Valid.scale_pos {c : TeensyConfig} (valid : c.Valid) : 0 < c.scale :=
  mul_pos valid.period_pos (by positivity)

theorem lt_latency {c : TeensyConfig} (valid : c.Valid) (rise : ℚ) :
    c.period * (2 + c.filtscl) + rise * timeToRiseToTeensyTriggerVoltage <
      c.scale * (c.sclLatency rise + 1) := by
  have lost := Int.lt_floor_add_one
    ((2 + c.filtscl + rise * timeToRiseToTeensyTriggerVoltage / c.period) / 2 ^ c.prescale)
  rw [div_lt_iff₀ (by positivity)] at lost
  have scaled := mul_lt_mul_of_pos_left lost valid.period_pos
  have := valid.period_pos.ne'
  calc c.period * (2 + c.filtscl) + rise * timeToRiseToTeensyTriggerVoltage
      = c.period * (2 + c.filtscl + rise * timeToRiseToTeensyTriggerVoltage / c.period) := by
        field_simp
    _ < c.period * ((c.sclLatency rise + 1) * 2 ^ c.prescale) := scaled
    _ = c.scale * (c.sclLatency rise + 1) := by rw [scale]; ring

theorem sclLatency_mono {c : TeensyConfig} (valid : c.Valid) {rise rise' : ℚ} (h : rise ≤ rise') :
    c.sclLatency rise ≤ c.sclLatency rise' := by
  have := valid.period_pos
  have : (0 : ℚ) ≤ timeToRiseToTeensyTriggerVoltage := by
    norm_num [timeToRiseToTeensyTriggerVoltage]
  unfold sclLatency
  gcongr

/-- The clock's low time on the bus, before it is rounded. -/
def lowTime (c : TeensyConfig) (scl : ℚ) : ℚ :=
  c.scale * (c.clklo + 1) - c.fallTime * timeToFallTo0_3Vdd + scl * timeToRiseTo0_3Vdd

/-- A master's data hold time and data valid time, likewise. -/
def holdTime (c : TeensyConfig) (falling : Bool) (sda : ℚ) : ℚ :=
  c.scale * (c.datavd + 1) - c.fallTime * timeToFallTo0_3Vdd +
    if falling then c.fallTime * timeToFallTo0_7Vdd else sda * timeToRiseTo0_3Vdd

def validTime (c : TeensyConfig) (falling : Bool) (sda : ℚ) : ℚ :=
  c.holdTime falling sda + if falling then c.fallTime else sda

theorem clockLow_i2cValue (c : TeensyConfig) :
    c.clockLow.i2cValue = trunc (c.lowTime c.sclRisetime) :=
  rfl

theorem dataValid_i2cValue (c : TeensyConfig) (falling : Bool) :
    (c.dataValid true falling).i2cValue =
      trunc ((trunc (c.holdTime falling c.sdaRisetime) : ℚ) +
        if falling then c.fallTime else c.sdaRisetime) :=
  rfl

@[simp] theorem dataSetup_i2cValue (c : TeensyConfig) (master falling : Bool) :
    (c.dataSetup master falling).i2cValue =
      c.clockLow.i2cValue - (c.dataValid master falling).i2cValue :=
  trunc_intCast _

/-- Beyond 1000 ns the rise time no longer counts. -/
theorem busFree_slow {c : TeensyConfig} (valid : c.Valid) {rise : ℚ} (slow : 1000 < rise) :
    (c.getNominalAndI2CValue rise).2 =
      (c.clklo + 2) * c.scale - 421 + c.fallTime * timeToFallTo0_7Vdd := by
  have := valid.scale_pos.ne'
  simp only [getNominalAndI2CValue, slow, if_true, timeToRiseTo0_7Vdd]
  field_simp
  ring

theorem busFree_fast (c : TeensyConfig) {rise : ℚ} (fast : rise ≤ 1000) :
    (c.getNominalAndI2CValue rise).2 =
      1000 + (c.clklo + 1 + (if 1 < c.busidle then (c.busidle : ℚ) + 1 else 2)) * c.scale -
        rise * timeToRiseTo0_7Vdd + c.fallTime * timeToFallTo0_7Vdd := by
  simp only [getNominalAndI2CValue, not_lt.mpr fast, if_false]

/-- BUSIDLE keeps the bus free for two ticks at least. -/
theorem two_le_offset (busidle : ℕ) : (2 : ℚ) ≤ if 1 < busidle then (busidle : ℚ) + 1 else 2 := by
  split
  · rename_i h
    have : (1 : ℚ) < busidle := by exact_mod_cast h
    linarith
  · exact le_rfl

end TeensyConfig
end TeensyI2C

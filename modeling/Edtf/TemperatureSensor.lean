import Mathlib.Tactic
import Edtf.BytePairs
import Edtf.I2CMemory

namespace Edtf.TemperatureSensor
open ByteText KeptState I2CBus BytePairs

def kDefaultAddr : UInt8 := 0x48
def kRegTemp : UInt8 := 0x00
def kRegConfig : UInt8 := 0x01
def kRegTLow : UInt8 := 0x02
def kRegTHigh : UInt8 := 0x03

def kCfgShutdown : UInt8 := 0x01
def kCfgOneShot : UInt8 := 0x80

-- What a driver call may throw: its own error, or the one the bus threw beneath it.
inductive DriverError where
  | sensor (what : Str)
  | hardware (error : HardwareError)
  deriving DecidableEq, Repr

abbrev SensorM := EStateM DriverError MockI2CBus

def onBus (m : BusM α) : SensorM α := EStateM.adaptExcept .hardware m

-- Multiplying and dividing a double by 0.0625 is exact, so temperatures are rationals.
-- pairValue is static_cast<int16_t>((hi << 8) | lo) >> 4.
def readCelsius (addr : UInt8) : SensorM ℚ := do
  let hi ← onBus (readRegister addr kRegTemp)
  let lo ← onBus (readRegister addr (kRegTemp+1))
  return pairValue hi lo * 0.0625

def triggerOneShot (addr : UInt8) : SensorM Unit := do
  let cfg ← onBus (readRegister addr kRegConfig)
  onBus (writeRegister addr kRegConfig (cfg ||| (kCfgShutdown ||| kCfgOneShot)))

-- static_cast<int>(celsius / 0.0625), which rounds towards zero.
def countsOf (celsius : ℚ) : Int := (celsius / 0.0625).num.tdiv (celsius / 0.0625).den

def outOfRange : DriverError := .sensor (text "temperature limit out of representable range")

def writeLimit (addr reg : UInt8) (celsius : ℚ) : SensorM Unit := do
  let counts := countsOf celsius
  if counts > 2047 ∨ counts < -2048 then
    throw outOfRange
  else
    let raw := justified counts  -- static_cast<uint16_t>((counts & 0x0FFF) << 4)
    onBus (writeRegister addr reg (upper raw))
    onBus (writeRegister addr (reg+1) (lower raw))

def setHighLimitCelsius (addr : UInt8) (celsius : ℚ) : SensorM Unit := writeLimit addr kRegTHigh celsius
def setLowLimitCelsius (addr : UInt8) (celsius : ℚ) : SensorM Unit := writeLimit addr kRegTLow celsius

inductive Call where
  | readCelsius
  | triggerOneShot
  | setHighLimitCelsius (celsius : ℚ)
  | setLowLimitCelsius (celsius : ℚ)
  deriving DecidableEq

inductive Reply where
  | done
  | celsius (value : ℚ)
  | rejected (error : DriverError)
  deriving DecidableEq

def perform (addr : UInt8) : Call → SensorM Reply
  | .readCelsius => return .celsius (← readCelsius addr)
  | .triggerOneShot => do triggerOneShot addr; return .done
  | .setHighLimitCelsius celsius => do setHighLimitCelsius addr celsius; return .done
  | .setLowLimitCelsius celsius => do setLowLimitCelsius addr celsius; return .done

def step (addr : UInt8) (bus : MockI2CBus) (call : Call) : Reply × MockI2CBus :=
  match perform addr call bus with
  | .ok reply next => (reply,next)
  | .error error next => (.rejected error,next)

abbrev after (addr : UInt8) := Histories.after (step addr)
abbrev seen (addr : UInt8) := Histories.seen (step addr)

structure Ready (addr : UInt8) (bus : MockI2CBus) : Prop where
  attached : (bus.devices addr).isSome = true
  free : bus.expectations = []

def register (bus : MockI2CBus) (addr reg : UInt8) : UInt8 := (I2CMemory.current bus addr reg).getD 0

def read (bus : MockI2CBus) (addr reg : UInt8) : MockI2CBus :=
  bus.record ⟨.read,addr,reg,register bus addr reg⟩

def written (bus : MockI2CBus) (addr reg value : UInt8) : MockI2CBus :=
  (bus.assign addr reg value).record ⟨.write,addr,reg,value⟩

theorem advance_free (free : MockI2CBus.expectations bus = []) : bus.advance = bus := if_pos free

theorem readRegister_ready (ready : Ready addr bus) (reg : UInt8) :
    readRegister addr reg bus = .ok (register bus addr reg) (read bus addr reg) := by
  obtain ⟨registers,present⟩ := Option.isSome_iff_exists.mp ready.attached
  have byte : register bus addr reg = (registers reg).getD 0 := by
    rw [register,I2CMemory.current,present]
    rfl
  rw [readRegister_accepted present (.inl ready.free),read,byte,MockI2CBus.commit,advance_free ready.free]

theorem writeRegister_ready (ready : Ready addr bus) (reg value : UInt8) :
    writeRegister addr reg value bus = .ok () (written bus addr reg value) := by
  obtain ⟨registers,present⟩ := Option.isSome_iff_exists.mp ready.attached
  rw [writeRegister_accepted present (.inl ready.free),written,MockI2CBus.commit,advance_free ready.free]

theorem read_ready (ready : Ready addr bus) (reg : UInt8) : Ready addr (read bus addr reg) :=
  ⟨ready.attached,ready.free⟩

theorem written_ready (ready : Ready addr bus) (reg value : UInt8) : Ready addr (written bus addr reg value) := by
  refine ⟨?_,ready.free⟩
  simp [written,MockI2CBus.record,MockI2CBus.assign,ready.attached]

@[simp] theorem register_read (bus : MockI2CBus) (addr r reg : UInt8) :
    register (read bus addr r) addr reg = register bus addr reg := rfl

theorem register_written (ready : Ready addr bus) (r value reg : UInt8) :
    register (written bus addr r value) addr reg = if r = reg then value else register bus addr reg := by
  obtain ⟨registers,present⟩ := Option.isSome_iff_exists.mp ready.attached
  change (I2CMemory.current (bus.assign addr r value) addr reg).getD 0 = _
  rw [I2CMemory.assign_current present]
  by_cases same : r = reg
  · simp [same]
  · simp [same,register]

def reading (bus : MockI2CBus) (addr : UInt8) : ℚ :=
  pairValue (register bus addr kRegTemp) (register bus addr (kRegTemp+1)) * 0.0625

def triggered (bus : MockI2CBus) (addr : UInt8) : MockI2CBus :=
  written (read bus addr kRegConfig) addr kRegConfig (register bus addr kRegConfig ||| (kCfgShutdown ||| kCfgOneShot))

def limited (bus : MockI2CBus) (addr reg : UInt8) (counts : Int) : MockI2CBus :=
  written (written bus addr reg (upper (justified counts))) addr (reg+1) (lower (justified counts))

theorem limited_ready (ready : Ready addr bus) (reg : UInt8) (counts : Int) : Ready addr (limited bus addr reg counts) :=
  written_ready (written_ready ready reg _) (reg+1) _

theorem triggered_ready (ready : Ready addr bus) : Ready addr (triggered bus addr) :=
  written_ready (read_ready ready kRegConfig) kRegConfig _

theorem register_limited (ready : Ready addr bus) (reg : UInt8) (counts : Int) (r : UInt8) :
    register (limited bus addr reg counts) addr r =
      if reg+1 = r then lower (justified counts) else if reg = r then upper (justified counts)
        else register bus addr r := by
  rw [limited,register_written (written_ready ready reg _),register_written ready]

theorem limited_lower (ready : Ready addr bus) (reg : UInt8) (counts : Int) :
    register (limited bus addr reg counts) addr (reg+1) = lower (justified counts) := by
  rw [register_limited ready,if_pos rfl]

theorem limited_upper (ready : Ready addr bus) (reg : UInt8) (counts : Int) :
    register (limited bus addr reg counts) addr reg = upper (justified counts) := by
  have next : reg+1 ≠ reg := by
    intro same
    have bytes : (reg.toNat+1) % 256 = reg.toNat := by simpa using congrArg UInt8.toNat same
    omega
  rw [register_limited ready,if_neg next,if_pos rfl]

theorem limited_apart (ready : Ready addr bus) (counts : Int) (lower : reg+1 ≠ r) (upper : reg ≠ r) :
    register (limited bus addr reg counts) addr r = register bus addr r := by
  rw [register_limited ready,if_neg lower,if_neg upper]

theorem register_triggered (ready : Ready addr bus) (r : UInt8) :
    register (triggered bus addr) addr r =
      if kRegConfig = r then register bus addr kRegConfig ||| (kCfgShutdown ||| kCfgOneShot) else register bus addr r := by
  rw [triggered,register_written (read_ready ready kRegConfig),register_read]

theorem readCelsius_ready (ready : Ready addr bus) :
    readCelsius addr bus = .ok (reading bus addr) (read (read bus addr kRegTemp) addr (kRegTemp+1)) := by
  unfold readCelsius onBus
  rw [bind_ok (adapt_ok (readRegister_ready ready kRegTemp)),
    bind_ok (adapt_ok (readRegister_ready (read_ready ready kRegTemp) (kRegTemp+1)))]
  rfl

theorem triggerOneShot_ready (ready : Ready addr bus) : triggerOneShot addr bus = .ok () (triggered bus addr) := by
  unfold triggerOneShot onBus
  rw [bind_ok (adapt_ok (readRegister_ready ready kRegConfig))]
  exact adapt_ok (writeRegister_ready (read_ready ready kRegConfig) kRegConfig _)

theorem writeLimit_ready (ready : Ready addr bus) (fits : Representable (countsOf celsius)) (reg : UInt8) :
    writeLimit addr reg celsius bus = .ok () (limited bus addr reg (countsOf celsius)) := by
  have inside : ¬(countsOf celsius > 2047 ∨ countsOf celsius < -2048) := by
    obtain ⟨low,high⟩ := fits
    omega
  unfold writeLimit onBus
  simp only [if_neg inside]
  rw [bind_ok (adapt_ok (writeRegister_ready ready reg _))]
  exact adapt_ok (writeRegister_ready (written_ready ready reg _) (reg+1) _)

theorem writeLimit_refused (wide : ¬Representable (countsOf celsius)) (addr reg : UInt8) (bus : MockI2CBus) :
    writeLimit addr reg celsius bus = .error outOfRange bus := by
  have outside : countsOf celsius > 2047 ∨ countsOf celsius < -2048 := by
    unfold Representable at wide
    omega
  unfold writeLimit
  simp only [if_pos outside]
  exact throw_run _ bus

theorem step_readCelsius (ready : Ready addr bus) :
    step addr bus .readCelsius = (.celsius (reading bus addr),read (read bus addr kRegTemp) addr (kRegTemp+1)) := by
  rw [step,perform,bind_ok (readCelsius_ready ready)]
  rfl

theorem step_triggerOneShot (ready : Ready addr bus) : step addr bus .triggerOneShot = (.done,triggered bus addr) := by
  rw [step,perform,bind_ok (triggerOneShot_ready ready)]
  rfl

theorem step_setHighLimitCelsius (ready : Ready addr bus) (fits : Representable (countsOf celsius)) :
    step addr bus (.setHighLimitCelsius celsius) = (.done,limited bus addr kRegTHigh (countsOf celsius)) := by
  rw [step,perform,setHighLimitCelsius,bind_ok (writeLimit_ready ready fits kRegTHigh)]
  rfl

theorem step_setLowLimitCelsius (ready : Ready addr bus) (fits : Representable (countsOf celsius)) :
    step addr bus (.setLowLimitCelsius celsius) = (.done,limited bus addr kRegTLow (countsOf celsius)) := by
  rw [step,perform,setLowLimitCelsius,bind_ok (writeLimit_ready ready fits kRegTLow)]
  rfl

theorem step_setHighLimitCelsius_refused (wide : ¬Representable (countsOf celsius)) (addr : UInt8) (bus : MockI2CBus) :
    step addr bus (.setHighLimitCelsius celsius) = (.rejected outOfRange,bus) := by
  rw [step,perform,setHighLimitCelsius,bind_error (writeLimit_refused wide addr kRegTHigh bus)]

theorem step_setLowLimitCelsius_refused (wide : ¬Representable (countsOf celsius)) (addr : UInt8) (bus : MockI2CBus) :
    step addr bus (.setLowLimitCelsius celsius) = (.rejected outOfRange,bus) := by
  rw [step,perform,setLowLimitCelsius,bind_error (writeLimit_refused wide addr kRegTLow bus)]

end Edtf.TemperatureSensor

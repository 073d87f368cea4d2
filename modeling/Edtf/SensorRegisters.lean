import Mathlib.Tactic
import Edtf.TemperatureSensor

namespace Edtf.SensorRegisters
open I2CBus (MockI2CBus)
open BytePairs TemperatureSensor

def pairAt (bus : MockI2CBus) (addr reg : UInt8) : Int :=
  pairValue (register bus addr reg) (register bus addr (reg+1))

inductive Limit where
  | low | high
  deriving DecidableEq

def Limit.reg : Limit → UInt8
  | .low => kRegTLow
  | .high => kRegTHigh

def Limit.call : Limit → ℚ → Call
  | .low => .setLowLimitCelsius
  | .high => .setHighLimitCelsius

def Limit.other : Limit → Limit
  | .low => .high
  | .high => .low

def Limit.accepted : Limit → Call × Reply → Option Int
  | .low,(.setLowLimitCelsius celsius,.done) => some (countsOf celsius)
  | .high,(.setHighLimitCelsius celsius,.done) => some (countsOf celsius)
  | _,_ => none

def lastAccepted (limit : Limit) (history : List (Call × Reply)) : Option Int :=
  (history.filterMap limit.accepted).getLast?

def Kept (addr : UInt8) (history : List (Call × Reply)) (bus : MockI2CBus) : Prop :=
  ∀ limit counts, lastAccepted limit history = some counts → pairAt bus addr limit.reg = counts

structure Served (addr : UInt8) (history : List (Call × Reply)) (bus : MockI2CBus) (call : Call) : Prop where
  limits : Kept addr (history ++ [(call,(step addr bus call).1)]) (step addr bus call).2
  temperature : call = .triggerOneShot →
    (step addr (step addr bus call).2 .readCelsius).1 = (step addr bus .readCelsius).1
  refused : ∀ (limit : Limit) celsius, call = limit.call celsius → ¬Representable (countsOf celsius) →
    step addr bus call = (.rejected outOfRange,bus)

def Separate (addr : UInt8) (bus : MockI2CBus) (calls : List Call) : Prop :=
  ∀ made call later, calls = made ++ call :: later → Served addr (seen addr bus made) (after addr bus made) call

def Limit.asked : Limit → Call → Option Int
  | .low,.setLowLimitCelsius celsius => if Representable (countsOf celsius) then some (countsOf celsius) else none
  | .high,.setHighLimitCelsius celsius => if Representable (countsOf celsius) then some (countsOf celsius) else none
  | _,_ => none

def lastAsked (limit : Limit) (made : List Call) : Option Int := (made.filterMap limit.asked).getLast?

-- The byte at T_HIGH holds the low four bits of one limit and the high eight of the
-- other. What a limit with these counts does to it leaves the other limit as it was.
def Limit.Spares : Limit → Int → Int → Prop
  | .low,counts,other => other / 16 % 256 = counts % 16 * 16
  | .high,counts,other => counts / 256 % 16 = other % 16

def Limit.Agrees (limit : Limit) (made : List Call) (celsius : ℚ) : Prop :=
  Representable (countsOf celsius) → ∀ other, lastAsked limit.other made = some other → limit.Spares (countsOf celsius) other

-- The upper half of the byte at CONFIG is the low four bits of the temperature. Of the bits
-- that a trigger sets, the one for one-shot lies there.
def Agrees (addr : UInt8) (made : List Call) (bus : MockI2CBus) : Call → Prop
  | .readCelsius => True
  | .triggerOneShot => 0x80 ≤ (register bus addr kRegConfig).toNat
  | .setHighLimitCelsius celsius => Limit.high.Agrees made celsius
  | .setLowLimitCelsius celsius => Limit.low.Agrees made celsius

def Agreeing (addr : UInt8) (bus : MockI2CBus) (calls : List Call) : Prop :=
  ∀ made call later, calls = made ++ call :: later → Agrees addr made (after addr bus made) call

theorem step_limit (ready : Ready addr bus) (fits : Representable (countsOf celsius)) (limit : Limit) :
    step addr bus (limit.call celsius) = (.done,limited bus addr limit.reg (countsOf celsius)) := by
  cases limit with
  | low => exact step_setLowLimitCelsius ready fits
  | high => exact step_setHighLimitCelsius ready fits

theorem step_refused (wide : ¬Representable (countsOf celsius)) (limit : Limit) (addr : UInt8) (bus : MockI2CBus) :
    step addr bus (limit.call celsius) = (.rejected outOfRange,bus) := by
  cases limit with
  | low => exact step_setLowLimitCelsius_refused wide addr bus
  | high => exact step_setHighLimitCelsius_refused wide addr bus

theorem limit_ready (ready : Ready addr bus) (limit : Limit) (celsius : ℚ) :
    Ready addr (step addr bus (limit.call celsius)).2 := by
  by_cases fits : Representable (countsOf celsius)
  · rw [step_limit ready fits]
    exact limited_ready ready limit.reg _
  · rw [step_refused fits]
    exact ready

theorem step_ready (ready : Ready addr bus) (call : Call) : Ready addr (step addr bus call).2 := by
  cases call with
  | readCelsius =>
    rw [step_readCelsius ready]
    exact read_ready (read_ready ready kRegTemp) (kRegTemp+1)
  | triggerOneShot =>
    rw [step_triggerOneShot ready]
    exact triggered_ready ready
  | setHighLimitCelsius celsius => exact limit_ready ready .high celsius
  | setLowLimitCelsius celsius => exact limit_ready ready .low celsius

theorem pairAt_limited (ready : Ready addr bus) (fits : Representable counts) (reg : UInt8) :
    pairAt (limited bus addr reg counts) addr reg = counts := by
  rw [pairAt,limited_upper ready,limited_lower ready,pairValue_justified fits]

theorem pairAt_spared (ready : Ready addr bus) (limit : Limit) (counts : Int) :
    pairAt (limited bus addr limit.reg counts) addr limit.other.reg = pairAt bus addr limit.other.reg ↔
      limit.Spares counts (pairAt bus addr limit.other.reg) := by
  have before := pairValue_bytes (register bus addr limit.other.reg) (register bus addr (limit.other.reg+1))
  have bits := justified_value counts
  cases limit with
  | low =>
    have shared : register (limited bus addr kRegTLow counts) addr kRegTHigh = lower (justified counts) :=
      limited_lower ready kRegTLow counts
    have own : register (limited bus addr kRegTLow counts) addr (kRegTHigh+1) = register bus addr (kRegTHigh+1) :=
      limited_apart ready counts (by decide) (by decide)
    simp only [Limit.other,Limit.reg,Limit.Spares,pairAt] at before ⊢
    rw [shared,own,upper_exchanged,lower_value]
    omega
  | high =>
    have own : register (limited bus addr kRegTHigh counts) addr kRegTLow = register bus addr kRegTLow :=
      limited_apart ready counts (by decide) (by decide)
    have shared : register (limited bus addr kRegTHigh counts) addr (kRegTLow+1) = upper (justified counts) :=
      limited_upper ready kRegTHigh counts
    simp only [Limit.other,Limit.reg,Limit.Spares,pairAt] at before ⊢
    rw [own,shared,lower_exchanged,upper_value]
    omega

theorem temperature_triggered (ready : Ready addr bus) :
    reading (triggered bus addr) addr = reading bus addr ↔ 0x80 ≤ (register bus addr kRegConfig).toNat := by
  have halves : ∀ cfg < 256, (cfg ||| 129) / 16 = cfg / 16 ↔ 128 ≤ cfg := by decide +kernel
  have own : register (triggered bus addr) addr kRegTemp = register bus addr kRegTemp := by
    rw [register_triggered ready]
    rfl
  have shared : (register (triggered bus addr) addr (kRegTemp+1)).toNat = (register bus addr kRegConfig).toNat ||| 129 := by
    rw [register_triggered ready,show kRegTemp+1 = kRegConfig from rfl,if_pos rfl,UInt8.toNat_or]
    rfl
  have counts : reading (triggered bus addr) addr = reading bus addr ↔
      pairAt (triggered bus addr) addr kRegTemp = pairAt bus addr kRegTemp := by
    rw [reading,reading,mul_left_inj' (by norm_num),Int.cast_inj]
    rfl
  rw [counts,pairAt,pairAt,own,lower_exchanged,shared]
  exact halves _ (UInt8.toNat_lt _)

theorem lastAccepted_snoc (limit : Limit) (history : List (Call × Reply)) (event : Call × Reply) :
    lastAccepted limit (history ++ [event]) = (limit.accepted event).or (lastAccepted limit history) :=
  Histories.last_snoc limit.accepted history event

theorem accepted_call (limit : Limit) (celsius : ℚ) :
    limit.accepted (limit.call celsius,.done) = some (countsOf celsius) ∧
      limit.other.accepted (limit.call celsius,.done) = none := by
  cases limit <;> exact ⟨rfl,rfl⟩

theorem accepted_rejected (limit : Limit) (call : Call) (error : DriverError) :
    limit.accepted (call,.rejected error) = none := by
  cases limit <;> cases call <;> rfl

theorem kept_quiet (kept : Kept addr history bus) (silent : ∀ limit : Limit, limit.accepted event = none)
    (same : ∀ limit : Limit, pairAt next addr limit.reg = pairAt bus addr limit.reg) :
    Kept addr (history ++ [event]) next := by
  intro limit counts last
  rw [lastAccepted_snoc,silent,Option.none_or] at last
  rw [same,kept limit counts last]

theorem kept_limit (ready : Ready addr bus) (kept : Kept addr history bus) (fits : Representable (countsOf celsius))
    (limit : Limit) :
    Kept addr (history ++ [(limit.call celsius,.done)]) (limited bus addr limit.reg (countsOf celsius)) ↔
      ∀ other, lastAccepted limit.other history = some other → limit.Spares (countsOf celsius) other := by
  obtain ⟨here,there⟩ := accepted_call limit celsius
  have stands : ∀ other, lastAccepted limit.other history = some other →
      (pairAt (limited bus addr limit.reg (countsOf celsius)) addr limit.other.reg = other ↔
        limit.Spares (countsOf celsius) other) := by
    intro other last
    have spared := pairAt_spared ready limit (countsOf celsius)
    rwa [kept limit.other other last] at spared
  constructor
  · intro after other last
    exact (stands other last).mp (after limit.other other (by rw [lastAccepted_snoc,there]; exact last))
  · intro spares each counts last
    rw [lastAccepted_snoc] at last
    by_cases same : each = limit
    · subst each
      rw [here] at last
      cases last
      exact pairAt_limited ready fits limit.reg
    · obtain rfl : each = limit.other := by revert same; cases each <;> cases limit <;> decide
      rw [there] at last
      exact (stands counts last).mpr (spares counts last)

theorem served_readCelsius (ready : Ready addr bus) (kept : Kept addr history bus) :
    Served addr history bus .readCelsius := by
  refine ⟨?_,nofun,fun limit celsius call => ?_⟩
  · rw [step_readCelsius ready]
    exact kept_quiet kept (fun limit => by cases limit <;> rfl) fun _ => rfl
  · cases limit <;> cases call

theorem served_triggerOneShot (ready : Ready addr bus) (kept : Kept addr history bus) :
    Served addr history bus .triggerOneShot ↔ 0x80 ≤ (register bus addr kRegConfig).toNat := by
  have replies : ((step addr (step addr bus .triggerOneShot).2 .readCelsius).1 = (step addr bus .readCelsius).1) ↔
      reading (triggered bus addr) addr = reading bus addr := by
    rw [step_triggerOneShot ready,step_readCelsius (triggered_ready ready),step_readCelsius ready,Reply.celsius.injEq]
  have apart : ∀ limit : Limit, pairAt (triggered bus addr) addr limit.reg = pairAt bus addr limit.reg := by
    intro limit
    have elsewhere : kRegConfig ≠ limit.reg ∧ kRegConfig ≠ limit.reg+1 := by cases limit <;> decide
    rw [pairAt,pairAt,register_triggered ready,register_triggered ready,if_neg elsewhere.1,if_neg elsewhere.2]
  constructor
  · intro served
    exact (temperature_triggered ready).mp (replies.mp (served.temperature rfl))
  · intro upper
    refine ⟨?_,fun _ => replies.mpr ((temperature_triggered ready).mpr upper),fun limit celsius call => ?_⟩
    · rw [step_triggerOneShot ready]
      exact kept_quiet kept (fun limit => by cases limit <;> rfl) apart
    · cases limit <;> cases call

theorem served_limit (ready : Ready addr bus) (kept : Kept addr history bus) (limit : Limit) (celsius : ℚ) :
    Served addr history bus (limit.call celsius) ↔ (Representable (countsOf celsius) →
      ∀ other, lastAccepted limit.other history = some other → limit.Spares (countsOf celsius) other) := by
  constructor
  · intro served fits
    have limits := served.limits
    rw [step_limit ready fits] at limits
    exact (kept_limit ready kept fits limit).mp limits
  · intro spares
    refine ⟨?_,fun trigger => ?_,fun each other call wide => ?_⟩
    · by_cases fits : Representable (countsOf celsius)
      · rw [step_limit ready fits]
        exact (kept_limit ready kept fits limit).mpr (spares fits)
      · rw [step_refused fits]
        exact kept_quiet kept (fun each => accepted_rejected each _ _) fun _ => rfl
    · cases limit <;> cases trigger
    · rw [call]
      exact step_refused wide each addr bus

theorem accepted_asked (ready : Ready addr bus) (limit : Limit) (call : Call) :
    limit.accepted (call,(step addr bus call).1) = limit.asked call := by
  have set : ∀ (each : Limit) celsius, limit.accepted (each.call celsius,(step addr bus (each.call celsius)).1) =
      limit.asked (each.call celsius) := by
    intro each celsius
    by_cases fits : Representable (countsOf celsius)
    · rw [step_limit ready fits]
      cases limit <;> cases each <;> simp [Limit.accepted,Limit.asked,Limit.call,fits]
    · rw [step_refused fits,accepted_rejected]
      cases limit <;> cases each <;> simp [Limit.asked,Limit.call,fits]
  cases call with
  | readCelsius => cases limit <;> rfl
  | triggerOneShot => cases limit <;> rfl
  | setHighLimitCelsius celsius => exact set .high celsius
  | setLowLimitCelsius celsius => exact set .low celsius

theorem lastAccepted_seen (ready : Ready addr bus) (limit : Limit) (made : List Call) :
    lastAccepted limit (seen addr bus made) = lastAsked limit made := by
  rw [lastAccepted,lastAsked,seen,Histories.seen_filterMap (step addr)
    (fun now call held => ⟨accepted_asked held limit call,step_ready held call⟩) ready made]

theorem served_iff (ready : Ready addr bus) (made : List Call) (call : Call)
    (kept : Kept addr (seen addr bus made) (after addr bus made)) :
    Served addr (seen addr bus made) (after addr bus made) call ↔ Agrees addr made (after addr bus made) call := by
  have now : Ready addr (after addr bus made) :=
    Histories.state_invariant (step addr) (Ready addr) ready (fun _ call held => step_ready held call) made
  cases call with
  | readCelsius => exact ⟨fun _ => trivial,fun _ => served_readCelsius now kept⟩
  | triggerOneShot => exact served_triggerOneShot now kept
  | setHighLimitCelsius celsius =>
    have served := served_limit now kept .high celsius
    rwa [lastAccepted_seen ready] at served
  | setLowLimitCelsius celsius =>
    have served := served_limit now kept .low celsius
    rwa [lastAccepted_seen ready] at served

theorem registers_separate (attached : (MockI2CBus.devices bus addr).isSome = true) (free : bus.expectations = [])
    (calls : List Call) : Separate addr bus calls ↔ Agreeing addr bus calls := by
  have ready : Ready addr bus := ⟨attached,free⟩
  have start : Kept addr (seen addr bus []) (after addr bus []) := by
    intro limit counts last
    cases last
  refine @Histories.steps_iff Call (fun made => Kept addr (seen addr bus made) (after addr bus made)) _ _
    start (fun made call _ served => ?_) (served_iff ready) calls
  rw [seen,after,Histories.seen_append,Histories.after_append]
  exact served.limits

def sessionBus (config : UInt8) : MockI2CBus := I2CBus.after .new
  [.attachDevice kDefaultAddr fun _ => none,.setRegister kDefaultAddr kRegTemp 0x19,.setRegister kDefaultAddr kRegConfig config]

theorem session_separate : Separate kDefaultAddr (sessionBus 0xE1)
    [.setLowLimitCelsius 75.3125,.setHighLimitCelsius 80,.triggerOneShot,.readCelsius] := by
  refine (registers_separate (by decide) rfl _).mpr fun made call later split => ?_
  rcases made with _ | ⟨first,_ | ⟨second,_ | ⟨third,_ | ⟨fourth,more⟩⟩⟩⟩
  · cases split
    exact fun _ high last => nomatch last
  · cases split
    intro _ low last
    have lowIs : lastAsked .low [.setLowLimitCelsius 75.3125] = some 1205 := by decide +kernel
    obtain rfl : 1205 = low := Option.some.inj (lowIs.symm.trans last)
    change countsOf 80 / 256 % 16 = 1205 % 16
    decide +kernel
  · cases split
    change 0x80 ≤ (register (after kDefaultAddr (sessionBus 0xE1) _) kDefaultAddr kRegConfig).toNat
    decide +kernel
  · cases split
    trivial
  · simp at split

-- The low limit puts its 0x00 over the 0x50 of the high one, and the bit that a trigger
-- sets at 0x60 adds eight counts to the temperature.
theorem limits_overlap :
    ¬Separate kDefaultAddr (sessionBus 0x60) [.setHighLimitCelsius 80,.setLowLimitCelsius 75] ∧
      ¬Separate kDefaultAddr (sessionBus 0x60) [.triggerOneShot] := by
  constructor
  · intro separate
    have served := separate [.setHighLimitCelsius 80] (.setLowLimitCelsius 75) [] rfl
    have promised := served.limits .high 1280 (by decide +kernel)
    have overwritten : pairAt (after kDefaultAddr (sessionBus 0x60) [.setHighLimitCelsius 80,.setLowLimitCelsius 75])
        kDefaultAddr kRegTHigh = 0 := by decide +kernel
    exact absurd (overwritten.symm.trans promised) (by decide)
  · intro separate
    have promised := (separate [] .triggerOneShot [] rfl).temperature rfl
    have before : (step kDefaultAddr (sessionBus 0x60) .readCelsius).1 = .celsius 25.375 := by decide +kernel
    have since : (step kDefaultAddr (after kDefaultAddr (sessionBus 0x60) [.triggerOneShot]) .readCelsius).1 =
        .celsius 25.875 := by decide +kernel
    exact absurd (since.symm.trans (promised.trans before)) (by decide +kernel)

end Edtf.SensorRegisters

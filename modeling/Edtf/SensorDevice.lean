import Mathlib.Tactic
import Edtf.SensorRegisters

namespace Edtf.SensorDevice
open I2CBus (MockI2CBus BusM attachDevice setRegister device_present)
open ByteText KeptState BytePairs TemperatureSensor SensorRegisters

def setUp : BusM Unit := do
  attachDevice kDefaultAddr fun _ => none
  setRegister kDefaultAddr kRegConfig 0x60

def loadTemperature (raw12 : Int) : BusM Unit := do
  let word := justified raw12
  setRegister kDefaultAddr kRegTemp (upper word)
  setRegister kDefaultAddr (kRegTemp+1) (lower word)

inductive Act where
  | load (raw12 : Int)
  | call (call : Call)

def act (bus : MockI2CBus) : Act → Reply × MockI2CBus
  | .load raw12 =>
    match loadTemperature raw12 bus with
    | .ok _ next => (.done,next)
    | .error error next => (.rejected (.hardware error),next)
  | .call call => TemperatureSensor.step kDefaultAddr bus call

-- What the device is for: three numbers of 12 bits, in sixteenths of a degree.
structure Thermometer where
  counts : Int
  low : Int
  high : Int
  deriving DecidableEq, Repr

def wrap12 (n : Int) : Int := Int.bmod n 4096

def sixteenths (celsius : ℚ) : Int := if 0 ≤ celsius then ⌊16*celsius⌋ else ⌈16*celsius⌉

def Accepted (celsius : ℚ) : Prop := -128.0625 < celsius ∧ celsius < 128

instance (celsius : ℚ) : Decidable (Accepted celsius) := inferInstanceAs (Decidable (_ ∧ _))

-- The numbers share bytes. A trigger sets the bit that is worth half a degree; the low limit
-- leaves its last four bits as the first ones of the high limit, and the high limit its first
-- four as the last ones of the low limit.
def bumped (counts : Int) : Int := if counts % 16 < 8 then counts+8 else counts

def Thermometer.trigger (t : Thermometer) : Thermometer := {t with counts := bumped t.counts}

def Thermometer.setLow (t : Thermometer) (n : Int) : Thermometer :=
  {t with low := n,high := wrap12 (n % 16 * 256 + t.high % 16)}

def Thermometer.setHigh (t : Thermometer) (n : Int) : Thermometer :=
  {t with low := t.low / 16 * 16 + n / 256 % 16,high := n}

def model (t : Thermometer) : Act → Reply × Thermometer
  | .load raw12 => (.done,{t with counts := wrap12 raw12})
  | .call .readCelsius => (.celsius (t.counts/16),t)
  | .call .triggerOneShot => (.done,t.trigger)
  | .call (.setLowLimitCelsius celsius) =>
    if Accepted celsius then (.done,t.setLow (sixteenths celsius)) else (.rejected outOfRange,t)
  | .call (.setHighLimitCelsius celsius) =>
    if Accepted celsius then (.done,t.setHigh (sixteenths celsius)) else (.rejected outOfRange,t)

def view (bus : MockI2CBus) : Thermometer :=
  ⟨pairAt bus kDefaultAddr kRegTemp,pairAt bus kDefaultAddr kRegTLow,pairAt bus kDefaultAddr kRegTHigh⟩

theorem countsOf_sixteenths (celsius : ℚ) : countsOf celsius = sixteenths celsius := by
  have scaled : celsius / 0.0625 = 16*celsius := by norm_num [div_eq_mul_inv,mul_comm]
  have negative : (-(16*celsius)).num = -(16*celsius).num := Rat.num_neg_eq_neg_num _
  rw [countsOf,scaled,sixteenths]
  split
  · rename_i positive
    rw [Rat.floor_def',Int.tdiv_eq_ediv_of_nonneg (Rat.num_nonneg.mpr (by linarith))]
  · rename_i below
    have opposite : 0 ≤ (-(16*celsius)).num := Rat.num_nonneg.mpr (by linarith)
    rw [← neg_neg ⌈16*celsius⌉,← Int.floor_neg,Rat.floor_def',negative,Rat.den_neg_eq_den,
      ← Int.tdiv_eq_ediv_of_nonneg (negative ▸ opposite),Int.neg_tdiv,neg_neg]

theorem accepted_representable (celsius : ℚ) : Representable (sixteenths celsius) ↔ Accepted celsius := by
  unfold Representable Accepted sixteenths
  split
  · rename_i positive
    have zero : (0 : Int) ≤ ⌊16*celsius⌋ := Int.floor_nonneg.mpr (by linarith)
    have top : ⌊16*celsius⌋ ≤ 2047 ↔ 16*celsius < 2048 := by
      rw [← Int.lt_add_one_iff,Int.floor_lt]
      norm_num
    rw [top]
    constructor
    · rintro ⟨_,upper⟩
      exact ⟨by linarith,by linarith⟩
    · rintro ⟨_,upper⟩
      exact ⟨by omega,by linarith⟩
  · rename_i below
    have zero : ⌈16*celsius⌉ ≤ 0 := Int.ceil_le.mpr (by push_cast; linarith)
    have bottom : (-2048 : Int) ≤ ⌈16*celsius⌉ ↔ -2049 < 16*celsius := by
      rw [← Int.sub_one_lt_iff,Int.lt_ceil]
      norm_num
    rw [bottom]
    constructor
    · rintro ⟨lower,_⟩
      exact ⟨by linarith,by linarith⟩
    · rintro ⟨lower,_⟩
      exact ⟨by linarith,by omega⟩

theorem register_assign (ready : Ready addr bus) (r value reg : UInt8) :
    register (bus.assign addr r value) addr reg = if r = reg then value else register bus addr reg := by
  obtain ⟨registers,present⟩ := Option.isSome_iff_exists.mp ready.attached
  rw [register,I2CMemory.assign_current present]
  by_cases same : r = reg
  · simp [same]
  · simp [same,register]

theorem assign_ready (ready : Ready addr bus) (r value : UInt8) : Ready addr (bus.assign addr r value) := by
  refine ⟨?_,ready.free⟩
  simp [MockI2CBus.assign,ready.attached]

def loaded (bus : MockI2CBus) (raw12 : Int) : MockI2CBus :=
  (bus.assign kDefaultAddr kRegTemp (upper (justified raw12))).assign kDefaultAddr (kRegTemp+1) (lower (justified raw12))

theorem setRegister_ready (ready : Ready addr bus) (r value : UInt8) :
    setRegister addr r value bus = .ok () (bus.assign addr r value) := by
  obtain ⟨registers,present⟩ := Option.isSome_iff_exists.mp ready.attached
  rw [setRegister,bind_ok (device_present present),modify_run]

theorem act_load (ready : Ready kDefaultAddr bus) (raw12 : Int) : act bus (.load raw12) = (.done,loaded bus raw12) := by
  have ran : loadTemperature raw12 bus = .ok () (loaded bus raw12) := by
    unfold loadTemperature
    rw [bind_ok (setRegister_ready ready kRegTemp _)]
    exact setRegister_ready (assign_ready ready kRegTemp _) (kRegTemp+1) _
  simp only [act,ran]

theorem loaded_ready (ready : Ready kDefaultAddr bus) (raw12 : Int) : Ready kDefaultAddr (loaded bus raw12) :=
  assign_ready (assign_ready ready kRegTemp _) (kRegTemp+1) _

theorem register_loaded (ready : Ready kDefaultAddr bus) (raw12 : Int) (r : UInt8) :
    register (loaded bus raw12) kDefaultAddr r =
      if kRegTemp+1 = r then lower (justified raw12) else if kRegTemp = r then upper (justified raw12)
        else register bus kDefaultAddr r := by
  rw [loaded,register_assign (assign_ready ready kRegTemp _),register_assign ready]

theorem justified_wrapped (raw12 : Int) : justified raw12 = justified (wrap12 raw12) := by
  have one := justified_value raw12
  have two := justified_value (wrap12 raw12)
  have same : wrap12 raw12 % 4096 = raw12 % 4096 := Int.bmod_emod
  apply UInt16.toNat_inj.mp
  omega

theorem wrap12_range (n : Int) : Representable (wrap12 n) := by
  have low : -(4096 / 2 : Int) ≤ Int.bmod n 4096 := Int.le_bmod (by decide)
  have high : Int.bmod n 4096 < ((4096 : Nat) + 1) / 2 := Int.bmod_lt (by decide)
  unfold Representable wrap12
  omega

theorem view_loaded (ready : Ready kDefaultAddr bus) (raw12 : Int) :
    view (loaded bus raw12) = {view bus with counts := wrap12 raw12} := by
  have pair := pairValue_justified (wrap12_range raw12)
  rw [← justified_wrapped] at pair
  simp only [view,pairAt,register_loaded ready,Thermometer.mk.injEq]
  exact ⟨pair,rfl,rfl⟩

theorem view_triggered (ready : Ready kDefaultAddr bus) : view (triggered bus kDefaultAddr) = (view bus).trigger := by
  have halves : ∀ cfg < 256, (cfg ||| 129) / 16 = if cfg / 16 < 8 then cfg / 16 + 8 else cfg / 16 := by decide +kernel
  have shared : (register bus kDefaultAddr kRegConfig ||| (kCfgShutdown ||| kCfgOneShot)).toNat =
      (register bus kDefaultAddr kRegConfig).toNat ||| 129 := by
    rw [UInt8.toNat_or]
    rfl
  have bits := halves _ (register bus kDefaultAddr kRegConfig).toNat_lt
  have before := pairValue_bytes (register bus kDefaultAddr kRegTemp) (register bus kDefaultAddr kRegConfig)
  have range := pairValue_range (register bus kDefaultAddr kRegTemp) (register bus kDefaultAddr kRegConfig)
  have next : kRegTemp+1 = kRegConfig := rfl
  simp only [view,pairAt,register_triggered ready,next,Thermometer.trigger,bumped,Thermometer.mk.injEq]
  refine ⟨?_,rfl,rfl⟩
  change pairValue (register bus kDefaultAddr kRegTemp) (register bus kDefaultAddr kRegConfig ||| (kCfgShutdown ||| kCfgOneShot)) = _
  generalize pairValue (register bus kDefaultAddr kRegTemp) (register bus kDefaultAddr kRegConfig) = counts at *
  unfold Representable at range
  rw [pairValue_eq,shared]
  · generalize (register bus kDefaultAddr kRegConfig).toNat ||| 129 = word at *
    split at bits <;> split <;> omega
  · unfold Representable
    split <;> omega

theorem view_limitedLow (ready : Ready kDefaultAddr bus) (fits : Representable counts) :
    view (limited bus kDefaultAddr kRegTLow counts) = (view bus).setLow counts := by
  have own := pairAt_limited ready fits kRegTLow
  have bits := justified_value counts
  have before := pairValue_bytes (register bus kDefaultAddr kRegTHigh) (register bus kDefaultAddr (kRegTHigh+1))
  have low : pairAt (limited bus kDefaultAddr kRegTLow counts) kDefaultAddr kRegTemp = pairAt bus kDefaultAddr kRegTemp := by
    rw [pairAt,limited_apart ready counts (by decide) (by decide),limited_apart ready counts (by decide) (by decide)]
    rfl
  have shared : register (limited bus kDefaultAddr kRegTLow counts) kDefaultAddr kRegTHigh = lower (justified counts) :=
    limited_lower ready kRegTLow counts
  have kept : register (limited bus kDefaultAddr kRegTLow counts) kDefaultAddr (kRegTHigh+1) =
      register bus kDefaultAddr (kRegTHigh+1) := limited_apart ready counts (by decide) (by decide)
  have crossed : pairAt (limited bus kDefaultAddr kRegTLow counts) kDefaultAddr kRegTHigh =
      wrap12 (counts % 16 * 256 + pairAt bus kDefaultAddr kRegTHigh % 16) := by
    have same : wrap12 (counts % 16 * 256 + pairAt bus kDefaultAddr kRegTHigh % 16) % 4096 =
        (counts % 16 * 256 + pairAt bus kDefaultAddr kRegTHigh % 16) % 4096 := Int.bmod_emod
    simp only [pairAt] at same ⊢
    rw [shared,kept,pairValue_eq (wrap12_range _),lower_value,same]
    omega
  simp only [view,Thermometer.setLow,own,low,crossed]

theorem view_limitedHigh (ready : Ready kDefaultAddr bus) (fits : Representable counts) :
    view (limited bus kDefaultAddr kRegTHigh counts) = (view bus).setHigh counts := by
  have own := pairAt_limited ready fits kRegTHigh
  have bits := justified_value counts
  have before := pairValue_bytes (register bus kDefaultAddr kRegTLow) (register bus kDefaultAddr (kRegTLow+1))
  have range := pairValue_range (register bus kDefaultAddr kRegTLow) (register bus kDefaultAddr (kRegTLow+1))
  have temp : pairAt (limited bus kDefaultAddr kRegTHigh counts) kDefaultAddr kRegTemp = pairAt bus kDefaultAddr kRegTemp := by
    rw [pairAt,limited_apart ready counts (by decide) (by decide),limited_apart ready counts (by decide) (by decide)]
    rfl
  have shared : register (limited bus kDefaultAddr kRegTHigh counts) kDefaultAddr (kRegTLow+1) = upper (justified counts) :=
    limited_upper ready kRegTHigh counts
  have kept : register (limited bus kDefaultAddr kRegTHigh counts) kDefaultAddr kRegTLow = register bus kDefaultAddr kRegTLow :=
    limited_apart ready counts (by decide) (by decide)
  have crossed : pairAt (limited bus kDefaultAddr kRegTHigh counts) kDefaultAddr kRegTLow =
      pairAt bus kDefaultAddr kRegTLow / 16 * 16 + counts / 256 % 16 := by
    unfold Representable at range
    rw [pairAt,shared,kept,pairValue_eq,upper_value]
    · simp only [pairAt]
      omega
    · simp only [Representable,pairAt]
      omega
  simp only [view,Thermometer.setHigh,own,temp,crossed]

theorem reading_sixteenths (bus : MockI2CBus) : reading bus kDefaultAddr = (view bus).counts/16 := by
  rw [reading,view,pairAt]
  norm_num [div_eq_mul_inv]

theorem fits_accepted (celsius : ℚ) : Representable (countsOf celsius) ↔ Accepted celsius := by
  rw [countsOf_sixteenths]
  exact accepted_representable celsius

theorem act_refines (ready : Ready kDefaultAddr bus) (a : Act) :
    (act bus a).1 = (model (view bus) a).1 ∧ view (act bus a).2 = (model (view bus) a).2 ∧
      Ready kDefaultAddr (act bus a).2 := by
  cases a with
  | load raw12 =>
    rw [act_load ready,model]
    exact ⟨rfl,view_loaded ready raw12,loaded_ready ready raw12⟩
  | call call =>
    cases call with
    | readCelsius =>
      rw [act,step_readCelsius ready,model,reading_sixteenths]
      exact ⟨rfl,rfl,read_ready (read_ready ready kRegTemp) (kRegTemp+1)⟩
    | triggerOneShot =>
      rw [act,step_triggerOneShot ready,model]
      exact ⟨rfl,view_triggered ready,triggered_ready ready⟩
    | setLowLimitCelsius celsius =>
      by_cases fits : Representable (countsOf celsius)
      · rw [act,step_setLowLimitCelsius ready fits,model,if_pos ((fits_accepted celsius).mp fits),← countsOf_sixteenths]
        exact ⟨rfl,view_limitedLow ready fits,limited_ready ready kRegTLow _⟩
      · rw [act,step_setLowLimitCelsius_refused fits,model,if_neg fun accepted => fits ((fits_accepted celsius).mpr accepted)]
        exact ⟨rfl,rfl,ready⟩
    | setHighLimitCelsius celsius =>
      by_cases fits : Representable (countsOf celsius)
      · rw [act,step_setHighLimitCelsius ready fits,model,if_pos ((fits_accepted celsius).mp fits),← countsOf_sixteenths]
        exact ⟨rfl,view_limitedHigh ready fits,limited_ready ready kRegTHigh _⟩
      · rw [act,step_setHighLimitCelsius_refused fits,model,if_neg fun accepted => fits ((fits_accepted celsius).mpr accepted)]
        exact ⟨rfl,rfl,ready⟩

theorem acts_refine (ready : Ready kDefaultAddr bus) (acts : List Act) :
    Histories.seen act bus acts = Histories.seen model (view bus) acts ∧
      view (Histories.after act bus acts) = Histories.after model (view bus) acts := by
  have refined : Histories.seen act bus acts = (Histories.seen model (view bus) acts).map (fun event => (event.1,id event.2)) ∧
      view (Histories.after act bus acts) = Histories.after model (view bus) acts :=
    Histories.history_refined act view id (fun _ a held => act_refines held a) ready acts
  simpa using refined

-- In every run of loads and driver calls the driver answers as the thermometer does, and at
-- its end the registers decode to the thermometer's numbers.
theorem thermometer_refined (attached : (bus.devices kDefaultAddr).isSome = true) (free : MockI2CBus.expectations bus = [])
    (acts : List Act) :
    Histories.seen act bus acts = Histories.seen model (view bus) acts ∧
      view (Histories.after act bus acts) = Histories.after model (view bus) acts :=
  acts_refine ⟨attached,free⟩ acts

def fixtureBus : MockI2CBus :=
  match setUp .new with
  | .ok _ bus => bus
  | .error _ bus => bus

def alertActs : List Act :=
  [.load 400,.call (.setHighLimitCelsius 80),.call .triggerOneShot,.call (.setLowLimitCelsius (-128.06)),.call .readCelsius]

theorem fixture_refined :
    Histories.seen act fixtureBus alertActs = Histories.seen model (view fixtureBus) alertActs ∧
      view (Histories.after act fixtureBus alertActs) = Histories.after model (view fixtureBus) alertActs :=
  thermometer_refined (by decide) rfl alertActs

theorem bumped_twice (counts : Int) : bumped (bumped counts) = bumped counts := by
  unfold bumped
  split
  · exact if_neg (by omega)
  · rfl

def Act.loads : Act → Bool
  | .load _ => true
  | .call _ => false

def Act.triggers : Act → Bool
  | .call .triggerOneShot => true
  | _ => false

theorem counts_step (t : Thermometer) (unloaded : Act.loads a = false) :
    (model t a).2.counts = if a.triggers then bumped t.counts else t.counts := by
  cases a with
  | load raw12 => cases unloaded
  | call call =>
    cases call with
    | readCelsius | triggerOneShot => rfl
    | setLowLimitCelsius celsius | setHighLimitCelsius celsius =>
      rw [model]
      split <;> rfl

theorem counts_after (t : Thermometer) (acts : List Act) (unloaded : acts.any Act.loads = false) :
    (Histories.after model t acts).counts = if acts.any Act.triggers then bumped t.counts else t.counts := by
  induction acts generalizing t with
  | nil => rfl
  | cons a rest ih =>
    obtain ⟨first,others⟩ := Bool.or_eq_false_iff.mp unloaded
    rw [Histories.after,ih _ others,counts_step t first,List.any_cons]
    cases a.triggers with
    | false => rfl
    | true => simp only [↓reduceIte,bumped_twice,Bool.true_or,ite_self]

theorem loaded_reading (attached : (bus.devices kDefaultAddr).isSome = true) (free : MockI2CBus.expectations bus = [])
    (early later : List Act) (raw12 : Int) (unloaded : later.any Act.loads = false) :
    (act (Histories.after act bus (early ++ .load raw12 :: later)) (.call .readCelsius)).1 =
      .celsius ((if later.any Act.triggers then bumped (wrap12 raw12) else wrap12 raw12)/16) := by
  have ready : Ready kDefaultAddr bus := ⟨attached,free⟩
  have kept := Histories.state_invariant act (Ready kDefaultAddr) ready (fun _ a held => (act_refines held a).2.2)
    (early ++ .load raw12 :: later)
  have last := (acts_refine ready (early ++ .load raw12 :: later)).2
  rw [(act_refines kept _).1,last,model,Histories.after_append,Histories.after,counts_after _ later unloaded]
  rfl

theorem fixture_reading :
    (act (Histories.after act fixtureBus ([] ++ .load 400 :: [.call .triggerOneShot,.call (.setLowLimitCelsius 75)]))
      (.call .readCelsius)).1 =
      .celsius ((if ([.call .triggerOneShot,.call (.setLowLimitCelsius 75)] : List Act).any Act.triggers then
        bumped (wrap12 400) else wrap12 400)/16) :=
  loaded_reading (by decide) rfl [] [.call .triggerOneShot,.call (.setLowLimitCelsius 75)] 400 rfl

end Edtf.SensorDevice

import Mathlib.Tactic
import Edtf.DriverScripts
import Edtf.SensorRegisters

namespace Edtf.SensorScripts
open ByteText KeptState BytePairs I2CPromises Clients DriverScripts TemperatureSensor
open I2CBus hiding Call Reply perform step after seen

-- The member functions of the sensor as driver code: what they ask of the bus, what they
-- compute in between and what they throw themselves.
abbrev Program (R : Type) := Driver (Except DriverError R)

def limitProgram (addr reg : UInt8) (celsius : ℚ) : Program Reply :=
  let counts := countsOf celsius
  if counts > 2047 ∨ counts < -2048 then .done (.error outOfRange)
  else .ask (.write addr reg (upper (justified counts))) fun _ =>
    .ask (.write addr (reg+1) (lower (justified counts))) fun _ => .done (.ok .done)

def program (addr : UInt8) : Call → Program Reply
  | .readCelsius => .ask (.read addr kRegTemp) fun hi => .ask (.read addr (kRegTemp+1)) fun lo =>
      .done (.ok (.celsius (pairValue hi lo * 0.0625)))
  | .triggerOneShot => .ask (.read addr kRegConfig) fun cfg =>
      .ask (.write addr kRegConfig (cfg ||| (kCfgShutdown ||| kCfgOneShot))) fun _ => .done (.ok .done)
  | .setHighLimitCelsius celsius => limitProgram addr kRegTHigh celsius
  | .setLowLimitCelsius celsius => limitProgram addr kRegTLow celsius

def interpret : Program R → SensorM R
  | .done (.ok result) => pure result
  | .done (.error error) => throw error
  | .ask (.read addr reg) next => do interpret (next (← onBus (readRegister addr reg)))
  | .ask (.write addr reg value) next => do interpret (next (← onBus (writeRegister addr reg value)))

theorem interpret_program (addr : UInt8) (call : Call) :
    interpret (program addr call) = perform addr call := by
  have limit : ∀ reg celsius, interpret (limitProgram addr reg celsius) =
      (do writeLimit addr reg celsius; return Reply.done : SensorM Reply) := by
    intro reg celsius
    unfold limitProgram writeLimit
    by_cases wide : countsOf celsius > 2047 ∨ countsOf celsius < -2048
    · simp only [if_pos wide]
      rfl
    · simp only [if_neg wide,interpret,bind_assoc]
  cases call with
  | readCelsius => simp only [program,interpret,perform,readCelsius,bind_assoc,pure_bind]
  | triggerOneShot => simp only [program,interpret,perform,triggerOneShot,bind_assoc]
  | setHighLimitCelsius celsius => exact limit kRegTHigh celsius
  | setLowLimitCelsius celsius => exact limit kRegTLow celsius

def performed (served : Served MockI2CBus Request Answer HardwareError (Except DriverError Reply)) : Reply × MockI2CBus :=
  match served.result with
  | .ok (.ok reply) => (reply,served.state)
  | .ok (.error error) => (.rejected error,served.state)
  | .error error => (.rejected (.hardware error),served.state)

def resultOf (served : Served MockI2CBus Request Answer HardwareError (Except DriverError R)) :
    EStateM.Result DriverError MockI2CBus R :=
  match served.result with
  | .ok (.ok result) => .ok result served.state
  | .ok (.error error) => .error error served.state
  | .error error => .error (.hardware error) served.state

theorem resultOf_after (traffic : List (Exchange Request Answer))
    (served : Served MockI2CBus Request Answer HardwareError (Except DriverError R)) :
    resultOf (served.after traffic) = resultOf served := rfl

theorem onBus_bind {m : BusM α} (f : α → SensorM R) (bus : MockI2CBus) : (onBus m >>= f) bus = match outcome m bus with
    | (.ok a,next) => f a next
    | (.error error,next) => .error (.hardware error) next := by
  unfold outcome
  cases ran : m bus with
  | ok a next => exact bind_ok (adapt_ok ran)
  | error error next =>
    refine bind_error ?_
    simp only [onBus,EStateM.adaptExcept,ran]

theorem interpret_run (driver : Program R) (bus : MockI2CBus) :
    interpret driver bus = resultOf (run serve driver bus) := by
  induction driver generalizing bus with
  | done result => cases result <;> rfl
  | ask request next ih =>
    cases request with
    | read addr reg =>
      rw [interpret,onBus_bind,run,serve]
      cases outcome (readRegister addr reg) bus with
      | mk answer after =>
        cases answer with
        | error error => rfl
        | ok value => exact (ih value after).trans (resultOf_after _ _).symm
    | write addr reg value =>
      rw [interpret,onBus_bind,run,serve]
      cases outcome (writeRegister addr reg value) bus with
      | mk answer after =>
        cases answer with
        | error error => rfl
        | ok value => exact (ih value after).trans (resultOf_after _ _).symm

theorem step_program (addr : UInt8) (bus : MockI2CBus) (call : Call) :
    step addr bus call = performed (run serve (program addr call) bus) := by
  rw [step,← interpret_program,interpret_run,resultOf,performed]
  rcases (run serve (program addr call) bus).result with error | error | reply <;> rfl

def normal : Reply → Bool
  | .rejected _ => false
  | _ => true

theorem program_ends (addr : UInt8) (call : Call) :
    (program addr call).Ends fun result => ∀ reply, result = .ok reply → normal reply = true := by
  have limit : ∀ reg celsius, (limitProgram addr reg celsius).Ends
      fun result => ∀ reply, result = .ok reply → normal reply = true := by
    intro reg celsius
    unfold limitProgram
    by_cases wide : countsOf celsius > 2047 ∨ countsOf celsius < -2048
    · simp only [if_pos wide]
      exact nofun
    · simp only [if_neg wide]
      intro _ _ reply same
      cases same
      rfl
  cases call with
  | readCelsius =>
    intro _ _ reply same
    cases same
    rfl
  | triggerOneShot =>
    intro _ _ reply same
    cases same
    rfl
  | setHighLimitCelsius celsius => exact limit kRegTHigh celsius
  | setLowLimitCelsius celsius => exact limit kRegTLow celsius

def session (addr : UInt8) : List Call → Program Unit
  | [] => .done (.ok ())
  | call :: rest => (program addr call).bind fun
    | .ok _ => session addr rest
    | .error error => .done (.error error)

theorem session_runs (addr : UInt8) (bus : MockI2CBus) (calls : List Call) :
    ((∀ event ∈ seen addr bus calls, normal event.2 = true) ↔ (run serve (session addr calls) bus).result = .ok (.ok ())) ∧
      ((run serve (session addr calls) bus).result = .ok (.ok ()) →
        (run serve (session addr calls) bus).state = after addr bus calls) := by
  induction calls generalizing bus with
  | nil =>
    refine ⟨iff_of_true (fun event member => ?_) rfl,fun _ => rfl⟩
    cases member
  | cons call rest ih =>
    have first := step_program addr bus call
    simp only [seen,after,Histories.seen,Histories.after,List.forall_mem_cons,session]
    cases ended : (run serve (program addr call) bus).result with
    | error error =>
      simp only [performed,ended] at first
      rw [run_bind_error serve ended,first]
      refine ⟨iff_of_false (fun all => Bool.false_ne_true all.1) (fun done => ?_),fun done => ?_⟩
      · cases done
      · cases done
    | ok result =>
      rw [run_bind_ok serve ended]
      cases result with
      | error error =>
        simp only [performed,ended] at first
        rw [first]
        refine ⟨iff_of_false (fun all => Bool.false_ne_true all.1) (fun done => ?_),fun done => ?_⟩
        · cases done
        · cases done
      | ok reply =>
        have returned : normal reply = true := run_ends serve (program_ends addr call) ended reply rfl
        simp only [performed,ended] at first
        rw [first]
        obtain ⟨normals,state⟩ := ih (run serve (program addr call) bus).state
        exact ⟨⟨fun all => normals.mp all.2,fun done => ⟨returned,normals.mpr done⟩⟩,state⟩

def limitTraffic (addr reg : UInt8) (counts : Int) : List Request :=
  [.write addr reg (upper (justified counts)),.write addr (reg+1) (lower (justified counts))]

def traffic (addr : UInt8) (bus : MockI2CBus) : Call → List Request
  | .readCelsius => [.read addr kRegTemp,.read addr (kRegTemp+1)]
  | .triggerOneShot => [.read addr kRegConfig,
      .write addr kRegConfig (register bus addr kRegConfig ||| (kCfgShutdown ||| kCfgOneShot))]
  | .setHighLimitCelsius celsius => limitTraffic addr kRegTHigh (countsOf celsius)
  | .setLowLimitCelsius celsius => limitTraffic addr kRegTLow (countsOf celsius)

def trafficOf (addr : UInt8) : MockI2CBus → List Call → List Request
  | _,[] => []
  | bus,call :: rest => traffic addr bus call ++ trafficOf addr (step addr bus call).2 rest

def InRange : Call → Prop
  | .setHighLimitCelsius celsius => Representable (countsOf celsius)
  | .setLowLimitCelsius celsius => Representable (countsOf celsius)
  | _ => True

section
variable {addr : UInt8} {bus : MockI2CBus}

theorem serve_read (ready : Ready addr bus) (reg : UInt8) :
    serve bus (.read addr reg) = (.ok (register bus addr reg),read bus addr reg) := outcome_ok (readRegister_ready ready reg)

theorem serve_write (ready : Ready addr bus) (reg value : UInt8) :
    serve bus (.write addr reg value) = (.ok (),written bus addr reg value) := outcome_ok (writeRegister_ready ready reg value)

structure Carried (addr : UInt8) (bus : MockI2CBus) (call : Call)
    (served : Served MockI2CBus Request Answer HardwareError (Except DriverError Reply)) : Prop where
  returned : InRange call → (∃ reply, served.result = .ok (.ok reply)) ∧ asked served.traffic = traffic addr bus call
  refused : ¬InRange call → served.result = .ok (.error outOfRange)

theorem program_ready (ready : Ready addr bus) (call : Call) :
    Carried addr bus call (run serve (program addr call) bus) := by
  have limit : ∀ reg celsius, (Representable (countsOf celsius) →
        (∃ reply, (run serve (limitProgram addr reg celsius) bus).result = .ok (.ok reply)) ∧
          asked (run serve (limitProgram addr reg celsius) bus).traffic = limitTraffic addr reg (countsOf celsius)) ∧
      (¬Representable (countsOf celsius) → (run serve (limitProgram addr reg celsius) bus).result = .ok (.error outOfRange)) := by
    intro reg celsius
    have first := serve_write ready reg (upper (justified (countsOf celsius)))
    have second := serve_write (written_ready ready reg (upper (justified (countsOf celsius)))) (reg+1)
      (lower (justified (countsOf celsius)))
    unfold limitProgram
    constructor
    · rintro ⟨low,high⟩
      rw [if_neg (by omega),run_answered serve first,run_answered serve second]
      exact ⟨⟨_,rfl⟩,rfl⟩
    · intro wide
      unfold Representable at wide
      rw [if_pos (by omega)]
      rfl
  cases call with
  | readCelsius =>
    refine ⟨fun _ => ?_,fun wide => absurd trivial wide⟩
    rw [program,run_answered serve (serve_read ready kRegTemp),
      run_answered serve (serve_read (read_ready ready kRegTemp) (kRegTemp+1))]
    exact ⟨⟨_,rfl⟩,rfl⟩
  | triggerOneShot =>
    refine ⟨fun _ => ?_,fun wide => absurd trivial wide⟩
    rw [program,run_answered serve (serve_read ready kRegConfig),
      run_answered serve (serve_write (read_ready ready kRegConfig) kRegConfig _)]
    exact ⟨⟨_,rfl⟩,rfl⟩
  | setHighLimitCelsius celsius => exact ⟨(limit kRegTHigh celsius).1,(limit kRegTHigh celsius).2⟩
  | setLowLimitCelsius celsius => exact ⟨(limit kRegTLow celsius).1,(limit kRegTLow celsius).2⟩

theorem asked_append (first second : List (Exchange Request Answer)) :
    asked (first ++ second) = asked first ++ asked second := List.map_append

theorem session_ready (ready : Ready addr bus) (calls : List Call) :
    ((run serve (session addr calls) bus).result = .ok (.ok ()) ↔ ∀ call ∈ calls, InRange call) ∧
      ((∀ call ∈ calls, InRange call) →
        asked (run serve (session addr calls) bus).traffic = trafficOf addr bus calls) := by
  induction calls generalizing bus with
  | nil => exact ⟨⟨fun _ => nofun,fun _ => rfl⟩,fun _ => rfl⟩
  | cons call rest ih =>
    obtain ⟨returned,refused⟩ := program_ready ready call
    have next := step_program addr bus call
    rw [session,List.forall_mem_cons]
    by_cases inRange : InRange call
    · obtain ⟨⟨reply,ended⟩,sent⟩ := returned inRange
      simp only [performed,ended] at next
      have later := SensorRegisters.step_ready ready call
      rw [next] at later
      obtain ⟨results,asks⟩ := ih later
      rw [run_bind_ok serve ended]
      refine ⟨⟨fun done => ⟨inRange,results.mp done⟩,fun all => results.mpr all.2⟩,fun all => ?_⟩
      rw [trafficOf,next,← sent,← asks all.2]
      exact asked_append _ _
    · have ended := refused inRange
      rw [run_bind_ok serve ended]
      exact ⟨⟨nofun,fun all => absurd all.1 inRange⟩,fun all => absurd all.1 inRange⟩

end

-- The only scripts that a list of sensor calls passes, besides the empty one that checks
-- nothing: each transaction of each call, in the order of the calls.
theorem sensor_scripts (clean : Unscripted bus) (present : hasDevice addr bus = true)
    (attached : ∀ t ∈ entries, t.op = .read → hasDevice t.addr bus = true) (calls : List Call) :
    ((∀ event ∈ seen addr (installed bus entries) calls, normal event.2 = true) ∧
        I2CBus.verify (after addr (installed bus entries) calls) = []) ↔
      (∀ call ∈ calls, InRange call) ∧
        (entries = [] ∨ entries.map (·.request) = trafficOf addr (seeded bus entries) calls) := by
  have ready : Ready addr (seeded bus entries) :=
    ⟨(seeds_attached bus entries addr).trans present,(install_seeds rfl rfl attached).free.trans clean.free⟩
  obtain ⟨normals,state⟩ := session_runs addr (installed bus entries) calls
  obtain ⟨results,asks⟩ := session_ready ready calls
  have passes := script_passes clean attached (session addr calls) (.ok ())
  rw [results] at passes
  constructor
  · rintro ⟨all,verified⟩
    have done := normals.mp all
    obtain ⟨inRange,exact⟩ := passes.mp ⟨done,by rw [state done]; exact verified⟩
    refine ⟨inRange,exact.imp_right fun same => ?_⟩
    rw [← same]
    exact asks inRange
  · rintro ⟨inRange,exact⟩
    obtain ⟨done,verified⟩ := passes.mpr ⟨inRange,exact.imp_right fun same => by rw [same]; exact asks inRange⟩
    rw [state done] at verified
    exact ⟨normals.mpr done,verified⟩

def conversion : List Transaction := [⟨.read,0x48,0x01,0x60⟩,⟨.write,0x48,0x01,0xE1⟩,⟨.read,0x48,0x00,0x19⟩,⟨.read,0x48,0x01,0xE1⟩]

theorem conversion_scripts : ((∀ event ∈ seen 0x48 (installed sensorBus conversion) [.triggerOneShot,.readCelsius],
      normal event.2 = true) ∧ I2CBus.verify (after 0x48 (installed sensorBus conversion) [.triggerOneShot,.readCelsius]) = []) ↔
    (∀ call ∈ [Call.triggerOneShot,.readCelsius], InRange call) ∧
      (conversion = [] ∨ conversion.map (·.request) =
        trafficOf 0x48 (seeded sensorBus conversion) [.triggerOneShot,.readCelsius]) :=
  sensor_scripts sensorBus_fresh.toUnscripted (by decide) (by decide) [.triggerOneShot,.readCelsius]

end Edtf.SensorScripts

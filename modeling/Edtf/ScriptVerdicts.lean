import Mathlib.Tactic
import Edtf.DriverScripts
import Edtf.RunOne

namespace Edtf.ScriptVerdicts
open ByteText Assertions Registry Results RunOne I2CBus I2CScript I2CPromises Clients DriverScripts

-- HardwareError derives from std::runtime_error.
def hardwareException (error : HardwareError) : UserException := ⟨text "edtf::mock::HardwareError",some error.what⟩

-- Test code whose state is the bus: one call of the mock, and calls one after another.
def onBus (call : Call) : Body MockI2CBus := .statement fun bus =>
  match step bus call with
  | (.rejected error,next) => (next,some (hardwareException error))
  | (_,next) => (next,none)

def play : List Call → Body MockI2CBus
  | [] => .skip
  | call :: rest => .seq (onBus call) (play rest)

abbrev Throwing (R : Type) := Driver (Except UserException R)

def thrownBy : Except HardwareError (Except UserException R) → Option UserException
  | .ok (.ok _) => none
  | .ok (.error exception) => some exception
  | .error error => some (hardwareException error)

def exercise (driver : Throwing R) : Body MockI2CBus := .statement fun bus =>
  ((run serve driver bus).state,thrownBy (run serve driver bus).result)

def assertVerified (site : Site) : Body MockI2CBus :=
  assertEq site (fun bus => .string (verify bus)) (fun _ => .string []) (fun bus => verify bus = []) (text "bus.verify()")
    (text "std::string()")

-- A test queues its script, calls the driver and looks at verify(). Its fixture prepares
-- the bus in set_up and has nothing to take back on it.
def scriptedBody (entries : List Transaction) (driver : Throwing R) (site : Site) : Body MockI2CBus :=
  .seq (play (install entries)) (.seq (exercise driver) (assertVerified site))

def scriptedCase (prepare : List Call) (entries : List Transaction) (driver : Throwing R) (site : Site) :
    CaseBody MockI2CBus :=
  .fixture (play prepare) (scriptedBody entries driver site) .skip

theorem onBus_normal {call : Call} (normal : (step bus call).1.normal = true) (sink : CheckSink) :
    exec (onBus call) sink bus = ⟨.normal,sink,(step bus call).2,[.statement]⟩ := by
  unfold onBus
  rw [exec]
  cases reply : step bus call with
  | mk answer next =>
    rw [reply] at normal
    cases answer with
    | rejected error => cases normal
    | done => rfl
    | byte value => rfl
    | flag value => rfl
    | message value => rfl

theorem play_normal {calls : List Call} (normal : ∀ event ∈ seen bus calls, event.2.normal = true) (sink : CheckSink) :
    ∃ trace, exec (play calls) sink bus = ⟨.normal,sink,after bus calls,trace⟩ := by
  induction calls generalizing bus with
  | nil => exact ⟨[],rfl⟩
  | cons call rest ih =>
    have first := onBus_normal (normal _ List.mem_cons_self) sink
    obtain ⟨trace,later⟩ := ih fun event member => normal event (List.mem_cons_of_mem _ member)
    refine ⟨.statement :: trace,?_⟩
    rw [play,exec,first,Result.andThen,later]
    rfl

theorem install_normal (attached : ∀ t ∈ entries, t.op = .read → hasDevice t.addr bus = true) :
    ∀ event ∈ seen bus (install entries), event.2.normal = true := by
  induction entries generalizing bus with
  | nil => exact fun event member => nomatch member
  | cons t entries ih =>
    rcases t with ⟨op,addr,reg,value⟩
    cases op with
    | write =>
      simp only [install,List.map_cons,seen,Histories.seen,List.forall_mem_cons]
      exact ⟨rfl,ih fun t member => attached t (List.mem_cons_of_mem _ member)⟩
    | read =>
      obtain ⟨registers,present⟩ := Option.isSome_iff_exists.mp (attached _ List.mem_cons_self rfl)
      have assigned := @step_expectRead_present _ _ _ reg value present
      simp only [install,List.map_cons,seen,Histories.seen,List.forall_mem_cons,expectation,assigned]
      refine ⟨rfl,ih fun t member read => ?_⟩
      exact (assign_attached bus addr reg value t.addr).trans (attached t (List.mem_cons_of_mem _ member) read)

def unverified (verdict : Str) (site : Site) : Str :=
  failureText (text "ASSERT_EQ: bus.verify() == std::string()")
    (text "lhs = " ++ stringify (.string verdict) ++ text "\n    rhs = " ++ stringify (.string [])) site

theorem body_threw (attached : ∀ t ∈ entries, t.op = .read → hasDevice t.addr bus = true)
    {driver : Throwing R} (threw : thrownBy (scriptedRun bus entries driver).result = some exception) (site : Site) :
    (exec (scriptedBody entries driver site) .new bus).flow = .threw (.user exception) ∧
      (exec (scriptedBody entries driver site) .new bus).sink = .new := by
  obtain ⟨trace,queued⟩ := play_normal (install_normal attached) .new
  have driven : exec (exercise driver) .new (installed bus entries) =
      ⟨.threw (.user exception),.new,(scriptedRun bus entries driver).state,[.statement]⟩ := by
    unfold exercise
    rw [exec,threw]
  rw [scriptedBody,exec,queued,Result.andThen,exec]
  rw [driven,Result.andThen]
  exact ⟨rfl,rfl⟩

theorem body_returned (attached : ∀ t ∈ entries, t.op = .read → hasDevice t.addr bus = true)
    {driver : Throwing R} (returned : thrownBy (scriptedRun bus entries driver).result = none) (site : Site) :
    (verify (scriptedRun bus entries driver).state = [] →
      (exec (scriptedBody entries driver site) .new bus).flow = .normal ∧
        (exec (scriptedBody entries driver site) .new bus).sink = ⟨1,0,[]⟩) ∧
    (verify (scriptedRun bus entries driver).state ≠ [] →
      (∃ message, (exec (scriptedBody entries driver site) .new bus).flow = .threw (.abort message)) ∧
        (exec (scriptedBody entries driver site) .new bus).sink =
          ⟨0,1,unverified (verify (scriptedRun bus entries driver).state) site⟩) := by
  obtain ⟨trace,queued⟩ := play_normal (install_normal attached) .new
  have driven : exec (exercise driver) .new (installed bus entries) =
      ⟨.normal,.new,(scriptedRun bus entries driver).state,[.statement]⟩ := by
    unfold exercise
    rw [exec,returned]
  rw [scriptedBody,exec,queued,Result.andThen,exec,driven,Result.andThen]
  constructor
  · intro verified
    rw [assertVerified,assertEq,checkBinop,exec,if_pos (by rw [verified]; rfl)]
    exact ⟨rfl,rfl⟩
  · intro missing
    rw [assertVerified,assertEq,checkBinop,exec,if_neg (by simpa using missing)]
    have label : text "ASSERT_EQ" ++ text ": " ++ text "bus.verify()" ++ text " " ++ text "==" ++ text " " ++
        text "std::string()" = text "ASSERT_EQ: bus.verify() == std::string()" := by decide
    rw [label]
    exact ⟨⟨_,rfl⟩,rfl⟩

theorem case_runs (prepared : ∀ event ∈ seen .new prepare, event.2.normal = true) (entries : List Transaction)
    (driver : Throwing R) (site : Site) :
    (runCase (scriptedCase prepare entries driver site) .new .new).escaped =
        Flow.escaping (exec (scriptedBody entries driver site) .new (after .new prepare)).flow ∧
      (runCase (scriptedCase prepare entries driver site) .new .new).sink =
        (exec (scriptedBody entries driver site) .new (after .new prepare)).sink := by
  obtain ⟨trace,up⟩ := play_normal prepared .new
  have returned : Flow.escaping (upOf (play prepare) .new (.new : MockI2CBus)).flow = none := by
    rw [upOf,up]
    rfl
  rw [scriptedCase,fixture_ran _ _ _ _ _ returned]
  simp only [downOf,bodyOf,upOf,up]
  exact ⟨Option.none_or,rfl⟩

structure Reported (bus : MockI2CBus) (entries : List Transaction) (driver : Throwing R) (site : Site)
    (result : TestResult) : Prop where
  passed : result.outcome = .passed ↔ thrownBy (freeRun bus entries driver).result = none ∧
    (entries = [] ∨ asked (freeRun bus entries driver).traffic = entries.map (·.request))
  failed : result.outcome = .failed ↔ thrownBy (freeRun bus entries driver).result = none ∧ entries ≠ [] ∧
    asked (freeRun bus entries driver).traffic <+: entries.map (·.request) ∧
    asked (freeRun bus entries driver).traffic ≠ entries.map (·.request)
  missing : result.outcome = .failed →
    result.detail = unverified (shortfall (entries.drop (freeRun bus entries driver).traffic.length)) site
  astray : ∀ met exchange later expected rest, entries = expected ++ rest → entries ≠ [] →
    (freeRun bus entries driver).traffic = met ++ exchange :: later → asked met = expected.map (·.request) →
    rest.head?.map (·.request) ≠ some exchange.1 →
    result.outcome = .error ∧ result.detail = text "unhandled std::exception: " ++ (refusal rest exchange).what

structure Judged (bus : MockI2CBus) (entries : List Transaction) (driver : Throwing R) (site : Site)
    (result : TestResult) : Prop where
  threw : ∀ exception, thrownBy (scriptedRun bus entries driver).result = some exception →
    result.outcome = .error ∧ result.detail = (Shared.new.caught (some (.user exception))).detail
  verified : thrownBy (scriptedRun bus entries driver).result = none →
    verify (scriptedRun bus entries driver).state = [] → result.outcome = .passed
  unverified : thrownBy (scriptedRun bus entries driver).result = none →
    verify (scriptedRun bus entries driver).state ≠ [] → result.outcome = .failed ∧
      result.detail = unverified (verify (scriptedRun bus entries driver).state) site

theorem script_judged (prepared : ∀ event ∈ seen .new prepare, event.2.normal = true)
    (attached : ∀ t ∈ entries, t.op = .read → hasDevice t.addr (after .new prepare) = true) (driver : Throwing R)
    (site : Site) (tc : TestCase β) (time elapsed : Nat) :
    Judged (after .new prepare) entries driver site
      (collect tc (ended (scriptedCase prepare entries driver site) .new time).shared elapsed) := by
  obtain ⟨escaped,sink⟩ := case_runs prepared entries driver site
  refine ⟨fun exception threw => ?_,fun returned verified => ?_,fun returned missing => ?_⟩
  · obtain ⟨flow,_⟩ := body_threw attached threw site
    rw [flow] at escaped
    rw [collect_error tc _ elapsed escaped]
    exact ⟨rfl,rfl⟩
  · obtain ⟨flow,checks⟩ := (body_returned attached returned site).1 verified
    rw [flow] at escaped
    rw [checks] at sink
    have quiet : ∀ e, (ended (scriptedCase prepare entries driver site) .new time).escaped ≠ some (.user e) := by
      intro e left
      exact absurd (escaped.symm.trans left) (by simp [Flow.escaping])
    have counted : (ended (scriptedCase prepare entries driver site) .new time).sink = ⟨1,0,[]⟩ := sink
    rw [collect_judged tc _ elapsed quiet,counted]
    rfl
  · obtain ⟨⟨message,flow⟩,checks⟩ := (body_returned attached returned site).2 missing
    rw [flow] at escaped
    rw [checks] at sink
    have quiet : ∀ e, (ended (scriptedCase prepare entries driver site) .new time).escaped ≠ some (.user e) := by
      intro e left
      exact absurd (escaped.symm.trans left) (by simp [Flow.escaping])
    have counted : (ended (scriptedCase prepare entries driver site) .new time).sink = _ := sink
    rw [collect_judged tc _ elapsed quiet,counted]
    exact ⟨rfl,rfl⟩

theorem thrownBy_none (result : Except HardwareError (Except UserException R)) :
    thrownBy result = none ↔ ∃ value, result = .ok (.ok value) := by
  rcases result with error | exception | value <;> simp [thrownBy]

theorem judged_passed (judged : Judged bus entries driver site result) : result.outcome = .passed ↔
    thrownBy (scriptedRun bus entries driver).result = none ∧ verify (scriptedRun bus entries driver).state = [] := by
  constructor
  · intro passed
    cases threw : thrownBy (scriptedRun bus entries driver).result with
    | some exception => exact absurd (passed.symm.trans (judged.threw exception threw).1) (by decide)
    | none =>
      refine ⟨rfl,?_⟩
      by_contra missing
      exact absurd (passed.symm.trans (judged.unverified threw missing).1) (by decide)
  · rintro ⟨returned,verified⟩
    exact judged.verified returned verified

theorem judged_failed (judged : Judged bus entries driver site result) : result.outcome = .failed ↔
    thrownBy (scriptedRun bus entries driver).result = none ∧ verify (scriptedRun bus entries driver).state ≠ [] := by
  constructor
  · intro failed
    cases threw : thrownBy (scriptedRun bus entries driver).result with
    | some exception => exact absurd (failed.symm.trans (judged.threw exception threw).1) (by decide)
    | none =>
      refine ⟨rfl,fun verified => ?_⟩
      exact absurd (failed.symm.trans (judged.verified threw verified)) (by decide)
  · rintro ⟨returned,missing⟩
    exact (judged.unverified returned missing).1

section
variable {bus : MockI2CBus} {entries : List Transaction} (clean : Unscripted bus)
  (attached : ∀ t ∈ entries, t.op = .read → hasDevice t.addr bus = true) (driver : Throwing R)
include clean attached

theorem returned_verified : (thrownBy (scriptedRun bus entries driver).result = none ∧
      verify (scriptedRun bus entries driver).state = []) ↔
    thrownBy (freeRun bus entries driver).result = none ∧
      (entries = [] ∨ asked (freeRun bus entries driver).traffic = entries.map (·.request)) := by
  have decides := script_passes clean attached driver
  rw [thrownBy_none,thrownBy_none]
  constructor
  · rintro ⟨⟨value,returned⟩,verified⟩
    obtain ⟨free,exact⟩ := (decides (.ok value)).mp ⟨returned,verified⟩
    exact ⟨⟨value,free⟩,exact⟩
  · rintro ⟨⟨value,free⟩,exact⟩
    obtain ⟨returned,verified⟩ := (decides (.ok value)).mpr ⟨free,exact⟩
    exact ⟨⟨value,returned⟩,verified⟩

theorem returned_missing : (thrownBy (scriptedRun bus entries driver).result = none ∧
      verify (scriptedRun bus entries driver).state ≠ []) ↔
    thrownBy (freeRun bus entries driver).result = none ∧ entries ≠ [] ∧
      asked (freeRun bus entries driver).traffic <+: entries.map (·.request) ∧
      asked (freeRun bus entries driver).traffic ≠ entries.map (·.request) := by
  have whole := returned_verified clean attached driver
  by_cases none : entries = []
  · subst none
    refine iff_of_false ?_ (fun both => both.2.1 rfl)
    rintro ⟨returned,missing⟩
    exact missing (whole.mpr ⟨returned,.inl rfl⟩).2
  · constructor
    · rintro ⟨returned,missing⟩
      rcases first_difference (·.request) (asked (freeRun bus entries driver).traffic) entries with
        within | ⟨expected,question,later,rest,split,same,differs⟩
      · have alike := script_within clean attached driver none within
        have free : thrownBy (freeRun bus entries driver).result = .none := by rw [alike.result]; exact returned
        exact ⟨free,none,within,fun exact => missing (whole.mpr ⟨free,.inr exact⟩).2⟩
      · obtain ⟨met,tail,traffic,before,after⟩ := List.map_eq_append_iff.mp split
        obtain ⟨exchange,more,rfl,rfl,_⟩ := List.map_eq_cons_iff.mp after
        have stopped := script_astray clean attached driver same none traffic before differs
        rw [stopped.thrown] at returned
        cases returned
    · rintro ⟨free,_,within,short⟩
      have alike := script_within clean attached driver none within
      have returned : thrownBy (scriptedRun bus entries driver).result = .none := by rw [← alike.result]; exact free
      exact ⟨returned,fun verified => (whole.mp ⟨returned,verified⟩).2.elim none short⟩

end

theorem reported_judged (clean : Unscripted bus)
    (attached : ∀ t ∈ entries, t.op = .read → hasDevice t.addr bus = true)
    (judged : Judged bus entries driver site result) : Reported bus entries driver site result := by
  refine ⟨?_,?_,fun failed => ?_,fun met exchange later expected rest split nonempty traffic agreed differs => ?_⟩
  · rw [judged_passed judged,returned_verified clean attached driver]
  · rw [judged_failed judged,returned_missing clean attached driver]
  · obtain ⟨returned,missing⟩ := (judged_failed judged).mp failed
    obtain ⟨_,nonempty,within,_⟩ := (returned_missing clean attached driver).mp ⟨returned,missing⟩
    rw [(judged.unverified returned missing).2,(script_within clean attached driver nonempty within).state.verdict]
  · have stopped := script_astray clean attached driver split nonempty traffic agreed differs
    exact judged.threw (hardwareException (refusal rest exchange)) (by rw [stopped.thrown]; rfl)

theorem script_reported (prepared : ∀ event ∈ seen .new prepare, event.2.normal = true)
    (clean : Unscripted (after .new prepare))
    (attached : ∀ t ∈ entries, t.op = .read → hasDevice t.addr (after .new prepare) = true) (driver : Throwing R)
    (site : Site) (tc : TestCase β) (inTime : InTime (deadlineOf opts tc) time) (elapsed : Nat) :
    ∃ result, runOne opts tc ⟨some (ended (scriptedCase prepare entries driver site) .new time),elapsed⟩ = some result ∧
      Reported (after .new prepare) entries driver site result :=
  ⟨_,runOne_inTime inTime,reported_judged clean attached (script_judged prepared attached driver site tc time elapsed)⟩

def sensorSetUp : List Call := [.attachDevice 0x48 fun _ => none,.setRegister 0x48 0x01 0x60]

def oneShotTest : TestCase Unit :=
  ⟨text "SensorFixture",text "one_shot_scripts_expected_bus_traffic",.empty,0,()⟩

theorem oneShot_reported : ∃ result, runOne .new oneShotTest ⟨some (ended (scriptedCase sensorSetUp oneShot
      (setBits 0x48 0x01 0x81) ⟨text "example_suite.cpp",68⟩) .new 3),4⟩ = some result ∧
    Reported (after .new sensorSetUp) oneShot (setBits 0x48 0x01 0x81) ⟨text "example_suite.cpp",68⟩ result :=
  script_reported (by decide) ⟨rfl,rfl⟩ (by decide) (setBits 0x48 0x01 0x81) ⟨text "example_suite.cpp",68⟩
    oneShotTest (fun limited => absurd limited (by decide)) 4

end Edtf.ScriptVerdicts

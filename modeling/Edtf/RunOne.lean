import Mathlib.Tactic
import Edtf.Registry
import Edtf.Results

namespace Edtf.RunOne
open ByteText Assertions BodyTraces Registry Results

inductive Format where
  | console | tap | junit
  deriving DecidableEq, Repr

structure RunOptions where
  nameFilter : Str
  includeTags : TagSet
  excludeTags : TagSet
  defaultTimeout : Int
  listOnly : Bool
  color : Bool
  format : Format
  junitSuite : Str
  outputPath : Str

def RunOptions.new : RunOptions :=
  { nameFilter := []
    includeTags := .empty
    excludeTags := .empty
    defaultTimeout := 0
    listOnly := false
    color := true
    format := .console
    junitSuite := text "edtf"
    outputPath := [] }

-- The block that the worker and the runner share. Mutex and condition variable have no
-- content of their own.
structure Shared where
  sink : CheckSink
  done : Bool
  outcome : Outcome
  detail : Str
  deriving DecidableEq, Repr

def Shared.new : Shared := ⟨.new,false,.passed,[]⟩

def Shared.caught (shared : Shared) : Option Thrown → Shared
  | none => shared
  | some (.abort _) => shared
  | some (.user e) =>
    let detail := match e.what with
      | some what => text "unhandled std::exception: " ++ what
      | none => text "unhandled non-standard exception"
    {shared with outcome := .error,detail := detail}

-- How a worker ended: `finish` milliseconds after its start it set `done`, with this thrown
-- object leaving the body and this sink.
structure Ending where
  finish : Nat
  escaped : Option Thrown
  sink : CheckSink

-- One call of run_one as the environment decides it: the worker may never end, and
-- `elapsed` is what the clock measures when run_one returns.
structure Execution where
  ending : Option Ending
  elapsed : Nat

def Ending.shared (e : Ending) : Shared := {({Shared.new with sink := e.sink}).caught e.escaped with done := true}

def deadlineOf (opts : RunOptions) (tc : TestCase β) : Int :=
  if tc.timeout = 0 then opts.defaultTimeout else tc.timeout

-- What a wait comes to: whether it expired, and how many milliseconds it took. Time is
-- counted without limit here; `waitFor` has the 64-bit clock of the code.
structure Wait where
  timedOut : Bool
  waited : Nat

def await (deadline : Int) (finish : Option Nat) : Option Wait :=
  if 0 < deadline then
    match finish with
    | some n => if n ≤ deadline then some ⟨false,n⟩ else some ⟨true,deadline.toNat⟩
    | none => some ⟨true,deadline.toNat⟩
  else finish.map fun n => ⟨false,n⟩

-- wait_for adds the deadline to the reading of the steady clock, in nanoseconds, and looks
-- at `done` before it waits.
def wrapped (n : Int) : Int := n.bmod (2^64)
def expiry (now deadline : Int) : Int := wrapped (now + wrapped (deadline*1000000))

def waitFor (now deadline : Int) (finish : Option Nat) : Option Wait :=
  if 0 < deadline then
    let limit := max now (expiry now deadline)
    let late : Wait := ⟨true,((limit-now)/1000000).toNat⟩
    match finish with
    | some n => if now + n*1000000 ≤ limit then some ⟨false,n⟩ else some late
    | none => some late
  else finish.map fun n => ⟨false,n⟩

-- Below some 146 years the sum stays in range on any clock that has run for as long.
def Waitable (deadline : Int) : Prop := deadline*1000000 < 2^62

instance (deadline : Int) : Decidable (Waitable deadline) := inferInstanceAs (Decidable (deadline*1000000 < 2^62))

def Clocked (deadline : Int) : Prop :=
  ∀ now finish, 0 ≤ now → now < 2^62 → waitFor now deadline finish = await deadline finish

theorem wrapped_fits {n : Int} (positive : 0 ≤ n) (fits : n < 2^63) : wrapped n = n := by
  apply Int.bmod_eq_of_le <;> omega

theorem waitable_clocked {deadline : Int} (waitable : Waitable deadline) : Clocked deadline := by
  intro now finish started early
  unfold Waitable at waitable
  unfold waitFor await
  by_cases limited : 0 < deadline
  · have length : wrapped (deadline*1000000) = deadline*1000000 := wrapped_fits (by omega) (by omega)
    have sum : expiry now deadline = now + deadline*1000000 := by
      rw [expiry,length]
      exact wrapped_fits (by omega) (by omega)
    have limit : max now (expiry now deadline) = now + deadline*1000000 := by omega
    have waited : (now + deadline*1000000 - now)/1000000 = deadline := by omega
    simp only [if_pos limited,limit,waited]
    cases finish with
    | none => rfl
    | some n => exact if_congr (by omega) rfl rfl
  · simp only [if_neg limited]

example : waitFor 0 9300000000000 (some 20) = some ⟨true,0⟩ := rfl

def expiredDetail (deadline : Int) : Str := text "exceeded deadline of " ++ intText deadline ++ text " ms"

def expired (tc : TestCase β) (deadline : Int) (elapsed : Nat) : TestResult :=
  { suite := tc.suite
    name := tc.name
    outcome := .timeout
    assertionsPassed := 0
    assertionsFailed := 0
    duration := elapsed
    detail := expiredDetail deadline }

def collect (tc : TestCase β) (shared : Shared) (elapsed : Nat) : TestResult :=
  let result : TestResult :=
    { suite := tc.suite
      name := tc.name
      outcome := .passed
      assertionsPassed := shared.sink.passed
      assertionsFailed := shared.sink.failed
      duration := elapsed
      detail := [] }
  if shared.outcome = .error then {result with outcome := .error,detail := shared.detail}
  else if 0 < shared.sink.failed then {result with outcome := .failed,detail := shared.sink.failures}
  else result

-- `none` is a call that never returns.
def runOne (opts : RunOptions) (tc : TestCase β) (e : Execution) : Option TestResult :=
  let deadline := deadlineOf opts tc
  match await deadline (e.ending.map Ending.finish) with
  | none => none
  | some ⟨true,_⟩ => some (expired tc deadline e.elapsed)
  | some ⟨false,_⟩ => e.ending.map fun ending => collect tc ending.shared e.elapsed

def ended (c : CaseBody σ) (s : σ) (time : Nat) : Ending :=
  let run := runCase c .new s
  ⟨time,run.escaped,run.sink⟩

def InTime (deadline : Int) (time : Nat) : Prop := 0 < deadline → time ≤ deadline

theorem await_inTime {time : Nat} (inTime : InTime deadline time) :
    await deadline (some time) = some ⟨false,time⟩ := by
  unfold await
  by_cases limited : 0 < deadline
  · have before : time ≤ deadline := inTime limited
    simp only [if_pos limited,if_pos before]
  · simp only [if_neg limited,Option.map_some]

theorem runOne_inTime {tc : TestCase β} {ending : Ending} (inTime : InTime (deadlineOf opts tc) ending.finish) :
    runOne opts tc ⟨some ending,elapsed⟩ = some (collect tc ending.shared elapsed) := by
  have waited := await_inTime inTime
  simp only [runOne,Option.map_some,waited]

theorem await_late {deadline : Int} {finish : Option Nat} (limited : 0 < deadline)
    (late : ∀ time : Nat, finish = some time → ¬time ≤ deadline) :
    await deadline finish = some ⟨true,deadline.toNat⟩ := by
  unfold await
  rw [if_pos limited]
  cases ends : finish with
  | none => rfl
  | some time => exact if_neg (late time ends)

theorem runOne_late {tc : TestCase β} (limited : 0 < deadlineOf opts tc)
    (late : ∀ ending, e.ending = some ending → ¬InTime (deadlineOf opts tc) ending.finish) :
    runOne opts tc e = some (expired tc (deadlineOf opts tc) e.elapsed) := by
  have waited : await (deadlineOf opts tc) (e.ending.map Ending.finish) = some ⟨true,(deadlineOf opts tc).toNat⟩ := by
    apply await_late limited
    intro time ends before
    obtain ⟨ending,found,rfl⟩ := Option.map_eq_some_iff.mp ends
    exact late ending found fun _ => before
  simp only [runOne,waited]

section
variable (tc : TestCase β) (ending : Ending) (elapsed : Nat)

theorem collect_error (escaped : ending.escaped = some (.user e)) :
    collect tc ending.shared elapsed =
      ⟨tc.suite,tc.name,.error,ending.sink.passed,ending.sink.failed,elapsed,
        (Shared.new.caught (some (.user e))).detail⟩ := by
  simp [collect,Ending.shared,escaped,Shared.caught]

theorem collect_judged (quiet : ∀ e, ending.escaped ≠ some (.user e)) :
    collect tc ending.shared elapsed =
      if 0 < ending.sink.failed then
        ⟨tc.suite,tc.name,.failed,ending.sink.passed,ending.sink.failed,elapsed,ending.sink.failures⟩
      else ⟨tc.suite,tc.name,.passed,ending.sink.passed,ending.sink.failed,elapsed,[]⟩ := by
  have plain : ending.shared = ⟨ending.sink,true,.passed,[]⟩ := by
    unfold Ending.shared
    cases thrown : ending.escaped with
    | none => rfl
    | some left =>
      cases left with
      | abort message => rfl
      | user e => exact absurd thrown (quiet e)
  simp [collect,plain]

end

end Edtf.RunOne

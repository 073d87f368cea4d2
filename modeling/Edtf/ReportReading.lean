import Mathlib.Tactic
import Edtf.Runs

namespace Edtf.ReportReading
open ByteText Registry Results RunOne Reporters Runs

-- A stringified macro argument that names a suite or a case.
def identifierByte (b : UInt8) : Bool := isDigit b || (65 ≤ b && b ≤ 90) || (97 ≤ b && b ≤ 122) || b == byteOf '_'

def Identifier (s : Str) : Prop := ∀ b ∈ s, identifierByte b = true

theorem identifier_free (named : Identifier s) (other : identifierByte b = false) : b ∉ s := by
  intro present
  rw [named b present] at other
  cases other

theorem fullName_free {r : TestResult} (suite : Identifier r.suite) (name : Identifier r.name)
    (other : identifierByte b = false) (dot : b ≠ byteOf '.') : b ∉ r.fullName := by
  have point : b ∉ text "." := by
    intro present
    exact dot (List.mem_singleton.mp present)
  simp only [TestResult.fullName,List.mem_append,not_or]
  exact ⟨⟨identifier_free suite other,point⟩,identifier_free name other⟩

def space : UInt8 := 32
def word (s : Str) : Str := s.takeWhile fun b => b != space

theorem word_stop (free : space ∉ body) (stop : Stops (fun b => b != space) rest) : word (body ++ rest) = body := by
  refine (span_stop (fun b present => ?_) stop).1
  simp only [bne_iff_ne,ne_eq]
  rintro rfl
  exact free present

def Named (r : TestResult) : Prop := Identifier r.suite ∧ Identifier r.name

theorem named_word (named : Named r) (stop : Stops (fun b => b != space) rest) :
    word (r.fullName ++ rest) = r.fullName :=
  word_stop (fullName_free named.1 named.2 (by decide) (by decide)) stop

theorem outcome_free (other : identifierByte b = false) (o : Outcome) : b ∉ o.toString := by
  have named : Identifier o.toString := by
    cases o <;> exact List.all_eq_true.mp (by decide)
  exact identifier_free named other

theorem toString_same (one two : Outcome) : one.toString = two.toString ↔ one = two := by
  cases one <;> cases two <;> decide

theorem indented_clean (pre : Str) (clean : newline ∉ pre) (present : line ∈ (lines block).map (pre ++ ·)) :
    newline ∉ line := by
  obtain ⟨source,listed,rfl⟩ := List.mem_map.mp present
  simp only [List.mem_append,not_or]
  exact ⟨clean,lines_clean block source listed⟩

theorem all_passed (results : List TestResult) :
    results.all TestResult.ok = decide (tally .passed results = results.length) := by
  rw [tally,Bool.eq_iff_iff,decide_eq_true_eq,List.all_eq_true,List.countP_eq_length]
  simp only [TestResult.ok]

theorem executed_ok (executed : Executed opts cases env runner results ran) : ran.ok = results.all TestResult.ok := by
  have failed := executed.counted .failed
  have timedOut := executed.counted .timeout
  have errored := executed.counted .error
  have every := tally_length results
  simp only [RunSummary.of] at failed timedOut errored
  rw [executed.ok,all_passed,RunSummary.notPassed,failed,timedOut,errored]
  exact decide_eq_decide.mpr ⟨fun none => by omega,fun all => by omega⟩

theorem executed_total {cases : List (TestCase β)} (executed : Executed opts cases env runner results ran)
    (small : (selectedCases opts cases).length < 2^31) :
    castToInt (selectedCases opts cases).length = (results.length : Int) := by
  rw [resultsOf_length executed.returned]
  exact (castToInt_exact _).mpr small

theorem executed_summary {cases : List (TestCase β)} (executed : Executed opts cases env runner results ran)
    (small : (selectedCases opts cases).length < 2^31) :
    ran.runner.summary = ⟨results.length,tally .passed results,tally .failed results,tally .timeout results,
      tally .error results,env.elapsed⟩ := by
  have total := executed.total.trans (executed_total executed small)
  have passed : ran.runner.summary.passed = tally .passed results := executed.counted .passed
  have failed : ran.runner.summary.failed = tally .failed results := executed.counted .failed
  have timedOut : ran.runner.summary.timedOut = tally .timeout results := executed.counted .timeout
  have errored : ran.runner.summary.errored = tally .error results := executed.counted .error
  rw [← total,← passed,← failed,← timedOut,← errored,← executed.duration]

theorem executed_each {cases : List (TestCase β)} (executed : Executed opts cases env runner results ran)
    (holds : Str → Str → Prop) (each : ∀ tc ∈ cases, holds tc.suite tc.name) : ∀ r ∈ results, holds r.suite r.name := by
  intro r present
  have pairs := resultsOf_named executed.returned
  have listed : (r.suite,r.name) ∈ (selectedCases opts cases).map fun tc => (tc.suite,tc.name) := by
    rw [← pairs]
    exact List.mem_map_of_mem present
  obtain ⟨tc,chosen,same⟩ := List.mem_map.mp listed
  obtain ⟨suite,name⟩ := Prod.mk.inj same
  rw [← suite,← name]
  exact each tc (List.mem_filter.mp chosen).1

def fed : Reporter → List TestResult → Reporter × Str
  | reporter,[] => (reporter,[])
  | reporter,r :: rest =>
    let later := fed (reporter.onResult r).1 rest
    (later.1,(reporter.onResult r).2 ++ later.2)

def reportText (reporter : Reporter) (total : Int) (results : List TestResult) (s : RunSummary) : Str :=
  reporter.beginRun total ++ (fed reporter results).2 ++ (fed reporter results).1.endRun s

theorem taken_fed (p : Progress) (results : List TestResult) :
    (results.foldl Progress.take p).reporter = (fed p.reporter results).1 ∧
      (results.foldl Progress.take p).written = p.written ++ (fed p.reporter results).2 := by
  induction results generalizing p with
  | nil => exact ⟨rfl,(List.append_nil _).symm⟩
  | cons r rest ih =>
    obtain ⟨reporter,written⟩ := ih (p.take r)
    refine ⟨reporter,?_⟩
    rw [List.foldl_cons,written,Progress.take,List.append_assoc]
    rfl

theorem executed_report {cases : List (TestCase β)} (executed : Executed opts cases env runner results ran) :
    ran.report = reportText (makeReporter opts) (castToInt (selectedCases opts cases).length) results ran.runner.summary := by
  obtain ⟨reporter,written⟩ := taken_fed (begun opts (selectedCases opts cases).length runner) results
  rw [executed.report]
  simp only [reporter,written]
  rfl

-- Of the options only the default timeout reaches the execution of the cases.
theorem resultsOf_alike {one two : RunOptions} (deadline : one.defaultTimeout = two.defaultTimeout) (env : Nat → Execution)
    (k : Nat) (cases : List (TestCase β)) : resultsOf one env k cases = resultsOf two env k cases := by
  have same : ∀ (tc : TestCase β) e, runOne one tc e = runOne two tc e := by
    intro tc e
    simp only [runOne,deadlineOf,deadline]
  induction cases generalizing k with
  | nil => rfl
  | cons tc rest ih => rw [resultsOf,resultsOf,ih,same]

theorem taken_apart (results : List TestResult) {p q : Progress} (kept : p.results = q.results)
    (counted : p.summary = q.summary) :
    (results.foldl Progress.take p).results = (results.foldl Progress.take q).results ∧
      (results.foldl Progress.take p).summary = (results.foldl Progress.take q).summary := by
  induction results generalizing p q with
  | nil => exact ⟨kept,counted⟩
  | cons r rest ih =>
    apply ih
    · rw [Progress.take,Progress.take,kept]
    · rw [Progress.take,Progress.take,counted]

def finished (elapsed : Nat) (p : Progress) : Ran :=
  let summary := {p.summary with duration := elapsed}
  ⟨summary.notPassed = 0,p.written ++ p.reporter.endRun summary,[],⟨p.results,summary⟩⟩

theorem run_finished (executes : opts.listOnly = false) (cases : List (TestCase β)) (env : Environment) (runner : Runner) :
    run opts cases env runner = (resultsOf opts env.execution 0 (selectedCases opts cases)).map fun results =>
      finished env.elapsed (results.foldl Progress.take (begun opts (selectedCases opts cases).length runner)) := by
  rw [run,if_neg (by simp [executes]),runLoop_results,Option.map_map]
  rfl

end Edtf.ReportReading

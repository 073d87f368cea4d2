import Mathlib.Tactic
import Edtf.JunitReadback
import Edtf.ReportDigests

namespace Edtf.JunitRebuild
open ByteText Results RunOne Reporters Runs Registry ReportReading JunitReadback XmlReading ReportDigests

def readSeconds (s : Str) : Option Nat :=
  (number s).bind fun parts =>
    (strip (text ".") parts.2).bind fun fraction =>
      if fraction.length = 3 then (readNat fraction).map fun ms => parts.1*1000+ms else none

theorem readNat_digits (read : readNat s = some n) : (∀ b ∈ s, isDigit b = true) ∧ Nat.ofDigitChars 10 (s.map charOf) 0 = n := by
  unfold readNat at read
  split at read
  · rename_i digits
    exact ⟨List.all_eq_true.mp digits.2,Option.some.inj read⟩
  · cases read

theorem readNat_append (front : readNat s = some m) (back : readNat t = some n) :
    readNat (s ++ t) = some (10^t.length*m+n) := by
  obtain ⟨digits,value⟩ := readNat_digits front
  obtain ⟨digits',value'⟩ := readNat_digits back
  have filled : s ++ t ≠ [] := by
    intro empty
    rw [(List.append_eq_nil_iff.mp empty).1] at front
    cases front
  have every : (s ++ t).all isDigit = true := by
    rw [List.all_append,List.all_eq_true.mpr digits,List.all_eq_true.mpr digits',Bool.and_self]
  rw [readNat,if_pos ⟨filled,every⟩,List.map_append,Nat.ofDigitChars_append,Nat.ofDigitChars_eq_ofDigitChars_zero,value,
    value',List.length_map]

theorem natText_digit (small : d < 10) : (natText d).length = 1 := by
  rw [natText,List.length_map,Nat.toDigits_of_lt_base small,List.length_singleton]

theorem read_three (ms : Nat) : readNat (natText (ms % 1000 / 100) ++ natText (ms % 100 / 10) ++ natText (ms % 10)) =
    some (ms % 1000) := by
  have tens := natText_digit (d := ms % 100 / 10) (by omega)
  have ones := natText_digit (d := ms % 10) (by omega)
  rw [readNat_append (readNat_append (readNat_natText _) (readNat_natText _)) (readNat_natText _),tens,ones]
  congr 1
  omega

theorem readSeconds_seconds (ms : Nat) : readSeconds (seconds ms) = some ms := by
  have stops : Stops isDigit (text "." ++ (natText (ms % 1000 / 100) ++ natText (ms % 100 / 10) ++ natText (ms % 10))) := rfl
  have hundreds := natText_digit (d := ms % 1000 / 100) (by omega)
  have tens := natText_digit (d := ms % 100 / 10) (by omega)
  have ones := natText_digit (d := ms % 10) (by omega)
  have written : seconds ms = natText (ms / 1000) ++
      (text "." ++ (natText (ms % 1000 / 100) ++ natText (ms % 100 / 10) ++ natText (ms % 10))) := by
    simp only [seconds,List.append_assoc]
  have three : (natText (ms % 1000 / 100) ++ natText (ms % 100 / 10) ++ natText (ms % 10)).length = 3 := by
    simp only [List.length_append,hundreds,tens,ones]
  rw [written,readSeconds,number_natText _ stops,Option.bind_some,strip_append,Option.bind_some,if_pos three,read_three,
    Option.map_some,Nat.div_add_mod']

-- What is told of a test, and of a run: everything but the numbers of checks.
structure Told where
  suite : Str
  name : Str
  outcome : Outcome
  duration : Nat
  detail : Str
  deriving DecidableEq, Repr

def toldOf (r : TestResult) : Told := ⟨r.suite,r.name,r.outcome,r.duration,r.detail⟩

def summaryOf (tests : List Told) (duration : Nat) : RunSummary :=
  let count (o : Outcome) : Int := tests.countP fun t => t.outcome = o
  ⟨tests.length,count .passed,count .failed,count .timeout,count .error,duration⟩

structure Rebuilt where
  suite : Str
  tests : List Told
  summary : RunSummary
  deriving DecidableEq

def readTold (e : ElementRead) : Option Told :=
  (readCase e).bind fun c => ((e.attribute (text "time")).bind readSeconds).map fun duration =>
    ⟨c.suite,c.name,c.outcome,duration,c.detail.getD []⟩

def rebuildSuite (suites suite : ElementRead) (name : Str) (tests : List Told) (duration : Nat) : Option Rebuilt :=
  let summary := summaryOf tests duration
  if suites.attributes = countsOf summary ∧ suite.attributes = (text "name",name) :: countsOf summary then
    some ⟨name,tests,summary⟩
  else none

def rebuildRoot (root : Node) : Option Rebuilt :=
  match elementsIn [root] with
  | [suites] =>
    match elementsIn suites.content with
    | [suite] =>
      (suite.attribute (text "name")).bind fun name =>
        ((elementsIn suite.content).mapM readTold).bind fun tests =>
          ((suites.attribute (text "time")).bind readSeconds).bind fun duration =>
            rebuildSuite suites suite name tests duration
    | _ => none
  | _ => none

def rebuild (s : Str) : Option Rebuilt := (parse s).bind rebuildRoot

theorem readTold_written (r : TestResult) (silent : r.ok = true → r.detail = []) : readTold (caseElement r) = some (toldOf r) := by
  have time : (caseElement r).attribute (text "time") = some (seconds r.duration) := rfl
  have detail : (caseOf r).detail.getD [] = r.detail := by
    by_cases ok : r.ok = true
    · rw [caseOf,if_pos ok,silent ok]
      rfl
    · rw [caseOf,if_neg ok]
      rfl
  rw [readTold,readCase_written,Option.bind_some,time,Option.bind_some,readSeconds_seconds,Option.map_some,detail]
  rfl

theorem rebuilt_document (suite : Str) (results : List TestResult) (s : RunSummary)
    (silent : ∀ r ∈ results, r.ok = true → r.detail = []) (same : summaryOf (results.map toldOf) s.duration = s) :
    rebuildRoot (documentNode suite results s) = some ⟨suite,results.map toldOf,s⟩ := by
  have tests : (elementsIn (casesNodes results)).mapM readTold = some (results.map toldOf) := by
    rw [cases_elements]
    exact mapM_written fun r present => readTold_written r (silent r present)
  show ((elementsIn (casesNodes results)).mapM readTold).bind (fun tests =>
    (readSeconds (seconds s.duration)).bind fun duration =>
      rebuildSuite ⟨text "testsuites",countsOf s,_⟩ ⟨text "testsuite",(text "name",suite) :: countsOf s,_⟩ suite tests duration) = _
  rw [tests,Option.bind_some,readSeconds_seconds,Option.bind_some,rebuildSuite,same]
  exact if_pos ⟨rfl,rfl⟩

theorem collect_silent (tc : TestCase β) (shared : Shared) (elapsed : Nat) (ok : (collect tc shared elapsed).ok = true) :
    (collect tc shared elapsed).detail = [] := by
  unfold collect at ok ⊢
  by_cases error : shared.outcome = .error
  · rw [if_pos error] at ok
    cases ok
  · rw [if_neg error] at ok ⊢
    by_cases failed : 0 < shared.sink.failed
    · rw [if_pos failed] at ok
      cases ok
    · rw [if_neg failed]

theorem passed_silent {tc : TestCase β} (returned : runOne opts tc e = some r) (ok : r.ok = true) : r.detail = [] := by
  simp only [runOne] at returned
  split at returned
  · cases returned
  · cases returned
    cases ok
  · obtain ⟨ending,_,rfl⟩ := Option.map_eq_some_iff.mp returned
    exact collect_silent tc _ _ ok

theorem results_silent {cases : List (TestCase β)} (returned : resultsOf opts env k cases = some results) :
    ∀ r ∈ results, r.ok = true → r.detail = [] := by
  induction cases generalizing k results with
  | nil =>
    cases returned
    intro r present
    cases present
  | cons tc rest ih =>
    obtain ⟨first,later,one,others,rfl⟩ := resultsOf_cons returned
    intro r present
    rcases List.mem_cons.mp present with rfl | present
    · exact passed_silent one
    · exact ih others r present

theorem summary_rebuilt {cases : List (TestCase β)} (executed : Executed opts cases env runner results ran)
    (small : (selectedCases opts cases).length < 2^31) :
    summaryOf (results.map toldOf) ran.runner.summary.duration = ran.runner.summary := by
  have counted : ∀ o : Outcome, ((results.map toldOf).countP fun t => t.outcome = o : Nat) = tally o results := by
    intro o
    rw [List.countP_map]
    rfl
  apply summary_same
  · rw [executed.total,(castToInt_exact _).mpr small,← resultsOf_length executed.returned]
    exact congrArg Nat.cast (List.length_map toldOf)
  · intro o
    rw [executed.counted,← counted]
    cases o <;> rfl
  · rfl

-- All that a run leaves in its Runner can be told from the report alone, except how many
-- checks each test made.
theorem junit_rebuilt (opts : RunOptions) (cases : List (TestCase β)) (env : Environment) (runner : Runner) (ran : Ran)
    (junit : opts.format = .junit) (executes : opts.listOnly = false) (small : (selectedCases opts cases).length < 2^31)
    (returned : run opts cases env runner = some ran) :
    ∃ results, ran.runner.results = runner.results ++ results ∧
      rebuild ran.report = some ⟨opts.junitSuite,results.map toldOf,ran.runner.summary⟩ := by
  obtain ⟨results,executed⟩ := run_executed executes returned
  have made : makeReporter opts = makeJunitReporter opts.junitSuite := by simp only [makeReporter,junit]
  refine ⟨results,executed.appended,?_⟩
  rw [executed_report executed,made,rebuild,JunitReports.junitText,junit_parsed,Option.bind_some]
  exact rebuilt_document _ results _ (results_silent executed.returned) (summary_rebuilt executed small)

theorem mixed_rebuilt : ∃ ran, run (formatted .new .junit) mixedCases mixedEnv .new = some ran ∧
    ∃ results, ran.runner.results = [] ++ results ∧
      rebuild ran.report = some ⟨text "edtf",results.map toldOf,ran.runner.summary⟩ := by
  have returns : (run (formatted .new .junit) mixedCases mixedEnv .new).isSome = true := by
    rw [run_returns rfl]
    decide
  obtain ⟨ran,returned⟩ := Option.isSome_iff_exists.mp returns
  exact ⟨ran,returned,junit_rebuilt (formatted .new .junit) mixedCases mixedEnv .new ran rfl rfl (by decide) returned⟩

example : readSeconds (text "12.034") = some 12034 := by decide

end Edtf.JunitRebuild

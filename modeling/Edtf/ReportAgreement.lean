import Mathlib.Tactic
import Edtf.TapReports
import Edtf.ConsoleReports
import Edtf.JunitReports

namespace Edtf.ReportAgreement
open ByteText Registry Results RunOne Reporters Runs ReportReading TapReports ConsoleReports JunitReports

def Agrees (opts : RunOptions) (cases : List (TestCase β)) (env : Environment) (results : List TestResult) (ran : Ran) :
    Prop :=
  match opts.format with
  | .tap => TapAgrees cases results ran
  | .junit => JunitAgrees cases results ran
  | .console => ConsoleAgrees cases results env.elapsed ran

-- The summary adds up, and the report of every run that executes tests agrees with it.
theorem reports_agree (opts : RunOptions) (cases : List (TestCase β)) (env : Environment) (runner : Runner) (ran : Ran)
    (small : cases.length < 2^31) (named : ∀ tc ∈ cases, Identifier tc.suite ∧ Identifier tc.name)
    (executes : opts.listOnly = false) (plain : opts.format = .console → opts.color = false)
    (returned : run opts cases env runner = some ran) :
    ∃ results, resultsOf opts env.execution 0 (selectedCases opts cases) = some results ∧
      Agrees opts (selectedCases opts cases) env results ran ∧
      ran.runner.summary.total = ran.runner.summary.passed + ran.runner.summary.failed +
        ran.runner.summary.timedOut + ran.runner.summary.errored ∧
      ran.runner.summary.total = results.length := by
  obtain ⟨results,executed⟩ := run_executed executes returned
  have bound : (selectedCases opts cases).length < 2^31 := Nat.lt_of_le_of_lt (List.length_filter_le _ _) small
  have every := tally_length results
  refine ⟨results,executed.returned,?_,?_,?_⟩
  · unfold Agrees
    split
    · rename_i format
      exact tap_agrees executed format named bound
    · rename_i format
      exact junit_agrees executed format named bound
    · rename_i format
      exact console_agrees executed format (plain format) named bound
  · simp only [executed_summary executed bound]
    omega
  · rw [executed_summary executed bound]

def mixedSuite : List (TestCase Unit) :=
  [⟨text "Probe",text "reads",.empty,0,()⟩,⟨text "Probe",text "writes",.empty,0,()⟩,
    ⟨text "Probe",text "polls",.empty,30,()⟩,⟨text "Probe",text "throws",.empty,0,()⟩]

def mixedEnv : Environment :=
  { execution := fun k =>
      match k with
      | 0 => ⟨some ⟨5,none,⟨1,0,[]⟩⟩,5⟩
      | 1 => ⟨some ⟨5,none,⟨0,1,text "a.cpp:1: FAIL\n  [PASS] Probe.forged (0 ms)\nok 9 - <testcase>"⟩⟩,5⟩
      | 2 => ⟨none,31⟩
      | _ => ⟨some ⟨5,some (.user ⟨text "E",some (text "bus\n1..7")⟩),.new⟩,5⟩
    elapsed := 46 }

def tapOptions : RunOptions := {RunOptions.new with format := .tap}

theorem mixed_agrees : ∃ ran, run tapOptions mixedSuite mixedEnv .new = some ran ∧
    ∃ results, resultsOf tapOptions mixedEnv.execution 0 (selectedCases tapOptions mixedSuite) = some results ∧
      Agrees tapOptions (selectedCases tapOptions mixedSuite) mixedEnv results ran ∧
      ran.runner.summary.total = ran.runner.summary.passed + ran.runner.summary.failed +
        ran.runner.summary.timedOut + ran.runner.summary.errored ∧
      ran.runner.summary.total = results.length := by
  have named : ∀ tc ∈ mixedSuite, Identifier tc.suite ∧ Identifier tc.name := by
    have each : (mixedSuite.all fun tc => tc.suite.all identifierByte && tc.name.all identifierByte) = true := by decide
    intro tc present
    have both := List.all_eq_true.mp each tc present
    simp only [Bool.and_eq_true,List.all_eq_true] at both
    exact both
  have returns : (run tapOptions mixedSuite mixedEnv .new).isSome = true := by
    rw [run_returns rfl]
    decide
  obtain ⟨ran,returned⟩ := Option.isSome_iff_exists.mp returns
  exact ⟨ran,returned,reports_agree tapOptions mixedSuite mixedEnv .new ran (by decide) named rfl
    (fun other => by cases other) returned⟩

end Edtf.ReportAgreement

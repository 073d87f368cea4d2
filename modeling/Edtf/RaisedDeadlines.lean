import Mathlib.Tactic
import Edtf.Deadlines
import Edtf.ReportReading

namespace Edtf.RaisedDeadlines
open ByteText Registry Results RunOne Runs ReportReading Deadlines

def raised (opts : RunOptions) (deadline : Int) : RunOptions := {opts with defaultTimeout := deadline}

structure Relaxed (tc : TestCase β) (before after : TestResult) : Prop where
  changed : after = before ∨ (before.outcome = .timeout ∧ tc.timeout = 0)
  timeouts : after.outcome = .timeout → before.outcome = .timeout

theorem relaxed_refl (tc : TestCase β) (r : TestResult) : Relaxed tc r r := ⟨.inl rfl,id⟩

section
variable {opts : RunOptions} {d : Int} (positive : 0 < opts.defaultTimeout) (longer : opts.defaultTimeout ≤ d)
include positive longer

-- A worker that is in time for the shorter deadline is read the same way under the longer
-- one; one that is late for the longer deadline was late before.
theorem runOne_raised {tc : TestCase β} (returned : runOne opts tc e = some r) :
    ∃ later, runOne (raised opts d) tc e = some later ∧ Relaxed tc r later := by
  by_cases own : tc.timeout = 0
  · have short : deadlineOf opts tc = opts.defaultTimeout := if_pos own
    have long : deadlineOf (raised opts d) tc = d := if_pos own
    have limited : 0 < d := by omega
    by_cases early : DoneBy e opts.defaultTimeout
    · obtain ⟨ending,ends,before⟩ := early
      rcases e with ⟨_,elapsed⟩
      obtain rfl : _ = some ending := ends
      have first : runOne opts tc ⟨some ending,elapsed⟩ = some (collect tc ending.shared elapsed) :=
        runOne_inTime fun _ => by rw [short]; exact before
      have second : runOne (raised opts d) tc ⟨some ending,elapsed⟩ = some (collect tc ending.shared elapsed) :=
        runOne_inTime fun _ => by rw [long]; omega
      obtain rfl := Option.some.inj (first.symm.trans returned)
      exact ⟨_,second,relaxed_refl tc _⟩
    · have effectively : effective opts tc = opts.defaultTimeout := if_neg (by omega)
      obtain ⟨other,ran,bounded⟩ := limited_bounded (short.trans effectively.symm) (by rw [effectively]; exact positive) e
      obtain rfl := Option.some.inj (ran.symm.trans returned)
      have late : other.outcome = .timeout := bounded.verdict.mpr (by rw [effectively]; exact early)
      have longEffective : effective (raised opts d) tc = d := if_neg (by omega)
      obtain ⟨later,ran',_⟩ := limited_bounded (long.trans longEffective.symm) (by rw [longEffective]; exact limited) e
      exact ⟨later,ran',.inr ⟨late,own⟩,fun _ => late⟩
  · have same : deadlineOf (raised opts d) tc = deadlineOf opts tc := by
      unfold deadlineOf
      rw [if_neg own,if_neg own]
    refine ⟨r,?_,relaxed_refl tc r⟩
    unfold runOne at returned ⊢
    rw [same]
    exact returned

theorem resultsOf_raised {cases : List (TestCase β)} (returned : resultsOf opts env k cases = some results) :
    ∃ later, resultsOf (raised opts d) env k cases = some later ∧
      (∀ (j : Nat) tc, cases[j]? = some tc → ∃ r r', results[j]? = some r ∧ later[j]? = some r' ∧ Relaxed tc r r') ∧
      ((∀ r ∈ results, r.outcome ≠ .timeout) → later = results) := by
  induction cases generalizing k results with
  | nil =>
    cases returned
    exact ⟨[],rfl,fun _ _ present => (nomatch present),fun _ => rfl⟩
  | cons tc rest ih =>
    obtain ⟨r,others,one,two,rfl⟩ := resultsOf_cons returned
    obtain ⟨r',one',relaxed⟩ := runOne_raised positive longer one
    obtain ⟨others',two',each,same⟩ := ih two
    refine ⟨r' :: others',?_,?_,?_⟩
    · rw [resultsOf,one',Option.bind_some,two',Option.map_some]
    · intro j other present
      cases j with
      | zero =>
        cases present
        exact ⟨r,r',rfl,rfl,relaxed⟩
      | succ j => exact each j other present
    · intro inTime
      have head : r' = r := relaxed.changed.resolve_right fun late => inTime r List.mem_cons_self late.1
      rw [head,same fun r member => inTime r (List.mem_cons_of_mem _ member)]

end

theorem default_clocked (opts : RunOptions) {tc : TestCase β} (waitable : Waitable opts.defaultTimeout)
    (own : Waitable tc.timeout) : Clocked (deadlineOf opts tc) := by
  unfold deadlineOf
  split
  · exact waitable_clocked waitable
  · exact waitable_clocked own

-- What the longer default can change about a run; no wait of either run leaves the range of
-- the clock.
structure Improved (opts : RunOptions) (d : Int) (cases : List (TestCase β)) (env : Environment) (runner : Runner)
    (ran : Ran) : Prop where
  results : ∃ later, run (raised opts d) cases env runner = some later ∧
    ∃ before after, ran.runner.results = runner.results ++ before ∧ later.runner.results = runner.results ++ after ∧
      ∀ (j : Nat) tc, (selectedCases opts cases)[j]? = some tc →
        ∃ r r', before[j]? = some r ∧ after[j]? = some r' ∧ Relaxed tc r r'
  passing : ran.ok = true → run (raised opts d) cases env runner = some ran
  clocked : ∀ tc ∈ selectedCases opts cases, Clocked (deadlineOf opts tc) ∧ Clocked (deadlineOf (raised opts d) tc)

theorem run_results {cases : List (TestCase β)} (runner : Runner) (executes : opts.listOnly = false)
    (returned : resultsOf opts env.execution 0 (selectedCases opts cases) = some results) :
    ∃ ran, run opts cases env runner = some ran ∧ ran.runner.results = runner.results ++ results := by
  have ends : (run opts cases env runner).isSome = true := by
    rw [run_returns executes,returned]
    rfl
  obtain ⟨ran,ended⟩ := Option.isSome_iff_exists.mp ends
  obtain ⟨others,executed⟩ := run_executed executes ended
  obtain rfl := Option.some.inj (executed.returned.symm.trans returned)
  exact ⟨ran,ended,executed.appended⟩

theorem run_same {cases : List (TestCase β)} (executes : opts.listOnly = false)
    (one : resultsOf opts env.execution 0 (selectedCases opts cases) = some results)
    (two : resultsOf (raised opts d) env.execution 0 (selectedCases opts cases) = some results) :
    run (raised opts d) cases env runner = run opts cases env runner := by
  have executes' : (raised opts d).listOnly = false := executes
  have chosen : selectedCases (raised opts d) cases = selectedCases opts cases := rfl
  unfold run
  simp only [executes,executes',Bool.false_eq_true,↓reduceIte,runLoop_results,chosen,one,two]
  rfl

theorem deadlines_raised (opts : RunOptions) (d : Int) (cases : List (TestCase β)) (env : Environment) (runner : Runner)
    (executes : opts.listOnly = false) (positive : 0 < opts.defaultTimeout) (longer : opts.defaultTimeout ≤ d)
    (waitable : Waitable d) (own : ∀ tc ∈ selectedCases opts cases, Waitable tc.timeout)
    (returned : run opts cases env runner = some ran) : Improved opts d cases env runner ran := by
  obtain ⟨results,executed⟩ := run_executed executes returned
  obtain ⟨later,ran',each,same⟩ := resultsOf_raised positive longer executed.returned
  have executes' : (raised opts d).listOnly = false := executes
  have shorter : Waitable opts.defaultTimeout := by
    unfold Waitable at waitable ⊢
    omega
  refine ⟨?_,fun passed => ?_,fun tc chosen => ?_⟩
  · obtain ⟨other,ended,appended⟩ := run_results runner executes' ran'
    exact ⟨other,ended,results,later,executed.appended,appended,each⟩
  · rw [executed_ok executed,List.all_eq_true] at passed
    have inTime : ∀ r ∈ results, r.outcome ≠ .timeout := by
      intro r member late
      have ok := passed r member
      rw [TestResult.ok,late] at ok
      cases ok
    rw [same inTime] at ran'
    rw [run_same executes executed.returned ran']
    exact returned
  · exact ⟨default_clocked opts shorter (own tc chosen),default_clocked (raised opts d) waitable (own tc chosen)⟩

def brief : RunOptions := {RunOptions.new with defaultTimeout := 10}
def resets : TestCase Unit := ⟨text "Probe",text "resets",.empty,0,()⟩
def settles : TestCase Unit := ⟨text "Probe",text "settles",.empty,15,()⟩

theorem resets_raised : ∃ ran, run brief [resets,settles] readyEnv .new = some ran ∧
    Improved brief 30 [resets,settles] readyEnv .new ran := by
  have ends : (run brief [resets,settles] readyEnv .new).isSome = true := by decide +kernel
  obtain ⟨ran,ended⟩ := Option.isSome_iff_exists.mp ends
  refine ⟨ran,ended,deadlines_raised brief 30 [resets,settles] readyEnv .new rfl ?_ ?_ ?_ ?_ ended⟩
  · decide
  · decide
  · decide
  · decide

end Edtf.RaisedDeadlines

import Mathlib.Tactic
import Edtf.Runs

namespace Edtf.Reruns
open ByteText Registry Results RunOne Runs

-- One call of either overload of run: with `routed` the report goes to the configured
-- output, and its value says whether the file opens.
structure Call (β : Type) where
  cases : List (TestCase β)
  env : Environment
  routed : Option Bool

def Call.chosen (opts : RunOptions) (c : Call β) : List (TestCase β) := selectedCases opts c.cases

def Call.perform (opts : RunOptions) (c : Call β) (runner : Runner) : Option Ran :=
  match c.routed with
  | none => run opts c.cases c.env runner
  | some opens => runConfigured opts opens c.cases c.env runner

def performAll (opts : RunOptions) : List (Call β) → Runner → Option Runner
  | [],runner => some runner
  | c :: rest,runner => (c.perform opts runner).bind fun ran => performAll opts rest ran.runner

-- Whether a call gets as far as executing tests.
def Call.Executes (opts : RunOptions) (c : Call β) : Prop :=
  opts.listOnly = false ∧ ¬(c.routed = some false ∧ opts.outputPath ≠ [])

structure Describes (opts : RunOptions) (c : Call β) (runner : Runner) : Prop where
  results : resultsOf opts c.env.execution 0 (c.chosen opts) = some runner.results
  size : runner.results.length = runner.summary.total
  tally : ∀ o, runner.summary.of o = tally o runner.results

section
variable {c : Call β}

theorem perform_executed (executes : c.Executes opts) (returned : c.perform opts runner = some ran) :
    ∃ results, Executed opts c.cases c.env runner results ran := by
  obtain ⟨listing,opened⟩ := executes
  unfold Call.perform at returned
  split at returned
  · exact run_executed listing returned
  · rename_i opens routed
    unfold runConfigured at returned
    split at returned
    · rename_i failed
      exact absurd ⟨routed.trans (congrArg some failed.2),failed.1⟩ opened
    · exact run_executed listing returned

theorem perform_idle (idle : ¬c.Executes opts) (returned : c.perform opts runner = some ran) : ran.runner = runner := by
  have direct : run opts c.cases c.env runner = some ran → opts.listOnly = true → ran.runner = runner := by
    intro returned listing
    simp only [run,listing,↓reduceIte,Option.some.injEq] at returned
    rw [← returned]
  unfold Call.perform at returned
  split at returned
  · rename_i routed
    refine direct returned (Bool.not_eq_false _ ▸ fun listing => idle ⟨listing,fun other => ?_⟩)
    rw [routed] at other
    cases other.1
  · rename_i opens routed
    unfold runConfigured at returned
    split at returned
    · cases returned
      rfl
    · rename_i opened
      refine direct returned (Bool.not_eq_false _ ▸ fun listing => idle ⟨listing,fun other => ?_⟩)
      rw [routed] at other
      exact opened ⟨other.2,Option.some.inj other.1⟩

theorem executed_length (executed : Executed opts c.cases c.env runner results ran) :
    results.length = (c.chosen opts).length := resultsOf_length executed.returned

theorem perform_results (returned : c.perform opts runner = some ran) :
    ran.runner.results = [] ↔ runner.results = [] ∧ (c.Executes opts → c.chosen opts = []) := by
  by_cases executes : c.Executes opts
  · obtain ⟨results,executed⟩ := perform_executed executes returned
    have length := executed_length executed
    rw [executed.appended,List.append_eq_nil_iff]
    refine and_congr_right fun _ => ⟨fun empty _ => ?_,fun empty => ?_⟩
    · exact List.length_eq_zero_iff.mp (by rw [← length,empty]; rfl)
    · exact List.length_eq_zero_iff.mp (by rw [length,empty executes]; rfl)
  · rw [perform_idle executes returned]
    exact (and_iff_left fun impossible => absurd impossible executes).symm

end

theorem performAll_results {calls : List (Call β)} (history : performAll opts calls start = some runner) :
    runner.results = [] ↔ start.results = [] ∧ ∀ c ∈ calls, c.Executes opts → c.chosen opts = [] := by
  induction calls generalizing start with
  | nil =>
    cases history
    simp
  | cons c rest ih =>
    obtain ⟨ran,returned,later⟩ := Option.bind_eq_some_iff.mp history
    rw [ih later,perform_results returned,List.forall_mem_cons,and_assoc]

-- After any history of calls, a call that executes tests leaves matching accessors
-- exactly if no earlier one executed a test.
theorem accessors_agree (opts : RunOptions) (earlier : List (Call β)) (last : Call β) (runner : Runner) (ran : Ran)
    (history : performAll opts earlier .new = some runner) (returned : last.perform opts runner = some ran)
    (executes : last.Executes opts) :
    Describes opts last ran.runner ↔
      (∀ c ∈ earlier, c.Executes opts → c.chosen opts = []) ∧ (last.chosen opts).length < 2^31 := by
  obtain ⟨results,executed⟩ := perform_executed executes returned
  have length := executed_length executed
  have clean : runner.results = [] ↔ ∀ c ∈ earlier, c.Executes opts → c.chosen opts = [] := by
    rw [performAll_results history]
    exact and_iff_right rfl
  rw [← clean]
  constructor
  · intro described
    have same : ran.runner.results = results := Option.some.inj (described.results.symm.trans executed.returned)
    have size := described.size
    have total : castToInt (last.chosen opts).length = (last.chosen opts).length := by
      rw [same,length,executed.total] at size
      exact size.symm
    have appended := executed.appended
    rw [same] at appended
    exact ⟨List.self_eq_append_left.mp appended,(castToInt_exact _).mp total⟩
  · rintro ⟨empty,small⟩
    have same : ran.runner.results = results := by rw [executed.appended,empty,List.nil_append]
    refine ⟨by rw [same]; exact executed.returned,?_,fun o => by rw [same]; exact executed.counted o⟩
    rw [executed.total,same,length]
    exact ((castToInt_exact _).mpr small).symm

def suite : List (TestCase Unit) := [⟨text "Probe",text "resets",.empty,0,()⟩]
def suiteEnv : Environment := ⟨fun _ => ⟨some ⟨20,none,.new⟩,21⟩,25⟩
def once : Call Unit := ⟨suite,suiteEnv,none⟩
def passedResult : TestResult := ⟨text "Probe",text "resets",.passed,0,0,21,[]⟩

def filtered : RunOptions := {RunOptions.new with nameFilter := text "resets"}
def skipped : Call Unit := ⟨[⟨text "Probe",text "idles",.empty,0,()⟩],suiteEnv,none⟩

theorem once_agrees : ∃ runner ran, performAll filtered [skipped] .new = some runner ∧
    once.perform filtered runner = some ran ∧ (Describes filtered once ran.runner ↔
      (∀ c ∈ [skipped], c.Executes filtered → c.chosen filtered = []) ∧ (once.chosen filtered).length < 2^31) := by
  have first : (performAll filtered [skipped] .new).isSome = true := by decide
  obtain ⟨runner,history⟩ := Option.isSome_iff_exists.mp first
  have second : ((performAll filtered [skipped] .new).bind (once.perform filtered)).isSome = true := by decide
  rw [history] at second
  obtain ⟨ran,returned⟩ := Option.isSome_iff_exists.mp second
  exact ⟨runner,ran,history,returned,
    accessors_agree filtered [skipped] once runner ran history returned ⟨rfl,fun other => by cases other.1⟩⟩

theorem twice_disagrees : ∃ runner ran, performAll .new [once] .new = some runner ∧
    once.perform .new runner = some ran ∧ once.Executes .new ∧
    ran.runner.results = [passedResult,passedResult] ∧ ran.runner.summary.passed = 1 ∧
    ¬Describes .new once ran.runner := by
  refine ⟨_,_,rfl,rfl,⟨rfl,fun other => by cases other.1⟩,rfl,rfl,fun described => ?_⟩
  have one : resultsOf .new suiteEnv.execution 0 suite = some [passedResult] := rfl
  have two := described.results.symm.trans one
  cases two

end Edtf.Reruns

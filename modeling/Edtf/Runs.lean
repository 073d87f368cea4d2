import Mathlib.Tactic
import Edtf.RunOne
import Edtf.Reporters

namespace Edtf.Runs
open ByteText Registry Results RunOne Reporters

-- std::string::find of a non-empty needle succeeds at some position.
def contains (haystack needle : Str) : Bool :=
  if needle = [] then true else haystack.tails.any fun rest => needle.isPrefixOf rest

def anyTagIn (tags wanted : TagSet) : Bool := wanted.items.any fun t => decide (t ∈ tags.items)

def selected (opts : RunOptions) (tc : TestCase β) : Bool :=
  if contains tc.fullName opts.nameFilter = false then false
  else if opts.includeTags.items ≠ [] ∧ anyTagIn tc.tags opts.includeTags = false then false
  else if opts.excludeTags.items ≠ [] ∧ anyTagIn tc.tags opts.excludeTags = true then false
  else true

def selectedCases (opts : RunOptions) (cases : List (TestCase β)) : List (TestCase β) :=
  cases.filter (selected opts)

structure Runner where
  results : List TestResult
  summary : RunSummary

def Runner.new : Runner := ⟨[],.new⟩

def listLine (tc : TestCase β) : Str :=
  tc.fullName ++
    (if tc.tags.items ≠ [] then text "  [" ++ (text ",").intercalate tc.tags.items ++ text "]" else []) ++ text "\n"

def makeReporter (opts : RunOptions) : Reporter :=
  match opts.format with
  | .tap => makeTapReporter
  | .junit => makeJunitReporter opts.junitSuite
  | .console => makeConsoleReporter opts.color

-- How the environment decides one call of run: what each selected case does, in their
-- order, and what the clock measures for the whole run.
structure Environment where
  execution : Nat → Execution
  elapsed : Nat

-- `written` is what was inserted into the stream; nothing flushes it before the end.
structure Progress where
  results : List TestResult
  summary : RunSummary
  reporter : Reporter
  written : Str

def Progress.take (p : Progress) (r : TestResult) : Progress :=
  { results := p.results ++ [r]
    summary := p.summary.count r.outcome
    reporter := (p.reporter.onResult r).1
    written := p.written ++ (p.reporter.onResult r).2 }

def runLoop (opts : RunOptions) (env : Nat → Execution) : Nat → List (TestCase β) → Progress → Option Progress
  | _,[],p => some p
  | k,tc :: rest,p => (runOne opts tc (env k)).bind fun r => runLoop opts env (k+1) rest (p.take r)

-- static_cast<int> of a size_t: reduction modulo 2^32 into the range of a signed int.
def castToInt (size : Nat) : Int := Int.bmod size (2^32)

def begun (opts : RunOptions) (size : Nat) (runner : Runner) : Progress :=
  let reporter := makeReporter opts
  { results := runner.results
    summary := {RunSummary.new with total := castToInt size}
    reporter := reporter
    written := reporter.beginRun (castToInt size) }

structure Ran where
  ok : Bool
  report : Str
  diagnostics : Str
  runner : Runner

-- `none` is a call that never returns.
def run (opts : RunOptions) (cases : List (TestCase β)) (env : Environment) (runner : Runner) : Option Ran :=
  let chosen := selectedCases opts cases
  if opts.listOnly then some ⟨true,chosen.flatMap listLine,[],runner⟩
  else
    (runLoop opts env.execution 0 chosen (begun opts chosen.length runner)).map fun p =>
      let summary := {p.summary with duration := env.elapsed}
      ⟨summary.notPassed = 0,p.written ++ p.reporter.endRun summary,[],⟨p.results,summary⟩⟩

-- The convenience overload: the report goes to the configured file, which may not open.
def runConfigured (opts : RunOptions) (opens : Bool) (cases : List (TestCase β)) (env : Environment)
    (runner : Runner) : Option Ran :=
  if opts.outputPath ≠ [] ∧ opens = false then
    some ⟨false,[],text "error: cannot open output file: " ++ opts.outputPath ++ text "\n",runner⟩
  else run opts cases env runner

def resultsOf (opts : RunOptions) (env : Nat → Execution) : Nat → List (TestCase β) → Option (List TestResult)
  | _,[] => some []
  | k,tc :: rest => (runOne opts tc (env k)).bind fun r => (resultsOf opts env (k+1) rest).map (r :: ·)

theorem runLoop_results (opts : RunOptions) (env : Nat → Execution) (k : Nat) (cases : List (TestCase β))
    (p : Progress) : runLoop opts env k cases p = (resultsOf opts env k cases).map (·.foldl Progress.take p) := by
  induction cases generalizing k p with
  | nil => rfl
  | cons tc rest ih =>
    rw [runLoop,resultsOf]
    cases runOne opts tc (env k) with
    | none => rfl
    | some r =>
      simp only [Option.bind_some,ih,Option.map_map]
      rfl

theorem resultsOf_cons {tc : TestCase β} (returned : resultsOf opts env k (tc :: rest) = some results) :
    ∃ r later, runOne opts tc (env k) = some r ∧ resultsOf opts env (k+1) rest = some later ∧ results = r :: later := by
  obtain ⟨r,first,returned⟩ := Option.bind_eq_some_iff.mp returned
  obtain ⟨later,second,rfl⟩ := Option.map_eq_some_iff.mp returned
  exact ⟨r,later,first,second,rfl⟩

theorem runOne_named {tc : TestCase β} (returned : runOne opts tc e = some r) :
    r.suite = tc.suite ∧ r.name = tc.name := by
  simp only [runOne] at returned
  split at returned
  · cases returned
  · cases returned
    exact ⟨rfl,rfl⟩
  · obtain ⟨ending,_,rfl⟩ := Option.map_eq_some_iff.mp returned
    unfold collect
    split
    · exact ⟨rfl,rfl⟩
    · split <;> exact ⟨rfl,rfl⟩

theorem resultsOf_named {cases : List (TestCase β)} (returned : resultsOf opts env k cases = some results) :
    (results.map fun r => (r.suite,r.name)) = cases.map fun tc => (tc.suite,tc.name) := by
  induction cases generalizing k results with
  | nil =>
    cases returned
    rfl
  | cons tc rest ih =>
    obtain ⟨r,later,first,second,rfl⟩ := resultsOf_cons returned
    obtain ⟨suite,name⟩ := runOne_named first
    simp only [List.map_cons,ih second,suite,name]

theorem resultsOf_length {cases : List (TestCase β)} (returned : resultsOf opts env k cases = some results) :
    results.length = cases.length := by
  have names := congrArg List.length (resultsOf_named returned)
  simpa using names

theorem resultsOf_fullNames {cases : List (TestCase β)} (returned : resultsOf opts env k cases = some results) :
    results.map TestResult.fullName = cases.map TestCase.fullName := by
  have joined := congrArg (List.map fun pair : Str × Str => pair.1 ++ text "." ++ pair.2) (resultsOf_named returned)
  rw [List.map_map,List.map_map] at joined
  exact joined

theorem taken_results (p : Progress) (results : List TestResult) :
    (results.foldl Progress.take p).results = p.results ++ results := by
  induction results generalizing p with
  | nil => simp
  | cons r rest ih =>
    rw [List.foldl_cons,ih]
    simp [Progress.take]

theorem taken_total (p : Progress) (results : List TestResult) :
    (results.foldl Progress.take p).summary.total = p.summary.total := by
  induction results generalizing p with
  | nil => rfl
  | cons r rest ih =>
    rw [List.foldl_cons,ih]
    exact count_total _ _

theorem taken_of (p : Progress) (results : List TestResult) (o : Outcome) :
    (results.foldl Progress.take p).summary.of o = p.summary.of o + tally o results := by
  induction results generalizing p with
  | nil => simp [tally]
  | cons r rest ih =>
    rw [List.foldl_cons,ih,Progress.take,count_of]
    simp only [tally,List.countP_cons,decide_eq_true_eq]
    split <;> push_cast <;> omega

structure Executed (opts : RunOptions) (cases : List (TestCase β)) (env : Environment) (runner : Runner)
    (results : List TestResult) (ran : Ran) : Prop where
  returned : resultsOf opts env.execution 0 (selectedCases opts cases) = some results
  appended : ran.runner.results = runner.results ++ results
  total : ran.runner.summary.total = castToInt (selectedCases opts cases).length
  counted : ∀ o, ran.runner.summary.of o = tally o results
  duration : ran.runner.summary.duration = env.elapsed
  ok : ran.ok = decide (ran.runner.summary.notPassed = 0)
  report : ran.report =
    let p := results.foldl Progress.take (begun opts (selectedCases opts cases).length runner)
    p.written ++ p.reporter.endRun ran.runner.summary

theorem begun_total (opts : RunOptions) (size : Nat) (runner : Runner) :
    (begun opts size runner).summary.total = castToInt size := by
  simp only [begun]

theorem run_executed {cases : List (TestCase β)} (executes : opts.listOnly = false)
    (returned : run opts cases env runner = some ran) : ∃ results, Executed opts cases env runner results ran := by
  unfold run at returned
  simp only [executes,Bool.false_eq_true,↓reduceIte,runLoop_results] at returned
  obtain ⟨p,looped,rfl⟩ := Option.map_eq_some_iff.mp returned
  obtain ⟨results,each,rfl⟩ := Option.map_eq_some_iff.mp looped
  have appended := taken_results (begun opts (selectedCases opts cases).length runner) results
  have total := taken_total (begun opts (selectedCases opts cases).length runner) results
  refine ⟨results,each,appended,total.trans (begun_total _ _ _),fun o => ?_,rfl,rfl,rfl⟩
  have counted := taken_of (begun opts (selectedCases opts cases).length runner) results o
  have zero : (begun opts (selectedCases opts cases).length runner).summary.of o = 0 := by cases o <;> rfl
  rw [zero,zero_add] at counted
  rw [← counted]
  cases o <;> rfl

theorem castToInt_exact (size : Nat) : castToInt size = size ↔ size < 2^31 := by
  unfold castToInt
  constructor
  · intro same
    have bound : Int.bmod size (2^32) < ((2^32 : Nat) + 1) / 2 := Int.bmod_lt (by decide)
    omega
  · intro small
    exact Int.bmod_eq_of_le (by omega) (by omega)

theorem run_returns (executes : opts.listOnly = false) (cases : List (TestCase β)) (env : Environment) (runner : Runner) :
    (run opts cases env runner).isSome = (resultsOf opts env.execution 0 (selectedCases opts cases)).isSome := by
  unfold run
  simp only [executes,Bool.false_eq_true,↓reduceIte,runLoop_results,Option.isSome_map]

end Edtf.Runs

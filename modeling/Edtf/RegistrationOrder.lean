import Mathlib.Tactic
import Edtf.ReportReading

namespace Edtf.RegistrationOrder
open ByteText Registry Results RunOne Reporters Runs ReportReading

-- A registered test together with what its execution comes to, wherever it stands in the
-- run. Registration happens while static objects are initialised; across source files that
-- order is not fixed.
abbrev Test (β : Type) := TestCase β × Execution

def Test.casesOf (tests : List (Test β)) : List (TestCase β) := tests.map Prod.fst

def chosenOf (opts : RunOptions) (tests : List (Test β)) : List (Test β) := tests.filter fun t => selected opts t.1

def environmentOf (opts : RunOptions) (tests : List (Test β)) (elapsed : Nat) : Environment :=
  ⟨fun k => ((chosenOf opts tests)[k]?.map Prod.snd).getD ⟨none,0⟩,elapsed⟩

theorem selectedCases_chosen (opts : RunOptions) (tests : List (Test β)) :
    selectedCases opts (Test.casesOf tests) = Test.casesOf (chosenOf opts tests) := by
  rw [selectedCases,Test.casesOf,List.filter_map]
  rfl

def Gives (opts : RunOptions) (t : Test β) (r : TestResult) : Prop := runOne opts t.1 t.2 = some r

theorem resultsOf_gives (opts : RunOptions) (env : Nat → Execution) (k : Nat) (tests : List (Test β))
    (each : ∀ j t, tests[j]? = some t → env (k+j) = t.2) (results : List TestResult) :
    resultsOf opts env k (Test.casesOf tests) = some results ↔ List.Forall₂ (Gives opts) tests results := by
  induction tests generalizing k results with
  | nil =>
    rw [List.forall₂_nil_left_iff]
    exact ⟨fun same => (Option.some.inj same).symm,fun same => same ▸ rfl⟩
  | cons t rest ih =>
    have here : env k = t.2 := each 0 t rfl
    have later := ih (k+1) fun j other found => by
      rw [Nat.add_right_comm,Nat.add_assoc]
      exact each (j+1) other found
    rw [List.forall₂_cons_left_iff,Test.casesOf,List.map_cons,resultsOf,here]
    constructor
    · intro returned
      obtain ⟨r,first,returned⟩ := Option.bind_eq_some_iff.mp returned
      obtain ⟨others,second,rfl⟩ := Option.map_eq_some_iff.mp returned
      exact ⟨r,others,first,(later others).mp second,rfl⟩
    · rintro ⟨r,others,first,second,rfl⟩
      have found := (later others).mpr second
      rw [Test.casesOf] at found
      rw [first,Option.bind_some,found,Option.map_some]

theorem environment_each (opts : RunOptions) (tests : List (Test β)) (elapsed : Nat) (j : Nat) (t : Test β)
    (found : (chosenOf opts tests)[j]? = some t) : (environmentOf opts tests elapsed).execution (0+j) = t.2 := by
  simp only [environmentOf,Nat.zero_add,found,Option.map_some,Option.getD_some]

theorem results_given (opts : RunOptions) (tests : List (Test β)) (elapsed : Nat) (results : List TestResult) :
    resultsOf opts (environmentOf opts tests elapsed).execution 0 (selectedCases opts (Test.casesOf tests)) = some results ↔
      List.Forall₂ (Gives opts) (chosenOf opts tests) results := by
  rw [selectedCases_chosen]
  exact resultsOf_gives opts _ 0 _ (environment_each opts tests elapsed) results

theorem partners {R : α → γ → Prop} {items : List α} (each : ∀ x ∈ items, ∃ y, R x y) : ∃ others, List.Forall₂ R items others := by
  induction items with
  | nil => exact ⟨[],.nil⟩
  | cons x rest ih =>
    obtain ⟨y,first⟩ := each x List.mem_cons_self
    obtain ⟨others,later⟩ := ih fun x present => each x (List.mem_cons_of_mem _ present)
    exact ⟨y :: others,.cons first later⟩

theorem results_permuted (opts : RunOptions) (perm : (tests : List (Test β)).Perm others) (elapsed : Nat)
    (given : resultsOf opts (environmentOf opts tests elapsed).execution 0 (selectedCases opts (Test.casesOf tests)) = some results) :
    ∃ results', resultsOf opts (environmentOf opts others elapsed).execution 0 (selectedCases opts (Test.casesOf others)) =
      some results' ∧ results'.Perm results := by
  have chosen : (chosenOf opts others).Perm (chosenOf opts tests) := perm.symm.filter _
  obtain ⟨results',given',same⟩ := List.perm_comp_forall₂ chosen ((results_given opts tests elapsed results).mp given)
  exact ⟨results',(results_given opts others elapsed results').mpr given',same⟩

-- What is the same whatever order the tests are registered in: whether the run returns, its
-- value and its summary. The results are the same ones, each with its test.
structure SameRun (runner : Runner) (ran other : Ran) : Prop where
  ok : other.ok = ran.ok
  summary : other.runner.summary = ran.runner.summary
  results : ∃ given given', ran.runner.results = runner.results ++ given ∧ other.runner.results = runner.results ++ given' ∧
    given'.Perm given

theorem order_irrelevant (opts : RunOptions) (tests others : List (Test β)) (perm : tests.Perm others) (elapsed : Nat)
    (runner : Runner) (ran : Ran) (executes : opts.listOnly = false)
    (returned : run opts (Test.casesOf tests) (environmentOf opts tests elapsed) runner = some ran) :
    ∃ other, run opts (Test.casesOf others) (environmentOf opts others elapsed) runner = some other ∧
      SameRun runner ran other := by
  obtain ⟨results,executed⟩ := run_executed executes returned
  obtain ⟨results',again,same⟩ := results_permuted opts perm elapsed executed.returned
  have returns := run_finished executes (Test.casesOf others) (environmentOf opts others elapsed) runner
  rw [again,Option.map_some] at returns
  obtain ⟨given,executed'⟩ := run_executed executes returns
  obtain rfl : results' = given := Option.some.inj (again.symm.trans executed'.returned)
  refine ⟨_,returns,?_,?_,results,results',executed.appended,executed'.appended,same⟩
  · rw [executed_ok executed,executed_ok executed']
    exact same.all_eq
  · apply summary_same
    · rw [executed.total,executed'.total,← resultsOf_length executed.returned,← resultsOf_length executed'.returned,same.length_eq]
    · intro o
      rw [executed.counted,executed'.counted]
      exact congrArg Nat.cast (same.countP_eq _)
    · rw [executed.duration,executed'.duration]
      rfl

def shuffled : List (Test Unit) :=
  [(⟨text "Probe",text "reads",.empty,0,()⟩,⟨some ⟨5,none,⟨0,1,text "a.cpp:1: FAIL"⟩⟩,5⟩),
    (⟨text "Probe",text "polls",.empty,30,()⟩,⟨none,31⟩),
    (⟨text "Probe",text "writes",.empty,0,()⟩,⟨some ⟨2,none,⟨3,0,[]⟩⟩,2⟩)]

theorem shuffled_same : ∃ ran, run .new (Test.casesOf shuffled) (environmentOf .new shuffled 38) .new = some ran ∧
    ∃ other, run .new (Test.casesOf shuffled.reverse) (environmentOf .new shuffled.reverse 38) .new = some other ∧
      SameRun .new ran other := by
  have returns : (run .new (Test.casesOf shuffled) (environmentOf .new shuffled 38) .new).isSome = true := by
    rw [run_returns rfl]
    decide
  obtain ⟨ran,returned⟩ := Option.isSome_iff_exists.mp returns
  exact ⟨ran,returned,order_irrelevant .new shuffled shuffled.reverse (List.reverse_perm shuffled).symm 38 .new ran rfl returned⟩

end Edtf.RegistrationOrder

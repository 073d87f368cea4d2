import Mathlib.Tactic
import Edtf.RegistrationOrder
import Edtf.Selection

namespace Edtf.Shards
open ByteText SortedSets Registry Results RunOne Runs ReportReading CommandLine Selection RegistrationOrder

def inside (opts : RunOptions) (t : Str) : RunOptions := Group.apply opts (.tag true t)
def outside (opts : RunOptions) (t : Str) : RunOptions := Group.apply opts (.excludeTag true t)

section
variable {opts : RunOptions} (t : Str)

theorem selected_inside (untagged : opts.includeTags.items = []) (tc : TestCase β) :
    selected (inside opts t) tc = (selected opts tc && tc.tags.items.contains t) := by
  have members (u : Str) : u ∈ (opts.includeTags.insert t).items ↔ u = t := by
    rw [SortedSet.mem_insert,untagged]
    exact or_iff_left List.not_mem_nil
  have filled : (opts.includeTags.insert t).items ≠ [] := List.ne_nil_of_mem ((members t).mpr rfl)
  rw [Bool.eq_iff_iff,Bool.and_eq_true,List.contains_iff_mem,selected_guards,selected_guards]
  simp only [inside,Group.apply,anyTagIn_mem,members,exists_eq_left,untagged,ne_eq,not_true_eq_false,false_implies,true_and]
  constructor
  · rintro ⟨named,tagged,free⟩
    exact ⟨⟨named,free⟩,tagged filled⟩
  · rintro ⟨⟨named,free⟩,tagged⟩
    exact ⟨named,fun _ => tagged,free⟩

theorem selected_outside (tc : TestCase β) :
    selected (outside opts t) tc = (selected opts tc && !tc.tags.items.contains t) := by
  have barred : anyTagIn tc.tags (opts.excludeTags.insert t) = false ↔
      anyTagIn tc.tags opts.excludeTags = false ∧ t ∉ tc.tags.items := by
    rw [← Bool.not_eq_true,← Bool.not_eq_true,anyTagIn_mem,anyTagIn_mem]
    simp only [SortedSet.mem_insert,or_and_right,exists_or,exists_eq_left,not_or,and_comm]
  rw [Bool.eq_iff_iff,Bool.and_eq_true,Bool.not_eq_true',← Bool.not_eq_true,List.contains_iff_mem,selected_guards,
    selected_guards]
  simp only [outside,Group.apply,barred]
  constructor
  · rintro ⟨named,tagged,free,without⟩
    exact ⟨⟨named,tagged,free⟩,without⟩
  · rintro ⟨⟨named,tagged,free⟩,without⟩
    exact ⟨named,tagged,free,without⟩

theorem chosen_inside (untagged : opts.includeTags.items = []) (tests : List (Test β)) :
    chosenOf (inside opts t) tests = (chosenOf opts tests).filter fun test => test.1.tags.items.contains t := by
  rw [chosenOf,chosenOf,List.filter_filter]
  exact List.filter_congr fun test _ => (selected_inside t untagged test.1).trans (Bool.and_comm _ _)

theorem chosen_outside (tests : List (Test β)) :
    chosenOf (outside opts t) tests = (chosenOf opts tests).filter fun test => !test.1.tags.items.contains t := by
  rw [chosenOf,chosenOf,List.filter_filter]
  exact List.filter_congr fun test _ => (selected_outside t test.1).trans (Bool.and_comm _ _)

theorem chosen_shared (untagged : opts.includeTags.items = []) (tests : List (Test β)) :
    (chosenOf (inside opts t) tests ++ chosenOf (outside opts t) tests).Perm (chosenOf opts tests) := by
  rw [chosen_inside t untagged,chosen_outside]
  exact List.filter_append_perm _ _

end

def runTests (opts : RunOptions) (tests : List (Test β)) (elapsed : Nat) : Option Ran :=
  run opts (Test.casesOf tests) (environmentOf opts tests elapsed) .new

structure Given (opts : RunOptions) (tests : List (Test β)) (ran : Ran) : Prop where
  results : List.Forall₂ (Gives opts) (chosenOf opts tests) ran.runner.results
  ok : ran.ok = ran.runner.results.all TestResult.ok
  total : ran.runner.summary.total = castToInt ran.runner.results.length
  counted : ∀ o, ran.runner.summary.of o = tally o ran.runner.results

theorem run_given {tests : List (Test β)} (executes : opts.listOnly = false) (returned : runTests opts tests elapsed = some ran) :
    Given opts tests ran := by
  obtain ⟨results,executed⟩ := run_executed executes returned
  have same : ran.runner.results = results := executed.appended
  refine ⟨?_,?_,?_,?_⟩
  · rw [same]
    exact (results_given opts tests elapsed results).mp executed.returned
  · rw [same,executed_ok executed]
  · rw [same,executed.total,resultsOf_length executed.returned]
  · intro o
    rw [same,executed.counted]

theorem run_returned {tests : List (Test β)} (executes : opts.listOnly = false) (elapsed : Nat) :
    (runTests opts tests elapsed).isSome = true ↔ ∀ t ∈ chosenOf opts tests, ∃ r, Gives opts t r := by
  rw [runTests,run_returns executes,Option.isSome_iff_exists]
  constructor
  · rintro ⟨results,found⟩ t chosen
    have given := (results_given opts tests elapsed results).mp found
    obtain ⟨k,small,rfl⟩ := List.getElem_of_mem chosen
    exact ⟨_,given.get small (by rw [← given.length_eq]; exact small)⟩
  · intro each
    obtain ⟨results,given⟩ := partners each
    exact ⟨results,(results_given opts tests elapsed results).mpr given⟩

structure Complete (whole one two : Ran) : Prop where
  ok : whole.ok = (one.ok && two.ok)
  results : whole.runner.results.Perm (one.runner.results ++ two.runner.results)
  total : whole.runner.summary.total = one.runner.summary.total + two.runner.summary.total
  counted : ∀ o, whole.runner.summary.of o = one.runner.summary.of o + two.runner.summary.of o

theorem given_shared {tests : List (Test β)} (t : Str) (untagged : opts.includeTags.items = []) (small : tests.length < 2^31)
    (everything : Given opts tests whole) (first : Given (inside opts t) tests one) (second : Given (outside opts t) tests two) :
    Complete whole one two := by
  have both : List.Forall₂ (Gives opts) (chosenOf (inside opts t) tests ++ chosenOf (outside opts t) tests)
      (one.runner.results ++ two.runner.results) := List.rel_append first.results second.results
  obtain ⟨results,given,permuted⟩ := List.perm_comp_forall₂ (chosen_shared t untagged tests).symm both
  have same : whole.runner.results = results :=
    Option.some.inj (((results_given opts tests 0 _).mpr everything.results).symm.trans ((results_given opts tests 0 _).mpr given))
  rw [← same] at permuted
  have sizes := permuted.length_eq
  rw [List.length_append] at sizes
  have few : whole.runner.results.length < 2^31 := by
    rw [← everything.results.length_eq]
    exact Nat.lt_of_le_of_lt (List.length_filter_le _ _) small
  refine ⟨?_,permuted,?_,?_⟩
  · rw [everything.ok,first.ok,second.ok,permuted.all_eq,List.all_append]
  · rw [everything.total,first.total,second.total,(castToInt_exact _).mpr few,(castToInt_exact _).mpr (by omega),
      (castToInt_exact _).mpr (by omega),sizes,Nat.cast_add]
  · intro o
    rw [everything.counted,first.counted,second.counted,tally,permuted.countP_eq,List.countP_append,Nat.cast_add]
    rfl

-- Splitting a suite between two jobs by a tag loses no test and makes none run twice: the
-- jobs return if one run of everything does, pass together exactly if it passes, and their
-- results and counts add up to its own.
theorem shards_complete (opts : RunOptions) (untagged : opts.includeTags.items = []) (executes : opts.listOnly = false) (t : Str)
    (tests : List (Test β)) (small : tests.length < 2^31) (elapsed first second : Nat) :
    ((runTests opts tests elapsed).isSome = true ↔
      (runTests (inside opts t) tests first).isSome = true ∧ (runTests (outside opts t) tests second).isSome = true) ∧
    ∀ whole one two, runTests opts tests elapsed = some whole → runTests (inside opts t) tests first = some one →
      runTests (outside opts t) tests second = some two → Complete whole one two := by
  have within : (inside opts t).listOnly = false := executes
  have without : (outside opts t).listOnly = false := executes
  constructor
  · have returns : (runTests (inside opts t) tests first).isSome = true ↔
        ∀ test ∈ chosenOf (inside opts t) tests, ∃ r, Gives opts test r := run_returned within first
    have returns' : (runTests (outside opts t) tests second).isSome = true ↔
        ∀ test ∈ chosenOf (outside opts t) tests, ∃ r, Gives opts test r := run_returned without second
    rw [run_returned executes,returns,returns',← List.forall_mem_append]
    have chosen (test : Test β) := (chosen_shared t untagged tests).mem_iff (a := test)
    exact forall_congr' fun test => imp_congr_left (chosen test).symm
  · intro whole one two everything ran ran'
    exact given_shared t untagged small (run_given executes everything) (run_given within ran) (run_given without ran')

def tagged : List (Test Unit) :=
  [(⟨text "Probe",text "polls",parseTags (text "slow, i2c"),30,()⟩,⟨none,31⟩),
    (⟨text "Probe",text "reads",parseTags (text "i2c"),0,()⟩,⟨some ⟨5,none,⟨0,1,text "a.cpp:1: FAIL"⟩⟩,5⟩)]

theorem tagged_return : (runTests (inside .new (text "slow")) tagged 31).isSome = true ∧
    (runTests (outside .new (text "slow")) tagged 5).isSome = true := by
  decide

theorem tagged_shards : ∃ whole one two, runTests .new tagged 36 = some whole ∧
    runTests (inside .new (text "slow")) tagged 31 = some one ∧
    runTests (outside .new (text "slow")) tagged 5 = some two ∧ Complete whole one two := by
  obtain ⟨returns,complete⟩ := shards_complete .new rfl rfl (text "slow") tagged (by decide) 36 31 5
  obtain ⟨whole,ran⟩ := Option.isSome_iff_exists.mp (returns.mpr tagged_return)
  obtain ⟨one,inner⟩ := Option.isSome_iff_exists.mp tagged_return.1
  obtain ⟨two,outer⟩ := Option.isSome_iff_exists.mp tagged_return.2
  exact ⟨whole,one,two,ran,inner,outer,complete whole one two ran inner outer⟩

end Edtf.Shards

import Mathlib.Tactic
import Edtf.Runs

namespace Edtf.Deadlines
open ByteText Registry Results RunOne Runs

-- The deadline that a case is promised: its own timeout when that is positive, and the
-- default otherwise.
def effective (opts : RunOptions) (tc : TestCase β) : Int :=
  if 0 < tc.timeout then tc.timeout else opts.defaultTimeout

def DoneBy (e : Execution) (deadline : Int) : Prop := ∃ ending, e.ending = some ending ∧ ending.finish ≤ deadline

structure Bounded (opts : RunOptions) (tc : TestCase β) (e : Execution) (r : TestResult) : Prop where
  wait : ∃ wait, await (deadlineOf opts tc) (e.ending.map Ending.finish) = some wait ∧ wait.waited ≤ effective opts tc
  verdict : r.outcome = .timeout ↔ ¬DoneBy e (effective opts tc)

def NoHang (opts : RunOptions) (cases : List (TestCase β)) (env : Environment) : Prop :=
  ∃ ran, run opts cases env .new = some ran ∧ ∀ k tc, (selectedCases opts cases)[k]? = some tc →
    ∃ r, ran.runner.results[k]? = some r ∧ Bounded opts tc (env.execution k) r

theorem collect_judges (tc : TestCase β) (shared : Shared) (elapsed : Nat) :
    (collect tc shared elapsed).outcome ≠ .timeout := by
  unfold collect
  split
  · exact Outcome.noConfusion
  · split <;> exact Outcome.noConfusion

section
variable {tc : TestCase β}

theorem limited_deadline (positive : 0 < opts.defaultTimeout) (own : ¬tc.timeout < 0) :
    deadlineOf opts tc = effective opts tc ∧ 0 < effective opts tc := by
  unfold deadlineOf effective
  split
  · rename_i zero
    rw [if_neg (by omega)]
    exact ⟨rfl,positive⟩
  · rw [if_pos (by omega)]
    exact ⟨rfl,by omega⟩

theorem unlimited_deadline (opts : RunOptions) (negative : tc.timeout < 0) :
    deadlineOf opts tc = tc.timeout ∧ effective opts tc = opts.defaultTimeout := by
  unfold deadlineOf effective
  exact ⟨if_neg (by omega),if_neg (by omega)⟩

theorem limited_bounded (deadline : deadlineOf opts tc = effective opts tc) (limited : 0 < effective opts tc)
    (e : Execution) : ∃ r, runOne opts tc e = some r ∧ Bounded opts tc e r := by
  have late : ¬DoneBy e (effective opts tc) → await (deadlineOf opts tc) (e.ending.map Ending.finish) =
      some ⟨true,(effective opts tc).toNat⟩ := by
    intro late
    rw [deadline]
    apply await_late limited
    intro time ends before
    obtain ⟨ending,found,rfl⟩ := Option.map_eq_some_iff.mp ends
    exact late ⟨ending,found,before⟩
  by_cases early : DoneBy e (effective opts tc)
  · obtain ⟨ending,ends,before⟩ := early
    have waited : await (deadlineOf opts tc) (e.ending.map Ending.finish) = some ⟨false,ending.finish⟩ := by
      rw [ends,Option.map_some]
      exact await_inTime fun _ => by rw [deadline]; exact before
    refine ⟨collect tc ending.shared e.elapsed,?_,⟨_,waited,before⟩,?_⟩
    · simp only [runOne,waited]
      rw [ends,Option.map_some]
    · exact iff_of_false (collect_judges tc _ _) fun other => other ⟨ending,ends,before⟩
  · have waited := late early
    refine ⟨expired tc (deadlineOf opts tc) e.elapsed,?_,⟨_,waited,?_⟩,?_⟩
    · simp only [runOne,waited]
    · simp only [Int.toNat_of_nonneg (Int.le_of_lt limited),Int.le_refl]
    · exact iff_of_true rfl early

-- Under a negative timeout run_one waits for the end of the worker, whatever the default
-- says.
theorem unlimited_bounded (negative : tc.timeout < 0) (e : Execution) :
    (∃ r, runOne opts tc e = some r ∧ Bounded opts tc e r) ↔ DoneBy e opts.defaultTimeout := by
  obtain ⟨deadline,promised⟩ := unlimited_deadline opts negative
  have unlimited : ¬0 < deadlineOf opts tc := by omega
  have waits : await (deadlineOf opts tc) (e.ending.map Ending.finish) =
      (e.ending.map Ending.finish).map fun n => ⟨false,n⟩ := by
    unfold await
    rw [if_neg unlimited]
  constructor
  · rintro ⟨r,returned,bounded⟩
    obtain ⟨wait,waited,bound⟩ := bounded.wait
    rw [waits] at waited
    obtain ⟨n,ended,rfl⟩ := Option.map_eq_some_iff.mp waited
    obtain ⟨ending,ends,rfl⟩ := Option.map_eq_some_iff.mp ended
    rw [promised] at bound
    exact ⟨ending,ends,bound⟩
  · rintro ⟨ending,ends,before⟩
    have waited : await (deadlineOf opts tc) (e.ending.map Ending.finish) = some ⟨false,ending.finish⟩ := by
      rw [waits,ends]
      rfl
    refine ⟨collect tc ending.shared e.elapsed,?_,⟨_,waited,by rw [promised]; exact before⟩,?_⟩
    · simp only [runOne,waited]
      rw [ends,Option.map_some]
    · refine iff_of_false (collect_judges tc _ _) fun other => other ⟨ending,ends,?_⟩
      rw [promised]
      exact before

theorem case_bounded (positive : 0 < opts.defaultTimeout) (tc : TestCase β) (e : Execution) :
    (∃ r, runOne opts tc e = some r ∧ Bounded opts tc e r) ↔ (tc.timeout < 0 → DoneBy e opts.defaultTimeout) := by
  by_cases negative : tc.timeout < 0
  · rw [unlimited_bounded negative]
    exact ⟨fun early _ => early,fun early => early negative⟩
  · obtain ⟨deadline,limited⟩ := limited_deadline positive negative
    exact iff_of_true (limited_bounded deadline limited e) fun impossible => absurd impossible negative

end

theorem resultsOf_each (opts : RunOptions) (env : Nat → Execution) (holds : TestCase β → Execution → TestResult → Prop)
    (k : Nat) (cases : List (TestCase β)) :
    (∃ results, resultsOf opts env k cases = some results ∧ ∀ j tc, cases[j]? = some tc →
      ∃ r, results[j]? = some r ∧ holds tc (env (k+j)) r) ↔
    ∀ j tc, cases[j]? = some tc → ∃ r, runOne opts tc (env (k+j)) = some r ∧ holds tc (env (k+j)) r := by
  induction cases generalizing k with
  | nil =>
    refine iff_of_true ⟨[],rfl,?_⟩ ?_
    · intro j tc present; cases present
    · intro j tc present; cases present
  | cons first rest ih =>
    have later := ih (k+1)
    constructor
    · rintro ⟨results,returned,each⟩ j tc present
      obtain ⟨r,others,one,two,rfl⟩ := resultsOf_cons returned
      cases j with
      | zero =>
        cases present
        obtain ⟨s,same,held⟩ := each 0 first rfl
        cases same
        exact ⟨r,one,held⟩
      | succ j =>
        have tail := later.mp ⟨others,two,fun j tc present => by
          have held := each (j+1) tc present
          rwa [show k+(j+1) = k+1+j by omega] at held⟩ j tc present
        rwa [show k+(j+1) = k+1+j by omega]
    · intro each
      obtain ⟨r,one,held⟩ := each 0 first rfl
      obtain ⟨others,two,tail⟩ := later.mpr fun j tc present => by
        have held := each (j+1) tc present
        rwa [show k+(j+1) = k+1+j by omega] at held
      have returned : resultsOf opts env k (first :: rest) = some (r :: others) := by
        have one : runOne opts first (env k) = some r := one
        rw [resultsOf,one,Option.bind_some,two,Option.map_some]
      refine ⟨r :: others,returned,fun j tc present => ?_⟩
      cases j with
      | zero =>
        cases present
        exact ⟨r,rfl,held⟩
      | succ j =>
        have held := tail j tc present
        rwa [show k+1+j = k+(j+1) by omega] at held

theorem deadlines_kept (opts : RunOptions) (cases : List (TestCase β)) (env : Environment)
    (positive : 0 < opts.defaultTimeout) (executes : opts.listOnly = false) :
    NoHang opts cases env ↔ ∀ k tc, (selectedCases opts cases)[k]? = some tc → tc.timeout < 0 →
      DoneBy (env.execution k) opts.defaultTimeout := by
  have each := resultsOf_each opts env.execution (Bounded opts) 0 (selectedCases opts cases)
  simp only [Nat.zero_add,case_bounded positive] at each
  rw [← each]
  constructor
  · rintro ⟨ran,returned,bounded⟩
    obtain ⟨results,executed⟩ := run_executed executes returned
    have same : ran.runner.results = results := executed.appended
    exact ⟨results,executed.returned,by rwa [same] at bounded⟩
  · rintro ⟨results,returned,bounded⟩
    have ends : (run opts cases env .new).isSome = true := by
      rw [run_returns executes,returned]
      rfl
    obtain ⟨ran,ended⟩ := Option.isSome_iff_exists.mp ends
    obtain ⟨others,executed⟩ := run_executed executes ended
    have same : ran.runner.results = others := executed.appended
    obtain rfl := Option.some.inj (executed.returned.symm.trans returned)
    exact ⟨ran,ended,by rwa [same]⟩

def patient : RunOptions := {RunOptions.new with defaultTimeout := 1000}
def ready : TestCase Unit := ⟨text "Probe",text "resets",.empty,-5,()⟩
def readyEnv : Environment := ⟨fun _ => ⟨some ⟨20,none,.new⟩,21⟩,25⟩

theorem ready_kept : NoHang patient [ready] readyEnv ↔
    ∀ k tc, (selectedCases patient [ready])[k]? = some tc → tc.timeout < 0 →
      DoneBy (readyEnv.execution k) patient.defaultTimeout :=
  deadlines_kept patient [ready] readyEnv (by decide) rfl

theorem endless_hangs : 0 < patient.defaultTimeout ∧ ¬NoHang patient [ready] ⟨fun _ => ⟨none,0⟩,0⟩ := by
  refine ⟨by decide,?_⟩
  rintro ⟨ran,returned,_⟩
  cases returned

end Edtf.Deadlines

import Mathlib.Tactic
import Edtf.ByteText

namespace Edtf.Results
open ByteText

inductive Outcome where
  | passed
  | failed   -- one or more assertions failed
  | timeout  -- exceeded its per-test deadline
  | error    -- threw something other than AssertionAbort
  deriving DecidableEq, Repr

def Outcome.toString : Outcome → Str
  | .passed => text "PASS"
  | .failed => text "FAIL"
  | .timeout => text "TIMEOUT"
  | .error => text "ERROR"

-- Durations are readings of a steady clock in milliseconds.
structure TestResult where
  suite : Str
  name : Str
  outcome : Outcome
  assertionsPassed : Nat
  assertionsFailed : Nat
  duration : Nat
  detail : Str
  deriving DecidableEq, Repr

def TestResult.fullName (r : TestResult) : Str := r.suite ++ text "." ++ r.name
def TestResult.ok (r : TestResult) : Bool := r.outcome = .passed

structure RunSummary where
  total : Int
  passed : Int
  failed : Int
  timedOut : Int
  errored : Int
  duration : Nat
  deriving DecidableEq, Repr

def RunSummary.new : RunSummary := ⟨0,0,0,0,0,0⟩
def RunSummary.notPassed (s : RunSummary) : Int := s.failed + s.timedOut + s.errored

-- The switch over r.outcome in Runner::run.
def RunSummary.count (s : RunSummary) : Outcome → RunSummary
  | .passed => {s with passed := s.passed+1}
  | .failed => {s with failed := s.failed+1}
  | .timeout => {s with timedOut := s.timedOut+1}
  | .error => {s with errored := s.errored+1}

def RunSummary.of (s : RunSummary) : Outcome → Int
  | .passed => s.passed
  | .failed => s.failed
  | .timeout => s.timedOut
  | .error => s.errored

def tally (outcome : Outcome) (results : List TestResult) : Nat :=
  results.countP fun r => r.outcome = outcome

theorem tally_snoc (outcome : Outcome) (results : List TestResult) (r : TestResult) :
    tally outcome (results ++ [r]) = tally outcome results + if r.outcome = outcome then 1 else 0 := by
  simp [tally,List.countP_append,List.countP_singleton]

@[simp] theorem count_total (s : RunSummary) (o : Outcome) : (s.count o).total = s.total := by
  cases o <;> rfl

theorem count_of (s : RunSummary) (one two : Outcome) :
    (s.count one).of two = s.of two + if one = two then 1 else 0 := by
  cases one <;> cases two <;> simp [RunSummary.count,RunSummary.of]

theorem summary_same {one two : RunSummary} (total : one.total = two.total) (each : ∀ o, one.of o = two.of o)
    (duration : one.duration = two.duration) : one = two := by
  have passed : one.passed = two.passed := each .passed
  have failed : one.failed = two.failed := each .failed
  have timedOut : one.timedOut = two.timedOut := each .timeout
  have errored : one.errored = two.errored := each .error
  cases one
  cases two
  simp only [RunSummary.mk.injEq]
  exact ⟨total,passed,failed,timedOut,errored,duration⟩

theorem tally_length (results : List TestResult) :
    tally .passed results + tally .failed results + tally .timeout results + tally .error results =
      results.length := by
  induction results with
  | nil => rfl
  | cons r results ih =>
    simp only [tally,List.countP_cons,List.length_cons] at ih ⊢
    cases r.outcome <;> simp <;> omega

end Edtf.Results

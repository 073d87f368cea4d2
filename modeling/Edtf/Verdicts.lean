import Mathlib.Tactic
import Edtf.RunOne

namespace Edtf.Verdicts
open ByteText Assertions BodyTraces Registry Results RunOne

variable {σ : Type}

def Failing (trace : List Event) : Prop := ∃ fatal message, Event.failed fatal message ∈ trace
def Escapes (run : Finished σ) : Prop := ∃ e, run.escaped = some (.user e)

theorem failing_messages (trace : List Event) : Failing trace ↔ failureMessages trace ≠ [] := by
  constructor
  · rintro ⟨fatal,message,present⟩ none
    have listed : message ∈ failureMessages trace := List.mem_filterMap.mpr ⟨_,present,rfl⟩
    rw [none] at listed
    cases listed
  · intro some
    obtain ⟨message,listed⟩ := List.exists_mem_of_ne_nil _ some
    obtain ⟨event,present,reads⟩ := List.mem_filterMap.mp listed
    cases event with
    | statement => cases reads
    | passed => cases reads
    | failed fatal text => exact ⟨fatal,text,present⟩

-- A check is recorded as failed exactly if its condition does not hold, and a THROWS check
-- exactly if its statement threw nothing of the expected type.
theorem check_event (cond : σ → Bool) (expr : Str) (detail : σ → Str) (site : Site) (fatal : Bool) (sink : CheckSink) (s : σ) :
    (exec (.ite cond .recordPass (.failImpl expr detail site fatal)) sink s).trace =
      [if cond s then .passed else .failed fatal (failureText expr (detail s) site)] := by
  rw [exec]
  split <;> rfl

theorem throws_event (stmt : Body σ) (exType stmtText : Str) (handles : UserException → Bool) (site : Site) (fatal : Bool)
    (sink : CheckSink) (s : σ) (stays : (exec stmt sink s).flow ≠ .returned) :
    ∃ event, (exec (.throwsCheck stmt exType stmtText handles site fatal) sink s).trace = (exec stmt sink s).trace ++ [event] ∧
      (event = .passed ↔ ∃ e, (exec stmt sink s).flow = .threw (.user e) ∧ handles e = true) ∧
      (event ≠ .passed → ∃ detail, event = .failed fatal (failureText (text "expected " ++ exType ++ text " from: " ++ stmtText)
        detail site)) := by
  cases flow : (exec stmt sink s).flow with
  | returned => exact absurd flow stays
  | normal =>
    simp only [exec,flow]
    exact ⟨_,rfl,iff_of_false (by simp) (by simp),fun _ => ⟨_,rfl⟩⟩
  | threw thrown =>
    cases thrown with
    | abort message =>
      simp only [exec,flow]
      exact ⟨_,rfl,iff_of_false (by simp) (by simp),fun _ => ⟨_,rfl⟩⟩
    | user e =>
      by_cases handled : handles e = true
      · simp only [exec,flow,handled,↓reduceIte]
        exact ⟨_,rfl,iff_of_true rfl ⟨e,rfl,handled⟩,fun failed => absurd rfl failed⟩
      · simp only [exec,flow,handled,Bool.false_eq_true,↓reduceIte]
        refine ⟨_,rfl,iff_of_false (by simp) ?_,fun _ => ⟨_,rfl⟩⟩
        rintro ⟨other,same,matched⟩
        cases same
        exact handled matched

theorem runCase_texts (c : CaseBody σ) (sink : CheckSink) (s : σ) :
    ∀ message ∈ failureMessages (events (runCase c sink s).trace), ∃ expr detail site,
      message = failureText expr detail site := by
  intro message present
  cases c with
  | free body =>
    simp only [runCase,events_marks] at present
    exact exec_texts body sink s message present
  | fixture setUp body tearDown =>
    cases left : Flow.escaping (upOf setUp sink s).flow with
    | some thrown =>
      simp only [fixture_stopped _ _ _ _ _ left,events_marks] at present
      exact exec_texts setUp sink s message present
    | none =>
      simp only [fixture_ran _ _ _ _ _ left,events_append,events_marks,failureMessages,List.filterMap_append,
        List.mem_append] at present
      rcases present with (up | inner) | down
      · exact exec_texts setUp sink s message up
      · exact exec_texts body _ _ message inner
      · exact exec_texts tearDown _ _ message down

section
variable (c : CaseBody σ) (s : σ)

theorem case_passed : (runCase c .new s).sink.passed = passes (events (runCase c .new s).trace) := by
  rw [runCase_sink,replay_passed]
  exact Nat.zero_add _

theorem case_failed :
    (runCase c .new s).sink.failed = (failureMessages (events (runCase c .new s).trace)).length := by
  rw [runCase_sink,replay_failed]
  exact Nat.zero_add _

theorem case_failures :
    InOrder (failureMessages (events (runCase c .new s).trace)) (runCase c .new s).sink.failures := by
  have start : InOrder [] CheckSink.new.failures := trivial
  have kept := replay_inOrder start (events (runCase c .new s).trace)
  rw [← runCase_sink] at kept
  exact kept

theorem case_joined :
    (runCase c .new s).sink.failures = [newline].intercalate (failureMessages (events (runCase c .new s).trace)) := by
  rw [runCase_sink,replay_joined]
  apply joined_filled
  intro message present empty
  obtain ⟨expr,detail,site,rfl⟩ := runCase_texts c .new s message present
  have colon := failureText_colon expr detail site
  rw [empty] at colon
  cases colon

theorem case_failing : 0 < (runCase c .new s).sink.failed ↔ Failing (events (runCase c .new s).trace) := by
  rw [case_failed,failing_messages,List.length_pos_iff]

theorem case_explained (failing : Failing (events (runCase c .new s).trace)) :
    (runCase c .new s).sink.failures ≠ [] := by
  have found := case_failures c s
  have texts := runCase_texts c .new s
  obtain ⟨message,rest,shape⟩ := List.exists_cons_of_ne_nil ((failing_messages _).mp failing)
  rw [shape] at found texts
  obtain ⟨before,after,whole,_⟩ := found
  obtain ⟨expr,detail,site,rfl⟩ := texts message (by simp)
  have colon := failureText_colon expr detail site
  intro empty
  rw [empty] at whole
  have blank : failureText expr detail site = [] := by
    simp only [List.nil_eq,List.append_eq_nil_iff] at whole
    exact whole.1.2
  rw [blank] at colon
  cases colon

end

def exceptionText (e : UserException) : Str :=
  match e.what with
  | some what => text "unhandled std::exception: " ++ what
  | none => text "unhandled non-standard exception"

theorem caught_text (e : UserException) : (Shared.new.caught (some (.user e))).detail = exceptionText e := by
  cases what : e.what with
  | none => simp only [Shared.caught,exceptionText,what]
  | some message => simp only [Shared.caught,exceptionText,what]

structure Judged (run : Finished σ) (result : TestResult) : Prop where
  error : result.outcome = .error ↔ Escapes run
  failed : result.outcome = .failed ↔ ¬Escapes run ∧ Failing (events run.trace)
  passed : result.outcome = .passed ↔ ¬Escapes run ∧ ¬Failing (events run.trace)
  passes : result.assertionsPassed = passes (events run.trace)
  failures : result.assertionsFailed = (failureMessages (events run.trace)).length
  explained : result.outcome ≠ .passed → result.detail ≠ []

-- The order of phases that the wrapper of a fixture case must keep: nothing but set_up
-- unless that returned, and otherwise one body and after it one tear_down.
structure Phased (setUp body tearDown : Body σ) (sink : CheckSink) (s : σ) (trace : List Mark) : Prop where
  stopped : Flow.escaping (upOf setUp sink s).flow ≠ none → trace = marks .setUp (upOf setUp sink s).trace
  complete : Flow.escaping (upOf setUp sink s).flow = none →
    trace = marks .setUp (upOf setUp sink s).trace ++ marks .body (bodyOf setUp body sink s).trace ++
      marks .tearDown (downOf setUp body tearDown sink s).trace
  entered : Flow.escaping (upOf setUp sink s).flow = none → trace.count (.enter .tearDown) = 1

theorem marks_entered (phase : Phase) (trace : List Event) (other : Phase) :
    (marks phase trace).count (.enter other) = if phase = other then 1 else 0 := by
  have quiet : (trace.map (Mark.event phase)).count (.enter other) = 0 := by
    apply List.count_eq_zero.mpr
    intro present
    obtain ⟨event,_,impossible⟩ := List.mem_map.mp present
    cases impossible
  rw [marks,List.count_cons,quiet]
  simp

theorem fixture_phased (setUp body tearDown : Body σ) (sink : CheckSink) (s : σ) :
    Phased setUp body tearDown sink s (runCase (.fixture setUp body tearDown) sink s).trace := by
  constructor
  · intro threw
    obtain ⟨thrown,left⟩ := Option.ne_none_iff_exists'.mp threw
    rw [fixture_stopped _ _ _ _ _ left]
  · intro returned
    rw [fixture_ran _ _ _ _ _ returned]
  · intro returned
    rw [fixture_ran _ _ _ _ _ returned]
    simp only [List.count_append,marks_entered]
    rfl

theorem caught_detail (e : UserException) : (Shared.new.caught (some (.user e))).detail ≠ [] := by
  simp only [Shared.caught]
  cases e.what with
  | none => decide
  | some what =>
    intro empty
    exact absurd (List.append_eq_nil_iff.mp empty).1 (by decide)

theorem ended_judged (tc : TestCase β) (c : CaseBody σ) (s : σ) (time elapsed : Nat) :
    Judged (runCase c .new s) (collect tc (ended c s time).shared elapsed) := by
  by_cases escapes : Escapes (runCase c .new s)
  · obtain ⟨e,left⟩ := escapes
    have escapes : Escapes (runCase c .new s) := ⟨e,left⟩
    rw [collect_error tc (ended c s time) elapsed left]
    exact ⟨by simp [escapes],by simp [escapes],by simp [escapes],case_passed c s,case_failed c s,
      fun _ => caught_detail e⟩
  · have quiet : ∀ e, (ended c s time).escaped ≠ some (.user e) := fun e left => escapes ⟨e,left⟩
    rw [collect_judged tc (ended c s time) elapsed quiet]
    by_cases failing : Failing (events (runCase c .new s).trace)
    · have positive : 0 < (ended c s time).sink.failed := (case_failing c s).mpr failing
      rw [if_pos positive]
      exact ⟨by simp [escapes],by simp [escapes,failing],by simp [failing],case_passed c s,case_failed c s,
        fun _ => case_explained c s failing⟩
    · have zero : ¬0 < (ended c s time).sink.failed := fun positive => failing ((case_failing c s).mp positive)
      rw [if_neg zero]
      exact ⟨by simp [escapes],by simp [failing],by simp [escapes,failing],case_passed c s,case_failed c s,
        fun other => absurd rfl other⟩

-- What run_one returns with int counters, if it has a defined result.
def endedInt (c : CaseBody σ) (s : σ) (time : Nat) : Option Ending :=
  (replayInt .new (events (runCase c .new s).trace)).map fun sink => ⟨time,(runCase c .new s).escaped,sink⟩

def runOneInt (opts : RunOptions) (tc : TestCase (CaseBody σ)) (s : σ) (time elapsed : Nat) : Option TestResult :=
  (endedInt tc.body s time).bind fun ending => runOne opts tc ⟨some ending,elapsed⟩

theorem endedInt_defined (c : CaseBody σ) (s : σ) (time : Nat) :
    endedInt c s time = if Countable (events (runCase c .new s).trace) then some (ended c s time) else none := by
  rw [endedInt,replayInt_new,ended,runCase_sink]
  split <;> rfl

theorem runOneInt_inTime {tc : TestCase (CaseBody σ)} (inTime : InTime (deadlineOf opts tc) time) (s : σ) (elapsed : Nat) :
    runOneInt opts tc s time elapsed = if Countable (events (runCase tc.body .new s).trace) then
      some (collect tc (ended tc.body s time).shared elapsed) else none := by
  rw [runOneInt,endedInt_defined]
  split
  · exact runOne_inTime inTime
  · rfl

-- The verdict, the counts and the phases of every case that ends before its deadline. The
-- result is defined as long as neither counter would pass the limit of an int.
theorem case_verdict (opts : RunOptions) (tc : TestCase (CaseBody σ)) (s : σ) (time elapsed : Nat)
    (inTime : InTime (deadlineOf opts tc) time) :
    ((runOneInt opts tc s time elapsed).isSome = true ↔ Countable (events (runCase tc.body .new s).trace)) ∧
      (∀ result, runOneInt opts tc s time elapsed = some result → Judged (runCase tc.body .new s) result) ∧
      ∀ setUp body tearDown, tc.body = .fixture setUp body tearDown →
        Phased setUp body tearDown .new s (runCase tc.body .new s).trace := by
  have phased : ∀ setUp body tearDown, tc.body = .fixture setUp body tearDown →
      Phased setUp body tearDown .new s (runCase tc.body .new s).trace := by
    intro setUp body tearDown shape
    rw [shape]
    exact fixture_phased setUp body tearDown .new s
  rw [runOneInt_inTime inTime]
  by_cases countable : Countable (events (runCase tc.body .new s).trace)
  · rw [if_pos countable]
    refine ⟨iff_of_true rfl countable,fun result found => ?_,phased⟩
    cases found
    exact ended_judged tc tc.body s time elapsed
  · rw [if_neg countable]
    exact ⟨iff_of_false Bool.false_ne_true countable,fun result found => (by cases found),phased⟩

def probeSite : Site := ⟨text "tests/probe.cpp",12⟩
def probeError : UserException := ⟨text "HardwareError",some (text "i2c")⟩

def probe : TestCase (CaseBody Nat) :=
  { suite := text "Probe"
    name := text "reads"
    tags := .empty
    timeout := 250
    body := .fixture (.statement fun _ => (1,none))
      (.seq (expectEq probeSite (fun n => .integer n) (fun _ => .integer 2) (fun n => n == 2) (text "id") (text "2"))
        (.seq (addFailure (text "no reply") probeSite) (throwing probeError)))
      (assertTrue probeSite (fun n => n == 1) (text "closed")) }

theorem probe_verdict :
    ((runOneInt .new probe 0 40 41).isSome = true ↔ Countable (events (runCase probe.body .new 0).trace)) ∧
    (∀ result, runOneInt .new probe 0 40 41 = some result → Judged (runCase probe.body .new 0) result) ∧
    ∀ setUp body tearDown, probe.body = .fixture setUp body tearDown →
      Phased setUp body tearDown .new 0 (runCase probe.body .new 0).trace :=
  case_verdict .new probe 0 40 41 fun _ => by decide

example : Countable (events (runCase probe.body .new 0).trace) := by decide

def polls (n : Nat) : TestCase (CaseBody Unit) :=
  {probe with body := .free (.loop (fun _ => n) (expectTrue probeSite (fun _ => true) (text "ready")))}

theorem iterate_passes {step : CheckSink → σ → Result σ}
    (each : ∀ sink s, (step sink s).flow = .normal ∧ (step sink s).trace = [.passed]) (n : Nat) (sink : CheckSink) (s : σ) :
    passes (iterate step n sink s).trace = n := by
  induction n generalizing sink s with
  | zero => rfl
  | succ n ih =>
    obtain ⟨flow,trace⟩ := each sink s
    have rest := ih (step sink s).sink (step sink s).state
    simp only [iterate,Result.andThen,flow,Result.after,trace,passes,List.singleton_append,List.filter_cons,decide_true,
      ↓reduceIte,List.length_cons] at rest ⊢
    rw [rest]

theorem polls_passes (n : Nat) : passes (events (runCase (polls n).body .new ()).trace) = n := by
  simp only [polls,runCase,events_marks,exec]
  exact iterate_passes (fun sink s => ⟨rfl,rfl⟩) n .new ()

theorem polls_uncounted : InTime (deadlineOf .new (polls (2^31))) 40 ∧
    passes (events (runCase (polls (2^31)).body .new ()).trace) = 2^31 ∧
    ¬∃ result, runOneInt .new (polls (2^31)) () 40 41 = some result ∧
      Judged (runCase (polls (2^31)).body .new ()) result := by
  refine ⟨fun _ => by decide,polls_passes _,?_⟩
  rintro ⟨result,found,_⟩
  have uncountable : ¬Countable (events (runCase (polls (2^31)).body .new ()).trace) := fun countable => by
    have few := countable.passes
    rw [polls_passes,intMax] at few
    omega
  rw [runOneInt_inTime (fun _ => by decide),if_neg uncountable] at found
  cases found

-- Whether the reported text can carry the failures of a case: none failed, or nothing but
-- an abort escaped, or the text made of the escaping std::exception repeats them all.
def Reported (run : Finished σ) : Prop :=
  Failing (events run.trace) → ∀ e, run.escaped = some (.user e) →
    ∃ what, e.what = some what ∧
      InOrder (failureMessages (events run.trace)) (text "unhandled std::exception: " ++ what)

theorem unnamed_silent (found : InOrder (message :: rest) (text "unhandled non-standard exception")) :
    byteOf ':' ∉ message := by
  obtain ⟨before,after,whole,_⟩ := found
  intro colon
  have inside : byteOf ':' ∈ text "unhandled non-standard exception" := by
    rw [whole]
    simp [colon]
  exact absurd inside (by decide)

theorem caught_found (e : UserException) (filled : messages ≠ [])
    (texts : ∀ message ∈ messages, byteOf ':' ∈ message) :
    InOrder messages (Shared.new.caught (some (.user e))).detail ↔
      ∃ what, e.what = some what ∧ InOrder messages (text "unhandled std::exception: " ++ what) := by
  simp only [Shared.caught]
  cases e.what with
  | some what => simp
  | none =>
    constructor
    · intro found
      obtain ⟨message,rest,rfl⟩ := List.exists_cons_of_ne_nil filled
      exact absurd (texts message (by simp)) (unnamed_silent found)
    · rintro ⟨what,impossible,_⟩
      cases impossible

theorem failures_reported (opts : RunOptions) (tc : TestCase (CaseBody σ)) (s : σ) (time elapsed : Nat)
    (inTime : InTime (deadlineOf opts tc) time) :
    ∃ result, runOne opts tc ⟨some (ended tc.body s time),elapsed⟩ = some result ∧
      (InOrder (failureMessages (events (runCase tc.body .new s).trace)) result.detail ↔
        Reported (runCase tc.body .new s)) := by
  have returned : runOne opts tc ⟨some (ended tc.body s time),elapsed⟩ =
      some (collect tc (ended tc.body s time).shared elapsed) := runOne_inTime inTime
  refine ⟨_,returned,?_⟩
  have texts : ∀ message ∈ failureMessages (events (runCase tc.body .new s).trace), byteOf ':' ∈ message := by
    intro message present
    obtain ⟨expr,detail,site,rfl⟩ := runCase_texts tc.body .new s message present
    exact failureText_colon expr detail site
  by_cases failing : Failing (events (runCase tc.body .new s).trace)
  · have filled := (failing_messages _).mp failing
    by_cases escapes : Escapes (runCase tc.body .new s)
    · obtain ⟨e,left⟩ := escapes
      rw [collect_error tc (ended tc.body s time) elapsed left]
      refine (caught_found e filled texts).trans ⟨fun found _ other escaped => ?_,fun reported => reported failing e left⟩
      rw [left] at escaped
      cases escaped
      exact found
    · have quiet : ∀ e, (ended tc.body s time).escaped ≠ some (.user e) := fun e left => escapes ⟨e,left⟩
      have positive : 0 < (ended tc.body s time).sink.failed := (case_failing tc.body s).mpr failing
      rw [collect_judged tc _ elapsed quiet,if_pos positive]
      exact ⟨fun _ _ e left => absurd left (quiet e),fun _ => case_failures tc.body s⟩
  · have none : failureMessages (events (runCase tc.body .new s).trace) = [] :=
      not_not.mp fun filled => failing ((failing_messages _).mpr filled)
    rw [none]
    exact ⟨fun _ some => absurd some failing,fun _ => trivial⟩

def lone : TestCase (CaseBody Nat) := {probe with body := .free (fail (text "no reply") probeSite)}

theorem lone_reported : ∃ result, runOne .new lone ⟨some (ended lone.body 0 40),41⟩ = some result ∧
    (InOrder (failureMessages (events (runCase lone.body .new 0).trace)) result.detail ↔
      Reported (runCase lone.body .new 0)) :=
  failures_reported .new lone 0 40 41 fun _ => by decide

theorem probe_unreported : ∃ result, runOne .new probe ⟨some (ended probe.body 0 40),41⟩ = some result ∧
    ¬InOrder (failureMessages (events (runCase probe.body .new 0).trace)) result.detail := by
  have returned : runOne .new probe ⟨some (ended probe.body 0 40),41⟩ =
      some (collect probe (ended probe.body 0 40).shared 41) := runOne_inTime fun _ => by decide
  refine ⟨_,returned,fun found => ?_⟩
  exact absurd found.length (by decide)

end Edtf.Verdicts

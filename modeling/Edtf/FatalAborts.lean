import Mathlib.Tactic
import Edtf.Registry

namespace Edtf.FatalAborts
open ByteText Assertions BodyTraces Registry

variable {σ : Type}

-- After a failed fatal check nothing more is evaluated. With `verdicts`, the failing
-- verdicts of the fatal THROWS blocks that the abort passes through are no offence.
def Ends (verdicts : Bool) (trace : List Event) : Prop :=
  trace.Pairwise fun earlier later => fatalEvent earlier = true → verdicts = true ∧ fatalEvent later = true

-- An evaluated THROWS block takes the abort that leaves its statement. The recursion
-- follows the execution of the body, from the sink and the state it is at.
def Onward (r : Result σ) (next : CheckSink → σ → Prop) : Prop := r.flow = .normal ∧ next r.sink r.state

def caughtIn (step : CheckSink → σ → Result σ) (caught : CheckSink → σ → Prop) : Nat → CheckSink → σ → Prop
  | 0,_,_ => False
  | n+1,sink,s => caught sink s ∨ Onward (step sink s) (caughtIn step caught n)

def Caught (verdicts : Bool) : Body σ → CheckSink → σ → Prop
  | .skip,_,_ => False
  | .statement _,_,_ => False
  | .recordPass,_,_ => False
  | .failImpl _ _ _ _,_,_ => False
  | .ret,_,_ => False
  | .seq first second,sink,s => Caught verdicts first sink s ∨ Onward (exec first sink s) (Caught verdicts second)
  | .ite cond yes no,sink,s => if cond s then Caught verdicts yes sink s else Caught verdicts no sink s
  | .loop times body,sink,s => caughtIn (exec body) (Caught verdicts body) (times s) sink s
  | .call helper,sink,s => Caught verdicts helper sink s
  | .tryCatch stmt handles handler,sink,s =>
    Caught verdicts stmt sink s ∨ ∃ e, (exec stmt sink s).flow = .threw (.user e) ∧ handles e = true ∧
      Caught verdicts handler (exec stmt sink s).sink (exec stmt sink s).state
  | .throwsCheck stmt _ _ _ _ fatal,sink,s =>
    Caught verdicts stmt sink s ∨ Flow.aborted (exec stmt sink s).flow ∧ ¬(verdicts = true ∧ fatal = true)

theorem ends_append (verdicts : Bool) (one two : List Event) :
    Ends verdicts (one ++ two) ↔ Ends verdicts one ∧ Ends verdicts two ∧
      ∀ earlier ∈ one, ∀ later ∈ two, fatalEvent earlier = true → verdicts = true ∧ fatalEvent later = true :=
  List.pairwise_append

theorem ends_single (verdicts : Bool) (event : Event) : Ends verdicts [event] := List.pairwise_singleton _ _

theorem ends_live (ends : Ends verdicts trace) (live : trace.getLast?.any fatalEvent ≠ true) :
    ∀ event ∈ trace, fatalEvent event ≠ true := by
  induction trace with
  | nil => simp
  | cons first rest ih =>
    obtain ⟨heads,tails⟩ := List.pairwise_cons.mp ends
    cases tail : rest.getLast? with
    | none =>
      have empty : rest = [] := List.getLast?_eq_none_iff.mp tail
      subst empty
      simpa using live
    | some last =>
      have later : last ∈ rest := List.mem_of_getLast? tail
      have quiet : fatalEvent last ≠ true := by simpa [List.getLast?_cons,tail] using live
      intro event present
      rcases List.mem_cons.mp present with rfl | old
      · exact fun fatal => quiet (heads last later fatal).2
      · exact ih tails (by simpa [tail] using quiet) event old

theorem ends_onward (live : one.getLast?.any fatalEvent ≠ true) (two : List Event) :
    Ends verdicts (one ++ two) ↔ Ends verdicts one ∧ Ends verdicts two := by
  rw [ends_append]
  constructor
  · rintro ⟨first,second,_⟩
    exact ⟨first,second⟩
  · rintro ⟨first,second⟩
    exact ⟨first,second,fun earlier present _ _ fatal => absurd fatal (ends_live first live earlier present)⟩

theorem ends_verdict (aborted : one.getLast?.any fatalEvent = true) (verdict : Event) :
    Ends verdicts (one ++ [verdict]) ↔ Ends verdicts one ∧ verdicts = true ∧ fatalEvent verdict = true := by
  rw [ends_append]
  obtain ⟨last,found,fatal⟩ := (Option.any_eq_true _ _).mp aborted
  constructor
  · rintro ⟨first,_,cross⟩
    exact ⟨first,cross last (List.mem_of_getLast? found) verdict (by simp) fatal⟩
  · rintro ⟨first,allowed⟩
    refine ⟨first,ends_single _ _,fun _ _ later present _ => ?_⟩
    rw [List.mem_singleton.mp present]
    exact allowed

theorem exec_live {body : Body σ} (plain : ¬Flow.aborted (exec body sink s).flow) :
    (exec body sink s).trace.getLast?.any fatalEvent ≠ true := fun last => plain ((exec_aborts body sink s).mpr last)

theorem andThen_ends {first : Body σ} {next : CheckSink → σ → Result σ}
    (one : Ends verdicts (exec first sink s).trace ↔ ¬caught)
    (two : ∀ sink s, Ends verdicts (next sink s).trace ↔ ¬later sink s) :
    Ends verdicts ((exec first sink s).andThen next).trace ↔ ¬(caught ∨ Onward (exec first sink s) later) := by
  rw [not_or,← one,Result.andThen]
  split
  · rename_i normal
    have plain : ¬Flow.aborted (exec first sink s).flow := by rw [normal]; exact id
    have live := exec_live plain
    simp only [Result.after,ends_onward live,two,Onward,normal,true_and]
  · rename_i left
    exact (and_iff_left fun onward => left onward.1).symm

theorem body_ends (verdicts : Bool) (body : Body σ) (sink : CheckSink) (s : σ) :
    Ends verdicts (exec body sink s).trace ↔ ¬Caught verdicts body sink s := by
  induction body generalizing sink s with
  | skip => exact ⟨fun _ => id,fun _ => List.Pairwise.nil⟩
  | ret => exact ⟨fun _ => id,fun _ => List.Pairwise.nil⟩
  | recordPass => exact ⟨fun _ => id,fun _ => ends_single _ _⟩
  | failImpl expr detail site fatal => exact ⟨fun _ => id,fun _ => ends_single _ _⟩
  | statement run =>
    rw [exec]
    split <;> exact ⟨fun _ => id,fun _ => ends_single _ _⟩
  | seq first second ihFirst ihSecond => exact andThen_ends (ihFirst sink s) ihSecond
  | ite cond yes no ihYes ihNo =>
    rw [exec,Caught]
    split
    · exact ihYes sink s
    · exact ihNo sink s
  | loop times body ih =>
    rw [exec,Caught]
    generalize times s = n
    induction n generalizing sink s with
    | zero => exact ⟨fun _ => id,fun _ => List.Pairwise.nil⟩
    | succ n ihTimes => exact andThen_ends (ih sink s) ihTimes
  | call helper ih =>
    simp only [exec,Caught]
    split <;> exact ih sink s
  | tryCatch stmt handles handler ihStmt ihHandler =>
    simp only [exec,Caught]
    rw [not_or,← ihStmt]
    split
    · rename_i e threw
      have plain : ¬Flow.aborted (exec stmt sink s).flow := by rw [threw]; exact id
      have live := exec_live plain
      split
      · rename_i taken
        simp only [Result.after,ends_onward live,ihHandler]
        simp [threw,taken]
      · rename_i passed
        simp [threw,passed]
    · rename_i other
      refine (and_iff_left ?_).symm
      rintro ⟨e,threw,_⟩
      exact other e threw
  | throwsCheck stmt exType stmtText handles site fatal ih =>
    simp only [exec,Caught]
    rw [not_or,← ih]
    have plain : ∀ verdict, ¬Flow.aborted (exec stmt sink s).flow →
        (Ends verdicts ((exec stmt sink s).trace ++ [verdict]) ↔ Ends verdicts (exec stmt sink s).trace ∧
          ¬(Flow.aborted (exec stmt sink s).flow ∧ ¬(verdicts = true ∧ fatal = true))) := by
      intro verdict live
      rw [ends_onward (exec_live live)]
      exact and_congr_right fun _ => ⟨fun _ taken => live taken.1,fun _ => ends_single _ _⟩
    split
    · rename_i returned
      refine (and_iff_left fun taken => ?_).symm
      rw [returned] at taken
      exact taken.1
    · rename_i e threw
      have live : ¬Flow.aborted (exec stmt sink s).flow := by rw [threw]; exact id
      split <;> exact plain _ live
    · rename_i message threw
      have aborted : Flow.aborted (exec stmt sink s).flow := by rw [threw]; trivial
      refine (ends_verdict ((exec_aborts stmt sink s).mp aborted) _).trans (and_congr_right fun _ => ?_)
      simp [aborted,fatalEvent]
    · rename_i normal
      exact plain _ (by rw [normal]; exact id)

def phaseOf : Mark → Phase
  | .enter phase => phase
  | .event phase _ => phase

def fatalMark : Mark → Bool
  | .enter _ => false
  | .event _ event => fatalEvent event

-- In a case tear_down may still run after a failed fatal check of set_up or of the body,
-- and nothing else.
def Follows (verdicts : Bool) (earlier later : Mark) : Prop :=
  fatalMark earlier = true → (phaseOf earlier ≠ .tearDown ∧ phaseOf later = .tearDown) ∨
    (phaseOf later = phaseOf earlier ∧ verdicts = true ∧ fatalMark later = true)

instance (verdicts : Bool) (earlier later : Mark) : Decidable (Follows verdicts earlier later) :=
  inferInstanceAs (Decidable (_ → _))

def CaseEnds (verdicts : Bool) (trace : List Mark) : Prop := trace.Pairwise (Follows verdicts)

instance (verdicts : Bool) (trace : List Mark) : Decidable (CaseEnds verdicts trace) :=
  inferInstanceAs (Decidable (trace.Pairwise _))

def CaseCaught (verdicts : Bool) : CaseBody σ → CheckSink → σ → Prop
  | .free body,sink,s => Caught verdicts body sink s
  | .fixture setUp body tearDown,sink,s =>
    Caught verdicts setUp sink s ∨
      (Flow.escaping (upOf setUp sink s).flow = none ∧
        (Caught verdicts body (upOf setUp sink s).sink (upOf setUp sink s).state ∨
          Caught verdicts tearDown (bodyOf setUp body sink s).sink (bodyOf setUp body sink s).state))

theorem mem_marks (present : mark ∈ marks phase trace) :
    phaseOf mark = phase ∧ (fatalMark mark = true → ∃ event ∈ trace, fatalEvent event = true) := by
  rcases List.mem_cons.mp present with rfl | listed
  · exact ⟨rfl,fun impossible => absurd impossible Bool.false_ne_true⟩
  · obtain ⟨event,evaluated,rfl⟩ := List.mem_map.mp listed
    exact ⟨rfl,fun fatal => ⟨event,evaluated,fatal⟩⟩

theorem marks_ends (verdicts : Bool) (phase : Phase) (trace : List Event) :
    CaseEnds verdicts (marks phase trace) ↔ Ends verdicts trace := by
  have same : ∀ earlier later, Follows verdicts (.event phase earlier) (.event phase later) ↔
      (fatalEvent earlier = true → verdicts = true ∧ fatalEvent later = true) := by
    intro earlier later
    refine imp_congr_right fun _ => ?_
    simp only [phaseOf,fatalMark,true_and]
    exact or_iff_right fun other => other.1 other.2
  rw [CaseEnds,marks,List.pairwise_cons,List.pairwise_map]
  simp only [same,Ends]
  exact and_iff_right fun mark _ impossible => absurd impossible Bool.false_ne_true

theorem phases_ends (one two : List Mark)
    (apart : CaseEnds verdicts one → ∀ earlier ∈ one, ∀ later ∈ two, fatalMark earlier = true →
      phaseOf earlier ≠ .tearDown ∧ phaseOf later = .tearDown) :
    CaseEnds verdicts (one ++ two) ↔ CaseEnds verdicts one ∧ CaseEnds verdicts two := by
  rw [CaseEnds,List.pairwise_append]
  constructor
  · rintro ⟨first,second,_⟩
    exact ⟨first,second⟩
  · rintro ⟨first,second⟩
    exact ⟨first,second,fun earlier a later b fatal => .inl (apart first earlier a later b fatal)⟩

theorem escaping_plain (returned : Flow.escaping flow = none) : ¬Flow.aborted flow := by
  intro aborted
  cases flow with
  | normal => exact aborted
  | returned => exact aborted
  | threw thrown => cases returned

theorem fatal_ends (verdicts : Bool) (c : CaseBody σ) (sink : CheckSink) (s : σ) :
    CaseEnds verdicts (runCase c sink s).trace ↔ ¬CaseCaught verdicts c sink s := by
  cases c with
  | free body =>
    simp only [runCase,marks_ends,CaseCaught]
    exact body_ends verdicts body sink s
  | fixture setUp body tearDown =>
    have up := body_ends verdicts setUp sink s
    cases left : Flow.escaping (upOf setUp sink s).flow with
    | some thrown =>
      rw [fixture_stopped _ _ _ _ _ left]
      simp only [marks_ends,CaseCaught,left,reduceCtorEq,false_and,or_false]
      exact up
    | none =>
      have inner := body_ends verdicts body (upOf setUp sink s).sink (upOf setUp sink s).state
      have down := body_ends verdicts tearDown (bodyOf setUp body sink s).sink (bodyOf setUp body sink s).state
      rw [fixture_ran _ _ _ _ _ left]
      simp only [CaseCaught,left,true_and,not_or]
      rw [← up,← inner,← down,phases_ends,phases_ends,marks_ends,marks_ends,marks_ends,and_assoc]
      · rfl
      · intro ends earlier present _ _ fatal
        obtain ⟨event,evaluated,failed⟩ := (mem_marks present).2 fatal
        have live := exec_live (escaping_plain left)
        exact absurd failed (ends_live ((marks_ends _ _ _).mp ends) live event evaluated)
      · intro _ earlier present later last _
        rw [(mem_marks last).1]
        refine ⟨fun torn => ?_,rfl⟩
        rcases List.mem_append.mp present with early | early <;> rw [(mem_marks early).1] at torn <;> cases torn

-- EXPECT_THROWS(require_present(bus), HardwareError), where the helper asserts that the
-- device is there, and then a statement that drives it.
def guarded : CaseBody Nat :=
  .free (.seq
    (expectThrows ⟨text "tests/probe.cpp",20⟩
      (.call (assertTrue ⟨text "tests/probe.cpp",8⟩ (fun device => device != 0) (text "present")))
      (text "HardwareError") (text "require_present(bus)") (fun e => e.type = text "HardwareError"))
    (.statement fun device => (device+1,none)))

theorem guarded_driven : ¬CaseEnds false (runCase guarded .new 0).trace ∧ ¬CaseEnds true (runCase guarded .new 0).trace := by
  constructor <;> decide

end Edtf.FatalAborts

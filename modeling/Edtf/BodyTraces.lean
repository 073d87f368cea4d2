import Mathlib.Tactic
import Edtf.Assertions

namespace Edtf.BodyTraces
open ByteText Assertions

variable {σ : Type}

def Flow.aborted : Flow → Prop
  | .threw (.abort _) => True
  | _ => False

-- The one induction over bodies: a relation between the sink at the start and the result
-- that every elementary step has, and that survives running a second part after a
-- first one. A catch-all that takes an abort always evaluates a verdict next.
theorem exec_rule (holds : CheckSink → Result σ → Prop)
    (quiet : ∀ flow sink s, flow = .normal ∨ flow = .returned → holds sink (finish flow sink s))
    (statement : ∀ flow sink s, ¬Flow.aborted flow → holds sink ⟨flow,sink,s,[.statement]⟩)
    (pass : ∀ sink s, holds sink (runPass sink s))
    (fail : ∀ expr detail site fatal sink s, holds sink (runFail expr detail site fatal sink s))
    (chain : ∀ sink r next, holds sink r → holds r.sink next → ¬Flow.aborted r.flow ∨ next.trace ≠ [] →
      holds sink (next.after r.trace))
    (resume : ∀ sink r, holds sink r → r.flow = .returned → holds sink {r with flow := .normal})
    (body : Body σ) (sink : CheckSink) (s : σ) : holds sink (exec body sink s) := by
  have andThen : ∀ sink (r : Result σ) next, holds sink r → (∀ sink s, holds sink (next sink s)) →
      holds sink (r.andThen next) := by
    intro sink r next first second
    unfold Result.andThen
    split
    · rename_i normal
      exact chain _ _ _ first (second _ _) (.inl (by rw [normal]; exact id))
    · exact first
  induction body generalizing sink s with
  | skip => exact quiet _ _ _ (.inl rfl)
  | ret => exact quiet _ _ _ (.inr rfl)
  | recordPass => exact pass _ _
  | failImpl expr detail site fatal => exact fail _ _ _ _ _ _
  | statement run =>
    rw [exec]
    split <;> exact statement _ _ _ id
  | seq first second ihFirst ihSecond => exact andThen _ _ _ (ihFirst sink s) ihSecond
  | ite cond yes no ihYes ihNo =>
    rw [exec]
    split
    · exact ihYes sink s
    · exact ihNo sink s
  | loop times body ih =>
    rw [exec]
    generalize times s = n
    induction n generalizing sink s with
    | zero => exact quiet _ _ _ (.inl rfl)
    | succ n ihTimes => exact andThen _ _ _ (ih sink s) ihTimes
  | call helper ih =>
    simp only [exec]
    split
    · rename_i returned
      exact resume _ _ (ih sink s) returned
    · exact ih sink s
  | tryCatch stmt handles handler ihStmt ihHandler =>
    simp only [exec]
    split
    · rename_i e threw
      split
      · exact chain _ _ _ (ihStmt sink s) (ihHandler _ _) (.inl (by rw [threw]; exact id))
      · exact ihStmt sink s
    · exact ihStmt sink s
  | throwsCheck stmt exType stmtText handles site fatal ih =>
    have verdict := fun detail => chain _ _ _ (ih sink s)
      (fail (text "expected " ++ exType ++ text " from: " ++ stmtText) detail site fatal
        (exec stmt sink s).sink (exec stmt sink s).state) (.inr (List.cons_ne_nil _ _))
    simp only [exec]
    split
    · exact ih sink s
    · split
      · exact chain _ _ _ (ih sink s) (pass _ _) (.inr (List.cons_ne_nil _ _))
      · exact verdict _
    · exact verdict _
    · exact verdict _

def record (sink : CheckSink) : Event → CheckSink
  | .statement => sink
  | .passed => sink.recordPass
  | .failed _ message => sink.addFailure message

def replay (sink : CheckSink) (trace : List Event) : CheckSink := trace.foldl record sink

theorem exec_sink (body : Body σ) (sink : CheckSink) (s : σ) :
    (exec body sink s).sink = replay sink (exec body sink s).trace := by
  refine exec_rule (fun sink r => r.sink = replay sink r.trace) ?_ ?_ ?_ ?_ ?_ ?_ body sink s
  · intro flow sink s plain; rfl
  · intro flow sink s plain; rfl
  · intro sink s; rfl
  · intro expr detail site fatal sink s; rfl
  · intro sink r next first second _
    change next.sink = replay sink (r.trace ++ next.trace)
    rw [second,first,replay,replay,replay,List.foldl_append]
  · intro sink r same _; exact same

-- The counters are ints in the code: an increment beyond INT_MAX has no defined result.
def intMax : Nat := 2^31-1

def recordInt (sink : CheckSink) : Event → Option CheckSink
  | .statement => some sink
  | .passed => if sink.passed < intMax then some sink.recordPass else none
  | .failed _ message => if sink.failed < intMax then some (sink.addFailure message) else none

def replayInt (sink : CheckSink) (trace : List Event) : Option CheckSink := trace.foldlM recordInt sink

def passes (trace : List Event) : Nat := (trace.filter (· = .passed)).length
def failureMessages (trace : List Event) : List Str :=
  trace.filterMap fun | .failed _ message => some message | _ => none

theorem replay_passed (sink : CheckSink) (trace : List Event) :
    (replay sink trace).passed = sink.passed + passes trace := by
  induction trace generalizing sink with
  | nil => rfl
  | cons event trace ih =>
    have tail := ih (record sink event)
    cases event with
    | statement => simpa [replay,passes,record] using tail
    | failed fatal message => simpa [replay,passes,record,CheckSink.addFailure] using tail
    | passed =>
      simp only [replay,passes,record,CheckSink.recordPass,List.foldl_cons,List.filter_cons,decide_true,
        ↓reduceIte,List.length_cons] at tail ⊢
      omega

-- The rule for what a sink says about its failures: a pass keeps it, a failure adds its
-- message. Induction on the trace.
theorem replay_rule (holds : CheckSink → List Str → Prop)
    (keeps : ∀ sink messages, holds sink messages → holds sink.recordPass messages)
    (adds : ∀ sink messages message, holds sink messages → holds (sink.addFailure message) (messages ++ [message]))
    (found : holds sink messages) (trace : List Event) :
    holds (replay sink trace) (messages ++ failureMessages trace) := by
  induction trace generalizing sink messages with
  | nil => simpa [failureMessages,replay] using found
  | cons event trace ih =>
    cases event with
    | statement => exact ih found
    | passed => exact ih (keeps sink messages found)
    | failed fatal message =>
      have later := ih (adds sink messages message found)
      simpa [failureMessages,replay,record,List.append_assoc] using later

theorem replay_failed (sink : CheckSink) (trace : List Event) :
    (replay sink trace).failed = sink.failed + (failureMessages trace).length := by
  have none : sink.failed = sink.failed + ([] : List Str).length := rfl
  refine replay_rule (fun now messages => now.failed = sink.failed + messages.length) ?_ ?_ none trace
  · intro now messages counted; exact counted
  · intro now messages message counted
    simp only [CheckSink.addFailure,List.length_append,List.length_singleton,counted]
    omega

structure Countable (trace : List Event) : Prop where
  passes : passes trace ≤ intMax
  failures : (failureMessages trace).length ≤ intMax

instance (trace : List Event) : Decidable (Countable trace) :=
  decidable_of_iff (passes trace ≤ intMax ∧ (failureMessages trace).length ≤ intMax)
    ⟨fun both => ⟨both.1,both.2⟩,fun countable => ⟨countable.passes,countable.failures⟩⟩

theorem replayInt_fits {sink : CheckSink} (passed : sink.passed ≤ intMax) (failed : sink.failed ≤ intMax) (trace : List Event) :
    replayInt sink trace =
      if sink.passed + passes trace ≤ intMax ∧ sink.failed + (failureMessages trace).length ≤ intMax then
        some (replay sink trace)
      else none := by
  induction trace generalizing sink with
  | nil => exact (if_pos ⟨passed,failed⟩).symm
  | cons event trace ih =>
    rw [replayInt,List.foldlM_cons,replay,List.foldl_cons]
    cases event with
    | statement => exact ih passed failed
    | passed =>
      have counted : passes (.passed :: trace) = passes trace + 1 := by simp [passes]
      have messages : failureMessages (.passed :: trace) = failureMessages trace := rfl
      rw [recordInt,counted,messages]
      by_cases room : sink.passed < intMax
      · have later := @ih sink.recordPass room failed
        rw [if_pos room]
        refine later.trans (if_congr ?_ rfl rfl)
        rw [CheckSink.recordPass,Nat.add_right_comm,Nat.add_assoc]
      · rw [if_neg room,if_neg (by omega)]
        rfl
    | failed fatal message =>
      have counted : passes (.failed fatal message :: trace) = passes trace := by simp [passes]
      have messages : (failureMessages (.failed fatal message :: trace)).length = (failureMessages trace).length + 1 := by
        simp [failureMessages]
      rw [recordInt,counted,messages]
      by_cases room : sink.failed < intMax
      · have later := @ih (sink.addFailure message) passed room
        rw [if_pos room]
        refine later.trans (if_congr ?_ rfl rfl)
        rw [CheckSink.addFailure,Nat.add_right_comm,Nat.add_assoc]
      · rw [if_neg room,if_neg (by omega)]
        rfl

theorem replayInt_new (trace : List Event) :
    replayInt .new trace = if Countable trace then some (replay .new trace) else none := by
  rw [replayInt_fits (Nat.zero_le _) (Nat.zero_le _)]
  refine if_congr ?_ rfl rfl
  simp only [CheckSink.new,Nat.zero_add]
  exact ⟨fun both => ⟨both.1,both.2⟩,fun countable => ⟨countable.passes,countable.failures⟩⟩

-- The text of several failures, each on lines of its own; empty ones at the front leave
-- nothing.
def joined (messages : List Str) : Str := [newline].intercalate (messages.dropWhile fun message => message = [])

theorem intercalate_snoc {sep last : Str} {items : List Str} (filled : items ≠ []) :
    sep.intercalate (items ++ [last]) = sep.intercalate items ++ sep ++ last := by
  induction items with
  | nil => exact absurd rfl filled
  | cons first rest ih =>
    cases rest with
    | nil => simp only [List.cons_append,List.nil_append,List.intercalate_cons_cons,List.intercalate_singleton]
    | cons second rest =>
      have later := ih (List.cons_ne_nil _ _)
      rw [List.cons_append] at later
      rw [List.cons_append,List.cons_append,List.intercalate_cons_cons,later,List.intercalate_cons_cons]
      simp only [List.append_assoc]

theorem joined_empty (messages : List Str) : joined messages = [] ↔ (messages.dropWhile fun message => message = []) = [] := by
  refine ⟨fun empty => ?_,fun none => by rw [joined,none]; rfl⟩
  rw [joined] at empty
  cases shape : messages.dropWhile fun message => message = [] with
  | nil => rfl
  | cons first rest =>
    have filled := List.head?_dropWhile_not (fun message : Str => decide (message = [])) messages
    rw [shape] at empty filled
    simp only [List.head?_cons,decide_eq_false_iff_not] at filled
    cases rest with
    | nil =>
      rw [List.intercalate_singleton] at empty
      exact absurd empty filled
    | cons second rest =>
      rw [List.intercalate_cons_cons] at empty
      exact absurd (List.append_eq_nil_iff.mp (List.append_eq_nil_iff.mp empty).1).1 filled

theorem joined_snoc (messages : List Str) (message : Str) : joined (messages ++ [message]) =
    (if joined messages = [] then joined messages else joined messages ++ [newline]) ++ message := by
  by_cases none : (messages.dropWhile fun message => message = []) = []
  · have empty := (joined_empty messages).mpr none
    rw [if_pos empty,empty,List.nil_append,joined,List.dropWhile_append,none]
    by_cases blank : message = []
    · simp [blank]
    · simp [blank]
  · rw [if_neg (mt (joined_empty messages).mp none),joined,List.dropWhile_append,if_neg (by simpa using none),
      intercalate_snoc none,joined]

theorem joined_filled (filled : ∀ message ∈ messages, message ≠ []) : joined messages = [newline].intercalate messages := by
  rw [joined]
  cases messages with
  | nil => rfl
  | cons first rest => rw [List.dropWhile_cons_of_neg (by simpa using filled first List.mem_cons_self)]

theorem replay_joined (trace : List Event) : (replay .new trace).failures = joined (failureMessages trace) := by
  have start : CheckSink.new.failures = joined [] := rfl
  refine replay_rule (fun now messages => now.failures = joined messages) ?_ ?_ start trace
  · intro now messages same; exact same
  · intro now messages message same
    rw [CheckSink.addFailure,joined_snoc,same]
    rfl

theorem addFailure_inOrder {sink : CheckSink} (found : InOrder messages sink.failures) (message : Str) :
    InOrder (messages ++ [message]) (sink.addFailure message).failures := by
  unfold CheckSink.addFailure
  by_cases first : sink.failures = []
  · rw [if_pos first]
    have joined : InOrder (messages ++ [message]) (sink.failures ++ [] ++ message) := found.snoc
    simpa using joined
  · rw [if_neg first]
    exact found.snoc

theorem replay_inOrder {sink : CheckSink} (found : InOrder messages sink.failures) (trace : List Event) :
    InOrder (messages ++ failureMessages trace) (replay sink trace).failures := by
  refine replay_rule (fun now messages => InOrder messages now.failures) ?_ ?_ found trace
  · intro now messages ordered; exact ordered
  · intro now messages message ordered; exact addFailure_inOrder ordered message

theorem exec_texts (body : Body σ) (sink : CheckSink) (s : σ) :
    ∀ message ∈ failureMessages (exec body sink s).trace, ∃ expr detail site,
      message = failureText expr detail site := by
  refine exec_rule (fun _ r => ∀ message ∈ failureMessages r.trace, ∃ expr detail site,
    message = failureText expr detail site) ?_ ?_ ?_ ?_ ?_ ?_ body sink s
  · intro flow sink s _ message present; cases present
  · intro flow sink s _ message present; cases present
  · intro sink s message present; cases present
  · intro expr detail site fatal sink s message present
    exact ⟨expr,detail,site,List.mem_singleton.mp present⟩
  · intro sink r next first second _ message present
    simp only [Result.after,failureMessages,List.filterMap_append,List.mem_append] at present
    exact present.elim (first message) (second message)
  · intro sink r same _; exact same

theorem failureText_colon (expr detail : Str) (site : Site) : byteOf ':' ∈ failureText expr detail site := by
  have label : byteOf ':' ∈ text ":" := by decide
  simp only [failureText,Site.label,List.mem_append]
  exact .inl (.inl (.inl (.inl (.inr label))))

def fatalEvent : Event → Bool
  | .failed fatal _ => fatal
  | _ => false

theorem exec_aborts (body : Body σ) (sink : CheckSink) (s : σ) :
    Flow.aborted (exec body sink s).flow ↔ (exec body sink s).trace.getLast?.any fatalEvent = true := by
  refine exec_rule (fun _ r => Flow.aborted r.flow ↔ r.trace.getLast?.any fatalEvent = true)
    ?_ ?_ ?_ ?_ ?_ ?_ body sink s
  · rintro flow sink s (rfl | rfl) <;> simp [finish,Flow.aborted]
  · intro flow sink s plain
    simp [plain,fatalEvent]
  · intro sink s
    simp [runPass,Flow.aborted,fatalEvent]
  · intro expr detail site fatal sink s
    cases fatal <;> simp [runFail,Flow.aborted,fatalEvent]
  · intro sink r next first second live
    simp only [Result.after,List.getLast?_append]
    cases tail : next.trace.getLast? with
    | some event =>
      rw [tail] at second
      exact second
    | none =>
      have empty : next.trace = [] := List.getLast?_eq_none_iff.mp tail
      have plain : ¬Flow.aborted r.flow := live.resolve_right fun evaluated => evaluated empty
      rw [tail] at second
      rw [Option.none_or,← first,second]
      simp [plain]
  · intro sink r same returned
    rw [← same,returned]
    simp [Flow.aborted]

end Edtf.BodyTraces

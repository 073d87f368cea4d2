import Mathlib.Tactic
import Edtf.Verdicts

namespace Edtf.Softening
open ByteText Assertions BodyTraces Registry Results RunOne Verdicts

def Renamed (expr other : Str) : Prop := expr = other ∨ ∃ rest, expr = text "ASSERT_" ++ rest ∧ other = text "EXPECT_" ++ rest

theorem renamed_append (renamed : Renamed expr other) (rest : Str) : Renamed (expr ++ rest) (other ++ rest) := by
  rcases renamed with rfl | ⟨name,rfl,rfl⟩
  · exact .inl rfl
  · exact .inr ⟨name ++ rest,List.append_assoc _ _ _,List.append_assoc _ _ _⟩

-- `soft` is `hard` with any of its fatal checks made non-fatal: an ASSERT_ macro replaced by
-- its EXPECT_ sibling, FAIL by ADD_FAILURE.
inductive Softens {σ : Type} : Body σ → Body σ → Prop where
  | skip : Softens .skip .skip
  | statement (run : σ → σ × Option UserException) : Softens (.statement run) (.statement run)
  | recordPass : Softens .recordPass .recordPass
  | failImpl (renamed : Renamed expr other) (detail : σ → Str) (site : Site) (weaker : eased = true → fatal = true) :
      Softens (.failImpl expr detail site fatal) (.failImpl other detail site eased)
  | ret : Softens .ret .ret
  | seq (first : Softens hard soft) (second : Softens hard' soft') : Softens (.seq hard hard') (.seq soft soft')
  | ite (cond : σ → Bool) (yes : Softens hard soft) (no : Softens hard' soft') :
      Softens (.ite cond hard hard') (.ite cond soft soft')
  | loop (times : σ → Nat) (body : Softens hard soft) : Softens (.loop times hard) (.loop times soft)
  | call (helper : Softens hard soft) : Softens (.call hard) (.call soft)
  | tryCatch (handles : UserException → Bool) (stmt : Softens hard soft) (handler : Softens hard' soft') :
      Softens (.tryCatch hard handles hard') (.tryCatch soft handles soft')
  | throwsCheck (exType stmtText : Str) (handles : UserException → Bool) (site : Site) (stmt : Softens hard soft)
      (weaker : eased = true → fatal = true) :
      Softens (.throwsCheck hard exType stmtText handles site fatal) (.throwsCheck soft exType stmtText handles site eased)

variable {σ : Type}

section
variable (site : Site) (a b : σ → Operand) (holds : σ → Bool) (aText bText : Str)

theorem checkTrue_softens (cond : σ → Bool) (condText : Str) : Softens (assertTrue site cond condText) (expectTrue site cond condText) :=
  .ite _ .recordPass (.failImpl (.inl rfl) _ _ (by decide))

theorem checkFalse_softens (cond : σ → Bool) (condText : Str) : Softens (assertFalse site cond condText) (expectFalse site cond condText) :=
  .ite _ .recordPass (.failImpl (.inl rfl) _ _ (by decide))

theorem checkBinop_softens (op : Str) (renamed : Renamed name other) :
    Softens (checkBinop a b holds op name aText bText site true) (checkBinop a b holds op other aText bText site false) := by
  apply Softens.ite _ .recordPass
  apply Softens.failImpl _ _ _ (by decide)
  iterate 6 apply renamed_append
  exact renamed

theorem checkNear_softens (a b d t : σ → Str) : Softens (assertNear site a b d t holds aText bText) (expectNear site a b d t holds aText bText) :=
  .ite _ .recordPass (.failImpl (.inl rfl) _ _ (by decide))

theorem checkThrows_softens (stmt : Softens hard soft) (exType stmtText : Str) (handles : UserException → Bool) :
    Softens (assertThrows site hard exType stmtText handles) (expectThrows site soft exType stmtText handles) :=
  .throwsCheck _ _ _ _ stmt (by decide)

end

-- The events of a check and of its sibling: a failure is reported from the same place with
-- the same operands, and the expression differs in the name of the macro only.
inductive Twin : Event → Event → Prop where
  | statement : Twin .statement .statement
  | passed : Twin .passed .passed
  | failed (renamed : Renamed expr other) (detail : Str) (site : Site) (weaker : eased = true → fatal = true) :
      Twin (.failed fatal (failureText expr detail site)) (.failed eased (failureText other detail site))

abbrev Twins : List Event → List Event → Prop := List.Forall₂ Twin

section
variable {α : Type} (p : α → Bool)

def Clear (l : List α) : Prop := ∀ a ∈ l, p a = false

def through : List α → List α
  | [] => []
  | a :: rest => if p a then [a] else a :: through rest

variable {p}

theorem clear_cons : Clear p (a :: rest) ↔ p a = false ∧ Clear p rest := List.forall_mem_cons

theorem clear_append : Clear p (one ++ two) ↔ Clear p one ∧ Clear p two := List.forall_mem_append

theorem through_clear (clear : Clear p one) (two : List α) : through p (one ++ two) = one ++ through p two := by
  induction one with
  | nil => rfl
  | cons a rest ih =>
    obtain ⟨calm,later⟩ := clear_cons.mp clear
    rw [List.cons_append,through,calm,ih later,List.cons_append]
    rfl

theorem through_met (met : ¬Clear p one) (two : List α) : through p (one ++ two) = through p one := by
  induction one with
  | nil => exact absurd (fun _ present => absurd present List.not_mem_nil) met
  | cons a rest ih =>
    rw [List.cons_append,through,through]
    split
    · rfl
    · rename_i calm
      rw [ih fun clear => met (clear_cons.mpr ⟨Bool.eq_false_of_not_eq_true calm,clear⟩)]

theorem through_opens (l : List α) : through p l <+: l := by
  induction l with
  | nil => exact List.prefix_refl _
  | cons a rest ih =>
    rw [through]
    split
    · exact ⟨rest,rfl⟩
    · exact (List.prefix_cons_inj a).mpr ih

theorem clear_through : Clear p (through p l) ↔ Clear p l := by
  constructor
  · intro clear
    induction l with
    | nil => exact clear
    | cons a rest ih =>
      rw [through] at clear
      split at clear
      · rename_i met
        rw [clear a (List.mem_singleton.mpr rfl)] at met
        cases met
      · obtain ⟨calm,later⟩ := clear_cons.mp clear
        exact clear_cons.mpr ⟨calm,ih later⟩
  · intro clear a present
    exact clear a ((through_opens l).subset present)

variable {R : α → α → Prop} (same : ∀ a b, R a b → p a = p b)
include same

theorem related_clear (related : List.Forall₂ R one other) : Clear p one ↔ Clear p other := by
  induction related with
  | nil => exact Iff.rfl
  | cons head _ ih => rw [clear_cons,clear_cons,same _ _ head,ih]

theorem related_through (related : List.Forall₂ R one other) : List.Forall₂ R (through p one) (through p other) := by
  induction related with
  | nil => exact .nil
  | @cons a b _ _ head _ ih =>
    rw [through,through,← same a b head]
    split
    · exact .cons head .nil
    · exact .cons head ih

theorem through_chain (first : List.Forall₂ R (through p one) (through p other))
    (next : Clear p one → List.Forall₂ R one other ∧ List.Forall₂ R (through p two) (through p more)) :
    List.Forall₂ R (through p (one ++ two)) (through p (other ++ more)) := by
  by_cases clear : Clear p one
  · obtain ⟨front,back⟩ := next clear
    rw [through_clear clear,through_clear ((related_clear same front).mp clear)]
    exact List.rel_append front back
  · have met : ¬Clear p other := fun none =>
      clear (clear_through.mp ((related_clear same first).mpr (clear_through.mpr none)))
    rw [through_met clear,through_met met]
    exact first

end

def Quiet (trace : List Event) : Prop := Clear fatalEvent trace

def judged (trace : List Event) : List Event := through fatalEvent trace

theorem judged_opens (trace : List Event) : judged trace <+: trace := through_opens trace

def failing : Event → Bool
  | .failed _ _ => true
  | _ => false

def Clean (trace : List Event) : Prop := Clear failing trace

theorem clean_quiet (clean : Clean trace) : Quiet trace := by
  intro event present
  have calm := clean event present
  cases event with
  | statement | passed => rfl
  | failed fatal message => cases calm

theorem twin_failing (one other : Event) (twin : Twin one other) : failing one = failing other := by
  cases twin <;> rfl

-- How two executions go together: if no fatal check failed they are the same but for the
-- names of checks, and otherwise up to the first fatal check that failed.
structure Agrees (hard soft : Result σ) : Prop where
  whole : Quiet hard.trace → soft.flow = hard.flow ∧ soft.state = hard.state ∧ Twins hard.trace soft.trace
  opening : ∃ front, front <+: soft.trace ∧ Twins (judged hard.trace) front

theorem twins_opening (twins : Twins hard soft) : ∃ front, front <+: soft ∧ Twins (judged hard) front := by
  have front := List.forall₂_take (judged hard).length twins
  rw [← List.prefix_iff_eq_take.mp (judged_opens hard)] at front
  exact ⟨_,List.take_prefix _ _,front⟩

theorem agrees_same {hard soft : Result σ} (flow : soft.flow = hard.flow) (state : soft.state = hard.state)
    (twins : Twins hard.trace soft.trace) : Agrees hard soft := ⟨fun _ => ⟨flow,state,twins⟩,twins_opening twins⟩

-- Once a fatal check has failed, nothing that follows matters.
theorem Agrees.loud {hard soft hard' soft' : Result σ} (agrees : Agrees hard soft) (loud : ¬Quiet hard.trace)
    (more : hard.trace <+: hard'.trace) (more' : soft.trace <+: soft'.trace) : Agrees hard' soft' := by
  obtain ⟨later,shape⟩ := more
  constructor
  · intro quiet
    rw [← shape] at quiet
    exact absurd (clear_append.mp quiet).1 loud
  · obtain ⟨front,opens,twins⟩ := agrees.opening
    refine ⟨front,opens.trans more',?_⟩
    rw [← shape,judged,through_met loud]
    exact twins

theorem Agrees.after {hard soft later later' : Result σ} (agrees : Agrees hard soft)
    (next : Quiet hard.trace → Agrees later later') : Agrees (later.after hard.trace) (later'.after soft.trace) := by
  by_cases quiet : Quiet hard.trace
  · obtain ⟨_,_,twins⟩ := agrees.whole quiet
    constructor
    · intro both
      obtain ⟨flow,state,rest⟩ := (next quiet).whole (clear_append.mp both).2
      exact ⟨flow,state,List.rel_append twins rest⟩
    · obtain ⟨front,opens,rest⟩ := (next quiet).opening
      refine ⟨soft.trace ++ front,(List.prefix_append_right_inj _).mpr opens,?_⟩
      simp only [Result.after,judged,through_clear quiet]
      exact List.rel_append twins rest
  · exact agrees.loud quiet ⟨_,rfl⟩ ⟨_,rfl⟩

theorem andThen_grows (r : Result σ) (next : CheckSink → σ → Result σ) : r.trace <+: (r.andThen next).trace := by
  unfold Result.andThen
  split
  · exact ⟨_,rfl⟩
  · exact List.prefix_refl _

theorem Agrees.andThen {hard soft : Result σ} {next next' : CheckSink → σ → Result σ} (agrees : Agrees hard soft)
    (each : ∀ sink sink' s, Agrees (next sink s) (next' sink' s)) : Agrees (hard.andThen next) (soft.andThen next') := by
  by_cases quiet : Quiet hard.trace
  · obtain ⟨flow,state,_⟩ := agrees.whole quiet
    unfold Result.andThen
    rw [flow,state]
    split
    · exact agrees.after fun _ => each _ _ _
    · exact agrees
  · exact agrees.loud quiet (andThen_grows hard next) (andThen_grows soft next')

theorem iterate_agrees {step step' : CheckSink → σ → Result σ} (each : ∀ sink sink' s, Agrees (step sink s) (step' sink' s))
    (n : Nat) (sink sink' : CheckSink) (s : σ) : Agrees (iterate step n sink s) (iterate step' n sink' s) := by
  induction n generalizing sink sink' s with
  | zero => exact agrees_same rfl rfl .nil
  | succ n ih => exact (each sink sink' s).andThen ih

theorem call_trace (helper : Body σ) (sink : CheckSink) (s : σ) : (exec (.call helper) sink s).trace = (exec helper sink s).trace := by
  simp only [exec]
  split <;> rfl

theorem try_grows (stmt handler : Body σ) (handles : UserException → Bool) (sink : CheckSink) (s : σ) :
    (exec stmt sink s).trace <+: (exec (.tryCatch stmt handles handler) sink s).trace := by
  simp only [exec]
  split
  · split
    · exact ⟨_,rfl⟩
    · exact List.prefix_refl _
  · exact List.prefix_refl _

theorem throws_grows (stmt : Body σ) (exType stmtText : Str) (handles : UserException → Bool) (site : Site) (fatal : Bool)
    (sink : CheckSink) (s : σ) :
    (exec stmt sink s).trace <+: (exec (.throwsCheck stmt exType stmtText handles site fatal) sink s).trace := by
  simp only [exec]
  split
  · exact List.prefix_refl _
  · split <;> exact ⟨_,rfl⟩
  · exact ⟨_,rfl⟩
  · exact ⟨_,rfl⟩

theorem fail_agrees (renamed : Renamed expr other) (detail : Str) (site : Site) (weaker : eased = true → fatal = true)
    (sink sink' : CheckSink) (s : σ) : Agrees (runFail expr detail site fatal sink s) (runFail other detail site eased sink' s) := by
  have twins : Twins (runFail expr detail site fatal sink s).trace (runFail other detail site eased sink' s).trace :=
    .cons (.failed renamed detail site weaker) .nil
  cases fatal with
  | false =>
    cases eased with
    | false => exact agrees_same rfl rfl twins
    | true => cases weaker rfl
  | true =>
    refine ⟨fun quiet => ?_,twins_opening twins⟩
    cases quiet _ (List.mem_singleton.mpr rfl)

-- Induction on the softening; the two executions may start from different sinks.
theorem exec_agrees {hard soft : Body σ} (softer : Softens hard soft) (sink sink' : CheckSink) (s : σ) :
    Agrees (exec hard sink s) (exec soft sink' s) := by
  induction softer generalizing sink sink' s with
  | skip | ret => exact agrees_same rfl rfl .nil
  | recordPass => exact agrees_same rfl rfl (.cons .passed .nil)
  | statement run =>
    simp only [exec]
    split <;> exact agrees_same rfl rfl (.cons .statement .nil)
  | failImpl renamed detail site weaker => exact fail_agrees renamed (detail s) site weaker sink sink' s
  | seq first second ihFirst ihSecond => exact (ihFirst sink sink' s).andThen ihSecond
  | ite cond yes no ihYes ihNo =>
    rw [exec,exec]
    split
    · exact ihYes sink sink' s
    · exact ihNo sink sink' s
  | loop times body ih => exact iterate_agrees ih (times s) sink sink' s
  | @call hard soft helper ih =>
    have inner := ih sink sink' s
    by_cases quiet : Quiet (exec hard sink s).trace
    · obtain ⟨flow,state,trace⟩ := inner.whole quiet
      simp only [exec,flow]
      split
      · exact agrees_same rfl state trace
      · exact inner
    · exact inner.loud quiet (call_trace hard sink s ▸ List.prefix_refl _) (call_trace soft sink' s ▸ List.prefix_refl _)
  | @tryCatch hard soft hard' soft' handles stmt handler ihStmt ihHandler =>
    have inner := ihStmt sink sink' s
    by_cases quiet : Quiet (exec hard sink s).trace
    · obtain ⟨flow,state,trace⟩ := inner.whole quiet
      simp only [exec,flow,state]
      split
      · split
        · exact inner.after fun _ => ihHandler _ _ _
        · exact inner
      · exact inner
    · exact inner.loud quiet (try_grows hard hard' handles sink s) (try_grows soft soft' handles sink' s)
  | @throwsCheck hard soft eased fatal exType stmtText handles site stmt weaker ih =>
    have inner := ih sink sink' s
    by_cases quiet : Quiet (exec hard sink s).trace
    · obtain ⟨flow,state,trace⟩ := inner.whole quiet
      have verdict := fun detail => fail_agrees (.inl rfl : Renamed (text "expected " ++ exType ++ text " from: " ++ stmtText) _)
        detail site weaker (exec hard sink s).sink (exec soft sink' s).sink (exec hard sink s).state
      simp only [exec,flow,state]
      split
      · exact inner
      · split
        · exact inner.after fun _ => agrees_same rfl rfl (.cons .passed .nil)
        · exact inner.after fun _ => verdict _
      · exact inner.after fun _ => verdict _
      · exact inner.after fun _ => verdict _
    · exact inner.loud quiet (throws_grows hard _ _ _ _ _ sink s) (throws_grows soft _ _ _ _ _ sink' s)

theorem judged_failed (loud : ¬Quiet trace) : ¬Clean (judged trace) := fun clean =>
  loud (clear_through.mp (clean_quiet clean))

theorem Agrees.twin {hard soft : Result σ} (agrees : Agrees hard soft) (clean : Clean hard.trace ∨ Clean soft.trace) :
    soft.flow = hard.flow ∧ soft.state = hard.state ∧ Twins hard.trace soft.trace := by
  apply agrees.whole
  rcases clean with clean | clean
  · exact clean_quiet clean
  · by_contra loud
    obtain ⟨front,opens,twins⟩ := agrees.opening
    apply judged_failed loud
    apply (related_clear twin_failing twins).mpr
    exact fun event present => clean event (opens.subset present)

theorem Agrees.first {hard soft : Result σ} (agrees : Agrees hard soft) :
    Twins (through failing hard.trace) (through failing soft.trace) := by
  by_cases quiet : Quiet hard.trace
  · exact related_through twin_failing (agrees.whole quiet).2.2
  · obtain ⟨front,opens,twins⟩ := agrees.opening
    have met : ¬Clear failing (judged hard.trace) := judged_failed quiet
    have met' : ¬Clear failing front := mt (related_clear twin_failing twins).mpr met
    obtain ⟨later,shape⟩ := judged_opens hard.trace
    obtain ⟨later',shape'⟩ := opens
    rw [← shape,← shape',through_met met,through_met met']
    exact related_through twin_failing twins

inductive SoftensCase : CaseBody σ → CaseBody σ → Prop where
  | free (body : Softens hard soft) : SoftensCase (.free hard) (.free soft)
  | fixture (setUp : Softens hardUp softUp) (body : Softens hard soft) (tearDown : Softens hardDown softDown) :
      SoftensCase (.fixture hardUp hard hardDown) (.fixture softUp soft softDown)

structure CaseAgrees (hard soft : Finished σ) : Prop where
  twin : Clean (events hard.trace) ∨ Clean (events soft.trace) →
    soft.escaped = hard.escaped ∧ soft.state = hard.state ∧ Twins (events hard.trace) (events soft.trace)
  first : Twins (through failing (events hard.trace)) (through failing (events soft.trace))

theorem first_clean (first : Twins (through failing one) (through failing two)) : Clean one ↔ Clean two := by
  rw [Clean,Clean,← clear_through,related_clear twin_failing first,clear_through]

theorem fixture_opens (setUp body tearDown : Body σ) (sink : CheckSink) (s : σ) :
    ∃ later, events (runCase (.fixture setUp body tearDown) sink s).trace = (upOf setUp sink s).trace ++ later := by
  cases left : Flow.escaping (upOf setUp sink s).flow with
  | some thrown =>
    rw [fixture_stopped _ _ _ _ _ left]
    exact ⟨[],by rw [events_marks,List.append_nil]⟩
  | none =>
    rw [fixture_ran _ _ _ _ _ left]
    simp only [events_append,events_marks,List.append_assoc]
    exact ⟨_,rfl⟩

theorem fixture_agrees {hardUp softUp hard soft hardDown softDown : Body σ} (setUp : Softens hardUp softUp)
    (body : Softens hard soft) (tearDown : Softens hardDown softDown) (sink sink' : CheckSink) (s : σ) :
    CaseAgrees (runCase (.fixture hardUp hard hardDown) sink s) (runCase (.fixture softUp soft softDown) sink' s) := by
  have up : Agrees (upOf hardUp sink s) (upOf softUp sink' s) := exec_agrees setUp sink sink' s
  by_cases clean : Clean (upOf hardUp sink s).trace
  · obtain ⟨flow,state,trace⟩ := up.twin (.inl clean)
    have inner : Agrees (bodyOf hardUp hard sink s) (bodyOf softUp soft sink' s) := by
      unfold bodyOf
      rw [state]
      exact exec_agrees body _ _ _
    cases left : Flow.escaping (upOf hardUp sink s).flow with
    | some thrown =>
      rw [fixture_stopped _ _ _ _ _ left,fixture_stopped _ _ _ _ _ (flow ▸ left)]
      refine ⟨fun _ => ⟨rfl,state,?_⟩,?_⟩
      · simp only [events_marks]
        exact trace
      · simp only [events_marks]
        exact related_through twin_failing trace
    | none =>
      have down : Clean (bodyOf hardUp hard sink s).trace ∨ Clean (bodyOf softUp soft sink' s).trace →
          Agrees (downOf hardUp hard hardDown sink s) (downOf softUp soft softDown sink' s) := by
        intro quiet
        unfold downOf
        rw [(inner.twin quiet).2.1]
        exact exec_agrees tearDown _ _ _
      rw [fixture_ran _ _ _ _ _ left,fixture_ran _ _ _ _ _ (flow ▸ left)]
      constructor
      · intro every
        simp only [events_append,events_marks,Clean,clear_append] at every
        have middle := every.imp (fun both => both.1.2) fun both => both.1.2
        obtain ⟨bodyFlow,_,bodyTrace⟩ := inner.twin middle
        obtain ⟨downFlow,downState,downTrace⟩ := (down middle).twin (every.imp And.right And.right)
        refine ⟨by rw [downFlow,bodyFlow],downState,?_⟩
        simp only [events_append,events_marks]
        exact List.rel_append (List.rel_append trace bodyTrace) downTrace
      · simp only [events_append,events_marks,List.append_assoc]
        apply through_chain twin_failing (related_through twin_failing trace)
        intro _
        refine ⟨trace,through_chain twin_failing inner.first fun quiet => ?_⟩
        exact ⟨(inner.twin (.inl quiet)).2.2,(down (.inl quiet)).first⟩
  · have met : ¬Clear failing (upOf hardUp sink s).trace := clean
    have met' : ¬Clear failing (upOf softUp sink' s).trace := mt (first_clean up.first).mpr clean
    obtain ⟨later,shape⟩ := fixture_opens hardUp hard hardDown sink s
    obtain ⟨more,shape'⟩ := fixture_opens softUp soft softDown sink' s
    constructor
    · rintro (every | every)
      · rw [shape] at every
        exact absurd (clear_append.mp every).1 clean
      · rw [shape'] at every
        exact absurd (clear_append.mp every).1 met'
    · rw [shape,shape',through_met met,through_met met']
      exact up.first

theorem case_agrees {hard soft : CaseBody σ} (softer : SoftensCase hard soft) (sink sink' : CheckSink) (s : σ) :
    CaseAgrees (runCase hard sink s) (runCase soft sink' s) := by
  cases softer with
  | @free hard soft body =>
    have agrees := exec_agrees body sink sink' s
    constructor
    · intro clean
      simp only [runCase,events_marks] at clean ⊢
      obtain ⟨flow,state,trace⟩ := agrees.twin clean
      exact ⟨congrArg Flow.escaping flow,state,trace⟩
    · simp only [runCase,events_marks]
      exact agrees.first
  | fixture setUp body tearDown => exact fixture_agrees setUp body tearDown sink sink' s

theorem clean_failing (trace : List Event) : Clean trace ↔ ¬Failing trace := by
  constructor
  · rintro clean ⟨fatal,message,present⟩
    cases clean _ present
  · intro none event present
    cases event with
    | statement | passed => rfl
    | failed fatal message => exact absurd ⟨fatal,message,present⟩ none

theorem twins_passes (twins : Twins one two) : passes one = passes two := by
  have kept := List.rel_filter (p := (· = .passed)) (q := (· = .passed)) (fun a b twin => by cases twin <;> simp) twins
  exact kept.length_eq

structure SoftReport (hard soft : Finished σ) (r r' : TestResult) : Prop where
  passes : r'.outcome = .passed ↔ r.outcome = .passed
  same : r.outcome = .passed → r'.assertionsPassed = r.assertionsPassed ∧ soft.state = hard.state
  first : Twins (through failing (events hard.trace)) (through failing (events soft.trace))

theorem twin_passes {hard soft : Finished σ} (agrees : CaseAgrees hard soft) :
    (¬Escapes soft ∧ ¬Failing (events soft.trace)) ↔ (¬Escapes hard ∧ ¬Failing (events hard.trace)) := by
  simp only [← clean_failing,first_clean agrees.first,Escapes]
  constructor
  · rintro ⟨quiet,clean⟩
    rw [(agrees.twin (.inr clean)).1] at quiet
    exact ⟨quiet,clean⟩
  · rintro ⟨quiet,clean⟩
    rw [← (agrees.twin (.inr clean)).1] at quiet
    exact ⟨quiet,clean⟩

def guarded (guard : Body Nat) : TestCase (CaseBody Nat) :=
  { suite := text "Probe"
    name := text "guards"
    tags := .empty
    timeout := 250
    body := .fixture .skip (.seq guard (throwing probeError)) .skip }

def fitted (n : Nat) : Bool := n != 7
def busy (n : Nat) : Bool := n == 2
def present (n : Nat) : Bool := n == 1
def chipId (n : Nat) : Operand := .integer n
def wanted (_ : Nat) : Operand := .integer 1
def volts (n : Nat) : Str := natText n
def missing (e : UserException) : Bool := e.type == text "HardwareError"

-- Four checks that pass, one of them on a helper that throws, and one that fails.
def hardGuard : TestCase (CaseBody Nat) := guarded
  (.seq (.seq (assertTrue probeSite fitted (text "fitted(id)")) (assertFalse probeSite busy (text "busy(id)")))
    (.seq (.seq (assertThrows probeSite (throwing probeError) (text "HardwareError") (text "probe()") missing)
        (assertNear probeSite volts volts volts volts fitted (text "volts") (text "volts")))
      (assertEq probeSite chipId wanted present (text "id") (text "1"))))

def softGuard : TestCase (CaseBody Nat) := guarded
  (.seq (.seq (expectTrue probeSite fitted (text "fitted(id)")) (expectFalse probeSite busy (text "busy(id)")))
    (.seq (.seq (expectThrows probeSite (throwing probeError) (text "HardwareError") (text "probe()") missing)
        (expectNear probeSite volts volts volts volts fitted (text "volts") (text "volts")))
      (expectEq probeSite chipId wanted present (text "id") (text "1"))))

theorem guard_softens : SoftensCase hardGuard.body softGuard.body := by
  apply SoftensCase.fixture .skip _ .skip
  apply Softens.seq _ (.statement _)
  apply Softens.seq
  · exact .seq (checkTrue_softens _ _ _) (checkFalse_softens _ _ _)
  · apply Softens.seq
    · exact .seq (checkThrows_softens _ (.statement _) _ _ _) (checkNear_softens _ _ _ _ _ _ _ _)
    · exact checkBinop_softens _ _ _ _ _ _ _ (.inr ⟨text "EQ",rfl,rfl⟩)

example : ((runOneInt .new hardGuard 0 40 41).map (·.outcome),(runOneInt .new softGuard 0 30 31).map (·.outcome)) =
    (some .failed,some .error) := by decide

end Edtf.Softening

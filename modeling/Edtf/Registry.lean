import Mathlib.Tactic
import Edtf.BodyTraces
import Edtf.SortedSets

namespace Edtf.Registry
open ByteText Assertions BodyTraces SortedSets

-- std::set compares its strings byte by byte, which is the order of lists of bytes.
instance strOrder : Std.LawfulOrderLT Str := inferInstance

abbrev TagSet := SortedSet Str

-- One registered test over a type β of bodies. A timeout of zero means that the case
-- has none of its own; register_case stores any long long, negative ones too.
structure TestCase (β : Type) where
  suite : Str
  name : Str
  tags : TagSet
  timeout : Int
  body : β

def TestCase.fullName (tc : TestCase β) : Str := tc.suite ++ text "." ++ tc.name

def flush (out : TagSet) (cur : Str) : TagSet := if cur = [] then out else out.insert cur

def parseLoop : Str → TagSet → Str → TagSet
  | [],out,cur => flush out cur
  | c :: rest,out,cur =>
    if c = byteOf ',' ∨ c = byteOf ' ' ∨ c = byteOf '\t' then parseLoop rest (flush out cur) []
    else parseLoop rest out (cur ++ [c])

def parseTags (spec : Str) : TagSet := parseLoop spec .empty []

-- The process-wide registry is the list of the cases added so far.
def registerCase (cases : List (TestCase β)) (suite name tagSpec : Str) (timeoutMs : Int) (body : β) :
    List (TestCase β) :=
  cases ++ [{ suite := suite
              name := name
              tags := parseTags tagSpec
              timeout := timeoutMs
              body := body }]

-- The body of a registered case: a free function (TEST_CASE), or the wrapper that
-- TEST_SUITE_F generates around a fixture with its own state.
inductive CaseBody (σ : Type) where
  | free (body : Body σ)
  | fixture (setUp body tearDown : Body σ)

inductive Phase where
  | setUp | body | tearDown
  deriving DecidableEq, Repr

inductive Mark where
  | enter (phase : Phase)
  | event (phase : Phase) (event : Event)
  deriving DecidableEq, Repr

def marks (phase : Phase) (trace : List Event) : List Mark := .enter phase :: trace.map (.event phase)

structure Finished (σ : Type) where
  escaped : Option Thrown
  sink : CheckSink
  state : σ
  trace : List Mark

-- What leaves a function that was called: its own return does not.
def Flow.escaping : Flow → Option Thrown
  | .threw thrown => some thrown
  | _ => none

def runCase : CaseBody σ → CheckSink → σ → Finished σ
  | .free body,sink,s =>
    let b := exec body sink s
    ⟨Flow.escaping b.flow,b.sink,b.state,marks .body b.trace⟩
  | .fixture setUp body tearDown,sink,s =>
    let u := exec setUp sink s
    match Flow.escaping u.flow with
    | some thrown => ⟨some thrown,u.sink,u.state,marks .setUp u.trace⟩
    | none =>
      let b := exec body u.sink u.state
      let d := exec tearDown b.sink b.state
      let trace := marks .setUp u.trace ++ marks .body b.trace ++ marks .tearDown d.trace
      match Flow.escaping b.flow with
      | some thrown =>
        -- catch (...) { tear_down(); throw; }: what tear_down throws replaces it
        match Flow.escaping d.flow with
        | some later => ⟨some later,d.sink,d.state,trace⟩
        | none => ⟨some thrown,d.sink,d.state,trace⟩
      | none => ⟨Flow.escaping d.flow,d.sink,d.state,trace⟩

def events (trace : List Mark) : List Event := trace.filterMap fun | .event _ e => some e | .enter _ => none

theorem events_marks (phase : Phase) (trace : List Event) : events (marks phase trace) = trace := by
  simp [events,marks,List.filterMap_map]

theorem events_append (one two : List Mark) : events (one ++ two) = events one ++ events two :=
  List.filterMap_append

theorem replay_append (sink : CheckSink) (one two : List Event) :
    replay sink (one ++ two) = replay (replay sink one) two := List.foldl_append

section
variable {σ : Type} (setUp body tearDown : Body σ) (sink : CheckSink) (s : σ)

def upOf : Result σ := exec setUp sink s
def bodyOf : Result σ := exec body (upOf setUp sink s).sink (upOf setUp sink s).state
def downOf : Result σ :=
  exec tearDown (bodyOf setUp body sink s).sink (bodyOf setUp body sink s).state

theorem fixture_stopped (threw : Flow.escaping (upOf setUp sink s).flow = some thrown) :
    runCase (.fixture setUp body tearDown) sink s =
      ⟨some thrown,(upOf setUp sink s).sink,(upOf setUp sink s).state,marks .setUp (upOf setUp sink s).trace⟩ := by
  unfold upOf at *
  simp only [runCase,threw]

theorem fixture_ran (returned : Flow.escaping (upOf setUp sink s).flow = none) :
    runCase (.fixture setUp body tearDown) sink s =
      ⟨(Flow.escaping (downOf setUp body tearDown sink s).flow).or (Flow.escaping (bodyOf setUp body sink s).flow),
        (downOf setUp body tearDown sink s).sink,(downOf setUp body tearDown sink s).state,
        marks .setUp (upOf setUp sink s).trace ++ marks .body (bodyOf setUp body sink s).trace ++
          marks .tearDown (downOf setUp body tearDown sink s).trace⟩ := by
  unfold downOf bodyOf upOf at *
  simp only [runCase,returned]
  split
  · rename_i thrown threw
    split
    · rename_i later replaced
      rw [replaced,Option.some_or]
    · rename_i quiet
      rw [quiet,threw,Option.none_or]
  · rename_i quiet
    rw [quiet,Option.or_none]

end

theorem runCase_sink (c : CaseBody σ) (sink : CheckSink) (s : σ) :
    (runCase c sink s).sink = replay sink (events (runCase c sink s).trace) := by
  cases c with
  | free body =>
    simp only [runCase,events_marks]
    exact exec_sink body sink s
  | fixture setUp body tearDown =>
    have up : (upOf setUp sink s).sink = replay sink (upOf setUp sink s).trace := exec_sink setUp sink s
    have inner : (bodyOf setUp body sink s).sink =
        replay (upOf setUp sink s).sink (bodyOf setUp body sink s).trace := exec_sink body _ _
    have down : (downOf setUp body tearDown sink s).sink =
        replay (bodyOf setUp body sink s).sink (downOf setUp body tearDown sink s).trace := exec_sink tearDown _ _
    cases left : Flow.escaping (upOf setUp sink s).flow with
    | some thrown =>
      rw [fixture_stopped _ _ _ _ _ left]
      simp only [events_marks]
      exact up
    | none =>
      rw [fixture_ran _ _ _ _ _ left]
      simp only [events_append,events_marks,replay_append]
      rw [← up,← inner]
      exact down

end Edtf.Registry

import Mathlib.Tactic
import Edtf.ByteText

namespace Edtf.Assertions
open ByteText

-- Receives the outcome of every check of one test. The counters have no limit here; with
-- that of an int they are BodyTraces.replayInt.
structure CheckSink where
  passed : Nat
  failed : Nat
  failures : Str
  deriving DecidableEq, Repr

def CheckSink.new : CheckSink := ⟨0,0,[]⟩

structure Site where
  file : Str
  line : Int
  deriving DecidableEq, Repr

def Site.label (site : Site) : Str := site.file ++ text ":" ++ intText site.line ++ text ": "

def failureText (expr detail : Str) (site : Site) : Str :=
  site.label ++ expr ++ if detail = [] then [] else text "\n    " ++ detail

def CheckSink.recordPass (sink : CheckSink) : CheckSink := {sink with passed := sink.passed+1}

def CheckSink.addFailure (sink : CheckSink) (message : Str) : CheckSink :=
  let separated := if sink.failures = [] then sink.failures else sink.failures ++ text "\n"
  {sink with failed := sink.failed+1,failures := separated ++ message}

def CheckSink.recordFailure (sink : CheckSink) (expr detail : Str) (site : Site) : CheckSink :=
  sink.addFailure (failureText expr detail site)

-- A compared value together with the stringify overload that it selects. A value of any
-- other type is rendered by its own operator<<, whose output is taken as given.
inductive Operand where
  | boolean (value : Bool)
  | cString (value : Option Str)
  | string (value : Str)
  | byte (value : UInt8)
  | integer (value : Int)
  | streamed (output : Str)
  deriving DecidableEq, Repr

def stringify : Operand → Str
  | .boolean value => if value then text "true" else text "false"
  | .cString (some value) => text "\"" ++ value ++ text "\""
  | .cString none => text "nullptr"
  | .string value => text "\"" ++ value ++ text "\""
  | .byte value => [value]
  | .integer value => intText value
  | .streamed output => output

-- An exception object of user code: `what` is present iff its class derives from
-- std::exception. AssertionAbort is neither and is thrown by the macros only.
structure UserException where
  type : Str
  what : Option Str
  deriving DecidableEq, Repr

inductive Thrown where
  | abort (message : Str)
  | user (exception : UserException)
  deriving DecidableEq, Repr

inductive Flow where
  | normal
  | returned
  | threw (thrown : Thrown)
  deriving DecidableEq, Repr

-- Test code over a state σ of its own (the fixture's members, the mocks, its locals).
-- `throwsCheck` is EDTF_CHECK_THROWS; the other macros are written with `ite`,
-- `recordPass` and `failImpl`. User handlers never catch AssertionAbort.
inductive Body (σ : Type) where
  | skip
  | statement (run : σ → σ × Option UserException)
  | recordPass
  | failImpl (expr : Str) (detail : σ → Str) (site : Site) (fatal : Bool)
  | seq (first second : Body σ)
  | ite (cond : σ → Bool) (yes no : Body σ)
  | loop (times : σ → Nat) (body : Body σ)
  | ret
  | call (helper : Body σ)
  | tryCatch (stmt : Body σ) (handles : UserException → Bool) (handler : Body σ)
  | throwsCheck (stmt : Body σ) (exType stmtText : Str) (handles : UserException → Bool) (site : Site) (fatal : Bool)

section Macros
variable {σ : Type}

def checkTrue (cond : σ → Bool) (condText : Str) (site : Site) (fatal : Bool) : Body σ :=
  .ite cond .recordPass (.failImpl (text "expected true: " ++ condText) (fun _ => []) site fatal)

def checkFalse (cond : σ → Bool) (condText : Str) (site : Site) (fatal : Bool) : Body σ :=
  .ite (fun s => !cond s) .recordPass (.failImpl (text "expected false: " ++ condText) (fun _ => []) site fatal)

def checkBinop (a b : σ → Operand) (holds : σ → Bool) (op name aText bText : Str) (site : Site) (fatal : Bool) : Body σ :=
  .ite holds .recordPass (.failImpl (name ++ text ": " ++ aText ++ text " " ++ op ++ text " " ++ bText)
    (fun s => text "lhs = " ++ stringify (a s) ++ text "\n    rhs = " ++ stringify (b s)) site fatal)

-- The operands are doubles: `holds` is `edtf_d <= edtf_t` and the four values come as
-- their operator<< output.
def checkNear (a b d t : σ → Str) (holds : σ → Bool) (aText bText : Str) (site : Site) (fatal : Bool) : Body σ :=
  .ite holds .recordPass (.failImpl (text "ASSERT_NEAR: " ++ aText ++ text " ~= " ++ bText)
    (fun s => text "lhs = " ++ stringify (.streamed (a s)) ++ text "\n    rhs = " ++ stringify (.streamed (b s)) ++
      text "\n    |diff| = " ++ stringify (.streamed (d s)) ++ text " > tol " ++ stringify (.streamed (t s))) site fatal)

def addFailure (msg : Str) (site : Site) : Body σ := .failImpl (text "FAIL") (fun _ => msg) site false
def fail (msg : Str) (site : Site) : Body σ := .failImpl (text "FAIL") (fun _ => msg) site true

section Families
variable (site : Site)

def assertTrue (cond : σ → Bool) (condText : Str) : Body σ := checkTrue cond condText site true
def assertFalse (cond : σ → Bool) (condText : Str) : Body σ := checkFalse cond condText site true
def assertEq (a b : σ → Operand) (holds : σ → Bool) (aText bText : Str) : Body σ :=
  checkBinop a b holds (text "==") (text "ASSERT_EQ") aText bText site true
def assertNe (a b : σ → Operand) (holds : σ → Bool) (aText bText : Str) : Body σ :=
  checkBinop a b holds (text "!=") (text "ASSERT_NE") aText bText site true
def assertLt (a b : σ → Operand) (holds : σ → Bool) (aText bText : Str) : Body σ :=
  checkBinop a b holds (text "<") (text "ASSERT_LT") aText bText site true
def assertLe (a b : σ → Operand) (holds : σ → Bool) (aText bText : Str) : Body σ :=
  checkBinop a b holds (text "<=") (text "ASSERT_LE") aText bText site true
def assertGt (a b : σ → Operand) (holds : σ → Bool) (aText bText : Str) : Body σ :=
  checkBinop a b holds (text ">") (text "ASSERT_GT") aText bText site true
def assertGe (a b : σ → Operand) (holds : σ → Bool) (aText bText : Str) : Body σ :=
  checkBinop a b holds (text ">=") (text "ASSERT_GE") aText bText site true
def assertNear (a b d t : σ → Str) (holds : σ → Bool) (aText bText : Str) : Body σ :=
  checkNear a b d t holds aText bText site true
def assertThrows (stmt : Body σ) (exType stmtText : Str) (handles : UserException → Bool) : Body σ :=
  .throwsCheck stmt exType stmtText handles site true

def expectTrue (cond : σ → Bool) (condText : Str) : Body σ := checkTrue cond condText site false
def expectFalse (cond : σ → Bool) (condText : Str) : Body σ := checkFalse cond condText site false
def expectEq (a b : σ → Operand) (holds : σ → Bool) (aText bText : Str) : Body σ :=
  checkBinop a b holds (text "==") (text "EXPECT_EQ") aText bText site false
def expectNe (a b : σ → Operand) (holds : σ → Bool) (aText bText : Str) : Body σ :=
  checkBinop a b holds (text "!=") (text "EXPECT_NE") aText bText site false
def expectLt (a b : σ → Operand) (holds : σ → Bool) (aText bText : Str) : Body σ :=
  checkBinop a b holds (text "<") (text "EXPECT_LT") aText bText site false
def expectLe (a b : σ → Operand) (holds : σ → Bool) (aText bText : Str) : Body σ :=
  checkBinop a b holds (text "<=") (text "EXPECT_LE") aText bText site false
def expectGt (a b : σ → Operand) (holds : σ → Bool) (aText bText : Str) : Body σ :=
  checkBinop a b holds (text ">") (text "EXPECT_GT") aText bText site false
def expectGe (a b : σ → Operand) (holds : σ → Bool) (aText bText : Str) : Body σ :=
  checkBinop a b holds (text ">=") (text "EXPECT_GE") aText bText site false
def expectNear (a b d t : σ → Str) (holds : σ → Bool) (aText bText : Str) : Body σ :=
  checkNear a b d t holds aText bText site false
def expectThrows (stmt : Body σ) (exType stmtText : Str) (handles : UserException → Bool) : Body σ :=
  .throwsCheck stmt exType stmtText handles site false

end Families

def throwing (exception : UserException) : Body σ := .statement fun s => (s,some exception)

end Macros

-- What an execution evaluated, in order. This is bookkeeping of the model: the code
-- only updates the sink.
inductive Event where
  | statement
  | passed
  | failed (fatal : Bool) (message : Str)
  deriving DecidableEq, Repr

structure Result (σ : Type) where
  flow : Flow
  sink : CheckSink
  state : σ
  trace : List Event

variable {σ : Type}

def finish (flow : Flow) (sink : CheckSink) (state : σ) : Result σ := ⟨flow,sink,state,[]⟩

def Result.after (trace : List Event) (r : Result σ) : Result σ := {r with trace := trace ++ r.trace}

def Result.andThen (r : Result σ) (next : CheckSink → σ → Result σ) : Result σ :=
  match r.flow with
  | .normal => (next r.sink r.state).after r.trace
  | _ => r

def runPass (sink : CheckSink) (state : σ) : Result σ := ⟨.normal,sink.recordPass,state,[.passed]⟩

def runFail (expr detail : Str) (site : Site) (fatal : Bool) (sink : CheckSink) (state : σ) : Result σ :=
  { flow := if fatal then .threw (.abort (site.label ++ expr)) else .normal
    sink := sink.recordFailure expr detail site
    state := state
    trace := [.failed fatal (failureText expr detail site)] }

def iterate (step : CheckSink → σ → Result σ) : Nat → CheckSink → σ → Result σ
  | 0,sink,state => finish .normal sink state
  | n+1,sink,state => (step sink state).andThen (iterate step n)

def exec : Body σ → CheckSink → σ → Result σ
  | .skip,sink,s => finish .normal sink s
  | .statement run,sink,s =>
    match run s with
    | (next,none) => ⟨.normal,sink,next,[.statement]⟩
    | (next,some e) => ⟨.threw (.user e),sink,next,[.statement]⟩
  | .recordPass,sink,s => runPass sink s
  | .failImpl expr detail site fatal,sink,s => runFail expr (detail s) site fatal sink s
  | .seq first second,sink,s => (exec first sink s).andThen (exec second)
  | .ite cond yes no,sink,s => if cond s then exec yes sink s else exec no sink s
  | .loop times body,sink,s => iterate (exec body) (times s) sink s
  | .ret,sink,s => finish .returned sink s
  | .call helper,sink,s =>
    let r := exec helper sink s
    match r.flow with
    | .returned => {r with flow := .normal}
    | _ => r
  | .tryCatch stmt handles handler,sink,s =>
    let r := exec stmt sink s
    match r.flow with
    | .threw (.user e) => if handles e then (exec handler r.sink r.state).after r.trace else r
    | _ => r
  | .throwsCheck stmt exType stmtText handles site fatal,sink,s =>
    let r := exec stmt sink s
    let expr := text "expected " ++ exType ++ text " from: " ++ stmtText
    match r.flow with
    | .returned => r
    | .threw (.user e) =>
      if handles e then (runPass r.sink r.state).after r.trace
      else (runFail expr (text "a different exception type was thrown") site fatal r.sink r.state).after r.trace
    | .threw (.abort _) =>  -- the catch-all takes the abort of a nested fatal check too
      (runFail expr (text "a different exception type was thrown") site fatal r.sink r.state).after r.trace
    | .normal => (runFail expr (text "no exception was thrown") site fatal r.sink r.state).after r.trace

end Edtf.Assertions

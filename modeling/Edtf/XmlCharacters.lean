import Mathlib.Tactic
import Edtf.JunitReports
import Edtf.Verdicts
import Edtf.Utf8Text

namespace Edtf.XmlCharacters
open ByteText Assertions BodyTraces Registry Results RunOne Reporters Runs ReportReading JunitReports Verdicts Utf8Text

-- The characters that a document may hold: tab, line feed, carriage return and everything
-- from the space on (but for U+FFFE and U+FFFF, which XML 1.0 leaves out as well).
def XmlChar (c : Char) : Prop := c.toNat = 9 ∨ c.toNat = 10 ∨ c.toNat = 13 ∨ 32 ≤ c.toNat

def Legal (s : Str) : Prop := Encodes XmlChar s

def plainByte (b : UInt8) : Bool := b == 9 || b == 10 || b == 13 || (32 ≤ b && b < 128)

theorem plainByte_allowed (b : UInt8) : plainByte b = true ↔ b.toNat < 128 ∧ XmlChar (asciiChar b) := by
  have same : ∀ c : UInt8, b = c ↔ b.toNat = c.toNat := fun c => UInt8.toNat_inj.symm
  simp only [plainByte,Bool.or_eq_true,beq_iff_eq,Bool.and_eq_true,decide_eq_true_eq,same,UInt8.le_iff_toNat_le,
    UInt8.lt_iff_toNat_lt,XmlChar,asciiChar_value]
  have values : (9 : UInt8).toNat = 9 ∧ (10 : UInt8).toNat = 10 ∧ (13 : UInt8).toNat = 13 ∧ (32 : UInt8).toNat = 32 ∧
      (128 : UInt8).toNat = 128 := by decide
  omega

theorem plain_all (all : s.all plainByte = true) : Plain XmlChar s :=
  fun b present => (plainByte_allowed b).mp (List.all_eq_true.mp all b present)

theorem legal_plain (all : s.all plainByte = true) : Legal s := plain_encodes (plain_all all)

theorem legal_after (all : s.all plainByte = true) (rest : Str) : Legal (s ++ rest) ↔ Legal rest :=
  encodes_after (plain_all all) rest

theorem legal_between (all : s.all plainByte = true) (filled : s ≠ []) (before rest : Str) :
    Legal (before ++ (s ++ rest)) ↔ Legal before ∧ Legal rest :=
  encodes_between (plain_all all) filled before rest

theorem legal_before (all : s.all plainByte = true) (before : Str) : Legal (before ++ s) ↔ Legal before :=
  encodes_before (plain_all all) before

theorem digit_plain (digit : isDigit b = true) : plainByte b = true := by
  simp only [isDigit,Bool.and_eq_true,decide_eq_true_eq,UInt8.le_iff_toNat_le] at digit
  refine (plainByte_allowed b).mpr ⟨?_,?_⟩
  · have high : b.toNat ≤ 57 := digit.2
    omega
  · have low : 48 ≤ b.toNat := digit.1
    simp only [XmlChar,asciiChar_value]
    omega

theorem natText_plain (n : Nat) : (natText n).all plainByte = true :=
  List.all_eq_true.mpr fun b present => digit_plain (natText_digits n b present)

theorem intText_plain (i : Int) : (intText i).all plainByte = true := by
  cases i with
  | ofNat n => exact natText_plain n
  | negSucc n =>
    have sign : plainByte (byteOf '-') = true := by decide
    rw [intText,List.all_cons,sign,natText_plain]
    rfl

theorem seconds_plain (ms : Nat) : (seconds ms).all plainByte = true := by
  have point : (text ".").all plainByte = true := by decide
  simp only [seconds,List.all_append,natText_plain,point,Bool.and_self]

theorem escapeByte_plain (b : UInt8) :
    escapeByte b = [b] ∨ (b.toNat < 128 ∧ XmlChar (asciiChar b)) ∧ escapeByte b ≠ [] ∧ Plain XmlChar (escapeByte b) := by
  unfold escapeByte
  split_ifs with isAmp isLess isGreater isQuote isApos
  · rw [isAmp]
    exact .inr ⟨(plainByte_allowed _).mp (by decide),by decide,plain_all (by decide)⟩
  · rw [isLess]
    exact .inr ⟨(plainByte_allowed _).mp (by decide),by decide,plain_all (by decide)⟩
  · rw [isGreater]
    exact .inr ⟨(plainByte_allowed _).mp (by decide),by decide,plain_all (by decide)⟩
  · rw [isQuote]
    exact .inr ⟨(plainByte_allowed _).mp (by decide),by decide,plain_all (by decide)⟩
  · rw [isApos]
    exact .inr ⟨(plainByte_allowed _).mp (by decide),by decide,plain_all (by decide)⟩
  · exact .inl rfl

theorem legal_escape (s : Str) : Legal (xmlEscape s) ↔ Legal s := encodes_replaced escapeByte escapeByte_plain [] s

theorem legal_field (all : s.all plainByte = true) (filled : s ≠ []) (field rest : Str) :
    Legal (xmlEscape field ++ (s ++ rest)) ↔ Legal field ∧ Legal rest := by
  rw [legal_between all filled,legal_escape]

structure LegalResult (r : TestResult) : Prop where
  suite : Legal r.suite
  name : Legal r.name
  detail : r.ok = false → Legal r.detail

theorem legalResult_passed (passed : r.ok = true) : LegalResult r ↔ Legal r.suite ∧ Legal r.name := by
  constructor
  · exact fun legal => ⟨legal.suite,legal.name⟩
  · refine fun both => ⟨both.1,both.2,fun failed => ?_⟩
    rw [passed] at failed
    cases failed

theorem legalResult_failed (failed : r.ok = false) : LegalResult r ↔ Legal r.suite ∧ Legal r.name ∧ Legal r.detail :=
  ⟨fun legal => ⟨legal.suite,legal.name,legal.detail failed⟩,fun all => ⟨all.1,all.2.1,fun _ => all.2.2⟩⟩

theorem junitCase_front (r : TestResult) (rest : Str) :
    Legal (text "    <testcase classname=\"" ++ (xmlEscape r.suite ++ (text "\" name=\"" ++ (xmlEscape r.name ++
      (text "\" time=\"" ++ (seconds r.duration ++ (text "\"" ++ rest))))))) ↔
      Legal r.suite ∧ Legal r.name ∧ Legal rest := by
  rw [legal_after (by decide),legal_field (by decide) (by decide),legal_field (by decide) (by decide),
    legal_after (seconds_plain _),legal_after (by decide)]

theorem verdict_legal (opens : opening.all plainByte = true) (ends : ending.all plainByte = true) (filled : ending ≠ [])
    (detail rest : Str) :
    Legal (text ">\n" ++ ((opening ++ (xmlEscape detail ++ ending)) ++ (text "    </testcase>\n" ++ rest))) ↔
      Legal detail ∧ Legal rest := by
  rw [List.append_assoc,List.append_assoc,legal_after (by decide),legal_after opens,legal_field ends filled,legal_after (by decide)]

theorem junitCase_legal (r : TestResult) (rest : Str) : Legal (junitCase r ++ rest) ↔ LegalResult r ∧ Legal rest := by
  cases ok : r.ok with
  | true =>
    rw [legalResult_passed ok]
    simp only [junitCase,ok,↓reduceIte,List.append_assoc]
    rw [junitCase_front,legal_after (by decide),and_assoc]
  | false =>
    rw [legalResult_failed ok]
    simp only [junitCase,ok,Bool.false_eq_true,↓reduceIte,List.append_assoc]
    rw [junitCase_front,and_assoc,and_assoc]
    refine and_congr_right fun _ => and_congr_right fun _ => ?_
    cases outcome : r.outcome with
    | passed =>
      rw [TestResult.ok,outcome] at ok
      cases ok
    | failed =>
      refine verdict_legal ?_ ?_ ?_ r.detail rest <;> decide
    | timeout =>
      refine verdict_legal ?_ ?_ ?_ r.detail rest <;> decide
    | error =>
      refine verdict_legal ?_ ?_ ?_ r.detail rest <;> decide

theorem cases_legal (results : List TestResult) (rest : Str) :
    Legal (results.flatMap junitCase ++ rest) ↔ (∀ r ∈ results, LegalResult r) ∧ Legal rest := by
  induction results with
  | nil => simp
  | cons r later ih =>
    rw [List.flatMap_cons,List.append_assoc,junitCase_legal,ih,List.forall_mem_cons,and_assoc]

theorem counts_legal (s : RunSummary) (rest : Str) :
    Legal (intText s.total ++ (text "\" failures=\"" ++ (intText s.failed ++ (text "\" errors=\"" ++
      (intText (s.errored + s.timedOut) ++ (text "\" time=\"" ++ (seconds s.duration ++ (text "\">\n" ++ rest)))))))) ↔
      Legal rest := by
  rw [legal_after (intText_plain _),legal_after (by decide),legal_after (intText_plain _),legal_after (by decide),
    legal_after (intText_plain _),legal_after (by decide),legal_after (seconds_plain _),legal_after (by decide)]

theorem junitEnd_legal (suite : Str) (results : List TestResult) (s : RunSummary) :
    Legal (junitEnd suite results s) ↔ Legal suite ∧ ∀ r ∈ results, LegalResult r := by
  have prolog : (text "<?xml version=\"1.0\" encoding=\"UTF-8\"?>\n").all plainByte = true := by decide
  have suites : (text "<testsuites tests=\"").all plainByte = true := by decide
  have opening : (text "  <testsuite name=\"").all plainByte = true := by decide
  have tests : (text "\" tests=\"").all plainByte = true := by decide
  have closing : Legal (text "  </testsuite>\n" ++ text "</testsuites>\n") := legal_plain (by decide)
  unfold junitEnd
  simp only [List.append_assoc]
  rw [legal_after prolog,legal_after suites,counts_legal,legal_after opening,legal_field tests (by decide),counts_legal,
    cases_legal]
  exact and_congr_right fun _ => ⟨And.left,fun all => ⟨all,closing⟩⟩

-- What a failing check reports beside its expression: the two values that it compared, the
-- four that it printed, or a message.
inductive Detail where
  | compared (lhs rhs : Operand)
  | near (a b d t : Str)
  | message (msg : Str)

def Detail.text : Detail → Str
  | .compared lhs rhs => ByteText.text "lhs = " ++ stringify lhs ++ ByteText.text "\n    rhs = " ++ stringify rhs
  | .near a b d t =>
    ByteText.text "lhs = " ++ stringify (.streamed a) ++ ByteText.text "\n    rhs = " ++ stringify (.streamed b) ++
      ByteText.text "\n    |diff| = " ++ stringify (.streamed d) ++ ByteText.text " > tol " ++ stringify (.streamed t)
  | .message msg => msg

structure FailedCheck where
  expr : Str
  detail : Detail
  site : Site

def FailedCheck.text (c : FailedCheck) : Str := failureText c.expr c.detail.text c.site

def LegalOperand : Operand → Prop
  | .boolean _ => True
  | .cString none => True
  | .cString (some value) => Legal value
  | .string value => Legal value
  | .byte value => plainByte value = true
  | .integer _ => True
  | .streamed output => Legal output

def LegalDetail : Detail → Prop
  | .compared lhs rhs => LegalOperand lhs ∧ LegalOperand rhs
  | .near a b d t => Legal a ∧ Legal b ∧ Legal d ∧ Legal t
  | .message msg => Legal msg

structure LegalCheck (c : FailedCheck) : Prop where
  file : Legal c.site.file
  expr : Legal c.expr
  detail : LegalDetail c.detail

theorem legal_byte (b : UInt8) : Legal [b] ↔ plainByte b = true := by
  constructor
  · exact fun legal => (plainByte_allowed b).mpr (encodes_byte legal)
  · exact fun plain => legal_plain (by rw [List.all_cons,plain]; rfl)

theorem legal_quoted (value : Str) : Legal (text "\"" ++ value ++ text "\"") ↔ Legal value := by
  rw [List.append_assoc,legal_after (by decide),legal_before (by decide)]

theorem legal_stringify (o : Operand) : Legal (stringify o) ↔ LegalOperand o := by
  cases o with
  | boolean value =>
    refine iff_of_true (legal_plain ?_) trivial
    cases value <;> decide
  | cString value =>
    cases value with
    | none => exact iff_of_true (legal_plain (by decide)) trivial
    | some value => exact legal_quoted value
  | string value => exact legal_quoted value
  | byte value => exact legal_byte value
  | integer value => exact iff_of_true (legal_plain (intText_plain value)) trivial
  | streamed output => exact Iff.rfl

theorem legal_detail (d : Detail) : Legal d.text ↔ LegalDetail d := by
  cases d with
  | compared lhs rhs =>
    rw [Detail.text,List.append_assoc,List.append_assoc,legal_after (by decide),legal_between (by decide) (by decide),
      legal_stringify,legal_stringify]
    exact Iff.rfl
  | near a b d t =>
    have values : ∀ output, Legal (stringify (.streamed output)) ↔ Legal output := fun output => legal_stringify (.streamed output)
    simp only [Detail.text,List.append_assoc]
    rw [legal_after (by decide),legal_between (by decide) (by decide),legal_between (by decide) (by decide),
      legal_between (by decide) (by decide),values,values,values,values]
    exact Iff.rfl
  | message msg => exact Iff.rfl

theorem label_legal (site : Site) (rest : Str) : Legal (site.label ++ rest) ↔ Legal site.file ∧ Legal rest := by
  have line : (text ":" ++ (intText site.line ++ text ": ")).all plainByte = true := by
    have colon : (text ":").all plainByte = true := by decide
    have gap : (text ": ").all plainByte = true := by decide
    simp only [List.all_append,colon,gap,intText_plain,Bool.and_self]
  have shape : site.label ++ rest = site.file ++ ((text ":" ++ (intText site.line ++ text ": ")) ++ rest) := by
    simp only [Site.label,List.append_assoc]
  rw [shape,legal_between line (by intro none; cases none)]

theorem legal_failure (expr detail : Str) (site : Site) :
    Legal (failureText expr detail site) ↔ Legal site.file ∧ Legal expr ∧ Legal detail := by
  rw [failureText,List.append_assoc,label_legal]
  by_cases empty : detail = []
  · rw [if_pos empty,empty,List.append_nil]
    exact and_congr_right fun _ => ⟨fun legal => ⟨legal,encodes_nil⟩,And.left⟩
  · rw [if_neg empty,legal_between (by decide) (by decide)]

theorem legal_check (c : FailedCheck) : Legal c.text ↔ LegalCheck c := by
  rw [FailedCheck.text,legal_failure,legal_detail]
  exact ⟨fun all => ⟨all.1,all.2.1,all.2.2⟩,fun legal => ⟨legal.file,legal.expr,legal.detail⟩⟩

theorem addFailure_legal (sink : CheckSink) (message : Str) :
    Legal (sink.addFailure message).failures ↔ Legal sink.failures ∧ Legal message := by
  unfold CheckSink.addFailure
  by_cases first : sink.failures = []
  · simp only [first,↓reduceIte,List.nil_append]
    exact ⟨fun legal => ⟨encodes_nil,legal⟩,And.right⟩
  · simp only [if_neg first,List.append_assoc]
    exact legal_between (by decide) (by decide) _ _

theorem replay_legal (sink : CheckSink) (trace : List Event) :
    Legal (replay sink trace).failures ↔ Legal sink.failures ∧ ∀ message ∈ failureMessages trace, Legal message := by
  have none : Legal sink.failures ↔ Legal sink.failures ∧ ∀ message ∈ ([] : List Str), Legal message := by simp
  refine replay_rule (fun now messages => Legal now.failures ↔ Legal sink.failures ∧ ∀ message ∈ messages, Legal message)
    ?_ ?_ none trace
  · intro now messages same; exact same
  · intro now messages message same
    rw [addFailure_legal,same,and_assoc,List.forall_mem_append,List.forall_mem_singleton]

def Describes (checks : List FailedCheck) (run : Finished σ) : Prop :=
  failureMessages (events run.trace) = checks.map FailedCheck.text

theorem case_legal (c : CaseBody σ) (s : σ) (described : Describes checks (runCase c .new s)) :
    Legal (runCase c .new s).sink.failures ↔ ∀ check ∈ checks, LegalCheck check := by
  have start : Legal CheckSink.new.failures := encodes_nil
  rw [runCase_sink,replay_legal,described]
  simp only [List.forall_mem_map,legal_check,start,true_and]

-- An escaping exception is reported instead of the failing checks.
def LegalEnding (escaped : Option Thrown) (checks : List FailedCheck) : Prop :=
  match escaped with
  | some (.user e) => ∀ what, e.what = some what → Legal what
  | _ => ∀ check ∈ checks, LegalCheck check

theorem caught_legal (e : UserException) :
    Legal (Shared.new.caught (some (.user e))).detail ↔ ∀ what, e.what = some what → Legal what := by
  simp only [Shared.caught]
  cases e.what with
  | none => exact iff_of_true (legal_plain (by decide)) (by simp)
  | some what =>
    rw [legal_after (by decide)]
    simp

theorem collect_legal (tc : TestCase β) (c : CaseBody σ) (s : σ) (time elapsed : Nat)
    (described : Describes checks (runCase c .new s)) :
    ((collect tc (ended c s time).shared elapsed).ok = false → Legal (collect tc (ended c s time).shared elapsed).detail) ↔
      LegalEnding (runCase c .new s).escaped checks := by
  have texts := case_legal c s described
  by_cases escapes : Escapes (runCase c .new s)
  · obtain ⟨e,left⟩ := escapes
    rw [collect_error tc (ended c s time) elapsed left,left]
    simp only [TestResult.ok,reduceCtorEq,decide_false,forall_const]
    exact caught_legal e
  · have quiet : ∀ e, (ended c s time).escaped ≠ some (.user e) := fun e left => escapes ⟨e,left⟩
    have ending : LegalEnding (runCase c .new s).escaped checks ↔ ∀ check ∈ checks, LegalCheck check := by
      unfold LegalEnding
      split
      · rename_i e left
        exact absurd left (quiet e)
      · exact Iff.rfl
    rw [collect_judged tc (ended c s time) elapsed quiet,ending]
    by_cases failing : 0 < (ended c s time).sink.failed
    · rw [if_pos failing]
      simp only [TestResult.ok,reduceCtorEq,decide_false,forall_const]
      exact texts
    · have counted : (runCase c .new s).sink.failed = checks.length := by
        rw [case_failed,described,List.length_map]
      have none : checks = [] := by
        refine List.length_eq_zero_iff.mp ?_
        rw [← counted]
        exact Nat.eq_zero_of_not_pos failing
      rw [if_neg failing,none]
      simp [TestResult.ok]

structure CaseRun (σ : Type) where
  state : σ
  finish : Option Nat
  elapsed : Nat

def CaseRun.execution (c : CaseRun σ) (tc : TestCase (CaseBody σ)) : Execution :=
  ⟨c.finish.map (ended tc.body c.state),c.elapsed⟩

def performing (chosen : List (TestCase (CaseBody σ))) (runs : Nat → CaseRun σ) (elapsed : Nat) : Environment :=
  { execution := fun k =>
      match chosen[k]? with
      | some tc => (runs k).execution tc
      | none => ⟨none,0⟩
    elapsed := elapsed }

theorem expired_legal (tc : TestCase β) (deadline : Int) (elapsed : Nat) : Legal (expired tc deadline elapsed).detail := by
  simp only [expired,expiredDetail,List.append_assoc]
  rw [legal_after (by decide),legal_after (intText_plain _)]
  exact legal_plain (by decide)

theorem late_result (tc : TestCase β) (e : Execution)
    (late : ∀ ending, e.ending = some ending → ¬InTime (deadlineOf opts tc) ending.finish)
    (returned : runOne opts tc e = some r) : r = expired tc (deadlineOf opts tc) e.elapsed := by
  by_cases limited : 0 < deadlineOf opts tc
  · exact Option.some.inj (returned.symm.trans (runOne_late limited late))
  · cases ends : e.ending with
    | none =>
      rw [runOne,ends,Option.map_none,await,if_neg limited] at returned
      cases returned
    | some ending => exact absurd (fun positive => absurd positive limited) (late ending ends)

theorem result_legal (tc : TestCase (CaseBody σ)) (c : CaseRun σ)
    (described : Describes checks (runCase tc.body .new c.state))
    (returned : runOne opts tc (c.execution tc) = some r) :
    (r.ok = false → Legal r.detail) ↔ ∀ time, c.finish = some time → InTime (deadlineOf opts tc) time →
      LegalEnding (runCase tc.body .new c.state).escaped checks := by
  by_cases within : ∃ time, c.finish = some time ∧ InTime (deadlineOf opts tc) time
  · obtain ⟨time,finished,inTime⟩ := within
    have execution : c.execution tc = ⟨some (ended tc.body c.state time),c.elapsed⟩ := by
      rw [CaseRun.execution,finished,Option.map_some]
    have joined : runOne opts tc ⟨some (ended tc.body c.state time),c.elapsed⟩ =
        some (collect tc (ended tc.body c.state time).shared c.elapsed) := runOne_inTime inTime
    rw [execution,joined] at returned
    cases returned
    rw [collect_legal tc tc.body c.state time c.elapsed described]
    constructor
    · exact fun legal _ _ _ => legal
    · exact fun legal => legal time finished inTime
  · have late : ∀ time, c.finish = some time → ¬InTime (deadlineOf opts tc) time :=
      fun time finished inTime => within ⟨time,finished,inTime⟩
    have expires : r = expired tc (deadlineOf opts tc) (c.execution tc).elapsed := by
      apply late_result tc (c.execution tc) _ returned
      intro ending ends inTime
      obtain ⟨time,finished,rfl⟩ := Option.map_eq_some_iff.mp ends
      exact late time finished inTime
    refine iff_of_true (fun _ => ?_) fun time finished inTime => absurd inTime (late time finished)
    rw [expires]
    exact expired_legal tc _ _

-- What is legal about a case: its names, and if it ends before its deadline the text of
-- the exception that escapes, or otherwise everything that its failing checks print.
structure LegalCase (opts : RunOptions) (tc : TestCase (CaseBody σ)) (c : CaseRun σ) (checks : List FailedCheck) : Prop where
  suite : Legal tc.suite
  name : Legal tc.name
  ending : ∀ time, c.finish = some time → InTime (deadlineOf opts tc) time →
    LegalEnding (runCase tc.body .new c.state).escaped checks

theorem legal_case (tc : TestCase (CaseBody σ)) (c : CaseRun σ)
    (described : Describes checks (runCase tc.body .new c.state))
    (returned : runOne opts tc (c.execution tc) = some r) : LegalResult r ↔ LegalCase opts tc c checks := by
  have detail := result_legal tc c described returned
  obtain ⟨suite,name⟩ := runOne_named returned
  constructor
  · intro legal
    refine ⟨?_,?_,detail.mp legal.detail⟩
    · rw [← suite]
      exact legal.suite
    · rw [← name]
      exact legal.name
  · intro legal
    refine ⟨?_,?_,detail.mpr legal.ending⟩
    · rw [suite]
      exact legal.suite
    · rw [name]
      exact legal.name

theorem results_forall (P : TestResult → Prop) (Q : Nat → TestCase β → Prop) (cases : List (TestCase β)) (k : Nat)
    (returned : resultsOf opts env k cases = some results)
    (each : ∀ j tc r, cases[j]? = some tc → runOne opts tc (env (k+j)) = some r → (P r ↔ Q (k+j) tc)) :
    (∀ r ∈ results, P r) ↔ ∀ j tc, cases[j]? = some tc → Q (k+j) tc := by
  induction cases generalizing k results with
  | nil =>
    cases returned
    simp
  | cons tc rest ih =>
    obtain ⟨r,later,first,second,rfl⟩ := resultsOf_cons returned
    have shift : ∀ j, k+1+j = k+(j+1) := fun j => by omega
    have head := each 0 tc r rfl first
    have tail := ih (k+1) second fun j other result present ran => by
      rw [shift] at ran ⊢
      exact each (j+1) other result present ran
    rw [List.forall_mem_cons,head,tail]
    constructor
    · rintro ⟨one,more⟩ j other present
      cases j with
      | zero =>
        cases present
        exact one
      | succ j =>
        rw [← shift]
        exact more j other present
    · intro all
      refine ⟨all 0 tc rfl,fun j other present => ?_⟩
      rw [shift]
      exact all (j+1) other present

theorem junit_legal {cases : List (TestCase β)} (executed : Executed opts cases env runner results ran)
    (format : opts.format = .junit) : Legal ran.report ↔ Legal opts.junitSuite ∧ ∀ r ∈ results, LegalResult r := by
  have made : makeReporter opts = makeJunitReporter opts.junitSuite := by simp only [makeReporter,format]
  rw [executed_report executed,made,junitText,junitEnd_legal]

theorem document_legal (opts : RunOptions) (cases : List (TestCase (CaseBody σ))) (runs : Nat → CaseRun σ)
    (elapsed : Nat) (runner : Runner) (ran : Ran) (checks : Nat → List FailedCheck)
    (format : opts.format = .junit) (executes : opts.listOnly = false)
    (described : ∀ k tc, (selectedCases opts cases)[k]? = some tc →
      Describes (checks k) (runCase tc.body .new (runs k).state))
    (returned : run opts cases (performing (selectedCases opts cases) runs elapsed) runner = some ran) :
    Legal ran.report ↔ Legal opts.junitSuite ∧
      ∀ k tc, (selectedCases opts cases)[k]? = some tc → LegalCase opts tc (runs k) (checks k) := by
  obtain ⟨results,executed⟩ := run_executed executes returned
  rw [junit_legal executed format]
  refine and_congr_right fun _ => ?_
  have every := results_forall LegalResult (fun k tc => LegalCase opts tc (runs k) (checks k)) _ 0 executed.returned
    fun k tc r present returned => by
      rw [Nat.zero_add] at returned ⊢
      simp only [performing,present] at returned
      exact legal_case tc (runs k) (described k tc present) returned
  simp only [Nat.zero_add] at every
  exact every

def junitOptions : RunOptions := {RunOptions.new with format := .junit}

def registerProbe (read expected : Operand) : TestCase (CaseBody Unit) :=
  { suite := text "Bank"
    name := text "reads"
    tags := .empty
    timeout := 250
    body := .free (expectEq probeSite (fun _ => read) (fun _ => expected) (fun _ => false) (text "bank.read(0)") (text "id")) }

def quickRun : Nat → CaseRun Unit := fun _ => ⟨(),some 3,3⟩

def probeRun (read expected : Operand) : Option Ran :=
  run junitOptions [registerProbe read expected]
    (performing (selectedCases junitOptions [registerProbe read expected]) quickRun 5) .new

def probeChecks (read expected : Operand) : List FailedCheck :=
  [⟨text "EXPECT_EQ: bank.read(0) == id",.compared read expected,probeSite⟩]

theorem probe_described (read expected : Operand) :
    Describes (probeChecks read expected) (runCase (registerProbe read expected).body .new ()) := rfl

def probeResult (read expected : Operand) : TestResult :=
  collect (registerProbe read expected) (ended (registerProbe read expected).body () 3).shared 3

theorem probe_results (read expected : Operand) :
    resultsOf junitOptions (performing (selectedCases junitOptions [registerProbe read expected]) quickRun 5).execution 0
      (selectedCases junitOptions [registerProbe read expected]) = some [probeResult read expected] := rfl

theorem probe_returns (read expected : Operand) : ∃ ran, probeRun read expected = some ran := by
  have executes : junitOptions.listOnly = false := rfl
  have returns := run_returns executes [registerProbe read expected]
    (performing (selectedCases junitOptions [registerProbe read expected]) quickRun 5) .new
  rw [probe_results] at returns
  exact Option.isSome_iff_exists.mp returns

theorem document_legal_integers : ∃ ran, probeRun (.integer 1) (.integer 2) = some ran ∧
    (Legal ran.report ↔ Legal junitOptions.junitSuite ∧
      ∀ k tc, (selectedCases junitOptions [registerProbe (.integer 1) (.integer 2)])[k]? = some tc →
        LegalCase junitOptions tc (quickRun k) (probeChecks (.integer 1) (.integer 2))) := by
  obtain ⟨ran,returned⟩ := probe_returns (.integer 1) (.integer 2)
  refine ⟨ran,returned,document_legal junitOptions _ quickRun 5 .new ran (fun _ => probeChecks (.integer 1) (.integer 2))
    rfl rfl ?_ returned⟩
  intro k tc present
  have member := List.mem_of_getElem? present
  cases List.mem_singleton.mp member
  exact probe_described _ _

theorem bytes_illegal : ∃ ran, probeRun (.byte 1) (.byte 2) = some ran ∧ ¬Legal ran.report := by
  obtain ⟨ran,returned⟩ := probe_returns (.byte 1) (.byte 2)
  refine ⟨ran,returned,fun legal => ?_⟩
  obtain ⟨results,executed⟩ := run_executed rfl returned
  have single := (probe_results (.byte 1) (.byte 2)).symm.trans executed.returned
  cases Option.some.inj single
  have result := ((junit_legal executed rfl).mp legal).2 (probeResult (.byte 1) (.byte 2)) (by simp)
  have printed : (1 : UInt8) ∈ (probeResult (.byte 1) (.byte 2)).detail := by decide
  have control := encodes_member (result.detail rfl) printed (by decide)
  simp [XmlChar,asciiChar_value] at control

end Edtf.XmlCharacters

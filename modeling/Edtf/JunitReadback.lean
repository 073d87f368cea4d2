import Mathlib.Tactic
import Edtf.JunitReports
import Edtf.XmlReading

namespace Edtf.JunitReadback
open ByteText Results Reporters ReportReading Markup JunitReports XmlReading

theorem decode_written (free : semicolon ∉ name) (known : entity name = some c) (rest : Str) :
    decode (ampersand :: (name ++ [semicolon]) ++ rest) = (decode rest).map (c :: ·) := by
  rw [List.cons_append,List.append_assoc,List.singleton_append]
  exact decode_entity free known rest

theorem decode_escapeByte (c : UInt8) (rest : Str) : decode (escapeByte c ++ rest) = (decode rest).map (c :: ·) := by
  have amp : semicolon ∉ text "amp" := by decide
  have lt : semicolon ∉ text "lt" := by decide
  have gt : semicolon ∉ text "gt" := by decide
  have quot : semicolon ∉ text "quot" := by decide
  have apos : semicolon ∉ text "apos" := by decide
  unfold escapeByte
  split_ifs with isAmp isLt isGt isQuot isApos
  · rw [isAmp]
    exact decode_written amp rfl rest
  · rw [isLt]
    exact decode_written lt rfl rest
  · rw [isGt]
    exact decode_written gt rfl rest
  · rw [isQuot]
    exact decode_written quot rfl rest
  · rw [isApos]
    exact decode_written apos rfl rest
  · exact decode_plain isAmp rest

theorem decode_escape (s : Str) : decode (xmlEscape s) = some s := by
  induction s with
  | nil => rfl
  | cons c s ih =>
    rw [xmlEscape,List.flatMap_cons,decode_escapeByte]
    rw [xmlEscape] at ih
    rw [ih,Option.map_some]

theorem escaped_spells (clear : quote ∉ name ∧ greater ∉ name) (s : Str) : Spells (name,xmlEscape s) (name,s) :=
  ⟨rfl,clear,⟨xmlEscape_free (by simp) s,xmlEscape_free (by simp) s⟩,decode_escape s⟩

theorem plain_spells (clear : quote ∉ name ∧ greater ∉ name) (free : quote ∉ s ∧ greater ∉ s) (plain : ampersand ∉ s) :
    Spells (name,s) (name,s) :=
  ⟨rfl,clear,free,decode_free plain⟩

theorem seconds_spells (clear : quote ∉ name ∧ greater ∉ name) (ms : Nat) : Spells (name,seconds ms) (name,seconds ms) :=
  plain_spells clear ⟨seconds_free (by decide) (by decide) ms,seconds_free (by decide) (by decide) ms⟩
    (seconds_free (by decide) (by decide) ms)

theorem count_spells (clear : quote ∉ name ∧ greater ∉ name) (i : Int) : Spells (name,intText i) (name,intText i) :=
  plain_spells clear ⟨intText_clean i (by decide) (by decide),intText_clean i (by decide) (by decide)⟩
    (intText_clean i (by decide) (by decide))

def caseWritten (r : TestResult) : List (Str × Str) :=
  [(text "classname",xmlEscape r.suite),(text "name",xmlEscape r.name),(text "time",seconds r.duration)]

def caseAttributes (r : TestResult) : List (Str × Str) :=
  [(text "classname",r.suite),(text "name",r.name),(text "time",seconds r.duration)]

theorem caseTag_start (r : TestResult) : caseTag r = startText (text "testcase") (caseWritten r) r.ok := by
  have opening : text "testcase classname=" = text "testcase" ++ (text " " ++ (text "classname" ++ text "=")) := rfl
  have naming : text " name=" = text " " ++ (text "name" ++ text "=") := rfl
  have timing : text " time=" = text " " ++ (text "time" ++ text "=") := rfl
  simp only [caseTag,startText,caseWritten,attributeText,opening,naming,timing,List.flatMap_cons,List.flatMap_nil,
    List.append_assoc,List.cons_append,List.nil_append]

theorem case_spells (r : TestResult) : List.Forall₂ Spells (caseWritten r) (caseAttributes r) :=
  .cons (escaped_spells (by decide) r.suite) (.cons (escaped_spells (by decide) r.name)
    (.cons (seconds_spells (by decide) r.duration) .nil))

theorem case_starts (r : TestResult) :
    readTag (caseTag r) = some (.start (text "testcase") (caseAttributes r) r.ok) := by
  rw [caseTag_start]
  exact readTag_start ⟨by decide,by decide⟩ (case_spells r) r.ok

def verdictNodes (r : TestResult) : List Node :=
  match r.outcome with
  | .passed => []
  | .failed => [.chars (text "\n      "),
      .element (text "failure") [(text "message",text "assertion failure")] (charsOf r.detail),.chars (text "\n    ")]
  | .timeout => [.chars (text "\n      "),
      .element (text "error") [(text "type",text "timeout"),(text "message",r.detail)] [],.chars (text "\n    ")]
  | .error => [.chars (text "\n      "),
      .element (text "error") [(text "type",text "exception")] (charsOf r.detail),.chars (text "\n    ")]

def caseNodes (r : TestResult) : List Node :=
  [.chars (text "\n    "),.element (text "testcase") (caseAttributes r) (verdictNodes r)]

def verdictText (r : TestResult) : Str :=
  match r.outcome with
  | .passed => []
  | .failed => text "\n      " ++ less :: (text "failure message=\"assertion failure\"" ++ greater ::
      (xmlEscape r.detail ++ less :: ((text "/" ++ text "failure") ++ greater :: text "\n    ")))
  | .timeout => text "\n      " ++ less :: ((text "error type=\"timeout\" message=\"" ++
      (xmlEscape r.detail ++ text "\"/")) ++ greater :: text "\n    ")
  | .error => text "\n      " ++ less :: (text "error type=\"exception\"" ++ greater ::
      (xmlEscape r.detail ++ less :: ((text "/" ++ text "error") ++ greater :: text "\n    ")))

theorem caseTail_verdict (failed : r.ok = false) :
    caseTail r = verdictText r ++ less :: ((text "/" ++ text "testcase") ++ greater :: text "\n") := by
  have ends : text "\n    " = text "\n" ++ text "    " := rfl
  have opens : text "\n      " = text "\n" ++ text "      " := rfl
  have failure : text "/failure" = text "/" ++ text "failure" := rfl
  have error : text "/error" = text "/" ++ text "error" := rfl
  have testcase : text "/testcase" = text "/" ++ text "testcase" := rfl
  cases outcome : r.outcome with
  | passed =>
    simp only [TestResult.ok,outcome,decide_true,reduceCtorEq] at failed
  | failed =>
    simp only [caseTail,caseEnd,verdictText,outcome,ends,opens,failure,testcase,List.append_assoc,List.cons_append]
  | timeout =>
    simp only [caseTail,caseEnd,verdictText,outcome,ends,opens,testcase,List.append_assoc,List.cons_append]
  | error =>
    simp only [caseTail,caseEnd,verdictText,outcome,ends,opens,error,testcase,List.append_assoc,List.cons_append]

theorem gap_content (gap : Str) (filled : gap ≠ []) (clear : less ∉ gap) (plain : ampersand ∉ gap) :
    Content gap [.chars gap] := by
  have content := Content.text clear (decode_free plain)
  rw [charsOf,if_neg filled] at content
  exact content

theorem detail_content (detail : Str) : Content (xmlEscape detail) (charsOf detail) :=
  .text (xmlEscape_free (by simp) detail) (decode_escape detail)

theorem child_content (content : Content (gap ++ source) (charsOf gap ++ nodes)) (filled : gap ≠ []) :
    Content (gap ++ source) (.chars gap :: nodes) := by
  rw [charsOf,if_neg filled] at content
  exact content

theorem timeout_tag (detail : Str) : text "error type=\"timeout\" message=\"" ++ (xmlEscape detail ++ text "\"/") =
    startText (text "error") [(text "type",text "timeout"),(text "message",xmlEscape detail)] true := by
  have front : text "error type=\"timeout\" message=\"" = text "error" ++ (text " " ++ (text "type" ++ (text "=" ++
      (quote :: (text "timeout" ++ (quote :: (text " " ++ (text "message" ++ (text "=" ++ [quote]))))))))) := rfl
  have back : text "\"/" = quote :: text "/" := rfl
  simp only [startText,attributeText,front,back,List.flatMap_cons,List.flatMap_nil,List.append_assoc,List.cons_append,
    List.nil_append,↓reduceIte]

theorem timeout_spells (detail : Str) : List.Forall₂ Spells
    [(text "type",text "timeout"),(text "message",xmlEscape detail)] [(text "type",text "timeout"),(text "message",detail)] :=
  .cons (plain_spells (by decide) (by decide) (by decide)) (.cons (escaped_spells (by decide) detail) .nil)

theorem verdict_content (r : TestResult) (failed : r.ok = false) : Content (verdictText r) (verdictNodes r) := by
  have opening : less ∉ text "\n      " ∧ ampersand ∉ text "\n      " := by decide
  have last : Content (text "\n    ") [.chars (text "\n    ")] := gap_content _ (by decide) (by decide) (by decide)
  cases outcome : r.outcome with
  | passed =>
    simp only [TestResult.ok,outcome,decide_true,reduceCtorEq] at failed
  | failed =>
    simp only [verdictText,verdictNodes,outcome]
    exact child_content (.element opening.1 (decode_free opening.2) (by decide) rfl (detail_content r.detail)
      (by decide) last) (by decide)
  | timeout =>
    simp only [verdictText,verdictNodes,outcome]
    rw [timeout_tag]
    exact child_content (.empty opening.1 (decode_free opening.2) (startText_free (by decide) (timeout_spells r.detail) true)
      (readTag_start ⟨by decide,by decide⟩ (timeout_spells r.detail) true) last) (by decide)
  | error =>
    simp only [verdictText,verdictNodes,outcome]
    exact child_content (.element opening.1 (decode_free opening.2) (by decide) rfl (detail_content r.detail)
      (by decide) last) (by decide)

theorem case_content (r : TestResult) (later : Content (text "\n" ++ rest) nodes) :
    Content (text "\n" ++ (junitCase r ++ rest)) (caseNodes r ++ nodes) := by
  have opening : less ∉ text "\n    " ∧ ampersand ∉ text "\n    " := by decide
  have gap : text "\n    " = text "\n" ++ text "    " := rfl
  have tag := caseTag_free r
  have starts := case_starts r
  cases ok : r.ok with
  | true =>
    have passed : r.outcome = .passed := by simpa only [TestResult.ok,decide_eq_true_eq] using ok
    have shape : text "\n" ++ (junitCase r ++ rest) =
        text "\n    " ++ less :: (caseTag r ++ greater :: (text "\n" ++ rest)) := by
      simp only [junitCase_shape,caseTail,passed,gap,List.append_assoc,List.cons_append]
    rw [ok] at starts
    rw [shape,caseNodes,verdictNodes,passed]
    exact child_content (.empty opening.1 (decode_free opening.2) tag starts later) (by decide)
  | false =>
    have shape : text "\n" ++ (junitCase r ++ rest) = text "\n    " ++ less :: (caseTag r ++ greater ::
        (verdictText r ++ less :: ((text "/" ++ text "testcase") ++ greater :: (text "\n" ++ rest)))) := by
      simp only [junitCase_shape,caseTail_verdict ok,gap,List.append_assoc,List.cons_append]
    rw [ok] at starts
    rw [shape,caseNodes]
    exact child_content (.element opening.1 (decode_free opening.2) tag starts (verdict_content r ok) (by decide) later)
      (by decide)

def casesNodes (results : List TestResult) : List Node := results.flatMap caseNodes ++ [.chars (text "\n  ")]

theorem cases_content (results : List TestResult) :
    Content (text "\n" ++ (results.flatMap junitCase ++ text "  ")) (casesNodes results) := by
  induction results with
  | nil => exact gap_content (text "\n  ") (by decide) (by decide) (by decide)
  | cons r rest ih =>
    rw [List.flatMap_cons,List.append_assoc,casesNodes,List.flatMap_cons,List.append_assoc]
    exact case_content r ih

-- The two enclosing elements count the results in the same attributes.
def countsOf (s : RunSummary) : List (Str × Str) :=
  [(text "tests",intText s.total),(text "failures",intText s.failed),(text "errors",intText (s.errored + s.timedOut)),
    (text "time",seconds s.duration)]

theorem counts_spells (s : RunSummary) : List.Forall₂ Spells (countsOf s) (countsOf s) :=
  .cons (count_spells (by decide) _) (.cons (count_spells (by decide) _) (.cons (count_spells (by decide) _)
    (.cons (seconds_spells (by decide) _) .nil)))

theorem suite_spells (suite : Str) (s : RunSummary) :
    List.Forall₂ Spells ((text "name",xmlEscape suite) :: countsOf s) ((text "name",suite) :: countsOf s) :=
  .cons (escaped_spells (by decide) suite) (counts_spells s)

def suiteNode (suite : Str) (results : List TestResult) (s : RunSummary) : Node :=
  .element (text "testsuite") ((text "name",suite) :: countsOf s) (casesNodes results)

def documentNode (suite : Str) (results : List TestResult) (s : RunSummary) : Node :=
  .element (text "testsuites") (countsOf s) [.chars (text "\n  "),suiteNode suite results s,.chars (text "\n")]

theorem junitEnd_text (suite : Str) (results : List TestResult) (s : RunSummary) :
    junitEnd suite results s = less :: (xmlTag ++ greater :: (text "\n" ++ less ::
      (startText (text "testsuites") (countsOf s) false ++ greater :: ((text "\n  " ++ less ::
        (startText (text "testsuite") ((text "name",xmlEscape suite) :: countsOf s) false ++ greater ::
          ((text "\n" ++ (results.flatMap junitCase ++ text "  ")) ++ less ::
            ((text "/" ++ text "testsuite") ++ greater :: text "\n")))) ++ less ::
              ((text "/" ++ text "testsuites") ++ greater :: text "\n"))))) := by
  have tests : text " tests=" = text " " ++ (text "tests" ++ text "=") := rfl
  have failures : text " failures=" = text " " ++ (text "failures" ++ text "=") := rfl
  have errors : text " errors=" = text " " ++ (text "errors" ++ text "=") := rfl
  have time : text " time=" = text " " ++ (text "time" ++ text "=") := rfl
  have suiteName : text "testsuite name=" = text "testsuite" ++ (text " " ++ (text "name" ++ text "=")) := rfl
  have suiteGap : text "\n  " = text "\n" ++ text "  " := rfl
  have suiteEnd : text "/testsuite" = text "/" ++ text "testsuite" := rfl
  have suitesEnd : text "/testsuites" = text "/" ++ text "testsuites" := rfl
  unfold junitEnd
  simp only [text_prolog,text_suites,text_failures,text_errors,text_time,text_filled,text_suite,text_tests,
    text_suiteEnd,text_suitesEnd,startText,countsOf,attributeText,List.flatMap_cons,List.flatMap_nil]
  simp only [Bool.false_eq_true,↓reduceIte,List.append_assoc,List.cons_append,List.nil_append]
  simp only [tests,failures,errors,time,suiteName,suiteGap,suiteEnd,suitesEnd,List.append_assoc]

theorem junit_parsed (suite : Str) (results : List TestResult) (s : RunSummary) :
    parse (junitEnd suite results s) = some (documentNode suite results s) := by
  have opening : less ∉ text "\n  " ∧ ampersand ∉ text "\n  " := by decide
  have last : Content (text "\n") [.chars (text "\n")] := gap_content _ (by decide) (by decide) (by decide)
  have suites := counts_spells s
  have inner := suite_spells suite s
  have suiteClosed : greater ∉ text "testsuite" := by decide
  have suiteNamed : Name (text "testsuite") := ⟨by decide,by decide⟩
  have suitesClosed : greater ∉ text "testsuites" := by decide
  have suitesNamed : Name (text "testsuites") := ⟨by decide,by decide⟩
  have content := child_content (.element opening.1 (decode_free opening.2) (startText_free suiteClosed inner false)
    (readTag_start suiteNamed inner false) (cases_content results) suiteClosed last) (by decide)
  rw [junitEnd_text]
  exact document_read (by decide) rfl (by decide) (startText_free suitesClosed suites false)
    (readTag_start suitesNamed suites false) content suitesClosed (by decide)

structure CaseRead where
  suite : Str
  name : Str
  outcome : Outcome
  detail : Option Str
  deriving DecidableEq, Repr

structure ElementRead where
  name : Str
  attributes : List (Str × Str)
  content : List Node

def elementsIn (nodes : List Node) : List ElementRead :=
  nodes.filterMap fun
    | .chars _ => none
    | .element name attributes content => some ⟨name,attributes,content⟩

def ElementRead.attribute (e : ElementRead) (name : Str) : Option Str := e.attributes.lookup name

def textIn : List Node → Option Str
  | [] => some []
  | [.chars s] => some s
  | _ => none

def readVerdict : List ElementRead → Option (Outcome × Option Str)
  | [] => some (.passed,none)
  | [e] =>
    if e.name = text "failure" then (textIn e.content).map fun detail => (.failed,some detail)
    else if e.name = text "error" ∧ e.attribute (text "type") = some (text "timeout") then
      (e.attribute (text "message")).map fun detail => (.timeout,some detail)
    else if e.name = text "error" ∧ e.attribute (text "type") = some (text "exception") then
      (textIn e.content).map fun detail => (.error,some detail)
    else none
  | _ => none

def readCase (e : ElementRead) : Option CaseRead :=
  if e.name = text "testcase" then
    (e.attribute (text "classname")).bind fun suite => (e.attribute (text "name")).bind fun name =>
      (readVerdict (elementsIn e.content)).map fun verdict => ⟨suite,name,verdict.1,verdict.2⟩
  else none

def readSuites (root : Node) : Option (Str × List CaseRead) :=
  match elementsIn [root] with
  | [suites] =>
    if suites.name = text "testsuites" then
      match elementsIn suites.content with
      | [suite] =>
        if suite.name = text "testsuite" then
          (suite.attribute (text "name")).bind fun name =>
            ((elementsIn suite.content).mapM readCase).map fun cases => (name,cases)
        else none
      | _ => none
    else none
  | _ => none

def readJunit (s : Str) : Option (Str × List CaseRead) := (parse s).bind readSuites

def caseOf (r : TestResult) : CaseRead := ⟨r.suite,r.name,r.outcome,if r.ok then none else some r.detail⟩

def caseElement (r : TestResult) : ElementRead := ⟨text "testcase",caseAttributes r,verdictNodes r⟩

theorem textIn_chars (s : Str) : textIn (charsOf s) = some s := by
  by_cases empty : s = []
  · rw [empty]
    rfl
  · rw [charsOf,if_neg empty]
    rfl

theorem readVerdict_written (r : TestResult) :
    readVerdict (elementsIn (verdictNodes r)) = some (r.outcome,if r.ok then none else some r.detail) := by
  have detail := textIn_chars r.detail
  have other : text "error" ≠ text "failure" := by decide
  have apart : some (text "exception") ≠ some (text "timeout") := by decide
  cases outcome : r.outcome with
  | passed => simp only [verdictNodes,outcome,elementsIn,List.filterMap_nil,readVerdict,TestResult.ok,decide_true,↓reduceIte]
  | failed =>
    have found : elementsIn (verdictNodes r) =
        [⟨text "failure",[(text "message",text "assertion failure")],charsOf r.detail⟩] := by
      rw [verdictNodes,outcome]
      rfl
    simp only [found,readVerdict,↓reduceIte,detail,Option.map_some,TestResult.ok,outcome,reduceCtorEq,decide_false,
      Bool.false_eq_true]
  | timeout =>
    have found : elementsIn (verdictNodes r) =
        [⟨text "error",[(text "type",text "timeout"),(text "message",r.detail)],[]⟩] := by
      rw [verdictNodes,outcome]
      rfl
    have kind : ElementRead.attribute ⟨text "error",[(text "type",text "timeout"),(text "message",r.detail)],[]⟩
        (text "type") = some (text "timeout") := rfl
    have message : ElementRead.attribute ⟨text "error",[(text "type",text "timeout"),(text "message",r.detail)],[]⟩
        (text "message") = some r.detail := rfl
    simp only [found,readVerdict,if_neg other,kind,message,and_self,↓reduceIte,Option.map_some,TestResult.ok,outcome,
      reduceCtorEq,decide_false,Bool.false_eq_true]
  | error =>
    have found : elementsIn (verdictNodes r) = [⟨text "error",[(text "type",text "exception")],charsOf r.detail⟩] := by
      rw [verdictNodes,outcome]
      rfl
    have kind : ElementRead.attribute ⟨text "error",[(text "type",text "exception")],charsOf r.detail⟩ (text "type") =
        some (text "exception") := rfl
    simp only [found,readVerdict,if_neg other,kind,apart,and_false,and_self,↓reduceIte,detail,Option.map_some,
      TestResult.ok,outcome,reduceCtorEq,decide_false,Bool.false_eq_true]

theorem readCase_written (r : TestResult) : readCase (caseElement r) = some (caseOf r) := by
  have kind : (caseElement r).name = text "testcase" := rfl
  have suite : (caseElement r).attribute (text "classname") = some r.suite := rfl
  have name : (caseElement r).attribute (text "name") = some r.name := rfl
  rw [readCase,if_pos kind,suite,Option.bind_some,name,Option.bind_some,caseElement,readVerdict_written,Option.map_some]
  rfl

theorem cases_elements (results : List TestResult) : elementsIn (casesNodes results) = results.map caseElement := by
  induction results with
  | nil => rfl
  | cons r rest ih =>
    have first : elementsIn (caseNodes r ++ casesNodes rest) = caseElement r :: elementsIn (casesNodes rest) := rfl
    rw [casesNodes] at first ih
    rw [casesNodes,List.flatMap_cons,List.append_assoc,first,ih,List.map_cons]

-- The text of the reporter is one tree, and suite name, names, outcomes and details are
-- read back from it exactly, for all strings.
theorem junit_read_back (suite : Str) (total : Int) (results : List TestResult) (s : RunSummary) :
    parse (reportText (makeJunitReporter suite) total results s) = some (documentNode suite results s) ∧
      readJunit (reportText (makeJunitReporter suite) total results s) = some (suite,results.map caseOf) := by
  have tree : parse (reportText (makeJunitReporter suite) total results s) = some (documentNode suite results s) := by
    rw [junitText,junit_parsed]
  have named : ElementRead.attribute ⟨text "testsuite",(text "name",suite) :: countsOf s,casesNodes results⟩ (text "name") =
      some suite := rfl
  have cases : (elementsIn (casesNodes results)).mapM readCase = some (results.map caseOf) := by
    rw [cases_elements]
    exact mapM_written fun r _ => readCase_written r
  refine ⟨tree,?_⟩
  rw [readJunit,tree,Option.bind_some]
  show (ElementRead.attribute ⟨text "testsuite",(text "name",suite) :: countsOf s,casesNodes results⟩ (text "name")).bind
    (fun name => ((elementsIn (casesNodes results)).mapM readCase).map fun cases => (name,cases)) = _
  rw [named,Option.bind_some,cases,Option.map_some]

end Edtf.JunitReadback

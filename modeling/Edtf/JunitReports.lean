import Mathlib.Tactic
import Edtf.ReportReading
import Edtf.Markup

namespace Edtf.JunitReports
open ByteText Registry Results RunOne Reporters Runs ReportReading Markup

theorem escapeByte_free (special : c = less ∨ c = greater ∨ c = quote) (b : UInt8) : c ∉ escapeByte b := by
  unfold escapeByte
  rcases special with rfl | rfl | rfl
  all_goals
    split
    · decide
    · split
      · decide
      · split
        · decide
        · split
          · decide
          · split
            · decide
            · intro present
              cases List.mem_singleton.mp present
              contradiction

theorem xmlEscape_free (special : c = less ∨ c = greater ∨ c = quote) (s : Str) : c ∉ xmlEscape s := by
  intro present
  obtain ⟨b,_,inside⟩ := List.mem_flatMap.mp present
  exact escapeByte_free special b inside

theorem escape_identifier (named : Identifier s) : xmlEscape s = s := by
  have plain : ∀ b ∈ s, escapeByte b = [b] := by
    intro b present
    have known := named b present
    have apart : ∀ c, identifierByte c = false → b ≠ c := by
      rintro c other rfl
      rw [known] at other
      cases other
    unfold escapeByte
    rw [if_neg (apart _ (by decide)),if_neg (apart _ (by decide)),if_neg (apart _ (by decide)),
      if_neg (apart _ (by decide)),if_neg (apart _ (by decide))]
  rw [xmlEscape,List.flatMap_congr plain,List.flatMap_singleton']

theorem seconds_free {c : UInt8} (other : isDigit c = false) (dot : c ≠ byteOf '.') (ms : Nat) : c ∉ seconds ms := by
  have digits : ∀ n, c ∉ natText n := fun n => natText_clean n other
  have point : c ∉ text "." := fun present => dot (List.mem_singleton.mp present)
  simp only [seconds,List.mem_append,not_or]
  exact ⟨⟨⟨⟨digits _,point⟩,digits _⟩,digits _⟩,digits _⟩

def caseTag (r : TestResult) : Str :=
  text "testcase classname=" ++ (quote :: (xmlEscape r.suite ++ quote :: (text " name=" ++ (quote :: (xmlEscape r.name ++
    quote :: (text " time=" ++ (quote :: (seconds r.duration ++ quote :: (if r.ok then text "/" else [])))))))))

def resultTags (r : TestResult) : List Str :=
  match r.outcome with
  | .passed => []
  | .failed => [text "failure message=\"assertion failure\"",text "/failure",text "/testcase"]
  | .timeout => [text "error type=\"timeout\" message=\"" ++ (xmlEscape r.detail ++ text "\"/"),text "/testcase"]
  | .error => [text "error type=\"exception\"",text "/error",text "/testcase"]

def countAttributes (total failed errors duration : Nat) : Str :=
  text " tests=" ++ (quote :: (natText total ++ quote :: (text " failures=" ++ (quote :: (natText failed ++
    quote :: (text " errors=" ++ (quote :: (natText errors ++ quote :: (text " time=" ++ (quote ::
      (seconds duration ++ quote :: [])))))))))))

def suitesTag (total failed errors duration : Nat) : Str :=
  text "testsuites" ++ countAttributes total failed errors duration

def suiteTag (suite : Str) (total failed errors duration : Nat) : Str :=
  text "testsuite name=" ++ (quote :: (xmlEscape suite ++ quote :: countAttributes total failed errors duration))

def caseEnd : Str := text "    " ++ (less :: (text "/testcase" ++ greater :: text "\n"))

def caseTail (r : TestResult) : Str :=
  match r.outcome with
  | .passed => text "\n"
  | .failed => text "\n" ++ (text "      " ++ (less :: (text "failure message=\"assertion failure\"" ++ greater ::
      (xmlEscape r.detail ++ (less :: (text "/failure" ++ greater :: (text "\n" ++ caseEnd)))))))
  | .timeout => text "\n" ++ (text "      " ++ (less :: ((text "error type=\"timeout\" message=\"" ++
      (xmlEscape r.detail ++ text "\"/")) ++ greater :: (text "\n" ++ caseEnd))))
  | .error => text "\n" ++ (text "      " ++ (less :: (text "error type=\"exception\"" ++ greater ::
      (xmlEscape r.detail ++ (less :: (text "/error" ++ greater :: (text "\n" ++ caseEnd)))))))

theorem junitCase_shape (r : TestResult) :
    junitCase r = text "    " ++ (less :: (caseTag r ++ greater :: caseTail r)) := by
  have opening : text "    <testcase classname=\"" = text "    " ++ (less :: (text "testcase classname=" ++ [quote])) := rfl
  have naming : text "\" name=\"" = quote :: (text " name=" ++ [quote]) := rfl
  have timing : text "\" time=\"" = quote :: (text " time=" ++ [quote]) := rfl
  have quoted : text "\"" = [quote] := rfl
  have empty : text "/>\n" = text "/" ++ (greater :: text "\n") := rfl
  have filled : text ">\n" = greater :: text "\n" := rfl
  have failure : text "      <failure message=\"assertion failure\">" =
      text "      " ++ (less :: (text "failure message=\"assertion failure\"" ++ [greater])) := rfl
  have failed : text "</failure>\n" = less :: (text "/failure" ++ (greater :: text "\n")) := rfl
  have timeout : text "      <error type=\"timeout\" message=\"" =
      text "      " ++ (less :: text "error type=\"timeout\" message=\"") := rfl
  have expired : text "\"/>\n" = text "\"/" ++ (greater :: text "\n") := rfl
  have error : text "      <error type=\"exception\">" =
      text "      " ++ (less :: (text "error type=\"exception\"" ++ [greater])) := rfl
  have thrown : text "</error>\n" = less :: (text "/error" ++ (greater :: text "\n")) := rfl
  have closing : text "    </testcase>\n" = text "    " ++ (less :: (text "/testcase" ++ (greater :: text "\n"))) := rfl
  cases outcome : r.outcome <;>
    simp only [junitCase,caseTag,caseTail,caseEnd,TestResult.ok,outcome,reduceCtorEq,decide_true,decide_false,
      Bool.false_eq_true,↓reduceIte,opening,naming,timing,quoted,empty,filled,failure,failed,timeout,expired,error,
      thrown,closing,List.append_assoc,List.cons_append,List.nil_append]

theorem caseTag_free (r : TestResult) : greater ∉ caseTag r := by
  have suite := xmlEscape_free (c := greater) (by simp) r.suite
  have name := xmlEscape_free (c := greater) (by simp) r.name
  have time := seconds_free (c := greater) (by decide) (by decide) r.duration
  have apart : greater ≠ quote := by decide
  have one : greater ∉ text "testcase classname=" := by decide
  have two : greater ∉ text " name=" := by decide
  have three : greater ∉ text " time=" := by decide
  have last : greater ∉ (if r.ok then text "/" else []) := by
    split <;> decide
  simp only [caseTag,List.mem_append,List.mem_cons,not_or]
  exact ⟨one,apart,suite,apart,two,apart,name,apart,three,apart,time,apart,last⟩

theorem tagsOf_caseEnd (rest : Str) : tagsOf (caseEnd ++ rest) = text "/testcase" :: tagsOf rest := by
  have free : greater ∉ text "/testcase" := by decide
  have tag := tagsOf_tag free (text "\n" ++ rest)
  rw [caseEnd]
  simp only [List.append_assoc,List.cons_append]
  rw [tagsOf_text (by decide),tag,tagsOf_text (by decide)]

theorem tagsOf_caseTail (r : TestResult) (rest : Str) : tagsOf (caseTail r ++ rest) = resultTags r ++ tagsOf rest := by
  have detail := xmlEscape_free (c := less) (by simp) r.detail
  cases outcome : r.outcome with
  | passed =>
    simp only [caseTail,resultTags,outcome]
    exact tagsOf_text (by decide) rest
  | failed =>
    simp only [caseTail,resultTags,outcome,List.append_assoc,List.cons_append]
    rw [tagsOf_text (by decide),tagsOf_text (by decide),tagsOf_tag (by decide),tagsOf_text detail,tagsOf_tag (by decide),
      tagsOf_text (by decide),tagsOf_caseEnd]
    rfl
  | timeout =>
    have tag : greater ∉ text "error type=\"timeout\" message=\"" ++ (xmlEscape r.detail ++ text "\"/") := by
      have front : greater ∉ text "error type=\"timeout\" message=\"" := by decide
      have back : greater ∉ text "\"/" := by decide
      simp only [List.mem_append,not_or]
      exact ⟨front,xmlEscape_free (by simp) r.detail,back⟩
    have next := tagsOf_tag tag (text "\n" ++ (caseEnd ++ rest))
    simp only [caseTail,resultTags,outcome,List.append_assoc,List.cons_append] at next ⊢
    rw [tagsOf_text (by decide),tagsOf_text (by decide),next,tagsOf_text (by decide),tagsOf_caseEnd]
    rfl
  | error =>
    simp only [caseTail,resultTags,outcome,List.append_assoc,List.cons_append]
    rw [tagsOf_text (by decide),tagsOf_text (by decide),tagsOf_tag (by decide),tagsOf_text detail,tagsOf_tag (by decide),
      tagsOf_text (by decide),tagsOf_caseEnd]
    rfl

theorem tagsOf_case (r : TestResult) (rest : Str) :
    tagsOf (junitCase r ++ rest) = (caseTag r :: resultTags r) ++ tagsOf rest := by
  rw [junitCase_shape]
  simp only [List.append_assoc,List.cons_append]
  rw [tagsOf_text (by decide),tagsOf_tag (caseTag_free r),tagsOf_caseTail]

theorem tagsOf_cases (results : List TestResult) (rest : Str) :
    tagsOf (results.flatMap junitCase ++ rest) =
      (results.flatMap fun r => caseTag r :: resultTags r) ++ tagsOf rest := by
  induction results with
  | nil => rfl
  | cons r later ih => rw [List.flatMap_cons,List.append_assoc,tagsOf_case,ih,List.flatMap_cons,List.append_assoc]

def xmlTag : Str := text "?xml version=\"1.0\" encoding=\"UTF-8\"?"

-- The literals of the reporter, split at their markup.
theorem text_prolog :
    text "<?xml version=\"1.0\" encoding=\"UTF-8\"?>\n" = less :: (xmlTag ++ greater :: text "\n") := rfl

theorem text_suites :
    text "<testsuites tests=\"" = less :: (text "testsuites" ++ (text " tests=" ++ [quote])) := rfl

theorem text_failures : text "\" failures=\"" = quote :: (text " failures=" ++ [quote]) := rfl

theorem text_errors : text "\" errors=\"" = quote :: (text " errors=" ++ [quote]) := rfl

theorem text_time : text "\" time=\"" = quote :: (text " time=" ++ [quote]) := rfl

theorem text_filled : text "\">\n" = quote :: greater :: text "\n" := rfl

theorem text_suite :
    text "  <testsuite name=\"" = text "  " ++ (less :: (text "testsuite name=" ++ [quote])) := rfl

theorem text_tests : text "\" tests=\"" = quote :: (text " tests=" ++ [quote]) := rfl

theorem text_suiteEnd :
    text "  </testsuite>\n" = text "  " ++ (less :: (text "/testsuite" ++ greater :: text "\n")) := rfl

theorem text_suitesEnd : text "</testsuites>\n" = less :: (text "/testsuites" ++ greater :: text "\n") := rfl

theorem junitEnd_shape (suite : Str) (results : List TestResult) (total passed failed timedOut errored duration : Nat) :
    junitEnd suite results ⟨total,passed,failed,timedOut,errored,duration⟩ =
      less :: (xmlTag ++ greater :: (text "\n" ++ (less :: (suitesTag total failed (errored + timedOut) duration ++
        greater :: (text "\n" ++ (text "  " ++ (less :: (suiteTag suite total failed (errored + timedOut) duration ++
          greater :: (text "\n" ++ (results.flatMap junitCase ++ (text "  " ++ (less :: (text "/testsuite" ++
            greater :: (text "\n" ++ (less :: (text "/testsuites" ++ greater :: text "\n")))))))))))))))) := by
  have sum : (errored : Int) + timedOut = ((errored + timedOut : Nat) : Int) := (Nat.cast_add _ _).symm
  unfold junitEnd
  simp only [suitesTag,suiteTag,countAttributes,sum,intText_natCast,text_prolog,text_suites,text_failures,text_errors,
    text_time,text_filled,text_suite,text_tests,text_suiteEnd,text_suitesEnd,List.append_assoc,List.cons_append,
    List.nil_append]

theorem countAttributes_free (total failed errors duration : Nat) :
    greater ∉ countAttributes total failed errors duration := by
  have digits : ∀ n, greater ∉ natText n := fun n => natText_clean n (by decide)
  have time := seconds_free (c := greater) (by decide) (by decide) duration
  have apart : greater ≠ quote := by decide
  have one : greater ∉ text " tests=" := by decide
  have two : greater ∉ text " failures=" := by decide
  have three : greater ∉ text " errors=" := by decide
  have four : greater ∉ text " time=" := by decide
  simp only [countAttributes,List.mem_append,List.mem_cons,List.not_mem_nil,or_false,not_or]
  exact ⟨one,apart,digits _,apart,two,apart,digits _,apart,three,apart,digits _,apart,four,apart,time,apart⟩

theorem suitesTag_free (total failed errors duration : Nat) : greater ∉ suitesTag total failed errors duration := by
  have name : greater ∉ text "testsuites" := by decide
  simp only [suitesTag,List.mem_append,not_or]
  exact ⟨name,countAttributes_free _ _ _ _⟩

theorem suiteTag_free (suite : Str) (total failed errors duration : Nat) :
    greater ∉ suiteTag suite total failed errors duration := by
  have name : greater ∉ text "testsuite name=" := by decide
  have apart : greater ≠ quote := by decide
  simp only [suiteTag,List.mem_append,List.mem_cons,not_or]
  exact ⟨name,apart,xmlEscape_free (by simp) suite,apart,countAttributes_free _ _ _ _⟩

def reportTags (suite : Str) (results : List TestResult) (total failed errors duration : Nat) : List Str :=
  [xmlTag,suitesTag total failed errors duration,suiteTag suite total failed errors duration] ++
    (results.flatMap fun r => caseTag r :: resultTags r) ++ [text "/testsuite",text "/testsuites"]

theorem tagsOf_report (suite : Str) (results : List TestResult) (total passed failed timedOut errored duration : Nat) :
    tagsOf (junitEnd suite results ⟨total,passed,failed,timedOut,errored,duration⟩) =
      reportTags suite results total failed (errored + timedOut) duration := by
  have last : tagsOf (text "\n") = [] := rfl
  rw [junitEnd_shape,tagsOf_tag (by decide),tagsOf_text (by decide),tagsOf_tag (suitesTag_free _ _ _ _),
    tagsOf_text (by decide),tagsOf_text (by decide),tagsOf_tag (suiteTag_free _ _ _ _ _),tagsOf_text (by decide),
    tagsOf_cases,tagsOf_text (by decide),tagsOf_tag (by decide),tagsOf_text (by decide),tagsOf_tag (by decide),last]
  simp only [reportTags,List.cons_append,List.nil_append]

theorem caseTag_attributes (r : TestResult) :
    enclosed quote quote (caseTag r) = [(text "testcase classname=",xmlEscape r.suite),(text " name=",xmlEscape r.name),
      (text " time=",seconds r.duration)] := by
  have last : enclosed quote quote (if r.ok then text "/" else []) = [] := by
    split <;> rfl
  rw [caseTag,enclosed_next (by decide) (xmlEscape_free (by simp) _),enclosed_next (by decide) (xmlEscape_free (by simp) _),
    enclosed_next (by decide) (seconds_free (by decide) (by decide) _),last]

theorem countAttributes_read (front : Str) (free : quote ∉ front) (total failed errors duration : Nat) :
    enclosed quote quote (front ++ countAttributes total failed errors duration) =
      [(front ++ text " tests=",natText total),(text " failures=",natText failed),(text " errors=",natText errors),
        (text " time=",seconds duration)] := by
  have digits : ∀ n, quote ∉ natText n := fun n => natText_clean n (by decide)
  have label : quote ∉ text " tests=" := by decide
  have clear : quote ∉ front ++ text " tests=" := by
    simp only [List.mem_append,not_or]
    exact ⟨free,label⟩
  rw [countAttributes,← List.append_assoc,enclosed_next clear (digits _),enclosed_next (by decide) (digits _),
    enclosed_next (by decide) (digits _),enclosed_next (by decide) (seconds_free (by decide) (by decide) _)]
  rfl

def verdictElements : Outcome → List Str
  | .passed => []
  | .failed => [text "failure"]
  | .timeout => [text "error"]
  | .error => [text "error"]

theorem caseTag_element (r : TestResult) : elementOf (caseTag r) = text "testcase" := rfl

theorem resultTags_elements (r : TestResult) :
    (resultTags r).map elementOf = verdictElements r.outcome ++ (resultTags r).tail.map fun _ => [] := by
  unfold resultTags
  cases r.outcome <;> rfl

def weight (element : Str) (o : Outcome) : Nat := (text "testcase" :: verdictElements o).count element

theorem count_element (element : Str) (filled : element ≠ []) (r : TestResult) :
    (caseTag r :: resultTags r).countP (opensElement element) = weight element r.outcome := by
  have closings : ((resultTags r).tail.map fun _ => ([] : Str)).count element = 0 := by
    refine List.count_eq_zero.mpr fun present => ?_
    obtain ⟨_,_,empty⟩ := List.mem_map.mp present
    exact filled empty.symm
  have counted : ∀ tags : List Str, tags.countP (opensElement element) = (tags.map elementOf).count element := by
    intro tags
    rw [List.count,List.countP_map]
    rfl
  rw [counted,List.map_cons,caseTag_element,resultTags_elements,← List.cons_append,List.count_append,closings]
  rfl

theorem sum_outcome (o : Outcome) (results : List TestResult) :
    (results.map fun r => if r.outcome = o then 1 else 0).sum = tally o results := by
  induction results with
  | nil => rfl
  | cons r rest ih =>
    simp only [tally] at ih
    simp only [List.map_cons,List.sum_cons,ih,tally,List.countP_cons,decide_eq_true_eq]
    exact Nat.add_comm _ _

section
variable (suite : Str) (results : List TestResult) (total failed errors duration : Nat)

theorem count_report (element : Str) (filled : element ≠ [])
    (apart : [text "?xml",text "testsuites",text "testsuite"].count element = 0) :
    (reportTags suite results total failed errors duration).countP (opensElement element) =
      (results.map fun r => weight element r.outcome).sum := by
  have openings : [xmlTag,suitesTag total failed errors duration,suiteTag suite total failed errors duration].countP
      (opensElement element) = [text "?xml",text "testsuites",text "testsuite"].count element := rfl
  have closings : [text "/testsuite",text "/testsuites"].countP (opensElement element) = 0 := by
    refine List.countP_eq_zero.mpr fun tag present => ?_
    have opened : elementOf tag = [] := by
      simp only [List.mem_cons,List.not_mem_nil,or_false] at present
      rcases present with rfl | rfl <;> rfl
    simp only [opensElement,opened,beq_iff_eq]
    exact Ne.symm filled
  rw [reportTags,List.countP_append,List.countP_append,openings,apart,closings,List.countP_flatMap,Nat.zero_add,
    Nat.add_zero]
  exact congrArg List.sum (List.map_congr_left fun r _ => count_element element filled r)

theorem count_testcase :
    (reportTags suite results total failed errors duration).countP (opensElement (text "testcase")) = results.length := by
  have one : ∀ r : TestResult, weight (text "testcase") r.outcome = 1 := by
    intro r
    cases r.outcome <;> decide
  rw [count_report suite results total failed errors duration _ (by decide) (by decide)]
  simp [one]

theorem count_failure :
    (reportTags suite results total failed errors duration).countP (opensElement (text "failure")) =
      tally .failed results := by
  have one : ∀ r : TestResult, weight (text "failure") r.outcome = if r.outcome = .failed then 1 else 0 := by
    intro r
    cases r.outcome <;> decide
  rw [count_report suite results total failed errors duration _ (by decide) (by decide),
    List.map_congr_left fun r _ => one r,sum_outcome]

theorem count_error :
    (reportTags suite results total failed errors duration).countP (opensElement (text "error")) =
      tally .error results + tally .timeout results := by
  have one : ∀ r : TestResult, weight (text "error") r.outcome =
      (if r.outcome = .error then 1 else 0) + if r.outcome = .timeout then 1 else 0 := by
    intro r
    cases r.outcome <;> decide
  rw [count_report suite results total failed errors duration _ (by decide) (by decide),
    List.map_congr_left fun r _ => one r,List.sum_map_add,sum_outcome,sum_outcome]

theorem case_testcases (r : TestResult) :
    (caseTag r :: resultTags r).filter (opensElement (text "testcase")) = [caseTag r] := by
  have own : opensElement (text "testcase") (caseTag r) = true := by rw [opensElement,caseTag_element]; decide
  have others : ∀ tag ∈ resultTags r, ¬opensElement (text "testcase") tag = true := by
    intro tag present
    unfold resultTags at present
    cases outcome : r.outcome <;> simp only [outcome,List.mem_cons,List.not_mem_nil,or_false] at present
    · rcases present with rfl | rfl | rfl <;> exact Bool.false_ne_true
    · rcases present with rfl | rfl <;> exact Bool.false_ne_true
    · rcases present with rfl | rfl | rfl <;> exact Bool.false_ne_true
  rw [List.filter_cons_of_pos own,List.filter_eq_nil_iff.mpr others]

theorem report_testcases :
    (reportTags suite results total failed errors duration).filter (opensElement (text "testcase")) =
      results.map caseTag := by
  have cases : (results.flatMap fun r => caseTag r :: resultTags r).filter (opensElement (text "testcase")) =
      results.map caseTag := by
    rw [List.filter_flatMap,List.flatMap_congr fun r _ => case_testcases r]
    exact List.map_eq_flatMap.symm
  have openings : [xmlTag,suitesTag total failed errors duration,suiteTag suite total failed errors duration].filter
      (opensElement (text "testcase")) = [] := rfl
  have closings : [text "/testsuite",text "/testsuites"].filter (opensElement (text "testcase")) = [] := rfl
  rw [reportTags,List.filter_append,List.filter_append,openings,closings,cases,List.nil_append,List.append_nil]

theorem report_root (element : Str) (named : element = text "testsuites" ∨ element = text "testsuite") :
    (reportTags suite results total failed errors duration).filter (opensElement element) =
      [if element = text "testsuites" then suitesTag total failed errors duration
        else suiteTag suite total failed errors duration] := by
  have cases : (results.flatMap fun r => caseTag r :: resultTags r).filter (opensElement element) = [] := by
    have zero : (results.flatMap fun r => caseTag r :: resultTags r).countP (opensElement element) = 0 := by
      have none : ∀ r : TestResult, weight element r.outcome = 0 := by
        intro r
        rcases named with rfl | rfl <;> cases r.outcome <;> decide
      have filled : element ≠ [] := by rcases named with rfl | rfl <;> decide
      have each : ∀ r : TestResult, (caseTag r :: resultTags r).countP (opensElement element) = 0 :=
        fun r => (count_element element filled r).trans (none r)
      simp [List.countP_flatMap,Function.comp_def,each]
    rw [List.countP_eq_length_filter] at zero
    exact List.length_eq_zero_iff.mp zero
  rw [reportTags,List.filter_append,List.filter_append,cases,List.append_nil]
  rcases named with rfl | rfl <;> rfl

end

theorem caseTag_named (r : TestResult) : attributeOf (text "classname") (caseTag r) = some (xmlEscape r.suite) ∧
    attributeOf (text "name") (caseTag r) = some (xmlEscape r.name) := by
  constructor
  · rw [attributeOf,caseTag_attributes]
    rfl
  · rw [attributeOf,caseTag_attributes]
    rfl

def selfClosed (tag : Str) : Bool := tag.getLast? = some (byteOf '/')

theorem caseTag_closed (r : TestResult) : selfClosed (caseTag r) = r.ok := by
  have ends : ∀ front : Str, selfClosed (front ++ (quote :: (if r.ok then text "/" else []))) = r.ok := by
    intro front
    cases r.ok
    · simp [selfClosed,List.getLast?_append,quote,byteOf]
    · simp [selfClosed,List.getLast?_append,text]
  have shape : ∃ front, caseTag r = front ++ (quote :: (if r.ok then text "/" else [])) := by
    refine ⟨text "testcase classname=" ++ (quote :: (xmlEscape r.suite ++ quote :: (text " name=" ++ (quote ::
      (xmlEscape r.name ++ quote :: (text " time=" ++ (quote :: seconds r.duration))))))),?_⟩
    simp only [caseTag,List.append_assoc,List.cons_append]
  obtain ⟨front,whole⟩ := shape
  rw [whole]
  exact ends front

structure Counts (tag : Str) (tests failures errors : Nat) : Prop where
  tests : (attributeOf (text "tests") tag).bind readNat = some tests
  failures : (attributeOf (text "failures") tag).bind readNat = some failures
  errors : (attributeOf (text "errors") tag).bind readNat = some errors

theorem suitesTag_counts (total failed errors duration : Nat) :
    Counts (suitesTag total failed errors duration) total failed errors := by
  have read := countAttributes_read (text "testsuites") (by decide) total failed errors duration
  constructor
  · rw [attributeOf,suitesTag,read]
    exact readNat_natText total
  · rw [attributeOf,suitesTag,read]
    exact readNat_natText failed
  · rw [attributeOf,suitesTag,read]
    exact readNat_natText errors

theorem suiteTag_counts (suite : Str) (total failed errors duration : Nat) :
    Counts (suiteTag suite total failed errors duration) total failed errors := by
  have read : enclosed quote quote (suiteTag suite total failed errors duration) =
      (text "testsuite name=",xmlEscape suite) :: [(text " tests=",natText total),(text " failures=",natText failed),
        (text " errors=",natText errors),(text " time=",seconds duration)] := by
    have counts := countAttributes_read [] List.not_mem_nil total failed errors duration
    rw [List.nil_append,List.nil_append] at counts
    rw [suiteTag,enclosed_next (by decide) (xmlEscape_free (by simp) _),counts]
  constructor
  · rw [attributeOf,read]
    exact readNat_natText total
  · rw [attributeOf,read]
    exact readNat_natText failed
  · rw [attributeOf,read]
    exact readNat_natText errors

theorem fed_junit (suite : Str) (kept results : List TestResult) :
    fed (.junit suite kept) results = (.junit suite (kept ++ results),[]) := by
  induction results generalizing kept with
  | nil =>
    rw [fed,List.append_nil]
  | cons r rest ih =>
    rw [fed]
    simp only [Reporter.onResult,ih,List.append_assoc,List.singleton_append,List.nil_append]

theorem junitText (suite : Str) (total : Int) (results : List TestResult) (s : RunSummary) :
    reportText (makeJunitReporter suite) total results s = junitEnd suite results s := by
  simp only [reportText,makeJunitReporter,fed_junit,Reporter.beginRun,Reporter.endRun,List.nil_append]

-- A JUnit report of the run with these results: its testcase elements are the results in
-- their order, and the attributes of both enclosing elements count them.
structure JunitAgrees (cases : List (TestCase β)) (results : List TestResult) (ran : Ran) : Prop where
  names : ((tagsOf ran.report).filter (opensElement (text "testcase"))).map (fun tag =>
    (attributeOf (text "classname") tag,attributeOf (text "name") tag)) =
    cases.map fun tc => (some tc.suite,some tc.name)
  passes : ((tagsOf ran.report).filter (opensElement (text "testcase"))).map selfClosed = results.map TestResult.ok
  counts : ∀ element ∈ [text "testsuites",text "testsuite"], ∃ tag,
    (tagsOf ran.report).filter (opensElement element) = [tag] ∧
      Counts tag ((tagsOf ran.report).countP (opensElement (text "testcase")))
        ((tagsOf ran.report).countP (opensElement (text "failure")))
        ((tagsOf ran.report).countP (opensElement (text "error")))
  ok : ran.ok = true ↔ (tagsOf ran.report).countP (opensElement (text "failure")) = 0 ∧
    (tagsOf ran.report).countP (opensElement (text "error")) = 0

theorem junit_tags {cases : List (TestCase β)} (executed : Executed opts cases env runner results ran)
    (format : opts.format = .junit) (small : (selectedCases opts cases).length < 2^31) :
    tagsOf ran.report = reportTags opts.junitSuite results results.length (tally .failed results)
      (tally .error results + tally .timeout results) env.elapsed := by
  have made : makeReporter opts = makeJunitReporter opts.junitSuite := by simp only [makeReporter,format]
  rw [executed_report executed,made,junitText,executed_summary executed small]
  exact tagsOf_report _ _ _ _ _ _ _ _

theorem junit_agrees {cases : List (TestCase β)} (executed : Executed opts cases env runner results ran)
    (format : opts.format = .junit) (named : ∀ tc ∈ cases, Identifier tc.suite ∧ Identifier tc.name)
    (small : (selectedCases opts cases).length < 2^31) : JunitAgrees (selectedCases opts cases) results ran := by
  have known : ∀ r ∈ results, Named r := executed_each executed (fun suite name => Identifier suite ∧ Identifier name) named
  have whole := junit_tags executed format small
  refine ⟨?_,?_,?_,?_⟩ <;> rw [whole]
  · rw [report_testcases,List.map_map]
    have pairs := congrArg (List.map fun pair : Str × Str => (some pair.1,some pair.2)) (resultsOf_named executed.returned)
    rw [List.map_map,List.map_map] at pairs
    refine (List.map_congr_left fun r present => ?_).trans pairs
    obtain ⟨classname,name⟩ := caseTag_named r
    simp only [Function.comp_apply,classname,name,escape_identifier (known r present).1,escape_identifier (known r present).2]
  · rw [report_testcases,List.map_map]
    exact List.map_congr_left fun r _ => caseTag_closed r
  · rw [count_testcase,count_failure,count_error]
    intro element present
    have root : element = text "testsuites" ∨ element = text "testsuite" := by
      simpa only [List.mem_cons,List.not_mem_nil,or_false] using present
    refine ⟨_,report_root _ _ _ _ _ _ element root,?_⟩
    split
    · exact suitesTag_counts _ _ _ _
    · exact suiteTag_counts _ _ _ _ _
  · rw [count_failure,count_error,executed_ok executed,all_passed,decide_eq_true_eq]
    have every := tally_length results
    omega

end Edtf.JunitReports

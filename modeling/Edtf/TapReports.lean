import Mathlib.Tactic
import Edtf.ReportReading

namespace Edtf.TapReports
open ByteText Registry Results RunOne Reporters Runs ReportReading

structure TapTest where
  ok : Bool
  index : Nat
  name : Str
  deriving DecidableEq, Repr

def tapNumbered (ok : Bool) (s : Str) : Option TapTest :=
  (number s).bind fun numbered => (strip (text " - ") numbered.2).map fun rest => ⟨ok,numbered.1,word rest⟩

def tapTest (line : Str) : Option TapTest :=
  match strip (text "ok ") line with
  | some rest => tapNumbered true rest
  | none => (strip (text "not ok ") line).bind (tapNumbered false)

def tapPlan (line : Str) : Option Nat := (strip (text "1..") line).bind readNat

def tapComment (line : Str) : Option (Nat × Nat) :=
  (strip (text "# passed ") line).bind fun rest => (number rest).bind fun passed =>
    (strip (text " of ") passed.2).bind fun rest => (readNat rest).map fun total => (passed.1,total)

def tapLine (index : Nat) (r : TestResult) : Str :=
  (if r.ok then text "ok " else text "not ok ") ++ natText index ++ text " - " ++ r.fullName ++
    if r.outcome = .timeout then text " # TIMEOUT" else []

def tapBlock (r : TestResult) : List Str :=
  if r.ok = false ∧ r.detail ≠ [] then
    [text "  ---",text "  outcome: " ++ r.outcome.toString,text "  message: |"] ++
      (lines r.detail).map (text "    " ++ ·) ++ [text "  ..."]
  else []

def tapLines : Nat → List TestResult → List Str
  | _,[] => []
  | index,r :: rest => (tapLine (index+1) r :: tapBlock r) ++ tapLines (index+1) rest

theorem tapResult_lines (index : Nat) (r : TestResult) :
    tapResult index r = unlines (tapLine index r :: tapBlock r) := by
  have closing : text "\n" = [newline] := rfl
  have opening : text "  ---\n" = text "  ---" ++ [newline] := rfl
  have message : text "  message: |\n" = text "  message: |" ++ [newline] := rfl
  have last : text "  ...\n" = text "  ..." ++ [newline] := rfl
  by_cases block : r.ok = false ∧ r.detail ≠ []
  · have indented := indent_lines block.2 (text "    ")
    simp only [tapResult,tapBlock,if_pos block,closing,opening,message,last]
    have shape : unlines (tapLine index r :: ([text "  ---",text "  outcome: " ++ r.outcome.toString,
        text "  message: |"] ++ (lines r.detail).map (text "    " ++ ·) ++ [text "  ..."])) =
        tapLine index r ++ [newline] ++ (text "  ---" ++ [newline]) ++
          (text "  outcome: " ++ r.outcome.toString ++ [newline]) ++ (text "  message: |" ++ [newline]) ++
          unlines ((lines r.detail).map (text "    " ++ ·)) ++ (text "  ..." ++ [newline]) := by
      simp [unlines]
    rw [shape,← indented]
    simp only [tapLine,List.append_assoc]
  · simp only [tapResult,tapBlock,if_neg block,closing,unlines,tapLine,List.flatMap_cons,List.flatMap_nil,
      List.append_assoc,List.append_nil]

theorem tapNumbered_line (named : Named r) (ok : Bool) (index : Nat) :
    tapNumbered ok (natText index ++ (text " - " ++ (r.fullName ++ if r.outcome = .timeout then text " # TIMEOUT" else []))) =
      some ⟨ok,index,r.fullName⟩ := by
  have read : ∀ rest, number (natText index ++ (text " - " ++ rest)) = some (index,text " - " ++ rest) :=
    fun _ => number_natText index rfl
  have stop : Stops (fun b => b != space) (if r.outcome = .timeout then text " # TIMEOUT" else []) := by
    split <;> rfl
  simp only [tapNumbered,read,Option.bind_some,strip_append,Option.map_some,named_word named stop]

theorem tapTest_line (named : Named r) (index : Nat) : tapTest (tapLine index r) = some ⟨r.ok,index,r.fullName⟩ := by
  cases ok : r.ok with
  | true =>
    simp only [tapLine,ok,↓reduceIte,List.append_assoc,tapTest,strip_append]
    exact tapNumbered_line named true index
  | false =>
    have other : ∀ rest, strip (text "ok ") (text "not ok " ++ rest) = none := fun _ => rfl
    simp only [tapLine,ok,Bool.false_eq_true,↓reduceIte,List.append_assoc,tapTest,other,strip_append,Option.bind_some]
    exact tapNumbered_line named false index

theorem tapLine_apart (index : Nat) (r : TestResult) :
    tapPlan (tapLine index r) = none ∧ tapComment (tapLine index r) = none := by
  unfold tapLine
  cases r.ok <;> exact ⟨rfl,rfl⟩

-- The lines of a block are indented, and no reader takes an indented line.
theorem tapBlock_indented (present : line ∈ tapBlock r) : ∃ rest, line = space :: rest := by
  unfold tapBlock at present
  split at present
  · simp only [List.mem_append,List.mem_cons,List.mem_map,List.not_mem_nil,or_false] at present
    rcases present with ((rfl | rfl | rfl) | ⟨_,_,rfl⟩) | rfl <;> exact ⟨_,rfl⟩
  · cases present

theorem tapBlock_apart (present : line ∈ tapBlock r) :
    tapTest line = none ∧ tapPlan line = none ∧ tapComment line = none := by
  obtain ⟨rest,rfl⟩ := tapBlock_indented present
  exact ⟨rfl,rfl,rfl⟩

theorem tapLine_clean (name : newline ∉ r.fullName) (index : Nat) : newline ∉ tapLine index r := by
  have digits := natText_clean (b := newline) index (by decide)
  have mark : newline ∉ (if r.outcome = .timeout then text " # TIMEOUT" else []) := by
    split <;> decide
  have head : newline ∉ (if r.ok then text "ok " else text "not ok ") := by
    split <;> decide
  have dash : newline ∉ text " - " := by decide
  simp only [tapLine,List.mem_append,not_or]
  exact ⟨⟨⟨⟨head,digits⟩,dash⟩,name⟩,mark⟩

theorem tapBlock_clean (present : line ∈ tapBlock r) : newline ∉ line := by
  unfold tapBlock at present
  split at present
  · have outcome := outcome_free (b := newline) (by decide) r.outcome
    have label : newline ∉ text "  outcome: " := by decide
    rcases List.mem_append.mp present with opening | last
    · rcases List.mem_append.mp opening with first | inner
      · simp only [List.mem_cons,List.not_mem_nil,or_false] at first
        rcases first with rfl | rfl | rfl
        · decide
        · simp only [List.mem_append,not_or]
          exact ⟨label,outcome⟩
        · decide
      · exact indented_clean _ (by decide) inner
    · cases List.mem_singleton.mp last
      decide
  · cases present

theorem tapLines_clean (names : ∀ r ∈ results, newline ∉ r.fullName) (index : Nat) :
    ∀ line ∈ tapLines index results, newline ∉ line := by
  induction results generalizing index with
  | nil =>
    intro line present
    cases present
  | cons r rest ih =>
    intro line present
    rcases List.mem_append.mp present with first | later
    · rcases List.mem_cons.mp first with rfl | block
      · exact tapLine_clean (names r (by simp)) (index+1)
      · exact tapBlock_clean block
    · exact ih (fun other listed => names other (by simp [listed])) (index+1) line later

theorem tapLines_tests (named : ∀ r ∈ results, Named r) (index : Nat) :
    (tapLines index results).filterMap tapTest = results.mapIdx fun k r => ⟨r.ok,index+k+1,r.fullName⟩ := by
  induction results generalizing index with
  | nil => rfl
  | cons r rest ih =>
    have tail := ih (fun other listed => named other (by simp [listed])) (index+1)
    have block : (tapBlock r).filterMap tapTest = [] :=
      List.filterMap_eq_nil_iff.mpr fun line present => (tapBlock_apart present).1
    have shift : ∀ k, index+1+k+1 = index+(k+1)+1 := fun k => by omega
    rw [tapLines,List.filterMap_append,List.filterMap_cons,tapTest_line (named r (by simp)),block,tail,List.mapIdx_cons]
    simp only [shift,List.cons_append,List.nil_append,Nat.add_zero]

theorem tapLines_apart (results : List TestResult) (index : Nat) :
    (tapLines index results).filterMap tapPlan = [] ∧ (tapLines index results).filterMap tapComment = [] := by
  induction results generalizing index with
  | nil => exact ⟨rfl,rfl⟩
  | cons r rest ih =>
    obtain ⟨plans,comments⟩ := ih (index+1)
    obtain ⟨plan,comment⟩ := tapLine_apart (index+1) r
    have blockPlan : (tapBlock r).filterMap tapPlan = [] :=
      List.filterMap_eq_nil_iff.mpr fun line present => (tapBlock_apart present).2.1
    have blockComment : (tapBlock r).filterMap tapComment = [] :=
      List.filterMap_eq_nil_iff.mpr fun line present => (tapBlock_apart present).2.2
    simp only [tapLines,List.filterMap_append,List.filterMap_cons,plan,comment,blockPlan,blockComment,plans,comments,
      List.append_nil,and_self]

theorem fed_tap (index : Nat) (results : List TestResult) :
    fed (.tap index) results = (.tap (index+results.length),unlines (tapLines index results)) := by
  induction results generalizing index with
  | nil => rfl
  | cons r rest ih =>
    have last : index+1+rest.length = index+(rest.length+1) := by omega
    rw [fed]
    simp only [Reporter.onResult,ih,tapLines,unlines_append,← tapResult_lines,List.length_cons,last]

-- A TAP report of the run with these results: the test lines are the results in their
-- order, and the plan and the comment count them.
structure TapAgrees (cases : List (TestCase β)) (results : List TestResult) (ran : Ran) : Prop where
  tests : (lines ran.report).filterMap tapTest = results.mapIdx fun k r => ⟨r.ok,k+1,r.fullName⟩
  names : ((lines ran.report).filterMap tapTest).map TapTest.name = cases.map TestCase.fullName
  numbers : ((lines ran.report).filterMap tapTest).map TapTest.index = List.range' 1 cases.length
  plan : (lines ran.report).filterMap tapPlan = [((lines ran.report).filterMap tapTest).length]
  comment : (lines ran.report).filterMap tapComment =
    [(((lines ran.report).filterMap tapTest).countP TapTest.ok,((lines ran.report).filterMap tapTest).length)]
  closing : ((lines ran.report).getLast?.bind tapComment).isSome = true
  ok : ran.ok = ((lines ran.report).filterMap tapTest).all TapTest.ok

def tapReport (results : List TestResult) : List Str :=
  [text "TAP version 13",text "1.." ++ natText results.length] ++ tapLines 0 results ++
    [text "# passed " ++ (natText (tally .passed results) ++ (text " of " ++ natText results.length))]

def tapText (total : Int) (results : List TestResult) (s : RunSummary) : List Str :=
  [text "TAP version 13",text "1.." ++ intText total] ++ tapLines 0 results ++
    [text "# passed " ++ (intText s.passed ++ (text " of " ++ intText s.total))]

theorem tapText_lines (total : Int) (results : List TestResult) (s : RunSummary) :
    reportText makeTapReporter total results s = unlines (tapText total results s) := by
  have version : text "TAP version 13\n" = text "TAP version 13" ++ [newline] := rfl
  have closing : text "\n" = [newline] := rfl
  simp only [reportText,makeTapReporter,fed_tap,Reporter.beginRun,Reporter.endRun,tapBegin,tapEnd,tapText,
    unlines_append,version,closing]
  simp [unlines]

theorem tap_written {cases : List (TestCase β)} (executed : Executed opts cases env runner results ran)
    (format : opts.format = .tap) (small : (selectedCases opts cases).length < 2^31) :
    ran.report = unlines (tapReport results) := by
  have made : makeReporter opts = makeTapReporter := by simp only [makeReporter,format]
  rw [executed_report executed,made,executed_total executed small,executed_summary executed small,tapText_lines]
  rfl

theorem tapText_clean (names : ∀ r ∈ results, newline ∉ r.fullName) (total : Int) (s : RunSummary) :
    ∀ line ∈ tapText total results s, newline ∉ line := by
  have digits : ∀ i, newline ∉ intText i := fun i => intText_clean i (by decide) (by decide)
  have plan : newline ∉ text "1.." := by decide
  have opening : newline ∉ text "# passed " := by decide
  have middle : newline ∉ text " of " := by decide
  intro line present
  rcases List.mem_append.mp present with early | last
  · rcases List.mem_append.mp early with head | inner
    · simp only [List.mem_cons,List.not_mem_nil,or_false] at head
      rcases head with rfl | rfl
      · decide
      · simp only [List.mem_append,not_or]
        exact ⟨plan,digits _⟩
    · exact tapLines_clean names 0 line inner
  · cases List.mem_singleton.mp last
    simp only [List.mem_append,not_or]
    exact ⟨opening,digits _,middle,digits _⟩

theorem tapReport_clean (named : ∀ r ∈ results, Named r) : ∀ line ∈ tapReport results, newline ∉ line := by
  have names : ∀ r ∈ results, newline ∉ r.fullName :=
    fun r present => fullName_free (named r present).1 (named r present).2 (by decide) (by decide)
  exact tapText_clean names results.length ⟨results.length,tally .passed results,0,0,0,0⟩

theorem tapReport_tests (named : ∀ r ∈ results, Named r) :
    (tapReport results).filterMap tapTest = results.mapIdx fun k r => ⟨r.ok,k+1,r.fullName⟩ := by
  have version : tapTest (text "TAP version 13") = none := rfl
  have plan : ∀ rest, tapTest (text "1.." ++ rest) = none := fun _ => rfl
  have comment : ∀ rest, tapTest (text "# passed " ++ rest) = none := fun _ => rfl
  simp only [tapReport,List.filterMap_append,List.filterMap_cons,List.filterMap_nil,version,plan,comment,
    tapLines_tests named,List.nil_append,List.append_nil,Nat.zero_add]

theorem tapReport_plan (results : List TestResult) : (tapReport results).filterMap tapPlan = [results.length] := by
  have version : tapPlan (text "TAP version 13") = none := rfl
  have plan : tapPlan (text "1.." ++ natText results.length) = some results.length := by
    rw [tapPlan,strip_append,Option.bind_some,readNat_natText]
  have comment : ∀ rest, tapPlan (text "# passed " ++ rest) = none := fun _ => rfl
  simp only [tapReport,List.filterMap_append,List.filterMap_cons,List.filterMap_nil,version,plan,comment,
    (tapLines_apart results 0).1,List.append_nil]

theorem tapComment_read (passed total : Nat) :
    tapComment (text "# passed " ++ (natText passed ++ (text " of " ++ natText total))) = some (passed,total) := by
  have read : number (natText passed ++ (text " of " ++ natText total)) = some (passed,text " of " ++ natText total) :=
    number_natText passed rfl
  simp only [tapComment,strip_append,Option.bind_some,read,readNat_natText,Option.map_some]

theorem tapReport_comment (results : List TestResult) :
    (tapReport results).filterMap tapComment = [(tally .passed results,results.length)] := by
  have version : tapComment (text "TAP version 13") = none := rfl
  have plan : ∀ rest, tapComment (text "1.." ++ rest) = none := fun _ => rfl
  simp only [tapReport,List.filterMap_append,List.filterMap_cons,List.filterMap_nil,version,plan,tapComment_read,
    (tapLines_apart results 0).2,List.append_nil,List.nil_append]

theorem tap_agrees {cases : List (TestCase β)} (executed : Executed opts cases env runner results ran)
    (format : opts.format = .tap) (named : ∀ tc ∈ cases, Identifier tc.suite ∧ Identifier tc.name)
    (small : (selectedCases opts cases).length < 2^31) : TapAgrees (selectedCases opts cases) results ran := by
  have known : ∀ r ∈ results, Named r := executed_each executed (fun suite name => Identifier suite ∧ Identifier name) named
  have length := resultsOf_length executed.returned
  have whole : lines ran.report = tapReport results := by
    rw [tap_written executed format small,lines_unlines (tapReport_clean known)]
  have tests := tapReport_tests known
  have count : ((tapReport results).filterMap tapTest).length = results.length := by rw [tests,List.length_mapIdx]
  have oks : ((tapReport results).filterMap tapTest).map TapTest.ok = results.map TestResult.ok := by
    rw [tests]
    exact List.ext_getElem? fun k => by simp [Function.comp_def]
  have counted : ((tapReport results).filterMap tapTest).countP TapTest.ok = tally .passed results := by
    have both := congrArg (List.countP id) oks
    rw [List.countP_map,List.countP_map] at both
    exact both
  refine ⟨?_,?_,?_,?_,?_,?_,?_⟩ <;> rw [whole]
  · exact tests
  · rw [tests,← resultsOf_fullNames executed.returned]
    exact List.ext_getElem? fun k => by simp [Function.comp_def]
  · rw [tests,← length]
    exact List.ext_getElem (by simp) fun k left right => by simp [Nat.add_comm]
  · rw [tapReport_plan,count]
  · rw [tapReport_comment,count,counted]
  · rw [tapReport,List.getLast?_concat,Option.bind_some,tapComment_read]
    rfl
  · rw [executed_ok executed]
    have both := congrArg (List.all · id) oks
    simp only [List.all_map] at both
    exact both.symm

end Edtf.TapReports

import Mathlib.Tactic
import Edtf.ReportReading

namespace Edtf.ConsoleReports
open ByteText Registry Results RunOne Reporters Runs ReportReading

def consoleRunning (line : Str) : Option Nat :=
  (strip (text "Running ") line).bind fun rest => (number rest).bind fun total =>
    if total.2 = text " test" ∨ total.2 = text " tests" then some total.1 else none

def bracket : UInt8 := 93

def consoleEntry (line : Str) : Option (Str × Str) :=
  (strip (text "  [") line).bind fun rest =>
    (strip (text "] ") (rest.dropWhile fun b => b != bracket)).map fun tail =>
      (rest.takeWhile fun b => b != bracket,word tail)

structure Numbers where
  passed : Nat
  total : Nat
  failed : Nat
  timedOut : Nat
  errored : Nat
  duration : Nat
  deriving DecidableEq, Repr

-- An optional number of the summary; an omitted one counts as zero.
def counted (label s : Str) : Nat × Str :=
  match (strip (text ", ") s).bind number with
  | some (n,rest) =>
    match strip label rest with
    | some later => (n,later)
    | none => (0,s)
  | none => (0,s)

def consoleSummary (line : Str) : Option Numbers :=
  (strip (text "Summary: ") line).bind fun rest => (number rest).bind fun passed =>
    (strip (text "/") passed.2).bind fun rest => (number rest).bind fun total =>
      (strip (text " passed") total.2).bind fun rest =>
        let failed := counted (text " failed") rest
        let timedOut := counted (text " timed out") failed.2
        let errored := counted (text " errored") timedOut.2
        (strip (text " (") errored.2).bind fun rest => (number rest).bind fun duration =>
          if duration.2 = text " ms)" then
            some ⟨passed.1,total.1,failed.1,timedOut.1,errored.1,duration.1⟩
          else none

def runningLine (total : Nat) : Str :=
  text "Running " ++ (natText total ++ if total = 1 then text " test" else text " tests")

def consoleLine (r : TestResult) : Str :=
  text "  [" ++ (r.outcome.toString ++ (text "] " ++ (r.fullName ++ (text " (" ++ (natText r.duration ++ text " ms)")))))

def consoleBlock (r : TestResult) : List Str :=
  if r.ok = false ∧ r.detail ≠ [] then (lines r.detail).map (text "        " ++ ·) else []

def part (label : Str) (n : Nat) : Str := if n = 0 then [] else text ", " ++ (natText n ++ label)

def summaryLine (n : Numbers) : Str :=
  text "Summary: " ++ (natText n.passed ++ (text "/" ++ (natText n.total ++ (text " passed" ++
    (part (text " failed") n.failed ++ (part (text " timed out") n.timedOut ++ (part (text " errored") n.errored ++
      (text " (" ++ (natText n.duration ++ text " ms)")))))))))

theorem consoleBegin_lines (total : Nat) : consoleBegin ⟨false⟩ total = unlines [runningLine total] := by
  have closing : text "\n" = [newline] := rfl
  have plural : text " tests" = text " test" ++ text "s" := rfl
  have same : ((total : Int) = 1) = (total = 1) := by simp
  simp only [consoleBegin,Palette.bold,Palette.reset,Palette.code,Bool.false_eq_true,↓reduceIte,intText_natCast,
    runningLine,plural,closing,unlines,same]
  split <;> simp

theorem consoleResult_lines (r : TestResult) : consoleResult ⟨false⟩ r = unlines (consoleLine r :: consoleBlock r) := by
  have closing : text "\n" = [newline] := rfl
  have opening : text " (" = text " " ++ text "(" := rfl
  have shape : unlines (consoleLine r :: consoleBlock r) =
      consoleLine r ++ [newline] ++ unlines (consoleBlock r) := by simp [unlines]
  have block : (if r.ok = false ∧ r.detail ≠ [] then indent r.detail (text "        ") ++ text "\n" else []) =
      unlines (consoleBlock r) := by
    unfold consoleBlock
    split
    · rename_i shown
      exact indent_lines shown.2 _
    · rfl
  rw [shape,← block]
  simp only [consoleResult,consoleLine,Palette.green,Palette.red,Palette.yellow,Palette.dim,Palette.reset,Palette.code,
    Bool.false_eq_true,↓reduceIte,opening,closing]
  cases r.outcome <;> simp

theorem consoleEnd_lines (n : Numbers) :
    consoleEnd ⟨false⟩ ⟨n.total,n.passed,n.failed,n.timedOut,n.errored,n.duration⟩ = unlines [[],summaryLine n] := by
  have closing : text "\n" = [newline] := rfl
  have opening : text "\nSummary: " = newline :: text "Summary: " := rfl
  have present : ∀ m : Nat, ((m : Int) ≠ 0) = (m ≠ 0) := fun m => by simp
  have shown : ∀ label m, (if m ≠ 0 then text ", " ++ [] ++ natText m ++ label ++ [] else []) = part label m := by
    intro label m
    unfold part
    by_cases zero : m = 0 <;> simp [zero]
  simp only [consoleEnd,Palette.red,Palette.yellow,Palette.dim,Palette.bold,Palette.reset,Palette.code,
    Bool.false_eq_true,↓reduceIte,intText_natCast,present,shown,closing,opening,summaryLine,unlines]
  simp

theorem consoleEntry_line (named : Named r) : consoleEntry (consoleLine r) = some (r.outcome.toString,r.fullName) := by
  have inside : ∀ b ∈ r.outcome.toString, (b != bracket) = true := by
    intro b present
    simp only [bne_iff_ne,ne_eq]
    rintro rfl
    exact outcome_free (b := bracket) (by decide) r.outcome present
  have closed : ∀ rest, Stops (fun b => b != bracket) (text "] " ++ rest) := fun _ => rfl
  have split := fun rest => span_stop inside (closed rest)
  have stop : ∀ rest, Stops (fun b => b != space) (text " (" ++ rest) := fun _ => rfl
  simp only [consoleEntry,consoleLine,strip_append,Option.bind_some,(split _).1,(split _).2,Option.map_some,
    named_word named (stop _)]

theorem consoleRunning_line (total : Nat) : consoleRunning (runningLine total) = some total := by
  have stop : Stops isDigit (if total = 1 then text " test" else text " tests") := by
    split <;> rfl
  have known : (if total = 1 then text " test" else text " tests") = text " test" ∨
      (if total = 1 then text " test" else text " tests") = text " tests" := by
    split
    · exact .inl rfl
    · exact .inr rfl
  simp only [consoleRunning,runningLine,strip_append,Option.bind_some,number_natText total stop,if_pos known]

theorem counted_part (n : Nat) (stop : Stops isDigit (label ++ rest)) (tail : counted label rest = (0,rest)) :
    counted label (part label n ++ rest) = (n,rest) := by
  by_cases zero : n = 0
  · rw [part,if_pos zero,zero]
    exact tail
  · simp only [part,if_neg zero,List.append_assoc,counted,strip_append,Option.bind_some,number_natText n stop]

theorem counted_skip (n : Nat) (stop : Stops isDigit (other ++ rest)) (different : strip label (other ++ rest) = none)
    (tail : counted label rest = (0,rest)) : counted label (part other n ++ rest) = (0,part other n ++ rest) := by
  by_cases zero : n = 0
  · rw [part,if_pos zero]
    exact tail
  · simp only [part,if_neg zero,List.append_assoc,counted,strip_append,Option.bind_some,number_natText n stop,different]

theorem consoleSummary_line (n : Numbers) : consoleSummary (summaryLine n) = some n := by
  have slash : ∀ rest, Stops isDigit (text "/" ++ rest) := fun _ => rfl
  have label : ∀ rest, Stops isDigit (text " passed" ++ rest) := fun _ => rfl
  have closing : Stops isDigit (text " ms)") := rfl
  have ends : ∀ label rest, counted label (text " (" ++ rest) = (0,text " (" ++ rest) := fun _ _ => rfl
  have errored : ∀ rest, counted (text " errored") (part (text " errored") n.errored ++ (text " (" ++ rest)) =
      (n.errored,text " (" ++ rest) := fun rest => counted_part _ rfl (ends _ _)
  have timedOut : ∀ rest, counted (text " timed out")
      (part (text " timed out") n.timedOut ++ (part (text " errored") n.errored ++ (text " (" ++ rest))) =
      (n.timedOut,part (text " errored") n.errored ++ (text " (" ++ rest)) :=
    fun rest => counted_part _ rfl (counted_skip _ rfl rfl (ends _ _))
  have failed : ∀ rest, counted (text " failed") (part (text " failed") n.failed ++
      (part (text " timed out") n.timedOut ++ (part (text " errored") n.errored ++ (text " (" ++ rest)))) =
      (n.failed,part (text " timed out") n.timedOut ++ (part (text " errored") n.errored ++ (text " (" ++ rest))) :=
    fun rest => counted_part _ rfl (counted_skip _ rfl rfl (counted_skip _ rfl rfl (ends _ _)))
  simp only [consoleSummary,summaryLine,strip_append,Option.bind_some,number_natText _ (slash _),
    number_natText _ (label _),failed,timedOut,errored,number_natText _ closing,↓reduceIte]

def consoleReport (results : List TestResult) (n : Numbers) : List Str :=
  [runningLine results.length] ++ results.flatMap (fun r => consoleLine r :: consoleBlock r) ++ [[],summaryLine n]

theorem consoleBlock_indented (present : line ∈ consoleBlock r) : ∃ rest, line = text "        " ++ rest := by
  unfold consoleBlock at present
  split at present
  · obtain ⟨rest,_,rfl⟩ := List.mem_map.mp present
    exact ⟨rest,rfl⟩
  · cases present

theorem consoleBlock_apart (present : line ∈ consoleBlock r) :
    consoleEntry line = none ∧ consoleRunning line = none ∧ consoleSummary line = none := by
  obtain ⟨rest,rfl⟩ := consoleBlock_indented present
  exact ⟨rfl,rfl,rfl⟩

theorem results_read {γ : Type} (results : List TestResult) (reader : Str → Option γ) (entry : TestResult → Option γ)
    (line : ∀ r ∈ results, reader (consoleLine r) = entry r)
    (block : ∀ r, ∀ line ∈ consoleBlock r, reader line = none) :
    (results.flatMap fun r => consoleLine r :: consoleBlock r).filterMap reader = results.filterMap entry := by
  induction results with
  | nil => rfl
  | cons r rest ih =>
    have tail := ih fun other present => line other (by simp [present])
    have none : (consoleBlock r).filterMap reader = [] := List.filterMap_eq_nil_iff.mpr (block r)
    rw [List.flatMap_cons,List.filterMap_append,List.filterMap_cons,line r (by simp),none,tail,List.filterMap_cons]
    cases entry r <;> rfl

theorem consoleReport_entries (named : ∀ r ∈ results, Named r) (n : Numbers) :
    (consoleReport results n).filterMap consoleEntry = results.map fun r => (r.outcome.toString,r.fullName) := by
  have running : ∀ rest, consoleEntry (text "Running " ++ rest) = none := fun _ => rfl
  have blank : consoleEntry [] = none := rfl
  have summary : ∀ rest, consoleEntry (text "Summary: " ++ rest) = none := fun _ => rfl
  have read := results_read results consoleEntry (fun r => some (r.outcome.toString,r.fullName))
    (fun r present => consoleEntry_line (named r present)) fun r line present => (consoleBlock_apart present).1
  rw [List.filterMap_eq_map'] at read
  simp only [consoleReport,List.filterMap_append,List.filterMap_cons,List.filterMap_nil,runningLine,running,blank,
    summaryLine,summary,read,List.nil_append,List.append_nil]

theorem consoleReport_running (results : List TestResult) (n : Numbers) :
    (consoleReport results n).filterMap consoleRunning = [results.length] := by
  have line : ∀ rest, consoleRunning (text "  [" ++ rest) = none := fun _ => rfl
  have blank : consoleRunning [] = none := rfl
  have summary : ∀ rest, consoleRunning (text "Summary: " ++ rest) = none := fun _ => rfl
  have read := results_read results consoleRunning (fun _ => none)
    (fun r _ => line _) fun r line present => (consoleBlock_apart present).2.1
  simp only [consoleReport,List.filterMap_append,List.filterMap_cons,List.filterMap_nil,consoleRunning_line,blank,
    summaryLine,summary,read,List.filterMap_none,List.append_nil]

theorem consoleReport_summary (results : List TestResult) (n : Numbers) :
    (consoleReport results n).filterMap consoleSummary = [n] := by
  have running : ∀ rest, consoleSummary (text "Running " ++ rest) = none := fun _ => rfl
  have line : ∀ rest, consoleSummary (text "  [" ++ rest) = none := fun _ => rfl
  have blank : consoleSummary [] = none := rfl
  have read := results_read results consoleSummary (fun _ => none)
    (fun r _ => line _) fun r line present => (consoleBlock_apart present).2.2
  simp only [consoleReport,List.filterMap_append,List.filterMap_cons,List.filterMap_nil,runningLine,running,blank,
    consoleSummary_line,read,List.filterMap_none,List.nil_append]

theorem runningLine_clean (total : Nat) : newline ∉ runningLine total := by
  have digits := natText_clean (b := newline) total (by decide)
  have opening : newline ∉ text "Running " := by decide
  have label : newline ∉ (if total = 1 then text " test" else text " tests") := by
    split <;> decide
  simp only [runningLine,List.mem_append,not_or]
  exact ⟨opening,digits,label⟩

theorem consoleLine_clean (named : Named r) : newline ∉ consoleLine r := by
  have digits := natText_clean (b := newline) r.duration (by decide)
  have outcome := outcome_free (b := newline) (by decide) r.outcome
  have name := fullName_free named.1 named.2 (b := newline) (by decide) (by decide)
  have opening : newline ∉ text "  [" := by decide
  have closing : newline ∉ text "] " := by decide
  have left : newline ∉ text " (" := by decide
  have right : newline ∉ text " ms)" := by decide
  simp only [consoleLine,List.mem_append,not_or]
  exact ⟨opening,outcome,closing,name,left,digits,right⟩

theorem consoleBlock_clean (present : line ∈ consoleBlock r) : newline ∉ line := by
  unfold consoleBlock at present
  split at present
  · exact indented_clean _ (by decide) present
  · cases present

theorem part_clean (label : Str) (clean : newline ∉ label) (n : Nat) : newline ∉ part label n := by
  have digits := natText_clean (b := newline) n (by decide)
  have comma : newline ∉ text ", " := by decide
  unfold part
  split
  · exact List.not_mem_nil
  · simp only [List.mem_append,not_or]
    exact ⟨comma,digits,clean⟩

theorem summaryLine_clean (n : Numbers) : newline ∉ summaryLine n := by
  have digits : ∀ m, newline ∉ natText m := fun m => natText_clean m (by decide)
  have opening : newline ∉ text "Summary: " := by decide
  have slash : newline ∉ text "/" := by decide
  have passed : newline ∉ text " passed" := by decide
  have failed := part_clean (text " failed") (by decide) n.failed
  have timedOut := part_clean (text " timed out") (by decide) n.timedOut
  have errored := part_clean (text " errored") (by decide) n.errored
  have left : newline ∉ text " (" := by decide
  have right : newline ∉ text " ms)" := by decide
  simp only [summaryLine,List.mem_append,not_or]
  exact ⟨opening,digits _,slash,digits _,passed,failed,timedOut,errored,left,digits _,right⟩

theorem consoleReport_clean (named : ∀ r ∈ results, Named r) (n : Numbers) :
    ∀ line ∈ consoleReport results n, newline ∉ line := by
  intro line present
  rcases List.mem_append.mp present with early | last
  · rcases List.mem_append.mp early with head | inner
    · cases List.mem_singleton.mp head
      exact runningLine_clean _
    · obtain ⟨r,listed,among⟩ := List.mem_flatMap.mp inner
      rcases List.mem_cons.mp among with rfl | block
      · exact consoleLine_clean (named r listed)
      · exact consoleBlock_clean block
  · simp only [List.mem_cons,List.not_mem_nil,or_false] at last
    rcases last with rfl | rfl
    · exact List.not_mem_nil
    · exact summaryLine_clean n

theorem fed_console (pal : Palette) (results : List TestResult) :
    fed (.console pal) results = (.console pal,results.flatMap (consoleResult pal)) := by
  induction results with
  | nil => rfl
  | cons r rest ih =>
    rw [fed]
    simp only [Reporter.onResult,ih,List.flatMap_cons]

-- A console report of the run with these results: its result lines are the results in
-- their order, and the first line and the summary count them.
structure ConsoleAgrees (cases : List (TestCase β)) (results : List TestResult) (elapsed : Nat) (ran : Ran) : Prop where
  entries : (lines ran.report).filterMap consoleEntry = results.map fun r => (r.outcome.toString,r.fullName)
  names : ((lines ran.report).filterMap consoleEntry).map Prod.snd = cases.map TestCase.fullName
  running : (lines ran.report).filterMap consoleRunning = [((lines ran.report).filterMap consoleEntry).length]
  summary : (lines ran.report).filterMap consoleSummary =
    [{ passed := ((lines ran.report).filterMap consoleEntry).countP fun e => e.1 = text "PASS"
       total := ((lines ran.report).filterMap consoleEntry).length
       failed := ((lines ran.report).filterMap consoleEntry).countP fun e => e.1 = text "FAIL"
       timedOut := ((lines ran.report).filterMap consoleEntry).countP fun e => e.1 = text "TIMEOUT"
       errored := ((lines ran.report).filterMap consoleEntry).countP fun e => e.1 = text "ERROR"
       duration := elapsed }]
  ok : ran.ok = ((lines ran.report).filterMap consoleEntry).all fun e => e.1 = text "PASS"

def numbersOf (results : List TestResult) (elapsed : Nat) : Numbers :=
  ⟨tally .passed results,results.length,tally .failed results,tally .timeout results,tally .error results,elapsed⟩

theorem console_written {cases : List (TestCase β)} (executed : Executed opts cases env runner results ran)
    (format : opts.format = .console) (plain : opts.color = false) (small : (selectedCases opts cases).length < 2^31) :
    ran.report = unlines (consoleReport results (numbersOf results env.elapsed)) := by
  have made : makeReporter opts = .console ⟨false⟩ := by simp only [makeReporter,format,makeConsoleReporter,plain]
  have inner : results.flatMap (consoleResult ⟨false⟩) =
      unlines (results.flatMap fun r => consoleLine r :: consoleBlock r) := by
    rw [unlines,List.flatMap_assoc]
    exact List.flatMap_congr fun r _ => consoleResult_lines r
  have ends := consoleEnd_lines (numbersOf results env.elapsed)
  rw [executed_report executed,made,executed_total executed small,executed_summary executed small,reportText,fed_console]
  simp only [Reporter.beginRun,Reporter.endRun,consoleReport,unlines_append,consoleBegin_lines,inner]
  exact congrArg _ ends

theorem console_agrees {cases : List (TestCase β)} (executed : Executed opts cases env runner results ran)
    (format : opts.format = .console) (plain : opts.color = false)
    (named : ∀ tc ∈ cases, Identifier tc.suite ∧ Identifier tc.name)
    (small : (selectedCases opts cases).length < 2^31) :
    ConsoleAgrees (selectedCases opts cases) results env.elapsed ran := by
  have known : ∀ r ∈ results, Named r := executed_each executed (fun suite name => Identifier suite ∧ Identifier name) named
  have whole : lines ran.report = consoleReport results (numbersOf results env.elapsed) := by
    rw [console_written executed format plain small,lines_unlines (consoleReport_clean known _)]
  have entries := consoleReport_entries known (numbersOf results env.elapsed)
  have outcomes : ∀ o : Outcome, (results.map fun r => (r.outcome.toString,r.fullName)).countP
      (fun e => e.1 = o.toString) = tally o results := by
    intro o
    rw [List.countP_map,tally]
    refine List.countP_congr fun r _ => ?_
    simp only [Function.comp_apply,decide_eq_true_eq]
    exact toString_same r.outcome o
  refine ⟨?_,?_,?_,?_,?_⟩ <;> rw [whole]
  · exact entries
  · rw [entries,List.map_map,← resultsOf_fullNames executed.returned]
    rfl
  · rw [entries,consoleReport_running,List.length_map]
  · rw [entries,consoleReport_summary,List.length_map]
    rw [numbersOf,← outcomes .passed,← outcomes .failed,← outcomes .timeout,← outcomes .error]
    rfl
  · rw [entries,executed_ok executed,List.all_map]
    exact List.all_congr rfl fun r => decide_eq_decide.mpr (toString_same r.outcome .passed).symm

end Edtf.ConsoleReports

import Mathlib.Tactic
import Edtf.ConsoleReports
import Edtf.TapReadback

namespace Edtf.ConsoleReadback
open ByteText Registry Results RunOne Reporters Runs ReportReading ConsoleReports
open TapReadback (readOutcome readOutcome_toString)

-- A reader of whole console reports without color. It goes by lines, knows nothing of the
-- results and asks nothing of the names but that they have no newline.
structure ConsoleEntry where
  outcome : Outcome
  name : Str
  duration : Nat
  block : List Str
  deriving DecidableEq, Repr

structure ConsoleDocument where
  running : Nat
  entries : List ConsoleEntry
  numbers : Numbers
  deriving DecidableEq, Repr

-- The name and the duration of a result line. They are read from the end of the line, where
-- the duration has a fixed shape; the name may hold brackets and blanks of its own.
def readTimed (s : Str) : Option (Str × Nat) :=
  (strip (text ")sm ") s.reverse).bind fun rest =>
    (readNat (rest.takeWhile isDigit).reverse).bind fun duration =>
      (strip (text "( ") (rest.dropWhile isDigit)).map fun name => (name.reverse,duration)

def readHeader (line : Str) : Option ConsoleEntry :=
  (strip (text "  [") line).bind fun rest =>
    (readOutcome (rest.takeWhile fun b => b != bracket)).bind fun outcome =>
      (strip (text "] ") (rest.dropWhile fun b => b != bracket)).bind fun tail =>
        (readTimed tail).map fun timed => ⟨outcome,timed.1,timed.2,[]⟩

def margin : Str := text "        "

def readLine (entries : List ConsoleEntry) (line : Str) : Option (List ConsoleEntry) :=
  match strip margin line,entries with
  | some body,e :: earlier => some ({e with block := e.block ++ [body]} :: earlier)
  | some _,[] => none
  | none,_ => (readHeader line).map (· :: entries)

def readDocument : List Str → Option ConsoleDocument
  | first :: rest =>
    (consoleRunning first).bind fun running => (rest.getLast?.bind consoleSummary).bind fun numbers =>
      if rest.dropLast.getLast? = some [] then
        (rest.dropLast.dropLast.foldlM readLine []).map fun entries => ⟨running,entries.reverse,numbers⟩
      else none
  | [] => none

def readConsole (s : Str) : Option ConsoleDocument := readDocument (lines s)

def entryOf (r : TestResult) : ConsoleEntry :=
  { outcome := r.outcome
    name := r.fullName
    duration := r.duration
    block := if r.ok = false ∧ r.detail ≠ [] then lines r.detail else [] }

def documentOf (results : List TestResult) (elapsed : Nat) : ConsoleDocument :=
  ⟨results.length,results.map entryOf,numbersOf results elapsed⟩

theorem natText_reversed (n : Nat) : ∀ b ∈ (natText n).reverse, isDigit b = true := by
  intro b present
  exact natText_digits n b (List.mem_reverse.mp present)

theorem readTimed_written (name : Str) (duration : Nat) :
    readTimed (name ++ (text " (" ++ (natText duration ++ text " ms)"))) = some (name,duration) := by
  have closing : (text " ms)").reverse = text ")sm " := by decide
  have opening : (text " (").reverse = text "( " := by decide
  have turned : (name ++ (text " (" ++ (natText duration ++ text " ms)"))).reverse =
      text ")sm " ++ ((natText duration).reverse ++ (text "( " ++ name.reverse)) := by
    simp only [List.reverse_append,closing,opening,List.append_assoc]
  have stop : Stops isDigit (text "( " ++ name.reverse) := rfl
  have split := span_stop (natText_reversed duration) stop
  rw [readTimed,turned,strip_append,Option.bind_some,split.1,split.2,List.reverse_reverse,readNat_natText,
    Option.bind_some,strip_append,Option.map_some,List.reverse_reverse]

theorem readHeader_line (r : TestResult) : readHeader (consoleLine r) = some ⟨r.outcome,r.fullName,r.duration,[]⟩ := by
  have inside : ∀ b ∈ r.outcome.toString, (b != bracket) = true := by
    intro b present
    apply bne_iff_ne.mpr
    rintro rfl
    exact outcome_free (b := bracket) (by decide) r.outcome present
  have closed : ∀ rest, Stops (fun b => b != bracket) (text "] " ++ rest) := fun _ => rfl
  have split := fun rest => span_stop inside (closed rest)
  rw [readHeader,consoleLine,strip_append,Option.bind_some,(split _).1,(split _).2,readOutcome_toString,
    Option.bind_some,strip_append,Option.bind_some,readTimed_written]
  rfl

theorem header_line (entries : List ConsoleEntry) (r : TestResult) :
    readLine entries (consoleLine r) = some (⟨r.outcome,r.fullName,r.duration,[]⟩ :: entries) := by
  have outside : strip margin (consoleLine r) = none := rfl
  simp only [readLine,outside,readHeader_line,Option.map_some]

theorem block_lines (e : ConsoleEntry) (earlier : List ConsoleEntry) (body : List Str) :
    (body.map (margin ++ ·)).foldlM readLine (e :: earlier) = some ({e with block := e.block ++ body} :: earlier) := by
  induction body generalizing e with
  | nil => simp
  | cons line rest ih =>
    have kept : readLine (e :: earlier) (margin ++ line) = some ({e with block := e.block ++ [line]} :: earlier) := by
      simp only [readLine,strip_append]
    rw [List.map_cons,List.foldlM_cons,kept,Option.bind_eq_bind,Option.bind_some,ih,List.append_assoc]
    rfl

theorem result_lines (entries : List ConsoleEntry) (r : TestResult) :
    (consoleLine r :: consoleBlock r).foldlM readLine entries = some (entryOf r :: entries) := by
  have block : consoleBlock r = (entryOf r).block.map (margin ++ ·) := by
    unfold consoleBlock entryOf
    split <;> rfl
  rw [List.foldlM_cons,header_line,Option.bind_eq_bind,Option.bind_some,block,block_lines,List.nil_append]
  rfl

theorem entries_lines (entries : List ConsoleEntry) (results : List TestResult) :
    (results.flatMap fun r => consoleLine r :: consoleBlock r).foldlM readLine entries =
      some ((results.map entryOf).reverse ++ entries) := by
  induction results generalizing entries with
  | nil => rfl
  | cons r rest ih =>
    rw [List.flatMap_cons,List.foldlM_append,result_lines,Option.bind_eq_bind,Option.bind_some,ih,List.map_cons,
      List.reverse_cons,List.append_assoc]
    rfl

theorem readDocument_lines (results : List TestResult) (elapsed : Nat) :
    readDocument (consoleReport results (numbersOf results elapsed)) = some (documentOf results elapsed) := by
  let body := results.flatMap fun r => consoleLine r :: consoleBlock r
  let numbers := numbersOf results elapsed
  have shape : consoleReport results numbers = runningLine results.length :: (body ++ [[]] ++ [summaryLine numbers]) := by
    simp [consoleReport,body]
  have entries := entries_lines [] results
  rw [shape,readDocument,consoleRunning_line,Option.bind_some,List.getLast?_concat,Option.bind_some,consoleSummary_line,
    Option.bind_some,List.dropLast_concat,List.getLast?_concat,if_pos rfl,List.dropLast_concat,entries,Option.map_some,
    List.append_nil,List.reverse_reverse]
  rfl

theorem consoleLine_whole (name : newline ∉ r.fullName) : newline ∉ consoleLine r := by
  have digits := natText_clean (b := newline) r.duration (by decide)
  have outcome := outcome_free (b := newline) (by decide) r.outcome
  have opening : newline ∉ text "  [" := by decide
  have closing : newline ∉ text "] " := by decide
  have left : newline ∉ text " (" := by decide
  have right : newline ∉ text " ms)" := by decide
  simp only [consoleLine,List.mem_append,not_or]
  exact ⟨opening,outcome,closing,name,left,digits,right⟩

theorem report_whole (names : ∀ r ∈ results, newline ∉ r.fullName) (n : Numbers) :
    ∀ line ∈ consoleReport results n, newline ∉ line := by
  intro line present
  simp only [consoleReport,List.mem_append,List.mem_flatMap,List.mem_cons,List.not_mem_nil,or_false] at present
  rcases present with (rfl | ⟨r,listed,rfl | block⟩) | rfl | rfl
  · exact runningLine_clean _
  · exact consoleLine_whole (names r listed)
  · exact consoleBlock_clean block
  · exact List.not_mem_nil
  · exact summaryLine_clean n

theorem executed_whole {cases : List (TestCase β)} (executed : Executed opts cases env runner results ran)
    (clean : ∀ tc ∈ cases, newline ∉ tc.suite ∧ newline ∉ tc.name) : ∀ r ∈ results, newline ∉ r.fullName := by
  intro r present
  have source := executed_each executed (fun suite name => newline ∉ suite ∧ newline ∉ name) clean r present
  have point : newline ∉ text "." := by decide
  simp only [TestResult.fullName,List.mem_append,not_or]
  exact ⟨⟨source.1,point⟩,source.2⟩

-- The report of a run gives every result back: its outcome, its name, its duration and the
-- lines of its detail, whatever the detail is and whatever else the name holds.
theorem console_read_back (opts : RunOptions) (cases : List (TestCase β)) (env : Environment) (runner : Runner) (ran : Ran)
    (small : cases.length < 2^31) (clean : ∀ tc ∈ cases, newline ∉ tc.suite ∧ newline ∉ tc.name)
    (executes : opts.listOnly = false) (format : opts.format = .console) (plain : opts.color = false)
    (returned : run opts cases env runner = some ran) :
    ∃ results, resultsOf opts env.execution 0 (selectedCases opts cases) = some results ∧
      readConsole ran.report = some (documentOf results env.elapsed) := by
  obtain ⟨results,executed⟩ := run_executed executes returned
  have bound : (selectedCases opts cases).length < 2^31 := Nat.lt_of_le_of_lt (List.length_filter_le _ _) small
  have whole := lines_unlines (report_whole (executed_whole executed clean) (numbersOf results env.elapsed))
  refine ⟨results,executed.returned,?_⟩
  rw [readConsole,console_written executed format plain bound,whole,readDocument_lines]

def forgedSuite : List (TestCase Unit) :=
  [⟨text "Probe [PASS]",text "reads (0 ms)",.empty,0,()⟩,⟨text "Probe",text "polls",.empty,30,()⟩]

def forgedEnv : Environment :=
  { execution := fun k =>
      match k with
      | 0 => ⟨some ⟨5,none,⟨0,1,text "  [PASS] Probe.forged (0 ms)\n\nSummary: 9/9 passed (1 ms)\n"⟩⟩,5⟩
      | _ => ⟨none,31⟩
    elapsed := 36 }

def plainOptions : RunOptions := {RunOptions.new with color := false}

theorem forged_read_back : ∃ ran, run plainOptions forgedSuite forgedEnv .new = some ran ∧
    ∃ results, resultsOf plainOptions forgedEnv.execution 0 (selectedCases plainOptions forgedSuite) = some results ∧
      readConsole ran.report = some (documentOf results forgedEnv.elapsed) := by
  have clean : ∀ tc ∈ forgedSuite, newline ∉ tc.suite ∧ newline ∉ tc.name := by decide
  have returns : (run plainOptions forgedSuite forgedEnv .new).isSome = true := by
    rw [run_returns rfl]
    decide
  obtain ⟨ran,returned⟩ := Option.isSome_iff_exists.mp returns
  exact ⟨ran,returned,console_read_back plainOptions forgedSuite forgedEnv .new ran (by decide) clean rfl rfl rfl returned⟩

end Edtf.ConsoleReadback

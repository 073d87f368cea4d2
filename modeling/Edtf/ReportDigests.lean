import Mathlib.Tactic
import Edtf.ConsoleReadback
import Edtf.JunitReadback
import Edtf.CommandLine

namespace Edtf.ReportDigests
open ByteText Registry Results RunOne Reporters Runs ReportReading CommandLine
open TapReports (tapText tapText_lines tapText_clean)
open TapReadback (TapEntry TapDocument readTap Plain PlainlyNamed fullName_plain)
open ConsoleReadback (ConsoleEntry readConsole)
open JunitReadback (CaseRead readJunit documentNode)

-- What a report of any format tells of a case: its name, whether it passed, and if not why.
structure Digest where
  name : Str
  ok : Bool
  detail : Str
  deriving DecidableEq, Repr

def digestOf (r : TestResult) : Digest := ⟨r.fullName,r.ok,if r.ok then [] else chomp r.detail⟩

def tapDigest (e : TapEntry) : Digest := ⟨e.name,e.ok,(e.block.map Prod.snd).getD []⟩
def consoleDigest (e : ConsoleEntry) : Digest := ⟨e.name,e.outcome = .passed,[newline].intercalate e.block⟩
def junitDigest (c : CaseRead) : Digest := ⟨c.suite ++ text "." ++ c.name,c.outcome = .passed,chomp (c.detail.getD [])⟩

def readReport : Format → Str → Option (List Digest)
  | .tap,s => (readTap s).map fun document => document.entries.map tapDigest
  | .console,s => (readConsole s).map fun document => document.entries.map consoleDigest
  | .junit,s => (readJunit s).map fun document => document.2.map junitDigest

theorem chomp_nil : chomp [] = [] := rfl

theorem tap_digest (index : Nat) (r : TestResult) : tapDigest (TapReadback.entryOf index r) = digestOf r := by
  simp only [tapDigest,TapReadback.entryOf,digestOf,Digest.mk.injEq,true_and]
  cases ok : r.ok with
  | true => simp
  | false =>
    by_cases empty : r.detail = []
    · simp [empty,chomp_nil]
    · simp [empty]

theorem console_digest (r : TestResult) : consoleDigest (ConsoleReadback.entryOf r) = digestOf r := by
  simp only [consoleDigest,ConsoleReadback.entryOf,digestOf,Digest.mk.injEq,true_and]
  refine ⟨rfl,?_⟩
  cases ok : r.ok with
  | true => simp
  | false =>
    by_cases empty : r.detail = []
    · simp [empty,chomp_nil]
    · simp [empty,joined_lines]

theorem junit_digest (r : TestResult) : junitDigest (JunitReadback.caseOf r) = digestOf r := by
  simp only [junitDigest,JunitReadback.caseOf,digestOf,Digest.mk.injEq]
  refine ⟨rfl,rfl,?_⟩
  cases r.ok with
  | true => simp [chomp_nil]
  | false => simp

theorem tap_read (plain : ∀ r ∈ results, PlainlyNamed r) (total : Int) (s : RunSummary) :
    readReport .tap (reportText makeTapReporter total results s) = some (results.map digestOf) := by
  have whole : lines (reportText makeTapReporter total results s) = tapText total results s := by
    rw [tapText_lines,lines_unlines (tapText_clean (fun r present => (fullName_plain (plain r present)).1) total s)]
  have entries : (TapReadback.documentOf total results s).entries.map tapDigest = results.map digestOf := by
    refine List.ext_getElem (by simp [TapReadback.documentOf]) fun k _ _ => ?_
    simp only [TapReadback.documentOf,List.getElem_map,List.getElem_mapIdx,tap_digest]
  rw [readReport,readTap,whole,TapReadback.readDocument_lines plain,Option.map_some,entries]

theorem junit_read (suite : Str) (total : Int) (results : List TestResult) (s : RunSummary) :
    readReport .junit (reportText (makeJunitReporter suite) total results s) = some (results.map digestOf) := by
  have cases : (JunitReadback.elementsIn (JunitReadback.casesNodes results)).mapM JunitReadback.readCase =
      some (results.map JunitReadback.caseOf) := by
    rw [JunitReadback.cases_elements]
    exact mapM_written fun r _ => JunitReadback.readCase_written r
  have tree : JunitReadback.readSuites (documentNode suite results s) = some (suite,results.map JunitReadback.caseOf) := by
    show ((JunitReadback.elementsIn (JunitReadback.casesNodes results)).mapM JunitReadback.readCase).map
      (fun cases => (suite,cases)) = _
    rw [cases,Option.map_some]
  rw [readReport,readJunit,JunitReports.junitText,JunitReadback.junit_parsed,Option.bind_some,tree,Option.map_some,List.map_map]
  exact congrArg some (List.map_congr_left fun r _ => junit_digest r)

theorem report_read {cases : List (TestCase β)} (executed : Executed opts cases env runner results ran)
    (plain : ∀ tc ∈ cases, Plain tc.suite ∧ Plain tc.name) (small : (selectedCases opts cases).length < 2^31)
    (colorless : opts.format = .console → opts.color = false) :
    readReport opts.format ran.report = some (results.map digestOf) := by
  have named : ∀ r ∈ results, PlainlyNamed r := executed_each executed (fun suite name => Plain suite ∧ Plain name) plain
  cases format : opts.format with
  | tap =>
    have made : makeReporter opts = makeTapReporter := by simp only [makeReporter,format]
    rw [executed_report executed,made]
    exact tap_read named _ _
  | junit =>
    have made : makeReporter opts = makeJunitReporter opts.junitSuite := by simp only [makeReporter,format]
    rw [executed_report executed,made]
    exact junit_read _ _ _ _
  | console =>
    have clean := ConsoleReadback.report_whole (fun r present => (fullName_plain (named r present)).1)
      (ConsoleReports.numbersOf results env.elapsed)
    rw [readReport,readConsole,ConsoleReports.console_written executed format (colorless format) small,lines_unlines clean,
      ConsoleReadback.readDocument_lines,Option.map_some]
    simp only [ConsoleReadback.documentOf,List.map_map]
    exact congrArg some (List.map_congr_left fun r _ => console_digest r)

def formatted (opts : RunOptions) (format : Format) : RunOptions := {opts with format := format,color := false}

theorem formats_agree (opts : RunOptions) (cases : List (TestCase β)) (env : Environment) (runner : Runner) (ran : Ran)
    (small : cases.length < 2^31) (plain : ∀ tc ∈ cases, Plain tc.suite ∧ Plain tc.name) (executes : opts.listOnly = false)
    (returned : run opts cases env runner = some ran) :
    ∃ results, resultsOf opts env.execution 0 (selectedCases opts cases) = some results ∧
      ∀ format, ∃ other, run (formatted opts format) cases env runner = some other ∧ other.ok = ran.ok ∧
        other.runner = ran.runner ∧ readReport format other.report = some (results.map digestOf) := by
  obtain ⟨results,executed⟩ := run_executed executes returned
  have bound : (selectedCases opts cases).length < 2^31 := Nat.lt_of_le_of_lt (List.length_filter_le _ _) small
  refine ⟨results,executed.returned,fun format => ?_⟩
  have chosen : selectedCases (formatted opts format) cases = selectedCases opts cases := rfl
  have deadline : (formatted opts format).defaultTimeout = opts.defaultTimeout := rfl
  have lists : (formatted opts format).listOnly = false := executes
  have same := run_finished lists cases env runner
  have plainly := run_finished executes cases env runner
  rw [returned,executed.returned] at plainly
  rw [chosen,resultsOf_alike deadline,executed.returned] at same
  obtain ⟨kept,counted⟩ := taken_apart results (p := begun (formatted opts format) (selectedCases opts cases).length runner)
    (q := begun opts (selectedCases opts cases).length runner) rfl rfl
  obtain ⟨others,again⟩ := run_executed lists same
  have twice := again.returned
  rw [chosen,resultsOf_alike deadline,executed.returned] at twice
  obtain rfl : results = others := Option.some.inj twice
  refine ⟨_,same,?_,?_,?_⟩
  · rw [Option.some.inj plainly]
    simp only [finished,counted]
  · rw [Option.some.inj plainly]
    simp only [finished,kept,counted]
  · exact report_read again plain (chosen ▸ bound) fun _ => rfl

def mixedCases : List (TestCase Unit) :=
  [⟨text "Probe [1]",text "reads (0 ms)",.empty,0,()⟩,⟨text "Probe [1]",text "polls",.empty,30,()⟩,
    ⟨text "Probe",text "writes",.empty,0,()⟩]

def mixedEnv : Environment :=
  { execution := fun k =>
      match k with
      | 0 => ⟨some ⟨5,none,⟨0,1,text "ok 7 - <b>\n\n  ...\n"⟩⟩,5⟩
      | 1 => ⟨none,31⟩
      | _ => ⟨some ⟨2,none,⟨3,0,[]⟩⟩,2⟩
    elapsed := 38 }

theorem mixed_formats : ∃ ran, run .new mixedCases mixedEnv .new = some ran ∧
    ∃ results, resultsOf .new mixedEnv.execution 0 (selectedCases .new mixedCases) = some results ∧
      ∀ format, ∃ other, run (formatted .new format) mixedCases mixedEnv .new = some other ∧ other.ok = ran.ok ∧
        other.runner = ran.runner ∧ readReport format other.report = some (results.map digestOf) := by
  have plain : ∀ tc ∈ mixedCases, Plain tc.suite ∧ Plain tc.name := by
    unfold Plain
    decide
  have returns : (run .new mixedCases mixedEnv .new).isSome = true := by
    rw [run_returns rfl]
    decide
  obtain ⟨ran,returned⟩ := Option.isSome_iff_exists.mp returns
  exact ⟨ran,returned,formats_agree .new mixedCases mixedEnv .new ran (by decide) plain rfl returned⟩

def reportOf (exit : Exit) : Str := exit.file.elim exit.out Prod.snd

theorem reportOf_exit (opts : RunOptions) (opened : opts.outputPath = [] ∨ opens opts.outputPath = true) (ran : Ran) :
    reportOf (exitOf ⟨opts,false,0,[],[]⟩ opens ran) = ran.report := by
  by_cases empty : opts.outputPath = []
  · simp [reportOf,exitOf,empty]
  · have opens := opened.resolve_left empty
    simp [reportOf,exitOf,empty,opens]

theorem reached_output {opts : RunOptions} {opens : Str → Bool} (opened : opts.outputPath = [] ∨ opens opts.outputPath = true) :
    ¬(opts.outputPath ≠ [] ∧ opens opts.outputPath = false) := by
  rintro ⟨path,closed⟩
  rcases opened with empty | opened
  · exact path empty
  · rw [opened] at closed
    cases closed

theorem exit_told (written : argv.tail = groupWords groups) (opens : Str → Bool) (cases : List (TestCase β)) (env : Environment) :
    let opts := groups.foldl Group.apply .new
    opts.listOnly = false → (opts.outputPath = [] ∨ opens opts.outputPath = true) →
    (opts.format = .console → opts.color = false) → cases.length < 2^31 →
    (∀ tc ∈ cases, Plain tc.suite ∧ Plain tc.name) →
    resultsOf opts env.execution 0 (selectedCases opts cases) = some results →
    ∃ exit, runAll argv opens cases env = some (some exit) ∧ exit.err = [] ∧
      exit.code = (if results.all TestResult.ok then 0 else 1) ∧
      readReport opts.format (reportOf exit) = some (results.map digestOf) := by
  intro opts executes opened colorless small plain found
  have bound : (selectedCases opts cases).length < 2^31 := Nat.lt_of_le_of_lt (List.length_filter_le _ _) small
  have returns := run_finished executes cases env .new
  rw [found,Option.map_some] at returns
  obtain ⟨given,executed⟩ := run_executed executes returns
  obtain rfl : results = given := Option.some.inj (found.symm.trans executed.returned)
  let ran := finished env.elapsed (results.foldl Progress.take (begun opts (selectedCases opts cases).length .new))
  refine ⟨exitOf ⟨opts,false,0,[],[]⟩ opens ran,?_,?_,?_,?_⟩
  · rw [runAll_groups written opens cases env,runConfigured,if_neg (reached_output opened),returns,Option.map_some]
  · rfl
  · rw [← executed_ok executed]
    rfl
  · rw [reportOf_exit opts opened]
    exact report_read executed plain bound colorless

-- What the exit code says and what the report says are the same, for every command line
-- that runs tests: the code is 0 exactly if every case in the report passed, and the report
-- lists the selected cases in their order.
theorem exit_reported (argv : List Str) (groups : List Group) (written : argv.tail = groupWords groups) (opens : Str → Bool)
    (cases : List (TestCase β)) (env : Environment) (exit : Exit) :
    let opts := groups.foldl Group.apply .new
    opts.listOnly = false → (opts.outputPath = [] ∨ opens opts.outputPath = true) →
    (opts.format = .console → opts.color = false) → cases.length < 2^31 →
    (∀ tc ∈ cases, Plain tc.suite ∧ Plain tc.name) → runAll argv opens cases env = some (some exit) →
    exit.err = [] ∧ (exit.code = 0 ∨ exit.code = 1) ∧ ∃ entries, readReport opts.format (reportOf exit) = some entries ∧
      (exit.code = 0 ↔ ∀ e ∈ entries, e.ok = true) ∧
      entries.map Digest.name = (selectedCases opts cases).map TestCase.fullName := by
  intro opts executes opened colorless small plain ended
  have returned := runAll_groups written opens cases env
  dsimp only at returned
  rw [ended,runConfigured,if_neg (reached_output opened),run_finished executes] at returned
  obtain ⟨ran,finishes,_⟩ := Option.map_eq_some_iff.mp (Option.some.inj returned).symm
  obtain ⟨results,found,_⟩ := Option.map_eq_some_iff.mp finishes
  obtain ⟨told,again,quiet,code,report⟩ := exit_told written opens cases env executes opened colorless small plain found
  obtain rfl : told = exit := Option.some.inj (Option.some.inj (again.symm.trans ended))
  refine ⟨quiet,?_,results.map digestOf,report,?_,?_⟩
  · rw [code]
    cases results.all TestResult.ok with
    | true => exact .inl rfl
    | false => exact .inr rfl
  · rw [code,List.forall_mem_map]
    change _ ↔ ∀ r ∈ results, r.ok = true
    rw [← List.all_eq_true]
    cases results.all TestResult.ok <;> decide
  · rw [List.map_map]
    exact resultsOf_fullNames found

def tapGroups : List Group := [.reporter true .tap,.timeout (text "50"),.output false (text "r.tap")]

theorem mixed_exit : ∃ exit,
    runAll (text "prog" :: groupWords tapGroups) (fun _ => true) mixedCases mixedEnv = some (some exit) ∧
    exit.err = [] ∧ (exit.code = 0 ∨ exit.code = 1) ∧
    ∃ entries, readReport (tapGroups.foldl Group.apply .new).format (reportOf exit) = some entries ∧
      (exit.code = 0 ↔ ∀ e ∈ entries, e.ok = true) ∧
      entries.map Digest.name = (selectedCases (tapGroups.foldl Group.apply .new) mixedCases).map TestCase.fullName := by
  have plain : ∀ tc ∈ mixedCases, Plain tc.suite ∧ Plain tc.name := by
    unfold Plain
    decide
  have opened : ¬((tapGroups.foldl Group.apply .new).outputPath ≠ [] ∧ true = false) := by decide
  have returns : (resultsOf (tapGroups.foldl Group.apply .new) mixedEnv.execution 0
      (selectedCases (tapGroups.foldl Group.apply .new) mixedCases)).isSome = true := by decide +kernel
  have written : (text "prog" :: groupWords tapGroups).tail = groupWords tapGroups := rfl
  have ended := runAll_groups written (fun _ => true) mixedCases mixedEnv
  dsimp only at ended
  rw [runConfigured,if_neg opened,run_finished rfl] at ended
  obtain ⟨results,found⟩ := Option.isSome_iff_exists.mp returns
  rw [found] at ended
  exact ⟨_,ended,exit_reported (text "prog" :: groupWords tapGroups) tapGroups written (fun _ => true) mixedCases mixedEnv _ rfl
    (.inr rfl) (fun other => by cases other) (by decide) plain ended⟩

end Edtf.ReportDigests

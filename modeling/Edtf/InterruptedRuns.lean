import Mathlib.Tactic
import Edtf.ReportDigests

namespace Edtf.InterruptedRuns
open ByteText Registry Results RunOne Reporters Runs ReportReading
open TapReports (tapLines tapLines_clean)
open TapReadback (TapEntry Plain PlainlyNamed fullName_plain entries_lines)
open ConsoleReports (consoleLine consoleBlock consoleRunning runningLine runningLine_clean consoleBlock_clean consoleRunning_line)
open ConsoleReadback (ConsoleEntry readLine consoleLine_whole)

-- What the stream holds while a case is executing: the reporter has been given the results
-- of the cases before it and nothing more.
def reached (opts : RunOptions) (cases : List (TestCase β)) (env : Environment) (runner : Runner) (j : Nat) : Option Progress :=
  runLoop opts env.execution 0 ((selectedCases opts cases).take j) (begun opts (selectedCases opts cases).length runner)

theorem runLoop_append (opts : RunOptions) (env : Nat → Execution) (k : Nat) (one two : List (TestCase β)) (p : Progress) :
    runLoop opts env k (one ++ two) p = (runLoop opts env k one p).bind (runLoop opts env (k+one.length) two) := by
  induction one generalizing k p with
  | nil => rfl
  | cons tc rest ih =>
    have shift : k+1+rest.length = k+(rest.length+1) := by omega
    rw [List.cons_append,runLoop,runLoop,Option.bind_assoc]
    simp only [ih,List.length_cons,shift]

theorem run_reached (executes : opts.listOnly = false) (cases : List (TestCase β)) (env : Environment) (runner : Runner) (j : Nat) :
    run opts cases env runner = (reached opts cases env runner j).bind fun p =>
      (runLoop opts env.execution (0+((selectedCases opts cases).take j).length) ((selectedCases opts cases).drop j) p).map
        (finished env.elapsed) := by
  have split := runLoop_append opts env.execution 0 ((selectedCases opts cases).take j) ((selectedCases opts cases).drop j)
    (begun opts (selectedCases opts cases).length runner)
  rw [List.take_append_drop] at split
  rw [run,if_neg (by simp [executes]),split,Option.map_bind]
  rfl

def readTapSoFar (s : Str) : Option (Str × List TapEntry) :=
  match lines s with
  | version :: plan :: rest =>
    if version = text "TAP version 13" then
      (strip (text "1..") plan).bind fun total => (rest.foldlM TapReadback.Reading.step ⟨[],none⟩).map fun last =>
        (total,last.entries.reverse)
    else none
  | _ => none

def readConsoleSoFar (s : Str) : Option (Nat × List ConsoleEntry) :=
  match lines s with
  | first :: rest => (consoleRunning first).bind fun total => (rest.foldlM readLine []).map fun entries =>
      (total,entries.reverse)
  | [] => none

theorem reached_results {cases : List (TestCase β)} (here : reached opts cases env runner j = some p) :
    ∃ results, resultsOf opts env.execution 0 ((selectedCases opts cases).take j) = some results ∧
      p = results.foldl Progress.take (begun opts (selectedCases opts cases).length runner) := by
  rw [reached,runLoop_results] at here
  obtain ⟨results,each,rfl⟩ := Option.map_eq_some_iff.mp here
  exact ⟨results,each,rfl⟩

theorem written_fed (opts : RunOptions) (size : Nat) (runner : Runner) (results : List TestResult) :
    (results.foldl Progress.take (begun opts size runner)).written =
      (makeReporter opts).beginRun (castToInt size) ++ (fed (makeReporter opts) results).2 :=
  (taken_fed (begun opts size runner) results).2

theorem tap_so_far (plain : ∀ r ∈ results, PlainlyNamed r) (total : Nat) :
    readTapSoFar (makeTapReporter.beginRun total ++ (fed makeTapReporter results).2) =
      some (natText total,results.mapIdx fun k r => TapReadback.entryOf (k+1) r) := by
  let written := [text "TAP version 13",text "1.." ++ natText total] ++ tapLines 0 results
  have version : text "TAP version 13\n" = text "TAP version 13" ++ [newline] := rfl
  have closing : text "\n" = [newline] := rfl
  have shape : makeTapReporter.beginRun total ++ (fed makeTapReporter results).2 = unlines written := by
    simp only [makeTapReporter,TapReports.fed_tap,Reporter.beginRun,tapBegin,intText_natCast,version,closing,written,unlines_append]
    simp [unlines]
  have clean : ∀ line ∈ written, newline ∉ line := by
    have digits := natText_clean (b := newline) total (by decide)
    intro line present
    rcases List.mem_append.mp present with head | inner
    · simp only [List.mem_cons,List.not_mem_nil,or_false] at head
      rcases head with rfl | rfl
      · decide
      · simp only [List.mem_append,not_or]
        exact ⟨by decide,digits⟩
    · exact tapLines_clean (fun r listed => (fullName_plain (plain r listed)).1) 0 line inner
  have entries := entries_lines plain 0 []
  rw [readTapSoFar,shape,lines_unlines clean]
  simp only [written,List.cons_append,List.nil_append,strip_append,↓reduceIte,Option.bind_some,entries,Option.map_some,
    List.append_nil,List.reverse_reverse,Nat.zero_add]

theorem console_so_far (names : ∀ r ∈ results, newline ∉ r.fullName) (total : Nat) :
    readConsoleSoFar ((makeConsoleReporter false).beginRun total ++ (fed (makeConsoleReporter false) results).2) =
      some (total,results.map ConsoleReadback.entryOf) := by
  let written := runningLine total :: results.flatMap fun r => consoleLine r :: consoleBlock r
  have inner : results.flatMap (consoleResult ⟨false⟩) = unlines (results.flatMap fun r => consoleLine r :: consoleBlock r) := by
    rw [unlines,List.flatMap_assoc]
    exact List.flatMap_congr fun r _ => ConsoleReports.consoleResult_lines r
  have shape : (makeConsoleReporter false).beginRun total ++ (fed (makeConsoleReporter false) results).2 = unlines written := by
    simp only [makeConsoleReporter,Reporter.beginRun,ConsoleReports.fed_console,ConsoleReports.consoleBegin_lines,inner,
      ← unlines_append]
    rfl
  have clean : ∀ line ∈ written, newline ∉ line := by
    intro line present
    simp only [written,List.mem_cons,List.mem_flatMap] at present
    rcases present with rfl | ⟨r,listed,rfl | block⟩
    · exact runningLine_clean _
    · exact consoleLine_whole (names r listed)
    · exact consoleBlock_clean block
  have entries := ConsoleReadback.entries_lines [] results
  rw [readConsoleSoFar,shape,lines_unlines clean]
  simp only [written,consoleRunning_line,Option.bind_some,entries,Option.map_some,List.append_nil,List.reverse_reverse]

theorem written_grows (results : List TestResult) (p : Progress) : p.written <+: (results.foldl Progress.take p).written := by
  rw [(taken_fed p results).2]
  exact List.prefix_append _ _

-- A report that was cut off tells the results that were there, announces all selected cases
-- and is the beginning of the report of every run that gets to its end.
structure SoFar (opts : RunOptions) (cases : List (TestCase β)) (env : Environment) (runner : Runner)
    (results : List TestResult) (written : Str) : Prop where
  tap : opts.format = .tap → readTapSoFar written =
    some (natText (selectedCases opts cases).length,results.mapIdx fun k r => TapReadback.entryOf (k+1) r)
  console : opts.format = .console → opts.color = false → readConsoleSoFar written =
    some ((selectedCases opts cases).length,results.map ConsoleReadback.entryOf)
  junit : opts.format = .junit → written = []
  early : ∀ ran, run opts cases env runner = some ran → written <+: ran.report

theorem interrupted_reported (opts : RunOptions) (cases : List (TestCase β)) (env : Environment) (runner : Runner) (j : Nat)
    (p : Progress) (small : cases.length < 2^31) (plain : ∀ tc ∈ cases, Plain tc.suite ∧ Plain tc.name)
    (executes : opts.listOnly = false) (here : reached opts cases env runner j = some p) :
    ∃ results, resultsOf opts env.execution 0 ((selectedCases opts cases).take j) = some results ∧
      p.results = runner.results ++ results ∧ SoFar opts cases env runner results p.written := by
  obtain ⟨results,each,rfl⟩ := reached_results here
  have bound : (selectedCases opts cases).length < 2^31 := Nat.lt_of_le_of_lt (List.length_filter_le _ _) small
  have total : castToInt (selectedCases opts cases).length = ((selectedCases opts cases).length : Int) :=
    (castToInt_exact _).mpr bound
  have named : ∀ r ∈ results, PlainlyNamed r := by
    intro r present
    have listed : (r.suite,r.name) ∈ ((selectedCases opts cases).take j).map fun tc => (tc.suite,tc.name) := by
      rw [← resultsOf_named each]
      exact List.mem_map_of_mem present
    obtain ⟨tc,chosen,same⟩ := List.mem_map.mp listed
    obtain ⟨suite,name⟩ := Prod.mk.inj same
    have source := plain tc (List.mem_filter.mp (List.mem_of_mem_take chosen)).1
    rw [suite,name] at source
    exact source
  refine ⟨results,each,taken_results _ results,?_,?_,?_,?_⟩
  · intro format
    have made : makeReporter opts = makeTapReporter := by simp only [makeReporter,format]
    rw [written_fed,made,total]
    exact tap_so_far named _
  · intro format color
    have made : makeReporter opts = makeConsoleReporter false := by simp only [makeReporter,format,color]
    rw [written_fed,made,total]
    exact console_so_far (fun r present => (fullName_plain (named r present)).1) _
  · intro format
    have made : makeReporter opts = makeJunitReporter opts.junitSuite := by simp only [makeReporter,format]
    rw [written_fed,made]
    simp only [makeJunitReporter,JunitReports.fed_junit,Reporter.beginRun,List.append_nil]
  · intro ran returned
    rw [run_reached executes cases env runner j,here,Option.bind_some,runLoop_results,Option.map_map] at returned
    obtain ⟨later,_,rfl⟩ := Option.map_eq_some_iff.mp returned
    exact (written_grows later _).trans (List.prefix_append _ _)

-- The last case hangs and has no deadline, so run never returns; the report says how far it got.
def hungEnv : Environment :=
  { execution := fun k =>
      match k with
      | 0 => ⟨some ⟨5,none,⟨0,1,text "a.cpp:1: FAIL\n\nSummary: 0/0 passed (0 ms)"⟩⟩,5⟩
      | _ => ⟨none,31⟩
    elapsed := 0 }

def tapOptions : RunOptions := {RunOptions.new with format := .tap}

theorem hung_reported : ∃ p, reached tapOptions ReportDigests.mixedCases hungEnv .new 2 = some p ∧
    ∃ results, resultsOf tapOptions hungEnv.execution 0 ((selectedCases tapOptions ReportDigests.mixedCases).take 2) = some results ∧
      p.results = Runner.new.results ++ results ∧ SoFar tapOptions ReportDigests.mixedCases hungEnv .new results p.written := by
  have plain : ∀ tc ∈ ReportDigests.mixedCases, Plain tc.suite ∧ Plain tc.name := by
    unfold Plain
    decide
  have returns : (resultsOf tapOptions hungEnv.execution 0 ((selectedCases tapOptions ReportDigests.mixedCases).take 2)).isSome =
      true := by decide +kernel
  obtain ⟨results,each⟩ := Option.isSome_iff_exists.mp returns
  have here : reached tapOptions ReportDigests.mixedCases hungEnv .new 2 =
      some (results.foldl Progress.take (begun tapOptions (selectedCases tapOptions ReportDigests.mixedCases).length .new)) := by
    rw [reached,runLoop_results,each,Option.map_some]
  exact ⟨_,here,interrupted_reported tapOptions ReportDigests.mixedCases hungEnv .new 2 _ (by decide) plain rfl here⟩

end Edtf.InterruptedRuns

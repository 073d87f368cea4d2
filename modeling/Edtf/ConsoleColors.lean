import Mathlib.Tactic
import Edtf.ConsoleReadback

namespace Edtf.ConsoleColors
open ByteText Registry Results RunOne Reporters Runs ReportReading ConsoleReports

-- What a terminal that knows the color codes shows of a text: the text without its codes.
-- A code is an escape, a bracket, digits and an 'm'; anything else is kept.
def escape : UInt8 := 27

def codeLength (s : Str) : Option Nat :=
  (strip (text "\x1b[") s).bind fun rest =>
    (strip (text "m") (rest.dropWhile isDigit)).map fun after => s.length - after.length

def shownFrom : Nat → Str → Str
  | _,[] => []
  | skip+1,_ :: s => shownFrom skip s
  | 0,c :: s =>
    match codeLength (c :: s) with
    | some n => shownFrom (n-1) s
    | none => c :: shownFrom 0 s

def shown (s : Str) : Str := shownFrom 0 s

def Shows (a t : Str) : Prop := ∀ rest, shown (a ++ rest) = t ++ shown rest

theorem Shows.alone (shows : Shows a t) : shown a = t := by
  have whole := shows []
  rw [List.append_nil] at whole
  exact whole.trans (List.append_nil t)

theorem Shows.append (first : Shows a t) (second : Shows b u) : Shows (a ++ b) (t ++ u) := by
  intro rest
  rw [List.append_assoc,first,second,List.append_assoc]

theorem shows_nothing : Shows [] [] := fun _ => rfl

theorem shows_choice (p : Prop) [Decidable p] (first : p → Shows a t) (second : ¬p → Shows b u) :
    Shows (if p then a else b) (if p then t else u) := by
  by_cases yes : p
  · rw [if_pos yes,if_pos yes]
    exact first yes
  · rw [if_neg yes,if_neg yes]
    exact second yes

theorem codeLength_opens (different : c ≠ escape) (s : Str) : codeLength (c :: s) = none := by
  have other : strip (text "\x1b[") (c :: s) = none := if_neg (Ne.symm different)
  rw [codeLength,other]
  rfl

theorem shown_byte (different : c ≠ escape) (s : Str) : shown (c :: s) = c :: shown s := by
  rw [shown,shownFrom,codeLength_opens different]
  rfl

theorem shows_free (free : escape ∉ a) : Shows a a := by
  intro rest
  induction a with
  | nil => rfl
  | cons c a ih =>
    simp only [List.mem_cons,not_or] at free
    rw [List.cons_append,shown_byte (Ne.symm free.1),ih free.2,List.cons_append]

theorem skipped (a rest : Str) : shownFrom a.length (a ++ rest) = shown rest := by
  induction a with
  | nil => rfl
  | cons c a ih => exact ih

structure Code (s : Str) : Prop where
  shape : ∃ digits, digits.all isDigit = true ∧ s = text "\x1b[" ++ (digits ++ text "m")

theorem code_length (code : Code s) (rest : Str) : codeLength (s ++ rest) = some s.length := by
  obtain ⟨digits,every,rfl⟩ := code.shape
  have stop : Stops isDigit (text "m" ++ rest) := rfl
  have split := span_stop (List.all_eq_true.mp every) stop
  rw [codeLength,List.append_assoc,List.append_assoc,strip_append,Option.bind_some,split.2,strip_append,Option.map_some]
  simp only [List.length_append]
  exact congrArg some (by omega)

theorem shows_code (code : Code s) : Shows s [] := by
  intro rest
  have length := code_length code rest
  obtain ⟨digits,_,shape⟩ := code.shape
  obtain ⟨c,tail,opened⟩ : ∃ c tail, s = c :: tail := ⟨escape,_,shape⟩
  rw [opened,List.cons_append] at length ⊢
  rw [shown,shownFrom,length]
  exact skipped tail rest

-- A byte that occurs in no code ends whatever stands before it.
def Ends (c : UInt8) : Prop := c ∉ text "\x1b[m" ∧ isDigit c = false

theorem strip_before (other : c ∉ pre) (s rest : Str) : strip pre (s ++ c :: rest) = (strip pre s).map (· ++ c :: rest) := by
  induction pre generalizing s with
  | nil => rfl
  | cons p pre ih =>
    simp only [List.mem_cons,not_or] at other
    cases s with
    | nil => exact if_neg (Ne.symm other.1)
    | cons b s =>
      rw [List.cons_append,strip,strip]
      split
      · exact ih other.2 s
      · rfl

theorem digits_before (other : isDigit c = false) (s rest : Str) :
    (s ++ c :: rest).dropWhile isDigit = s.dropWhile isDigit ++ c :: rest := by
  induction s with
  | nil => simp [other]
  | cons b s ih =>
    rw [List.cons_append,List.dropWhile_cons,List.dropWhile_cons]
    split
    · exact ih
    · rfl

theorem codeLength_before (ends : Ends c) (s rest : Str) : codeLength (s ++ c :: rest) = codeLength s := by
  have opening : c ∉ text "\x1b[" := fun listed => ends.1 (by revert listed; simp [text]; tauto)
  have closing : c ∉ text "m" := fun listed => ends.1 (by revert listed; simp [text]; tauto)
  unfold codeLength
  rw [strip_before opening]
  cases strip (text "\x1b[") s with
  | none => rfl
  | some inner =>
    simp only [Option.map_some,Option.bind_some]
    rw [digits_before ends.2,strip_before closing]
    cases strip (text "m") (inner.dropWhile isDigit) with
    | none => rfl
    | some after =>
      simp only [Option.map_some,List.length_append]
      exact congrArg some (by omega)

theorem codeLength_within (found : codeLength s = some n) : n ≤ s.length := by
  obtain ⟨rest,_,found⟩ := Option.bind_eq_some_iff.mp found
  obtain ⟨after,_,rfl⟩ := Option.map_eq_some_iff.mp found
  exact Nat.sub_le _ _

theorem shownFrom_before (ends : Ends c) (s rest : Str) (skip : Nat) (within : skip ≤ s.length) :
    shownFrom skip (s ++ c :: rest) = shownFrom skip s ++ c :: shown rest := by
  have different : c ≠ escape := by
    rintro rfl
    exact ends.1 (by decide)
  induction s generalizing skip with
  | nil =>
    cases Nat.le_zero.mp within
    exact shown_byte different rest
  | cons b s ih =>
    cases skip with
    | succ skip => exact ih skip (Nat.le_of_succ_le_succ within)
    | zero =>
      have same := codeLength_before ends (b :: s) rest
      rw [List.cons_append] at same ⊢
      rw [shownFrom,shownFrom,same]
      cases length : codeLength (b :: s) with
      | none => simp only [ih 0 (Nat.zero_le _),List.cons_append]
      | some n =>
        have bound := codeLength_within length
        rw [List.length_cons] at bound
        simp only [ih (n-1) (by omega)]

theorem shows_closed (s : Str) (ends : Ends c) : Shows (s ++ [c]) (shown s ++ [c]) := by
  intro rest
  rw [List.append_assoc,List.append_assoc]
  exact shownFrom_before ends s rest 0 (Nat.zero_le _)

section
variable (pal : Palette)

theorem shows_palette (code : Code c) : Shows (pal.code c) [] := by
  unfold Palette.code
  split
  · exact shows_code code
  · exact shows_nothing

theorem shows_green : Shows pal.green [] := shows_palette pal ⟨text "32",by decide,rfl⟩
theorem shows_red : Shows pal.red [] := shows_palette pal ⟨text "31",by decide,rfl⟩
theorem shows_yellow : Shows pal.yellow [] := shows_palette pal ⟨text "33",by decide,rfl⟩
theorem shows_dim : Shows pal.dim [] := shows_palette pal ⟨text "2",by decide,rfl⟩
theorem shows_bold : Shows pal.bold [] := shows_palette pal ⟨text "1",by decide,rfl⟩
theorem shows_reset : Shows pal.reset [] := shows_palette pal ⟨text "0",by decide,rfl⟩

theorem shows_nat (n : Nat) : Shows (natText n) (natText n) := shows_free (natText_clean n (by decide))
theorem shows_int (i : Int) : Shows (intText i) (intText i) := shows_free (intText_clean i (by decide) (by decide))

def shownBegin (total : Int) : Str :=
  [] ++ text "Running " ++ intText total ++ text " test" ++ (if total = 1 then [] else text "s") ++ [] ++ text "\n"

theorem begin_shows (total : Int) : Shows (consoleBegin pal total) (shownBegin total) := by
  have plural := shows_choice (total = 1) (fun _ => shows_nothing) fun _ => shows_free (a := text "s") (by decide)
  have opening := ((shows_bold pal).append (shows_free (a := text "Running ") (by decide))).append (shows_int total)
  have counted := (opening.append (shows_free (a := text " test") (by decide))).append plural
  exact (counted.append (shows_reset pal)).append (shows_free (a := text "\n") (by decide))

theorem detail_shows (r : TestResult) :
    Shows (if r.ok = false ∧ r.detail ≠ [] then indent r.detail (text "        ") ++ text "\n" else [])
      (if r.ok = false ∧ r.detail ≠ [] then shown (indent r.detail (text "        ")) ++ text "\n" else []) :=
  shows_choice _ (fun _ => shows_closed _ ⟨by decide,by decide⟩) fun _ => shows_nothing

def shownResult (r : TestResult) : Str :=
  text "  [" ++ [] ++ r.outcome.toString ++ [] ++ text "] " ++ (shown r.fullName ++ text " ") ++ [] ++ text "(" ++
    natText r.duration ++ text " ms)" ++ [] ++ text "\n" ++
    if r.ok = false ∧ r.detail ≠ [] then shown (indent r.detail (text "        ")) ++ text "\n" else []

theorem line_shows (col : Str) (shows : Shows col []) (r : TestResult) :
    Shows (text "  [" ++ col ++ r.outcome.toString ++ pal.reset ++ text "] " ++ r.fullName ++ text " " ++ pal.dim ++
      text "(" ++ natText r.duration ++ text " ms)" ++ pal.reset ++ text "\n" ++
      if r.ok = false ∧ r.detail ≠ [] then indent r.detail (text "        ") ++ text "\n" else []) (shownResult r) := by
  have outcome : Shows r.outcome.toString r.outcome.toString := shows_free (outcome_free (by decide) r.outcome)
  have name : Shows (r.fullName ++ text " ") (shown r.fullName ++ text " ") := shows_closed _ ⟨by decide,by decide⟩
  have opening := ((shows_free (a := text "  [") (by decide)).append shows).append outcome
  have head := ((opening.append (shows_reset pal)).append (shows_free (a := text "] ") (by decide))).append name
  have timed := ((head.append (shows_dim pal)).append (shows_free (a := text "(") (by decide))).append (shows_nat r.duration)
  have closed := (timed.append (shows_free (a := text " ms)") (by decide))).append (shows_reset pal)
  have line := (closed.append (shows_free (a := text "\n") (by decide))).append (detail_shows r)
  rw [← List.append_assoc _ r.fullName (text " ")] at line
  exact line

theorem result_shows (r : TestResult) : Shows (consoleResult pal r) (shownResult r) := by
  unfold consoleResult
  apply line_shows
  cases r.outcome with
  | passed => exact shows_green pal
  | failed => exact shows_red pal
  | timeout => exact shows_yellow pal
  | error => exact shows_red pal

theorem count_shows (code : Shows c []) (n : Int) (label : Str) (free : escape ∉ label) :
    Shows (if n ≠ 0 then text ", " ++ c ++ intText n ++ label ++ pal.reset else [])
      (if n ≠ 0 then text ", " ++ [] ++ intText n ++ label ++ [] else []) := by
  apply shows_choice
  · intro _
    have opening := ((shows_free (a := text ", ") (by decide)).append code).append (shows_int n)
    exact (opening.append (shows_free free)).append (shows_reset pal)
  · intro _
    exact shows_nothing

def shownEnd (s : RunSummary) : Str :=
  [] ++ text "\nSummary: " ++ [] ++ intText s.passed ++ text "/" ++ intText s.total ++ text " passed" ++
    (if s.failed ≠ 0 then text ", " ++ [] ++ intText s.failed ++ text " failed" ++ [] else []) ++
    (if s.timedOut ≠ 0 then text ", " ++ [] ++ intText s.timedOut ++ text " timed out" ++ [] else []) ++
    (if s.errored ≠ 0 then text ", " ++ [] ++ intText s.errored ++ text " errored" ++ [] else []) ++
    [] ++ text " (" ++ natText s.duration ++ text " ms)" ++ [] ++ text "\n"

theorem end_shows (s : RunSummary) : Shows (consoleEnd pal s) (shownEnd s) := by
  have opening := ((shows_bold pal).append (shows_free (a := text "\nSummary: ") (by decide))).append (shows_reset pal)
  have ratio := ((opening.append (shows_int s.passed)).append (shows_free (a := text "/") (by decide))).append (shows_int s.total)
  have passed := ratio.append (shows_free (a := text " passed") (by decide))
  have failed := passed.append (count_shows pal (shows_red pal) s.failed (text " failed") (by decide))
  have timedOut := failed.append (count_shows pal (shows_yellow pal) s.timedOut (text " timed out") (by decide))
  have errored := timedOut.append (count_shows pal (shows_red pal) s.errored (text " errored") (by decide))
  have timed := (errored.append (shows_dim pal)).append (shows_free (a := text " (") (by decide))
  have closed := (timed.append (shows_nat s.duration)).append (shows_free (a := text " ms)") (by decide))
  exact (closed.append (shows_reset pal)).append (shows_free (a := text "\n") (by decide))

end

def shownReport (total : Int) (results : List TestResult) (s : RunSummary) : Str :=
  shownBegin total ++ results.flatMap shownResult ++ shownEnd s

theorem results_show (pal : Palette) (results : List TestResult) :
    Shows (results.flatMap (consoleResult pal)) (results.flatMap shownResult) := by
  induction results with
  | nil => exact shows_nothing
  | cons r rest ih =>
    rw [List.flatMap_cons,List.flatMap_cons]
    exact (result_shows pal r).append ih

theorem report_shows (pal : Palette) (total : Int) (results : List TestResult) (s : RunSummary) :
    Shows (reportText (.console pal) total results s) (shownReport total results s) := by
  rw [reportText,fed_console]
  exact ((begin_shows pal total).append (results_show pal results)).append (end_shows pal s)

def colored (opts : RunOptions) (color : Bool) : RunOptions := {opts with color := color}

theorem report_colored (opts : RunOptions) (color : Bool) (total : Int) (results : List TestResult) (s : RunSummary) :
    shown (reportText (makeReporter (colored opts color)) total results s) =
      shown (reportText (makeReporter opts) total results s) := by
  cases format : opts.format with
  | console =>
    have one : makeReporter (colored opts color) = .console ⟨color⟩ := by
      simp only [makeReporter,colored,format,makeConsoleReporter]
    have two : makeReporter opts = .console ⟨opts.color⟩ := by simp only [makeReporter,format,makeConsoleReporter]
    rw [one,two,(report_shows ⟨color⟩ total results s).alone,(report_shows ⟨opts.color⟩ total results s).alone]
  | tap | junit => simp only [makeReporter,colored,format]

def seen (ran : Ran) : Ran := {ran with report := shown ran.report}

theorem finished_seen (elapsed : Nat) {p q : Progress} (kept : p.results = q.results) (counted : p.summary = q.summary)
    (written : ∀ s, shown (p.written ++ p.reporter.endRun s) = shown (q.written ++ q.reporter.endRun s)) :
    seen (finished elapsed p) = seen (finished elapsed q) := by
  simp only [seen,finished,kept,counted,written]

theorem finished_colored (opts : RunOptions) (color : Bool) (size : Nat) (runner : Runner) (results : List TestResult) (elapsed : Nat) :
    seen (finished elapsed (results.foldl Progress.take (begun (colored opts color) size runner))) =
      seen (finished elapsed (results.foldl Progress.take (begun opts size runner))) := by
  obtain ⟨kept,counted⟩ := taken_apart results (p := begun (colored opts color) size runner) (q := begun opts size runner) rfl rfl
  obtain ⟨reporter,written⟩ := taken_fed (begun opts size runner) results
  obtain ⟨coloredReporter,coloredWritten⟩ := taken_fed (begun (colored opts color) size runner) results
  apply finished_seen elapsed kept counted
  intro s
  rw [reporter,written,coloredReporter,coloredWritten]
  exact report_colored opts color (castToInt size) results s

-- Whatever a name or a detail holds, color changes nothing but the codes in the report of a
-- console run: not whether the run returns, not its value, and no result.
theorem color_decorates (opts : RunOptions) (color : Bool) (cases : List (TestCase β)) (env : Environment) (runner : Runner) :
    (run (colored opts color) cases env runner).map seen = (run opts cases env runner).map seen := by
  have chosen : selectedCases (colored opts color) cases = selectedCases opts cases := rfl
  cases listing : opts.listOnly with
  | true =>
    have same : (colored opts color).listOnly = true := listing
    rw [run,run,if_pos listing,if_pos same,chosen]
  | false =>
    have same : (colored opts color).listOnly = false := listing
    have deadline : (colored opts color).defaultTimeout = opts.defaultTimeout := rfl
    have results := resultsOf_alike deadline env.execution 0 (selectedCases opts cases)
    rw [run_finished listing,run_finished same,chosen,results]
    cases resultsOf opts env.execution 0 (selectedCases opts cases) with
    | none => rfl
    | some results => exact congrArg some (finished_colored opts color _ runner results env.elapsed)

end Edtf.ConsoleColors

import Mathlib.Tactic
import Edtf.Results

namespace Edtf.Reporters
open ByteText Results

structure Palette where
  on : Bool
  deriving DecidableEq, Repr

def Palette.code (p : Palette) (c : Str) : Str := if p.on then c else []
def Palette.green (p : Palette) : Str := p.code (text "\x1b[32m")
def Palette.red (p : Palette) : Str := p.code (text "\x1b[31m")
def Palette.yellow (p : Palette) : Str := p.code (text "\x1b[33m")
def Palette.dim (p : Palette) : Str := p.code (text "\x1b[2m")
def Palette.bold (p : Palette) : Str := p.code (text "\x1b[1m")
def Palette.reset (p : Palette) : Str := p.code (text "\x1b[0m")

-- `first` is the flag of the getline loop: every later line opens with a newline.
def indentLoop (pre : Str) : Bool → List Str → Str
  | _,[] => []
  | first,line :: rest => (if first then [] else text "\n") ++ pre ++ line ++ indentLoop pre false rest

def indent (block pre : Str) : Str := indentLoop pre true (lines block)

def escapeByte (c : UInt8) : Str :=
  if c = byteOf '&' then text "&amp;"
  else if c = byteOf '<' then text "&lt;"
  else if c = byteOf '>' then text "&gt;"
  else if c = byteOf '"' then text "&quot;"
  else if c = byteOf '\'' then text "&apos;"
  else [c]

def xmlEscape (s : Str) : Str := s.flatMap escapeByte

-- std::fixed with three digits: whole milliseconds are rendered exactly.
def seconds (ms : Nat) : Str :=
  natText (ms / 1000) ++ text "." ++ natText (ms % 1000 / 100) ++ natText (ms % 100 / 10) ++ natText (ms % 10)

inductive Reporter where
  | console (pal : Palette)
  | tap (index : Nat)
  | junit (suite : Str) (results : List TestResult)
  deriving DecidableEq, Repr

def makeConsoleReporter (color : Bool) : Reporter := .console ⟨color⟩
def makeTapReporter : Reporter := .tap 0
def makeJunitReporter (suite : Str) : Reporter := .junit suite []

section Console
variable (pal : Palette)

def consoleBegin (total : Int) : Str :=
  pal.bold ++ text "Running " ++ intText total ++ text " test" ++ (if total = 1 then [] else text "s") ++
    pal.reset ++ text "\n"

def consoleResult (r : TestResult) : Str :=
  let col := match r.outcome with
    | .passed => pal.green
    | .failed => pal.red
    | .timeout => pal.yellow
    | .error => pal.red
  text "  [" ++ col ++ r.outcome.toString ++ pal.reset ++ text "] " ++ r.fullName ++ text " " ++ pal.dim ++
    text "(" ++ natText r.duration ++ text " ms)" ++ pal.reset ++ text "\n" ++
    if r.ok = false ∧ r.detail ≠ [] then indent r.detail (text "        ") ++ text "\n" else []

def consoleEnd (s : RunSummary) : Str :=
  pal.bold ++ text "\nSummary: " ++ pal.reset ++ intText s.passed ++ text "/" ++ intText s.total ++ text " passed" ++
    (if s.failed ≠ 0 then text ", " ++ pal.red ++ intText s.failed ++ text " failed" ++ pal.reset else []) ++
    (if s.timedOut ≠ 0 then text ", " ++ pal.yellow ++ intText s.timedOut ++ text " timed out" ++ pal.reset else []) ++
    (if s.errored ≠ 0 then text ", " ++ pal.red ++ intText s.errored ++ text " errored" ++ pal.reset else []) ++
    pal.dim ++ text " (" ++ natText s.duration ++ text " ms)" ++ pal.reset ++ text "\n"

end Console

def tapBegin (total : Int) : Str := text "TAP version 13\n" ++ text "1.." ++ intText total ++ text "\n"

-- `index` is the incremented index_, an int in the code: a run of 2^31 results would
-- overflow it.
def tapResult (index : Nat) (r : TestResult) : Str :=
  (if r.ok then text "ok " else text "not ok ") ++ natText index ++ text " - " ++ r.fullName ++
    (if r.outcome = .timeout then text " # TIMEOUT" else []) ++ text "\n" ++
    if r.ok = false ∧ r.detail ≠ [] then
      text "  ---\n" ++ text "  outcome: " ++ r.outcome.toString ++ text "\n" ++
        text "  message: |\n" ++ indent r.detail (text "    ") ++ text "\n" ++ text "  ...\n"
    else []

def tapEnd (s : RunSummary) : Str :=
  text "# passed " ++ intText s.passed ++ text " of " ++ intText s.total ++ text "\n"

def junitCase (r : TestResult) : Str :=
  text "    <testcase classname=\"" ++ xmlEscape r.suite ++ text "\" name=\"" ++ xmlEscape r.name ++
    text "\" time=\"" ++ seconds r.duration ++ text "\"" ++
    if r.ok then text "/>\n"
    else text ">\n" ++
      (match r.outcome with
        | .failed =>
          text "      <failure message=\"assertion failure\">" ++ xmlEscape r.detail ++ text "</failure>\n"
        | .timeout => text "      <error type=\"timeout\" message=\"" ++ xmlEscape r.detail ++ text "\"/>\n"
        | _ => text "      <error type=\"exception\">" ++ xmlEscape r.detail ++ text "</error>\n") ++
      text "    </testcase>\n"

def junitEnd (suite : Str) (results : List TestResult) (s : RunSummary) : Str :=
  text "<?xml version=\"1.0\" encoding=\"UTF-8\"?>\n" ++
    text "<testsuites tests=\"" ++ intText s.total ++ text "\" failures=\"" ++ intText s.failed ++
    text "\" errors=\"" ++ intText (s.errored + s.timedOut) ++ text "\" time=\"" ++ seconds s.duration ++ text "\">\n" ++
    text "  <testsuite name=\"" ++ xmlEscape suite ++ text "\" tests=\"" ++ intText s.total ++
    text "\" failures=\"" ++ intText s.failed ++ text "\" errors=\"" ++ intText (s.errored + s.timedOut) ++
    text "\" time=\"" ++ seconds s.duration ++ text "\">\n" ++
    results.flatMap junitCase ++
    text "  </testsuite>\n" ++ text "</testsuites>\n"

def Reporter.beginRun : Reporter → Int → Str
  | .console pal,total => consoleBegin pal total
  | .tap _,total => tapBegin total
  | .junit _ _,_ => []

def Reporter.onResult : Reporter → TestResult → Reporter × Str
  | .console pal,r => (.console pal,consoleResult pal r)
  | .tap index,r => (.tap (index+1),tapResult (index+1) r)
  | .junit suite results,r => (.junit suite (results ++ [r]),[])

def Reporter.endRun : Reporter → RunSummary → Str
  | .console pal,s => consoleEnd pal s
  | .tap _,s => tapEnd s
  | .junit suite results,s => junitEnd suite results s

theorem indentLoop_later (pre : Str) (ls : List Str) :
    indentLoop pre false ls ++ [newline] = newline :: unlines (ls.map (pre ++ ·)) := by
  induction ls with
  | nil => rfl
  | cons line rest ih =>
    have opens : text "\n" = [newline] := rfl
    simp only [indentLoop,Bool.false_eq_true,↓reduceIte,List.append_assoc,opens]
    rw [ih]
    simp [unlines]

theorem indent_lines (filled : block ≠ []) (pre : Str) :
    indent block pre ++ [newline] = unlines ((lines block).map (pre ++ ·)) := by
  obtain ⟨line,rest,shape⟩ := List.exists_cons_of_ne_nil (lines_nonempty filled)
  rw [indent,shape]
  simp only [indentLoop,↓reduceIte,List.nil_append,List.append_assoc]
  rw [indentLoop_later]
  simp [unlines]

end Edtf.Reporters

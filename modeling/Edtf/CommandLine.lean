import Mathlib.Tactic
import Mathlib.Data.List.TakeWhile
import Edtf.ReportReading

namespace Edtf.CommandLine
open ByteText SortedSets Registry Results RunOne Reporters Runs ReportReading

-- std::atoll: blanks, a sign and digits, up to the first other byte. A value beyond 64
-- bits is undefined there; it is cut off as strtoll does.
def isSpace (b : UInt8) : Bool := b == 32 || (9 ≤ b && b ≤ 13)

def digitsValue (s : Str) : Nat := Nat.ofDigitChars 10 ((s.takeWhile isDigit).map charOf) 0

def signedValue : Str → Int
  | [] => 0
  | c :: rest =>
    if c = byteOf '-' then -(digitsValue rest : Int)
    else if c = byteOf '+' then digitsValue rest
    else digitsValue (c :: rest)

def atoll (s : Str) : Int := max (-2^63) (min (signedValue (s.dropWhile isSpace)) (2^63-1))

def usage (prog : Str) : Str :=
  text "Usage: " ++ prog ++ text " [options]\n\n" ++
    text "Options:\n" ++
    text "  -f, --filter <substr>   Run only tests whose suite.name contains <substr>\n" ++
    text "  -t, --tag <tag>         Include only tests with this tag (repeatable)\n" ++
    text "  -x, --exclude-tag <tag> Skip tests with this tag (repeatable)\n" ++
    text "      --timeout <ms>      Default per-test timeout when none is set\n" ++
    text "  -r, --reporter <kind>   Output format: console | tap | junit\n" ++
    text "  -o, --output <path>     Write report to file instead of stdout\n" ++
    text "      --suite <name>      JUnit testsuite name (default: edtf)\n" ++
    text "  -l, --list              List selected tests and exit\n" ++
    text "      --no-color          Disable ANSI colors in console output\n" ++
    text "  -h, --help              Show this help\n"

def reporterKind (kind : Str) : Option Format :=
  if kind = text "console" then some .console
  else if kind = text "tap" then some .tap
  else if kind = text "junit" then some .junit
  else none

-- What the chain of comparisons in parse_args does with one argument: an option with a
-- value has the flag that need_value names and the store it makes, which may fail.
inductive Action where
  | help
  | value (flag : Str) (store : RunOptions → Str → Except Str RunOptions)
  | switch (set : RunOptions → RunOptions)
  | unknown

def action (a : Str) : Action :=
  if a = text "-h" ∨ a = text "--help" then .help
  else if a = text "-f" ∨ a = text "--filter" then
    .value (text "--filter") fun opts v => .ok {opts with nameFilter := v}
  else if a = text "-t" ∨ a = text "--tag" then
    .value (text "--tag") fun opts v => .ok {opts with includeTags := opts.includeTags.insert v}
  else if a = text "-x" ∨ a = text "--exclude-tag" then
    .value (text "--exclude-tag") fun opts v => .ok {opts with excludeTags := opts.excludeTags.insert v}
  else if a = text "--timeout" then
    .value (text "--timeout") fun opts v => .ok {opts with defaultTimeout := atoll v}
  else if a = text "-r" ∨ a = text "--reporter" then
    .value (text "--reporter") fun opts v =>
      match reporterKind v with
      | some format => .ok {opts with format := format}
      | none => .error (text "error: unknown reporter '" ++ v ++ text "'\n")
  else if a = text "-o" ∨ a = text "--output" then
    .value (text "--output") fun opts v => .ok {opts with outputPath := v}
  else if a = text "--suite" then
    .value (text "--suite") fun opts v => .ok {opts with junitSuite := v}
  else if a = text "-l" ∨ a = text "--list" then .switch fun opts => {opts with listOnly := true}
  else if a = text "--no-color" then .switch fun opts => {opts with color := false}
  else .unknown

structure Parsed where
  opts : RunOptions
  shouldExit : Bool
  exitCode : Int
  out : Str
  err : Str

def missing (opts : RunOptions) (flag : Str) : Parsed :=
  ⟨opts,true,2,[],text "error: " ++ flag ++ text " requires a value\n"⟩

-- The loop over argv with its index; `none` is a read at or beyond argc.
def parseLoop (argv : List Str) (i : Nat) (opts : RunOptions) : Option Parsed :=
  if i < argv.length then
    argv[i]?.bind fun a =>
      match action a with
      | .help => argv[0]?.map fun prog => ⟨opts,true,0,usage prog,[]⟩
      | .value flag store =>
        if i+1 ≥ argv.length then some (missing opts flag)
        else argv[i+1]?.bind fun v =>
          match store opts v with
          | .ok next => parseLoop argv (i+2) next
          | .error message => some ⟨opts,true,2,[],message⟩
      | .switch set => parseLoop argv (i+1) (set opts)
      | .unknown => argv[0]?.map fun prog =>
          ⟨opts,true,2,[],text "error: unknown argument '" ++ a ++ text "'\n" ++ usage prog⟩
  else some ⟨opts,false,0,[],[]⟩
termination_by argv.length - i

def parseArgs (argv : List Str) : Option Parsed := parseLoop argv 1 .new

structure Exit where
  code : Int
  out : Str
  err : Str
  file : Option (Str × Str)
  runner : Option Runner

def exitOf (parsed : Parsed) (opens : Str → Bool) (ran : Ran) : Exit :=
  let path := parsed.opts.outputPath
  { code := if ran.ok then 0 else 1
    out := parsed.out ++ if path = [] then ran.report else []
    err := parsed.err ++ ran.diagnostics
    file := if path ≠ [] ∧ opens path = true then some (path,ran.report) else none
    runner := some ran.runner }

-- The outer option is a read beyond argv, the inner one a run that never returns. `opens`
-- says which output paths can be opened.
def runAll (argv : List Str) (opens : Str → Bool) (cases : List (TestCase β)) (env : Environment) :
    Option (Option Exit) :=
  (parseArgs argv).map fun parsed =>
    if parsed.shouldExit then some ⟨parsed.exitCode,parsed.out,parsed.err,none,none⟩
    else (runConfigured parsed.opts (opens parsed.opts.outputPath) cases env .new).map (exitOf parsed opens)

def parseRest (prog : Str) : List Str → RunOptions → Parsed
  | [],opts => ⟨opts,false,0,[],[]⟩
  | a :: rest,opts =>
    match action a with
    | .help => ⟨opts,true,0,usage prog,[]⟩
    | .switch set => parseRest prog rest (set opts)
    | .unknown => ⟨opts,true,2,[],text "error: unknown argument '" ++ a ++ text "'\n" ++ usage prog⟩
    | .value flag store =>
      match rest with
      | [] => missing opts flag
      | v :: later =>
        match store opts v with
        | .ok next => parseRest prog later next
        | .error message => ⟨opts,true,2,[],message⟩

theorem program_name (argv : List Str) (inside : i < argv.length) : argv[0]? = some (argv.headD []) := by
  cases argv with
  | nil => cases inside
  | cons prog rest => rfl

-- Every read of the loop is inside argv, whatever the arguments are.
theorem parseLoop_rest (argv : List Str) (i : Nat) (opts : RunOptions) :
    parseLoop argv i opts = some (parseRest (argv.headD []) (argv.drop i) opts) := by
  fun_induction parseLoop argv i opts with
  | case1 i opts inside valued switched =>
    rw [List.drop_eq_getElem_cons inside,List.getElem?_eq_getElem inside,Option.bind_some,parseRest]
    cases action argv[i] with
    | help => simp only [program_name argv inside,Option.map_some]
    | unknown => simp only [program_name argv inside,Option.map_some]
    | switch set => exact switched set
    | value flag store =>
      by_cases last : i+1 ≥ argv.length
      · rw [List.drop_of_length_le last]
        simp only [if_pos last]
      · have more : i+1 < argv.length := by omega
        rw [List.drop_eq_getElem_cons more]
        simp only [if_neg last,List.getElem?_eq_getElem more,Option.bind_some]
        cases stored : store opts argv[i+1] with
        | ok next => exact valued last next
        | error message => rfl
  | case2 i opts outside =>
    rw [List.drop_of_length_le (by omega)]
    rfl

theorem parseArgs_rest (argv : List Str) :
    parseArgs argv = some (parseRest (argv.headD []) argv.tail .new) := by
  rw [parseArgs,parseLoop_rest,List.drop_one]

inductive Group where
  | filter (long : Bool) (v : Str)
  | tag (long : Bool) (v : Str)
  | excludeTag (long : Bool) (v : Str)
  | timeout (v : Str)
  | reporter (long : Bool) (format : Format)
  | output (long : Bool) (v : Str)
  | suite (v : Str)
  | list (long : Bool)
  | noColor

def spelling (short full : String) (long : Bool) : Str := if long then text full else text short

def kindName : Format → Str
  | .console => text "console"
  | .tap => text "tap"
  | .junit => text "junit"

def Group.words : Group → List Str
  | .filter long v => [spelling "-f" "--filter" long,v]
  | .tag long v => [spelling "-t" "--tag" long,v]
  | .excludeTag long v => [spelling "-x" "--exclude-tag" long,v]
  | .timeout v => [text "--timeout",v]
  | .reporter long format => [spelling "-r" "--reporter" long,kindName format]
  | .output long v => [spelling "-o" "--output" long,v]
  | .suite v => [text "--suite",v]
  | .list long => [spelling "-l" "--list" long]
  | .noColor => [text "--no-color"]

def Group.apply (opts : RunOptions) : Group → RunOptions
  | .filter _ v => {opts with nameFilter := v}
  | .tag _ v => {opts with includeTags := opts.includeTags.insert v}
  | .excludeTag _ v => {opts with excludeTags := opts.excludeTags.insert v}
  | .timeout v => {opts with defaultTimeout := atoll v}
  | .reporter _ format => {opts with format := format}
  | .output _ v => {opts with outputPath := v}
  | .suite v => {opts with junitSuite := v}
  | .list _ => {opts with listOnly := true}
  | .noColor => {opts with color := false}

def groupWords (groups : List Group) : List Str := groups.flatMap Group.words

def HelpWord (a : Str) : Prop := a = text "-h" ∨ a = text "--help"

def Grouped (args : List Str) : Prop := ∃ groups, args = groupWords groups

def AsksHelp (args : List Str) : Prop := ∃ groups help rest, HelpWord help ∧ args = groupWords groups ++ help :: rest

theorem Grouped.cons (g : Group) (later : Grouped rest) : Grouped (g.words ++ rest) := by
  obtain ⟨groups,rfl⟩ := later
  exact ⟨g :: groups,rfl⟩

theorem AsksHelp.cons (g : Group) (later : AsksHelp rest) : AsksHelp (g.words ++ rest) := by
  obtain ⟨groups,help,last,asked,rfl⟩ := later
  exact ⟨g :: groups,help,last,asked,(List.append_assoc _ _ _).symm⟩

theorem parseRest_group (prog : Str) (g : Group) (rest : List Str) (opts : RunOptions) :
    parseRest prog (g.words ++ rest) opts = parseRest prog rest (g.apply opts) := by
  cases g with
  | filter long v => cases long <;> rfl
  | tag long v => cases long <;> rfl
  | excludeTag long v => cases long <;> rfl
  | timeout v => rfl
  | reporter long format => cases long <;> cases format <;> rfl
  | output long v => cases long <;> rfl
  | suite v => rfl
  | list long => cases long <;> rfl
  | noColor => rfl

theorem parseRest_groups (prog : Str) (groups : List Group) (rest : List Str) (opts : RunOptions) :
    parseRest prog (groupWords groups ++ rest) opts = parseRest prog rest (groups.foldl Group.apply opts) := by
  induction groups generalizing opts with
  | nil => rfl
  | cons g groups ih =>
    rw [groupWords,List.flatMap_cons,List.append_assoc,parseRest_group]
    exact ih (g.apply opts)

theorem parseRest_help (prog : Str) (asked : HelpWord help) (rest : List Str) (opts : RunOptions) :
    parseRest prog (help :: rest) opts = ⟨opts,true,0,usage prog,[]⟩ := by
  rcases asked with rfl | rfl <;> rfl

theorem spelled (same : a = text short ∨ a = text full) : ∃ long, spelling short full long = a := by
  rcases same with rfl | rfl
  · exact ⟨false,rfl⟩
  · exact ⟨true,rfl⟩

theorem reporterKind_name (known : reporterKind v = some format) : kindName format = v := by
  unfold reporterKind at known
  split at known
  · rename_i same
    cases known
    exact same.symm
  · split at known
    · rename_i same
      cases known
      exact same.symm
    · split at known
      · rename_i same
        cases known
        exact same.symm
      · cases known

theorem if_row [Decidable p] {one two result : Action} (decided : (if p then one else two) = result) :
    (p ∧ one = result) ∨ two = result := by
  by_cases here : p
  · exact .inl ⟨here,(if_pos here).symm.trans decided⟩
  · exact .inr ((if_neg here).symm.trans decided)

theorem action_value (decided : action a = .value flag store) (stored : store opts v = .ok next) :
    ∃ g : Group, g.words = [a,v] ∧ g.apply opts = next := by
  unfold action at decided
  rcases if_row decided with ⟨_,row⟩ | decided
  · cases row
  rcases if_row decided with ⟨filter,row⟩ | decided
  · cases row
    cases stored
    obtain ⟨long,rfl⟩ := spelled filter
    exact ⟨.filter long v,rfl,rfl⟩
  rcases if_row decided with ⟨tag,row⟩ | decided
  · cases row
    cases stored
    obtain ⟨long,rfl⟩ := spelled tag
    exact ⟨.tag long v,rfl,rfl⟩
  rcases if_row decided with ⟨excludeTag,row⟩ | decided
  · cases row
    cases stored
    obtain ⟨long,rfl⟩ := spelled excludeTag
    exact ⟨.excludeTag long v,rfl,rfl⟩
  rcases if_row decided with ⟨timeout,row⟩ | decided
  · cases row
    cases stored
    rw [timeout]
    exact ⟨.timeout v,rfl,rfl⟩
  rcases if_row decided with ⟨reporter,row⟩ | decided
  · cases row
    obtain ⟨long,rfl⟩ := spelled reporter
    simp only at stored
    split at stored
    · rename_i format known
      cases stored
      rw [← reporterKind_name known]
      exact ⟨.reporter long format,rfl,rfl⟩
    · cases stored
  rcases if_row decided with ⟨output,row⟩ | decided
  · cases row
    cases stored
    obtain ⟨long,rfl⟩ := spelled output
    exact ⟨.output long v,rfl,rfl⟩
  rcases if_row decided with ⟨suite,row⟩ | decided
  · cases row
    cases stored
    rw [suite]
    exact ⟨.suite v,rfl,rfl⟩
  rcases if_row decided with ⟨_,row⟩ | decided
  · cases row
  rcases if_row decided with ⟨_,row⟩ | row <;> cases row

theorem action_switch {set : RunOptions → RunOptions} (decided : action a = .switch set) :
    ∃ g : Group, g.words = [a] ∧ ∀ opts, g.apply opts = set opts := by
  unfold action at decided
  iterate 8
    rcases if_row decided with ⟨_,row⟩ | decided
    · cases row
  rcases if_row decided with ⟨list,row⟩ | decided
  · cases row
    obtain ⟨long,rfl⟩ := spelled list
    exact ⟨.list long,rfl,fun _ => rfl⟩
  rcases if_row decided with ⟨noColor,row⟩ | row
  · cases row
    rw [noColor]
    exact ⟨.noColor,rfl,fun _ => rfl⟩
  · cases row

theorem action_help (decided : action a = .help) : HelpWord a := by
  unfold action at decided
  rcases if_row decided with ⟨help,_⟩ | decided
  · exact help
  iterate 9
    rcases if_row decided with ⟨_,row⟩ | decided
    · cases row
  cases decided

theorem parseRest_cases (prog : Str) (args : List Str) (opts : RunOptions) :
    Grouped args ∨ AsksHelp args ∨
      ((parseRest prog args opts).shouldExit = true ∧ (parseRest prog args opts).exitCode = 2) := by
  fun_induction parseRest prog args opts with
  | case1 => exact .inl ⟨[],rfl⟩
  | case2 a rest opts decided => exact .inr (.inl ⟨[],a,rest,action_help decided,rfl⟩)
  | case3 a rest opts set decided ih =>
    obtain ⟨g,word,_⟩ := action_switch decided
    have front : a :: rest = g.words ++ rest := by rw [word,List.singleton_append]
    rw [front]
    exact ih.imp (Grouped.cons g) (Or.imp_left (AsksHelp.cons g))
  | case4 => exact .inr (.inr ⟨rfl,rfl⟩)
  | case5 => exact .inr (.inr ⟨rfl,rfl⟩)
  | case6 a opts flag store decided v rest next stored ih =>
    obtain ⟨g,words,_⟩ := action_value decided stored
    have front : a :: v :: rest = g.words ++ rest := by rw [words]; rfl
    rw [front]
    exact ih.imp (Grouped.cons g) (Or.imp_left (AsksHelp.cons g))
  | case7 => exact .inr (.inr ⟨rfl,rfl⟩)

section Fields

def Group.filter? : Group → Option Str
  | .filter _ v => some v
  | _ => none

def Group.tag? : Group → Option Str
  | .tag _ v => some v
  | _ => none

def Group.excludeTag? : Group → Option Str
  | .excludeTag _ v => some v
  | _ => none

def Group.timeout? : Group → Option Str
  | .timeout v => some v
  | _ => none

def Group.format? : Group → Option Format
  | .reporter _ format => some format
  | _ => none

def Group.output? : Group → Option Str
  | .output _ v => some v
  | _ => none

def Group.suite? : Group → Option Str
  | .suite v => some v
  | _ => none

def Group.list? : Group → Option Bool
  | .list _ => some true
  | _ => none

def Group.noColor? : Group → Option Bool
  | .noColor => some false
  | _ => none

end Fields

def given (f : Group → Option α) (groups : List Group) : List α := groups.filterMap f

def lastGiven (f : Group → Option α) (groups : List Group) (default : α) : α :=
  (given f groups).getLast?.getD default

theorem lastGiven_cons (f : Group → Option α) (g : Group) (groups : List Group) (default : α) :
    lastGiven f (g :: groups) default = lastGiven f groups ((f g).getD default) := by
  unfold lastGiven given
  rw [List.filterMap_cons]
  cases f g with
  | none => rfl
  | some v =>
    simp only [List.getLast?_cons,Option.getD_some]

theorem field_last (field : RunOptions → α) (f : Group → Option α)
    (sets : ∀ opts g, field (Group.apply opts g) = (f g).getD (field opts)) (groups : List Group) (opts : RunOptions) :
    field (groups.foldl Group.apply opts) = lastGiven f groups (field opts) := by
  induction groups generalizing opts with
  | nil => rfl
  | cons g groups ih => rw [List.foldl_cons,ih,sets,lastGiven_cons]

theorem set_all (field : RunOptions → TagSet) (f : Group → Option Str)
    (adds : ∀ opts g t, t ∈ (field (Group.apply opts g)).items ↔ f g = some t ∨ t ∈ (field opts).items)
    (groups : List Group) (opts : RunOptions) (t : Str) :
    t ∈ (field (groups.foldl Group.apply opts)).items ↔ t ∈ given f groups ∨ t ∈ (field opts).items := by
  induction groups generalizing opts with
  | nil => simp [given]
  | cons g groups ih =>
    rw [List.foldl_cons,ih,adds]
    simp only [given,List.mem_filterMap,List.mem_cons,exists_eq_or_imp]
    exact or_left_comm.trans or_assoc.symm

structure Selects (groups : List Group) (opts : RunOptions) : Prop where
  filter : opts.nameFilter = lastGiven Group.filter? groups []
  includes : ∀ t, t ∈ opts.includeTags.items ↔ t ∈ given Group.tag? groups
  excludes : ∀ t, t ∈ opts.excludeTags.items ↔ t ∈ given Group.excludeTag? groups
  timeout : opts.defaultTimeout = lastGiven (fun g => g.timeout?.map atoll) groups 0
  list : opts.listOnly = lastGiven Group.list? groups false
  color : opts.color = lastGiven Group.noColor? groups true
  format : opts.format = lastGiven Group.format? groups .console
  suite : opts.junitSuite = lastGiven Group.suite? groups (text "edtf")
  output : opts.outputPath = lastGiven Group.output? groups []

theorem groups_select (groups : List Group) : Selects groups (groups.foldl Group.apply .new) where
  filter := field_last RunOptions.nameFilter _ (fun _ g => by cases g <;> rfl) groups .new
  includes t := by
    rw [set_all RunOptions.includeTags Group.tag? _ groups .new t]
    · simp [RunOptions.new,SortedSet.empty]
    · intro opts g t
      cases g <;> simp [Group.apply,Group.tag?,SortedSet.mem_insert,eq_comm]
  excludes t := by
    rw [set_all RunOptions.excludeTags Group.excludeTag? _ groups .new t]
    · simp [RunOptions.new,SortedSet.empty]
    · intro opts g t
      cases g <;> simp [Group.apply,Group.excludeTag?,SortedSet.mem_insert,eq_comm]
  timeout := field_last RunOptions.defaultTimeout _ (fun _ g => by cases g <;> rfl) groups .new
  list := field_last RunOptions.listOnly _ (fun _ g => by cases g <;> rfl) groups .new
  color := field_last RunOptions.color _ (fun _ g => by cases g <;> rfl) groups .new
  format := field_last RunOptions.format _ (fun _ g => by cases g <;> rfl) groups .new
  suite := field_last RunOptions.junitSuite _ (fun _ g => by cases g <;> rfl) groups .new
  output := field_last RunOptions.outputPath _ (fun _ g => by cases g <;> rfl) groups .new

-- The groups write the options: one group for each scalar field, every tag at least once,
-- the flags where they are wanted; any order, spelling and repetition of tags and flags.
structure Writes (groups : List Group) (opts : RunOptions) : Prop where
  filter : given Group.filter? groups = [opts.nameFilter]
  includes : ∀ t, t ∈ given Group.tag? groups ↔ t ∈ opts.includeTags.items
  excludes : ∀ t, t ∈ given Group.excludeTag? groups ↔ t ∈ opts.excludeTags.items
  timeout : given Group.timeout? groups = [intText opts.defaultTimeout]
  list : given Group.list? groups ≠ [] ↔ opts.listOnly = true
  color : given Group.noColor? groups ≠ [] ↔ opts.color = false
  format : given Group.format? groups = [opts.format]
  suite : given Group.suite? groups = [opts.junitSuite]
  output : given Group.output? groups = [opts.outputPath]

def InRange (t : Int) : Prop := -2^63 ≤ t ∧ t < 2^63

theorem digitsValue_natText (n : Nat) : digitsValue (natText n) = n := by
  have every : (natText n).takeWhile isDigit = natText n := List.takeWhile_eq_self_iff.mpr (natText_digits n)
  have read := readNat_natText n
  rw [readNat,if_pos ⟨natText_nonempty n,List.all_eq_true.mpr (natText_digits n)⟩] at read
  rw [digitsValue,every]
  exact Option.some.inj read

theorem digit_signless (digit : isDigit b = true) : isSpace b = false ∧ b ≠ byteOf '-' ∧ b ≠ byteOf '+' := by
  refine ⟨?_,?_,?_⟩
  · simp only [isDigit,Bool.and_eq_true,decide_eq_true_eq,UInt8.le_iff_toNat_le] at digit
    have low : 48 ≤ b.toNat := digit.1
    simp only [isSpace,Bool.or_eq_false_iff,beq_eq_false_iff_ne,Bool.and_eq_false_iff,decide_eq_false_iff_not,
      UInt8.le_iff_toNat_le]
    refine ⟨?_,.inr ?_⟩
    · rintro rfl
      exact absurd low (by decide)
    · show ¬b.toNat ≤ 13
      omega
  · rintro rfl
    cases digit
  · rintro rfl
    cases digit

theorem atoll_intText (inside : InRange t) : atoll (intText t) = t := by
  have signed : signedValue ((intText t).dropWhile isSpace) = t := by
    cases t with
    | ofNat n =>
      have value := digitsValue_natText n
      have digits := natText_digits n
      rw [intText]
      cases shape : natText n with
      | nil => exact absurd shape (natText_nonempty n)
      | cons c rest =>
        rw [shape] at value digits
        obtain ⟨blank,minus,plus⟩ := digit_signless (digits c (by simp))
        rw [List.dropWhile_cons_of_neg (by simp [blank]),signedValue,if_neg minus,if_neg plus,value]
        rfl
    | negSucc n =>
      have blank : ¬isSpace (byteOf '-') = true := by decide
      rw [intText,List.dropWhile_cons_of_neg blank,signedValue,if_pos rfl,digitsValue_natText]
      omega
  have low := inside.1
  have high := inside.2
  rw [atoll,signed]
  omega

theorem lastGiven_one {f : Group → Option α} (one : given f groups = [v]) (default : α) : lastGiven f groups default = v := by
  rw [lastGiven,one]
  rfl

theorem lastGiven_flag (f : Group → Option Bool) (flag : Bool) (only : ∀ g v, f g = some v → v = flag)
    (groups : List Group) : lastGiven f groups (!flag) = flag ↔ given f groups ≠ [] := by
  unfold lastGiven
  cases last : (given f groups).getLast? with
  | none =>
    rw [List.getLast?_eq_none_iff] at last
    simp [last]
  | some v =>
    have present := List.mem_of_getLast? last
    obtain ⟨g,_,gives⟩ := List.mem_filterMap.mp present
    simp only [Option.getD_some,only g v gives,true_iff]
    intro none
    rw [none] at present
    cases present

theorem same_options (one two : RunOptions) (filter : one.nameFilter = two.nameFilter)
    (includes : one.includeTags = two.includeTags) (excludes : one.excludeTags = two.excludeTags)
    (timeout : one.defaultTimeout = two.defaultTimeout) (list : one.listOnly = two.listOnly)
    (color : one.color = two.color) (format : one.format = two.format) (suite : one.junitSuite = two.junitSuite)
    (output : one.outputPath = two.outputPath) : one = two := by
  cases one
  cases two
  simp only [RunOptions.mk.injEq]
  exact ⟨filter,includes,excludes,timeout,list,color,format,suite,output⟩

theorem selects_written {read : RunOptions} (inside : InRange opts.defaultTimeout) (written : Writes groups opts)
    (selects : Selects groups read) : read = opts := by
  have timeout : given (fun g => g.timeout?.map atoll) groups = [opts.defaultTimeout] := by
    have mapped := congrArg (List.map atoll) written.timeout
    rw [given,List.map_filterMap,List.map_singleton,atoll_intText inside] at mapped
    exact mapped
  have list : read.listOnly = opts.listOnly := by
    rw [Bool.eq_iff_iff,selects.list,← written.list]
    exact lastGiven_flag Group.list? true (fun g v gives => by cases g <;> cases gives; rfl) groups
  have color : read.color = opts.color := by
    have off := lastGiven_flag Group.noColor? false (fun g v gives => by cases g <;> cases gives; rfl) groups
    have same : read.color = false ↔ opts.color = false := by
      rw [selects.color,← written.color]
      exact off
    cases left : read.color <;> cases right : opts.color <;> simp_all
  refine same_options read opts ?_ ?_ ?_ ?_ list color ?_ ?_ ?_
  · exact selects.filter.trans (lastGiven_one written.filter _)
  · exact SortedSet.same_members _ _ fun t => (selects.includes t).trans (written.includes t)
  · exact SortedSet.same_members _ _ fun t => (selects.excludes t).trans (written.excludes t)
  · exact selects.timeout.trans (lastGiven_one timeout _)
  · exact selects.format.trans (lastGiven_one written.format _)
  · exact selects.suite.trans (lastGiven_one written.suite _)
  · exact selects.output.trans (lastGiven_one written.output _)

def writeOptions (opts : RunOptions) : List Group :=
  [.filter true opts.nameFilter,.timeout (intText opts.defaultTimeout),.reporter true opts.format,
    .output true opts.outputPath,.suite opts.junitSuite] ++
    opts.includeTags.items.map (.tag true) ++ opts.excludeTags.items.map (.excludeTag true) ++
    (if opts.listOnly then [.list true] else []) ++ (if opts.color then [] else [.noColor])

theorem given_writeOptions (f : Group → Option α) (opts : RunOptions) :
    given f (writeOptions opts) =
      given f [.filter true opts.nameFilter,.timeout (intText opts.defaultTimeout),.reporter true opts.format,
        .output true opts.outputPath,.suite opts.junitSuite] ++
        opts.includeTags.items.filterMap (fun t => f (.tag true t)) ++
        opts.excludeTags.items.filterMap (fun t => f (.excludeTag true t)) ++
        given f (if opts.listOnly then [.list true] else []) ++ given f (if opts.color then [] else [.noColor]) := by
  simp only [writeOptions,given,List.filterMap_append,List.filterMap_map]
  rfl

theorem given_flag (f : Group → Option α) (flag : Bool) (g : Group) (silent : f g = none) :
    given f (if flag then [g] else []) = [] ∧ given f (if flag then [] else [g]) = [] := by
  cases flag <;> simp [given,silent]

theorem scalar_written (f : Group → Option α) (tag : ∀ t, f (.tag true t) = none)
    (excluded : ∀ t, f (.excludeTag true t) = none) (list : f (.list true) = none) (color : f .noColor = none)
    (opts : RunOptions) : given f (writeOptions opts) =
      given f [.filter true opts.nameFilter,.timeout (intText opts.defaultTimeout),.reporter true opts.format,
        .output true opts.outputPath,.suite opts.junitSuite] := by
  rw [given_writeOptions,(given_flag f opts.listOnly (.list true) list).1,(given_flag f opts.color .noColor color).2]
  simp only [tag,excluded,List.filterMap_none,List.append_nil]

theorem tags_written (opts : RunOptions) : given Group.tag? (writeOptions opts) = opts.includeTags.items := by
  rw [given_writeOptions,(given_flag _ opts.listOnly (.list true) rfl).1,(given_flag _ opts.color .noColor rfl).2]
  simp [given,Group.tag?,List.filterMap_cons]

theorem excluded_written (opts : RunOptions) : given Group.excludeTag? (writeOptions opts) = opts.excludeTags.items := by
  rw [given_writeOptions,(given_flag _ opts.listOnly (.list true) rfl).1,(given_flag _ opts.color .noColor rfl).2]
  simp [given,Group.excludeTag?,List.filterMap_cons]

theorem writeOptions_writes (opts : RunOptions) : Writes (writeOptions opts) opts where
  filter := scalar_written Group.filter? (fun _ => rfl) (fun _ => rfl) rfl rfl opts
  includes t := by rw [tags_written]
  excludes t := by rw [excluded_written]
  timeout := scalar_written Group.timeout? (fun _ => rfl) (fun _ => rfl) rfl rfl opts
  list := by
    rw [given_writeOptions,(given_flag _ opts.color .noColor rfl).2]
    cases opts.listOnly <;> simp [given,Group.list?,List.filterMap_cons]
  color := by
    rw [given_writeOptions,(given_flag _ opts.listOnly (.list true) rfl).1]
    cases opts.color <;> simp [given,Group.noColor?,List.filterMap_cons]
  format := scalar_written Group.format? (fun _ => rfl) (fun _ => rfl) rfl rfl opts
  suite := scalar_written Group.suite? (fun _ => rfl) (fun _ => rfl) rfl rfl opts
  output := scalar_written Group.output? (fun _ => rfl) (fun _ => rfl) rfl rfl opts

theorem parse_groups (prog : Str) (groups : List Group) :
    parseArgs (prog :: groupWords groups) = some ⟨groups.foldl Group.apply .new,false,0,[],[]⟩ := by
  have consumed := parseRest_groups prog groups [] .new
  rw [List.append_nil] at consumed
  rw [parseArgs_rest,List.headD_cons,List.tail_cons,consumed]
  rfl

-- The last of several groups for one field wins, tags accumulate, and what was written is
-- read back.
theorem round_trip (prog : Str) (groups : List Group) :
    ∃ read, parseArgs (prog :: groupWords groups) = some ⟨read,false,0,[],[]⟩ ∧ Selects groups read ∧
      ∀ opts, InRange opts.defaultTimeout → Writes groups opts → read = opts :=
  ⟨_,parse_groups prog groups,groups_select groups,
    fun _ inside written => selects_written inside written (groups_select groups)⟩

def flagLike : RunOptions :=
  { nameFilter := text "--list"
    includeTags := SortedSet.empty.insert (text "-x")
    excludeTags := SortedSet.empty.insert (text "--tag")
    defaultTimeout := -2^63
    listOnly := false
    color := false
    format := .junit
    junitSuite := text "-h"
    outputPath := [] }

theorem round_trip_flags : ∃ read, parseArgs (text "prog" :: groupWords (writeOptions flagLike)) = some ⟨read,false,0,[],[]⟩ ∧
    read = flagLike := by
  obtain ⟨read,parsed,_,same⟩ := round_trip (text "prog") (writeOptions flagLike)
  exact ⟨read,parsed,same flagLike (by simp [InRange,flagLike]) (writeOptions_writes flagLike)⟩

theorem run_verdict (executes : opts.listOnly = false) (cases : List (TestCase β)) (env : Environment) (runner : Runner) :
    (run opts cases env runner).map Ran.ok =
      (resultsOf opts env.execution 0 (selectedCases opts cases)).map fun results => results.all TestResult.ok := by
  have returns := run_returns executes cases env runner
  cases ran : run opts cases env runner with
  | none =>
    rw [ran] at returns
    rw [Option.isSome_eq_false_iff.mp returns.symm |> Option.isNone_iff_eq_none.mp]
    rfl
  | some ran' =>
    obtain ⟨results,executed⟩ := run_executed executes ran
    rw [executed.returned,Option.map_some,Option.map_some,executed_ok executed]

theorem asksHelp_parsed (asked : AsksHelp args) (prog : Str) (opts : RunOptions) :
    ∃ last, parseRest prog args opts = ⟨last,true,0,usage prog,[]⟩ := by
  obtain ⟨groups,help,rest,word,rfl⟩ := asked
  exact ⟨_,(parseRest_groups prog groups _ opts).trans (parseRest_help prog word rest _)⟩

theorem runAll_exits {parsed : Parsed} (argv : List Str) (opens : Str → Bool) (read : parseArgs argv = some parsed)
    (exits : parsed.shouldExit = true) (cases : List (TestCase β)) (env : Environment) :
    runAll argv opens cases env = some (some ⟨parsed.exitCode,parsed.out,parsed.err,none,none⟩) := by
  rw [runAll,read,Option.map_some,if_pos exits]

theorem runAll_groups (written : argv.tail = groupWords groups) (opens : Str → Bool) (cases : List (TestCase β))
    (env : Environment) :
    let opts := groups.foldl Group.apply .new
    runAll argv opens cases env = some
      ((runConfigured opts (opens opts.outputPath) cases env .new).map (exitOf ⟨opts,false,0,[],[]⟩ opens)) := by
  have consumed := parseRest_groups (argv.headD []) groups [] .new
  rw [List.append_nil,← written] at consumed
  rw [runAll,parseArgs_rest,consumed]
  rfl

theorem runConfigured_blocked (blocked : opts.outputPath ≠ [] ∧ opens = false) (runner : Runner) :
    ∃ ran : Ran, ran.ok = false ∧ ran.runner = runner ∧
      ∀ (cases : List (TestCase β)) env, runConfigured opts opens cases env runner = some ran :=
  ⟨_,rfl,rfl,fun _ _ => if_pos blocked⟩

theorem runConfigured_listed (opened : ¬(opts.outputPath ≠ [] ∧ opens = false)) (listing : opts.listOnly = true)
    (cases : List (TestCase β)) (runner : Runner) :
    ∃ ran : Ran, ran.ok = true ∧ ran.runner = runner ∧
      ∀ env, runConfigured opts opens cases env runner = some ran := by
  refine ⟨⟨true,(selectedCases opts cases).flatMap listLine,[],runner⟩,rfl,rfl,fun env => ?_⟩
  rw [runConfigured,if_neg opened,run]
  simp only [listing,↓reduceIte]

theorem runConfigured_verdict (opened : ¬(opts.outputPath ≠ [] ∧ opens = false)) (executes : opts.listOnly = false)
    (cases : List (TestCase β)) (env : Environment) (runner : Runner) :
    (runConfigured opts opens cases env runner).map Ran.ok =
      (resultsOf opts env.execution 0 (selectedCases opts cases)).map fun results => results.all TestResult.ok := by
  rw [runConfigured,if_neg opened,run_verdict executes]

theorem listed_flag (groups : List Group) (flagged : lastGiven Group.list? groups false = true) :
    ∃ long, .list long ∈ groups := by
  have filled := (lastGiven_flag Group.list? true (fun g v gives => by cases g <;> cases gives; rfl) groups).mp flagged
  obtain ⟨v,present⟩ := List.exists_mem_of_ne_nil _ filled
  obtain ⟨g,member,gives⟩ := List.mem_filterMap.mp present
  cases g with
  | list long => exact ⟨long,member⟩
  | _ => cases gives

theorem flag_listed (present : .list long ∈ groups) : lastGiven Group.list? groups false = true := by
  refine (lastGiven_flag Group.list? true (fun g v gives => by cases g <;> cases gives; rfl) groups).mpr fun none => ?_
  have member : true ∈ given Group.list? groups := List.mem_filterMap.mpr ⟨_,present,rfl⟩
  rw [none] at member
  cases member

section
variable (opens : Str → Bool) (cases : List (TestCase β))

theorem exits_blocked (written : argv.tail = groupWords groups)
    (blocked : lastGiven Group.output? groups [] ≠ [] ∧ opens (lastGiven Group.output? groups []) = false) :
    ∃ exit : Exit, exit.code = 1 ∧ exit.runner = some .new ∧ ∀ env, runAll argv opens cases env = some (some exit) := by
  rw [← (groups_select groups).output] at blocked
  obtain ⟨ran,failure,new,stopped⟩ := runConfigured_blocked (β := β) blocked .new
  refine ⟨exitOf ⟨groups.foldl Group.apply .new,false,0,[],[]⟩ opens ran,?_,congrArg some new,fun env => ?_⟩
  · simp only [exitOf,failure,Bool.false_eq_true,↓reduceIte]
  · rw [runAll_groups written opens cases env,stopped,Option.map_some]

theorem exits_listed (written : argv.tail = groupWords groups)
    (opened : ¬(lastGiven Group.output? groups [] ≠ [] ∧ opens (lastGiven Group.output? groups []) = false))
    (listing : .list long ∈ groups) :
    ∃ exit : Exit, exit.code = 0 ∧ exit.runner = some .new ∧ ∀ env, runAll argv opens cases env = some (some exit) := by
  have selects := groups_select groups
  have flag := selects.list.trans (flag_listed listing)
  rw [← selects.output] at opened
  obtain ⟨ran,success,new,listed⟩ := runConfigured_listed opened flag cases .new
  refine ⟨exitOf ⟨groups.foldl Group.apply .new,false,0,[],[]⟩ opens ran,?_,congrArg some new,fun env => ?_⟩
  · simp only [exitOf,success,↓reduceIte]
  · rw [runAll_groups written opens cases env,listed,Option.map_some]

theorem exits_verdict (written : argv.tail = groupWords groups)
    (opened : ¬(lastGiven Group.output? groups [] ≠ [] ∧ opens (lastGiven Group.output? groups []) = false))
    (executes : ¬∃ long, .list long ∈ groups) (env : Environment) :
    let opts := groups.foldl Group.apply .new
    (runAll argv opens cases env).map (·.map Exit.code) =
      some ((resultsOf opts env.execution 0 (selectedCases opts cases)).map fun results =>
        if results.all TestResult.ok then 0 else 1) := by
  intro opts
  have selects := groups_select groups
  have flag : opts.listOnly = false := by
    rw [← Bool.not_eq_true,selects.list]
    exact fun flagged => executes (listed_flag groups flagged)
  rw [← selects.output] at opened
  have verdict := runConfigured_verdict opened flag cases env .new
  have codes := congrArg (·.map fun ok => if ok then (0 : Int) else 1) verdict
  simp only [Option.map_map] at codes
  rw [runAll_groups written opens cases env,Option.map_some,Option.map_map]
  exact congrArg some codes

end

-- Exit codes for every argv. Nothing runs in the first four cases: what is left does not
-- depend on what any test would do. In the last the call returns when every run_one does.
theorem exit_codes (argv : List Str) (opens : Str → Bool) :
    (AsksHelp argv.tail → ∃ exit : Exit, exit.code = 0 ∧ exit.out = usage (argv.headD []) ∧ exit.runner = none ∧
      ∀ (cases : List (TestCase β)) env, runAll argv opens cases env = some (some exit)) ∧
    (¬AsksHelp argv.tail → ¬Grouped argv.tail → ∃ exit : Exit, exit.code = 2 ∧ exit.runner = none ∧
      ∀ (cases : List (TestCase β)) env, runAll argv opens cases env = some (some exit)) ∧
    ∀ groups, argv.tail = groupWords groups → ∀ cases : List (TestCase β),
      let opts := groups.foldl Group.apply .new
      let path := lastGiven Group.output? groups []
      let blocked := path ≠ [] ∧ opens path = false
      let listing := ∃ long, .list long ∈ groups
      (blocked → ∃ exit : Exit, exit.code = 1 ∧ exit.runner = some .new ∧
        ∀ env, runAll argv opens cases env = some (some exit)) ∧
      (¬blocked → listing → ∃ exit : Exit, exit.code = 0 ∧ exit.runner = some .new ∧
        ∀ env, runAll argv opens cases env = some (some exit)) ∧
      (¬blocked → ¬listing → ∀ env, (runAll argv opens cases env).map (·.map Exit.code) =
        some ((resultsOf opts env.execution 0 (selectedCases opts cases)).map fun results =>
          if results.all TestResult.ok then 0 else 1)) := by
  refine ⟨?_,?_,?_⟩
  · intro asked
    obtain ⟨last,parsed⟩ := asksHelp_parsed asked (argv.headD []) .new
    have read := parseArgs_rest argv
    rw [parsed] at read
    exact ⟨_,rfl,rfl,rfl,runAll_exits argv opens read rfl⟩
  · intro notHelp notGroups
    have read := parseArgs_rest argv
    rcases parseRest_cases (argv.headD []) argv.tail .new with grouped | asked | ⟨exits,code⟩
    · exact absurd grouped notGroups
    · exact absurd asked notHelp
    · exact ⟨_,code,rfl,runAll_exits argv opens read exits⟩
  · intro groups written cases opts path blocked listing
    refine ⟨exits_blocked opens cases written,?_,exits_verdict opens cases written⟩
    rintro opened ⟨long,present⟩
    exact exits_listed opens cases written opened present

theorem timeout_unfinished : ¬AsksHelp [text "--timeout"] ∧ ¬Grouped [text "--timeout"] := by
  constructor
  · intro asked
    obtain ⟨last,parsed⟩ := asksHelp_parsed asked [] .new
    have code : (2 : Int) = 0 := congrArg Parsed.exitCode parsed
    cases code
  · rintro ⟨groups,same⟩
    have consumed := parseRest_groups [] groups [] .new
    rw [List.append_nil,← same] at consumed
    have ended : true = false := congrArg Parsed.shouldExit consumed
    cases ended

def failingCase : TestCase Unit := ⟨text "Probe",text "reads",.empty,0,()⟩
def failingEnv : Environment := ⟨fun _ => ⟨some ⟨20,some (.user ⟨text "int",none⟩),.new⟩,21⟩,25⟩

theorem exit_codes_reached :
    (∃ exit : Exit, exit.code = 0 ∧ exit.out = usage (text "prog") ∧ exit.runner = none ∧
      ∀ (cases : List (TestCase Unit)) env,
        runAll [text "prog",text "-f",text "--list",text "-h",text "--bogus"] (fun _ => true) cases env = some (some exit)) ∧
    (∃ exit : Exit, exit.code = 2 ∧ exit.runner = none ∧
      ∀ (cases : List (TestCase Unit)) env, runAll [text "prog",text "--timeout"] (fun _ => true) cases env = some (some exit)) ∧
    (∃ exit : Exit, exit.code = 1 ∧ exit.runner = some .new ∧
      ∀ env, runAll [text "prog",text "-o",text "report"] (fun _ => false) ([] : List (TestCase Unit)) env = some (some exit)) ∧
    (∃ exit : Exit, exit.code = 0 ∧ exit.runner = some .new ∧
      ∀ env, runAll [text "prog",text "--list"] (fun _ => false) ([] : List (TestCase Unit)) env = some (some exit)) ∧
    (runAll [text "prog",text "--no-color"] (fun _ => false) [failingCase] failingEnv).map (·.map Exit.code) =
      some (some 1) := by
  refine ⟨?_,?_,?_,?_,?_⟩
  · exact (exit_codes [text "prog",text "-f",text "--list",text "-h",text "--bogus"] _).1
      ⟨[.filter false (text "--list")],text "-h",[text "--bogus"],.inl rfl,rfl⟩
  · exact (exit_codes [text "prog",text "--timeout"] _).2.1 timeout_unfinished.1 timeout_unfinished.2
  · exact ((exit_codes [text "prog",text "-o",text "report"] _).2.2 [.output false (text "report")] rfl []).1 ⟨by decide,rfl⟩
  · exact ((exit_codes [text "prog",text "--list"] _).2.2 [.list true] rfl []).2.1 (by decide) ⟨true,by simp⟩
  · exact ((exit_codes [text "prog",text "--no-color"] _).2.2 [.noColor] rfl [failingCase]).2.2 (by decide) (by simp) failingEnv

end Edtf.CommandLine

import Mathlib.Tactic
import Edtf.CommandLine

namespace Edtf.ArgumentGrammar
open ByteText SortedSets Registry Results RunOne Reporters Runs CommandLine

def fullName : Group → Str
  | .filter _ _ => text "--filter"
  | .tag _ _ => text "--tag"
  | .excludeTag _ _ => text "--exclude-tag"
  | .timeout _ => text "--timeout"
  | .reporter _ _ => text "--reporter"
  | .output _ _ => text "--output"
  | .suite _ => text "--suite"
  | .list _ => text "--list"
  | .noColor => text "--no-color"

def Begins (g : Group) (a : Str) : Prop := g.words.head? = some a

-- What can stand after the groups of a command line, and the answer to it: nothing, a
-- request for help, the first word of a two-word group alone, a reporter of no known kind
-- or a word that begins no group.
inductive Ends (prog : Str) (opts : RunOptions) : List Str → Parsed → Prop where
  | finished : Ends prog opts [] ⟨opts,false,0,[],[]⟩
  | help (asked : HelpWord a) : Ends prog opts (a :: rest) ⟨opts,true,0,usage prog,[]⟩
  | unvalued (cut : Group.words g = [a,v]) : Ends prog opts [a] (missing opts (fullName g))
  | reporter (other : ∀ format, v ≠ kindName format) :
      Ends prog opts (spelling "-r" "--reporter" long :: v :: rest)
        ⟨opts,true,2,[],text "error: unknown reporter '" ++ v ++ text "'\n"⟩
  | unknown (helpless : ¬HelpWord a) (free : ∀ g, ¬Begins g a) :
      Ends prog opts (a :: rest) ⟨opts,true,2,[],text "error: unknown argument '" ++ a ++ text "'\n" ++ usage prog⟩

structure Reading (args : List Str) (groups : List Group) (tail : List Str) (prog : Str) (opts : RunOptions)
    (parsed : Parsed) : Prop where
  written : args = groupWords groups ++ tail
  ends : Ends prog (groups.foldl Group.apply opts) tail parsed

def Readable (prog : Str) (opts : RunOptions) (args : List Str) (parsed : Parsed) : Prop :=
  ∃ groups tail, Reading args groups tail prog opts parsed

theorem Readable.ended (ends : Ends prog opts args parsed) : Readable prog opts args parsed := ⟨[],args,rfl,ends⟩

theorem Readable.grouped (g : Group) (later : Readable prog (g.apply opts) rest parsed) :
    Readable prog opts (g.words ++ rest) parsed := by
  obtain ⟨groups,tail,rfl,ends⟩ := later
  exact ⟨g :: groups,tail,(List.append_assoc _ _ _).symm,ends⟩

theorem action_valued (g : Group) (words : g.words = [a,v]) : ∃ store, action a = .value (fullName g) store := by
  cases g with
  | filter long v => cases words; cases long <;> exact ⟨_,rfl⟩
  | tag long v => cases words; cases long <;> exact ⟨_,rfl⟩
  | excludeTag long v => cases words; cases long <;> exact ⟨_,rfl⟩
  | timeout v => cases words; exact ⟨_,rfl⟩
  | reporter long format => cases words; cases long <;> exact ⟨_,rfl⟩
  | output long v => cases words; cases long <;> exact ⟨_,rfl⟩
  | suite v => cases words; exact ⟨_,rfl⟩
  | list long => cases words
  | noColor => cases words

theorem action_begins (g : Group) (begins : Begins g a) : action a ≠ .unknown := by
  intro decided
  rcases two : g.words with _ | ⟨word,_ | ⟨v,_ | _⟩⟩
  · rw [Begins,two] at begins
    cases begins
  · obtain rfl : word = a := by rw [Begins,two] at begins; exact Option.some.inj begins
    cases g with
    | list long => cases two; cases long <;> cases decided
    | noColor => cases two; cases decided
    | _ => cases two
  · obtain rfl : word = a := by rw [Begins,two] at begins; exact Option.some.inj begins
    obtain ⟨store,valued⟩ := action_valued g two
    rw [valued] at decided
    cases decided
  · cases g <;> cases two

structure Row (a flag : Str) (store : RunOptions → Str → Except Str RunOptions) : Prop where
  valued : ∃ g v, Group.words g = [a,v] ∧ fullName g = flag
  failing : ∀ opts v message, store opts v = .error message → (∃ long, spelling "-r" "--reporter" long = a) ∧
    (∀ format, v ≠ kindName format) ∧ message = text "error: unknown reporter '" ++ v ++ text "'\n"

theorem row_kept (g : Group) (words : g.words = [a,v]) (keeps : RunOptions → Str → RunOptions) :
    Row a (fullName g) fun opts v => .ok (keeps opts v) := by
  refine ⟨⟨g,v,words,rfl⟩,?_⟩
  intro opts v message failed
  cases failed

theorem kindName_known (format : Format) : reporterKind (kindName format) = some format := by cases format <;> decide

theorem other_kind (v : Str) : reporterKind v = none ↔ ∀ format, v ≠ kindName format := by
  constructor
  · intro other format same
    rw [same,kindName_known] at other
    cases other
  · intro other
    cases known : reporterKind v with
    | none => rfl
    | some format => exact absurd (reporterKind_name known).symm (other format)

theorem reporter_fails (opts : RunOptions) (long : Bool) (other : reporterKind v = none) :
    ∃ store, action (spelling "-r" "--reporter" long) = .value (text "--reporter") store ∧
      store opts v = .error (text "error: unknown reporter '" ++ v ++ text "'\n") := by
  cases long <;> refine ⟨_,rfl,?_⟩ <;> simp only [other]

theorem action_row (decided : action a = .value flag store) : Row a flag store := by
  unfold action at decided
  rcases if_row decided with ⟨_,row⟩ | decided
  · cases row
  rcases if_row decided with ⟨filter,row⟩ | decided
  · cases row
    obtain ⟨long,rfl⟩ := spelled filter
    exact row_kept (.filter long []) rfl _
  rcases if_row decided with ⟨tag,row⟩ | decided
  · cases row
    obtain ⟨long,rfl⟩ := spelled tag
    exact row_kept (.tag long []) rfl _
  rcases if_row decided with ⟨excludeTag,row⟩ | decided
  · cases row
    obtain ⟨long,rfl⟩ := spelled excludeTag
    exact row_kept (.excludeTag long []) rfl _
  rcases if_row decided with ⟨timeout,row⟩ | decided
  · cases row
    rw [timeout]
    exact row_kept (.timeout []) rfl _
  rcases if_row decided with ⟨reporter,row⟩ | decided
  · cases row
    obtain ⟨long,rfl⟩ := spelled reporter
    refine ⟨⟨.reporter long .console,kindName .console,rfl,rfl⟩,?_⟩
    intro opts v message failed
    split at failed
    · cases failed
    · rename_i other
      cases failed
      exact ⟨⟨long,rfl⟩,(other_kind v).mp other,rfl⟩
  rcases if_row decided with ⟨output,row⟩ | decided
  · cases row
    obtain ⟨long,rfl⟩ := spelled output
    exact row_kept (.output long []) rfl _
  rcases if_row decided with ⟨suite,row⟩ | decided
  · cases row
    rw [suite]
    exact row_kept (.suite []) rfl _
  rcases if_row decided with ⟨_,row⟩ | decided
  · cases row
  rcases if_row decided with ⟨_,row⟩ | row <;> cases row

theorem unknown_row (decided : action a = .unknown) : ¬HelpWord a ∧ ∀ g, ¬Begins g a := by
  refine ⟨?_,fun g begins => action_begins g begins decided⟩
  rintro (rfl | rfl) <;> cases decided

theorem row_unknown (helpless : ¬HelpWord a) (free : ∀ g, ¬Begins g a) : action a = .unknown := by
  cases decided : action a with
  | help => exact absurd (action_help decided) helpless
  | value flag store =>
    obtain ⟨g,v,words,_⟩ := (action_row decided).valued
    exact absurd (congrArg List.head? words) (free g)
  | switch set =>
    obtain ⟨g,word,_⟩ := action_switch decided
    exact absurd (congrArg List.head? word) (free g)
  | unknown => rfl

theorem parseRest_ends (ends : Ends prog opts tail parsed) : parseRest prog tail opts = parsed := by
  cases ends with
  | finished => rfl
  | help asked => exact parseRest_help prog asked _ opts
  | unvalued cut =>
    obtain ⟨store,valued⟩ := action_valued _ cut
    rw [parseRest]
    simp only [valued]
  | @reporter v long rest other =>
    obtain ⟨store,valued,failed⟩ := reporter_fails opts long ((other_kind v).mpr other)
    rw [parseRest]
    simp only [valued,failed]
  | unknown helpless free =>
    rw [parseRest]
    simp only [row_unknown helpless free]

theorem parseRest_readable (prog : Str) (args : List Str) (opts : RunOptions) :
    Readable prog opts args (parseRest prog args opts) := by
  fun_induction parseRest prog args opts with
  | case1 => exact .ended .finished
  | case2 a rest opts decided => exact .ended (.help (action_help decided))
  | case3 a rest opts set decided ih =>
    obtain ⟨g,word,sets⟩ := action_switch decided
    rw [← sets] at ih
    have later := ih.grouped g
    rw [word,List.singleton_append,sets] at later
    exact later
  | case4 a rest opts decided =>
    obtain ⟨helpless,free⟩ := unknown_row decided
    exact .ended (.unknown helpless free)
  | case5 a opts flag store decided =>
    obtain ⟨g,v,words,rfl⟩ := (action_row decided).valued
    exact .ended (.unvalued words)
  | case6 a opts flag store decided v rest next stored ih =>
    obtain ⟨g,words,rfl⟩ := action_value decided stored
    have later := ih.grouped g
    rw [words] at later
    exact later
  | case7 a opts flag store decided v rest message failed =>
    obtain ⟨⟨long,rfl⟩,other,rfl⟩ := (action_row decided).failing _ _ _ failed
    exact .ended (.reporter other)

theorem selected_once {one two : RunOptions} (first : Selects groups one) (second : Selects groups two) : one = two := by
  apply same_options
  · exact first.filter.trans second.filter.symm
  · exact SortedSet.same_members _ _ fun t => (first.includes t).trans (second.includes t).symm
  · exact SortedSet.same_members _ _ fun t => (first.excludes t).trans (second.excludes t).symm
  · exact first.timeout.trans second.timeout.symm
  · exact first.list.trans second.list.symm
  · exact first.color.trans second.color.symm
  · exact first.format.trans second.format.symm
  · exact first.suite.trans second.suite.symm
  · exact first.output.trans second.output.symm

-- The grammar of a command line: groups, then one ending, answered with the options that
-- the groups select.
def Answers (prog : Str) (args : List Str) (parsed : Parsed) : Prop :=
  ∃ groups tail opts, args = groupWords groups ++ tail ∧ Selects groups opts ∧ Ends prog opts tail parsed

theorem answers_readable : Answers prog args parsed ↔ Readable prog .new args parsed := by
  constructor
  · rintro ⟨groups,tail,opts,written,selects,ends⟩
    rw [selected_once selects (groups_select groups)] at ends
    exact ⟨groups,tail,written,ends⟩
  · rintro ⟨groups,tail,written,ends⟩
    exact ⟨groups,tail,_,written,groups_select groups,ends⟩

theorem parse_grammar (prog : Str) (args : List Str) (parsed : Parsed) :
    parseArgs (prog :: args) = some parsed ↔ Answers prog args parsed := by
  rw [parseArgs_rest,List.headD_cons,List.tail_cons,answers_readable]
  constructor
  · intro returned
    rw [← Option.some.inj returned]
    exact parseRest_readable prog args .new
  · rintro ⟨groups,tail,rfl,ends⟩
    rw [parseRest_groups,parseRest_ends ends]

example : parseArgs [text "prog",text "--list",text "-f"] =
    some ⟨{RunOptions.new with listOnly := true},true,2,[],text "error: --filter requires a value\n"⟩ :=
  parseArgs_rest _

end Edtf.ArgumentGrammar

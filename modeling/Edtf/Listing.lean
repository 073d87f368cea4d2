import Mathlib.Tactic
import Edtf.Pieces
import Edtf.ReportReading

namespace Edtf.Listing
open ByteText Pieces SortedSets Registry Results RunOne Reporters Runs ReportReading

structure Registration (β : Type) where
  suite : Str
  name : Str
  tagSpec : Str
  timeoutMs : Int
  body : β

def registered (registrations : List (Registration β)) : List (TestCase β) :=
  registrations.foldl (fun cases r => registerCase cases r.suite r.name r.tagSpec r.timeoutMs r.body) []

def Registration.testCase (r : Registration β) : TestCase β := ⟨r.suite,r.name,parseTags r.tagSpec,r.timeoutMs,r.body⟩

theorem registered_map (registrations : List (Registration β)) :
    registered registrations = registrations.map Registration.testCase := by
  suffices general : ∀ cases, registrations.foldl
      (fun cases r => registerCase cases r.suite r.name r.tagSpec r.timeoutMs r.body) cases =
        cases ++ registrations.map Registration.testCase from general []
  induction registrations with
  | nil => intro cases; simp
  | cons r rest ih =>
    intro cases
    rw [List.foldl_cons,ih,registerCase,List.append_assoc]
    rfl

-- What parse_tags lets through: every tag is a non-empty piece of the specification
-- without separators.
abbrev Separator (c : UInt8) : Prop := c = byteOf ',' ∨ c = byteOf ' ' ∨ c = byteOf '\t'

theorem mem_flush (out : TagSet) (cur t : Str) : t ∈ (flush out cur).items ↔ t ∈ out.items ∨ t = cur ∧ cur ≠ [] := by
  unfold flush
  split
  · rename_i empty
    simp [empty]
  · rename_i filled
    rw [SortedSet.mem_insert]
    simp [filled,or_comm]

-- The loop collects the pieces of what it has not flushed yet. Induction on the rest of
-- the specification; the pending tag has no separators.
theorem mem_parseLoop (spec : Str) (out : TagSet) (cur : Str) (pending : Clean Separator cur) (t : Str) :
    t ∈ (parseLoop spec out cur).items ↔ t ∈ out.items ∨ Piece Separator (cur ++ spec) t := by
  induction spec generalizing out cur with
  | nil => rw [parseLoop,mem_flush,List.append_nil,piece_clean pending]
  | cons c rest ih =>
    rw [parseLoop]
    split
    · rename_i found
      have here : Separator c := found
      have split := piece_split here cur rest t
      rw [ih _ [] (List.forall_mem_nil _),mem_flush,List.nil_append,split,piece_clean pending,or_assoc]
    · rename_i plain
      have longer : Clean Separator (cur ++ [c]) := clean_append.mpr ⟨pending,List.forall_mem_singleton.mpr plain⟩
      rw [ih out (cur ++ [c]) longer,List.append_assoc,List.singleton_append]

theorem mem_parseTags (spec t : Str) : t ∈ (parseTags spec).items ↔ Piece Separator spec t := by
  rw [parseTags,mem_parseLoop spec .empty [] (List.forall_mem_nil _),List.nil_append]
  exact or_iff_right List.not_mem_nil

theorem parseTags_tags (holds : UInt8 → Prop) (spec : Str) (bytes : ∀ b ∈ spec, Separator b ∨ holds b) :
    ∀ t ∈ (parseTags spec).items, t ≠ [] ∧ ∀ b ∈ t, holds b := by
  intro t present
  obtain ⟨before,after,rfl,filled,clean,_⟩ := (mem_parseTags spec t).mp present
  exact ⟨filled,fun b inside => (bytes b (by simp [inside])).resolve_left (clean b inside)⟩

def Tag (t : Str) : Prop := t ≠ [] ∧ ∀ b ∈ t, ¬Separator b

theorem joins_commas (items : List Str) (tags : ∀ t ∈ items, Tag t) : Joins Separator items ((text ",").intercalate items) := by
  induction items with
  | nil => exact .done (List.forall_mem_nil _)
  | cons t rest ih =>
    have tag := tags t (by simp)
    have tail := ih fun u present => tags u (by simp [present])
    cases rest with
    | nil =>
      have alone := joins_front tag.1 tag.2 (by simp) (Joins.done (List.forall_mem_nil Separator))
      rw [List.intercalate_singleton]
      rwa [List.append_nil] at alone
    | cons u later =>
      have comma : ∀ c ∈ text ",", Separator c := fun c present => .inl (List.mem_singleton.mp present)
      rw [List.intercalate_cons_cons,List.append_assoc]
      refine joins_front tag.1 tag.2 ?_ (joins_gap comma tail)
      intro c first
      cases first
      exact .inl rfl

theorem parseTags_joined (set : TagSet) (tags : ∀ t ∈ set.items, Tag t) :
    parseTags ((text ",").intercalate set.items) = set :=
  SortedSet.same_members _ _ fun t => (mem_parseTags _ t).trans (joins_pieces (joins_commas set.items tags) t)

-- The reader of one listed line: the name up to the first bracket after two blanks, and
-- the tags inside the brackets.
def bracketed (content : Str) : Option Str :=
  if content.getLast? = some (byteOf ']') then some content.dropLast else none

def readListed (line : Str) : Option (Str × TagSet) :=
  match cutAt (text "  [") line with
  | none => some (line,.empty)
  | some (name,rest) => (bracketed rest).map fun content => (name,parseTags content)

def listed (tc : TestCase β) : Str :=
  tc.fullName ++ if tc.tags.items ≠ [] then text "  [" ++ ((text ",").intercalate tc.tags.items ++ text "]") else []

theorem listLine_lines (cases : List (TestCase β)) : cases.flatMap listLine = unlines (cases.map listed) := by
  have closing : text "\n" = [newline] := rfl
  rw [unlines,List.flatMap_map]
  refine List.flatMap_congr fun tc _ => ?_
  rw [listLine,listed,closing]
  split <;> simp

structure Listed (tc : TestCase β) : Prop where
  name : space ∉ tc.fullName ∧ newline ∉ tc.fullName
  tags : ∀ t ∈ tc.tags.items, Tag t ∧ newline ∉ t

theorem registration_listed (r : Registration β) (suite : Identifier r.suite) (name : Identifier r.name)
    (spec : newline ∉ r.tagSpec) : Listed r.testCase := by
  have apart : ∀ b, identifierByte b = false → b ≠ byteOf '.' → b ∉ r.testCase.fullName := by
    intro b other dot
    have point : b ∉ text "." := fun present => dot (List.mem_singleton.mp present)
    simp only [TestCase.fullName,Registration.testCase,List.mem_append,not_or]
    exact ⟨⟨identifier_free suite other,point⟩,identifier_free name other⟩
  refine ⟨⟨apart space (by decide) (by decide),apart newline (by decide) (by decide)⟩,?_⟩
  have parts := parseTags_tags (fun b => ¬Separator b ∧ b ≠ newline) r.tagSpec ?_
  · intro t present
    obtain ⟨filled,bytes⟩ := parts t present
    exact ⟨⟨filled,fun b inside => (bytes b inside).1⟩,fun inside => (bytes newline inside).2 rfl⟩
  · intro b present
    by_cases separator : Separator b
    · exact .inl separator
    · refine .inr ⟨separator,?_⟩
      rintro rfl
      exact spec present

theorem intercalate_free {b : UInt8} (comma : b ≠ byteOf ',') (items : List Str) (free : ∀ t ∈ items, b ∉ t) :
    b ∉ (text ",").intercalate items := by
  induction items with
  | nil => simp
  | cons t rest ih =>
    cases rest with
    | nil =>
      rw [List.intercalate_singleton]
      exact free t (by simp)
    | cons u later =>
      have sep : b ∉ text "," := fun present => comma (List.mem_singleton.mp present)
      rw [List.intercalate_cons_cons]
      simp only [List.mem_append,not_or]
      exact ⟨⟨free t (by simp),sep⟩,ih fun v present => free v (by simp [present])⟩

theorem listed_clean (tc : TestCase β) (known : Listed tc) : newline ∉ listed tc := by
  have inside := intercalate_free (b := newline) (by decide) tc.tags.items fun t present => (known.tags t present).2
  have opening : newline ∉ text "  [" := by decide
  have closing : newline ∉ text "]" := by decide
  rw [listed]
  split
  · simp only [List.mem_append,not_or]
    exact ⟨known.name.2,opening,inside,closing⟩
  · simpa using known.name.2

theorem bracketed_closed (content : Str) : bracketed (content ++ text "]") = some content := by
  have last : text "]" = [byteOf ']'] := rfl
  rw [bracketed,last,if_pos List.getLast?_concat,List.dropLast_concat]

theorem readListed_listed (tc : TestCase β) (known : Listed tc) : readListed (listed tc) = some (tc.fullName,tc.tags) := by
  have mark : text "  [" = space :: text " [" := rfl
  by_cases bare : tc.tags.items = []
  · have empty : tc.tags = .empty := SortedSet.same _ _ bare
    have shape : listed tc = tc.fullName := by rw [listed,if_neg (not_not.mpr bare),List.append_nil]
    rw [shape,readListed,mark,cutAt_absent known.name.1,empty]
  · have shape : listed tc =
        tc.fullName ++ (space :: text " [" ++ ((text ",").intercalate tc.tags.items ++ text "]")) := by
      rw [listed,if_pos bare,mark]
    rw [shape,readListed,mark,cutAt_found known.name.1]
    dsimp only
    rw [bracketed_closed,Option.map_some,parseTags_joined tc.tags fun t present => (known.tags t present).1]

theorem mapM_read (cases : List (TestCase β)) (known : ∀ tc ∈ cases, Listed tc) :
    (cases.map listed).mapM readListed = some (cases.map fun tc => (tc.fullName,tc.tags)) :=
  mapM_written fun tc present => readListed_listed tc (known tc present)

def withList (opts : RunOptions) (on : Bool) : RunOptions := {opts with listOnly := on}

-- The listing of a registry reads back as the names and tags of exactly the cases that a
-- run with the same options executes, in their order, and nothing is executed for it.
theorem listing_faithful (opts : RunOptions) (registrations : List (Registration β)) (env : Environment) (runner : Runner)
    (named : ∀ r ∈ registrations, Identifier r.suite ∧ Identifier r.name)
    (plain : ∀ r ∈ registrations, newline ∉ r.tagSpec) :
    ∃ ran, run (withList opts true) (registered registrations) env runner = some ran ∧ ran.runner = runner ∧
      (∀ other, run (withList opts true) (registered registrations) other runner = some ran) ∧
      (lines ran.report).mapM readListed = some ((selectedCases (withList opts false) (registered registrations)).map
        fun tc => (tc.fullName,tc.tags)) ∧
      ∀ executed, run (withList opts false) (registered registrations) env runner = some executed →
        ∃ results, resultsOf (withList opts false) env.execution 0
            (selectedCases (withList opts false) (registered registrations)) = some results ∧
          executed.runner.results = runner.results ++ results ∧
          results.map TestResult.fullName =
            (selectedCases (withList opts false) (registered registrations)).map TestCase.fullName := by
  have known : ∀ tc ∈ selectedCases (withList opts false) (registered registrations), Listed tc := by
    intro tc chosen
    have member := List.mem_of_mem_filter chosen
    rw [registered_map] at member
    obtain ⟨r,present,rfl⟩ := List.mem_map.mp member
    exact registration_listed r (named r present).1 (named r present).2 (plain r present)
  have clean : ∀ line ∈ (selectedCases (withList opts false) (registered registrations)).map listed, newline ∉ line := by
    intro line present
    obtain ⟨tc,chosen,rfl⟩ := List.mem_map.mp present
    exact listed_clean tc (known tc chosen)
  refine ⟨_,rfl,rfl,fun _ => rfl,?_,?_⟩
  · change (lines ((selectedCases (withList opts false) (registered registrations)).flatMap listLine)).mapM readListed = _
    rw [listLine_lines,lines_unlines clean,mapM_read _ known]
  · intro executed returned
    obtain ⟨results,ran⟩ := run_executed rfl returned
    exact ⟨results,ran.returned,ran.appended,resultsOf_fullNames ran.returned⟩

def probes : List (Registration Unit) :=
  [⟨text "Probe",text "reads",text "slow, a],[b ,slow",0,()⟩,⟨text "Probe",text "reads",[],30,()⟩]

def probesEnv : Environment := ⟨fun k => ⟨if k = 0 then some ⟨20,none,.new⟩ else none,31⟩,52⟩

theorem probes_return : ∃ executed, run (withList .new false) (registered probes) probesEnv .new = some executed := by
  rw [← Option.isSome_iff_exists,run_returns rfl]
  decide

theorem probes_listed : ∃ ran, run (withList .new true) (registered probes) probesEnv .new = some ran ∧
    ran.runner = .new ∧ (∀ other, run (withList .new true) (registered probes) other .new = some ran) ∧
    (lines ran.report).mapM readListed = some ((selectedCases (withList .new false) (registered probes)).map
      fun tc => (tc.fullName,tc.tags)) ∧
    ∃ executed results, run (withList .new false) (registered probes) probesEnv .new = some executed ∧
      resultsOf (withList .new false) probesEnv.execution 0
          (selectedCases (withList .new false) (registered probes)) = some results ∧
      executed.runner.results = Runner.new.results ++ results ∧
      results.map TestResult.fullName =
        (selectedCases (withList .new false) (registered probes)).map TestCase.fullName := by
  have each : (probes.all fun r => r.suite.all identifierByte && r.name.all identifierByte) = true := by decide
  have named : ∀ r ∈ probes, Identifier r.suite ∧ Identifier r.name := by
    intro r present
    have both := List.all_eq_true.mp each r present
    simp only [Bool.and_eq_true,List.all_eq_true] at both
    exact both
  obtain ⟨ran,listing,kept,still,read,executes⟩ := listing_faithful .new probes probesEnv .new named (by decide)
  obtain ⟨executed,returned⟩ := probes_return
  obtain ⟨results,found,appended,names⟩ := executes executed returned
  exact ⟨ran,listing,kept,still,read,executed,results,returned,found,appended,names⟩

end Edtf.Listing

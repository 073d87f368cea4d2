import Mathlib.Tactic
import Edtf.Deadlines
import Edtf.Listing
import Edtf.RegistrationOrder
import Edtf.ReportDigests
import Edtf.Selection
import Edtf.Verdicts

namespace Edtf.EndToEnd
open ByteText Assertions BodyTraces Pieces Registry Results RunOne Reporters Runs CommandLine Selection Listing
open Verdicts RegistrationOrder ReportDigests
open TapReadback (Plain)

-- A test as its author wrote it: the registration with the program of the case, the state
-- its fixture is made with and the time it takes, if it ends at all.
structure Program (σ : Type) where
  registration : Registration (CaseBody σ)
  start : σ
  finish : Option Nat
  elapsed : Nat

def Program.execution (p : Program σ) : Execution := ⟨p.finish.map (ended p.registration.body p.start),p.elapsed⟩
def Program.test (p : Program σ) : Test (CaseBody σ) := (p.registration.testCase,p.execution)
def Program.fullName (p : Program σ) : Str := p.registration.suite ++ text "." ++ p.registration.name
def Program.run (p : Program σ) : Finished σ := runCase p.registration.body .new p.start

-- What a command line asks for, read off its groups: the last name filter, some given tag
-- if there are any and no excluded one, each a piece of the registered specification.
structure Wanted (groups : List Group) (r : Registration β) : Prop where
  named : lastGiven Group.filter? groups [] <:+: r.suite ++ text "." ++ r.name
  tagged : given Group.tag? groups ≠ [] → ∃ t ∈ given Group.tag? groups, Piece Separator r.tagSpec t
  untagged : ∀ t ∈ given Group.excludeTag? groups, ¬Piece Separator r.tagSpec t

theorem wanted_selected (groups : List Group) (r : Registration β) :
    selected (groups.foldl Group.apply .new) r.testCase = true ↔ Wanted groups r := by
  rw [selected_wants (groups_select groups)]
  have pieces (t : Str) : t ∈ r.testCase.tags.items ↔ Piece Separator r.tagSpec t := mem_parseTags r.tagSpec t
  constructor
  · rintro ⟨⟨named,untagged⟩,tagged⟩
    simp only [pieces] at untagged tagged
    exact ⟨named,tagged,untagged⟩
  · rintro ⟨named,tagged,untagged⟩
    simp only [← pieces] at untagged tagged
    exact ⟨⟨named,untagged⟩,tagged⟩

instance (groups : List Group) (r : Registration β) : Decidable (Wanted groups r) :=
  decidable_of_iff _ (wanted_selected groups r)

def deadline (groups : List Group) (r : Registration β) : Int :=
  if r.timeoutMs = 0 then lastGiven (fun g => g.timeout?.map atoll) groups 0 else r.timeoutMs

theorem deadline_applies (groups : List Group) (r : Registration β) :
    deadlineOf (groups.foldl Group.apply .new) r.testCase = deadline groups r := by
  rw [deadlineOf,(groups_select groups).timeout]
  rfl

def Early (groups : List Group) (p : Program σ) : Prop :=
  ∃ time, p.finish = some time ∧ InTime (deadline groups p.registration) time

structure Passes (groups : List Group) (p : Program σ) : Prop where
  early : Early groups p
  quiet : ¬Escapes p.run
  unfailing : ¬Failing (events p.run.trace)

-- The reason why a program does not pass, if it does not: it is late, an exception leaves
-- it, or checks fail.
def joinedFailures (messages : List Str) : Option Str := if messages = [] then none else some ([newline].intercalate messages)

def Program.reason (groups : List Group) (p : Program σ) : Option Str :=
  if p.finish.any fun time : Nat => decide (0 < deadline groups p.registration → time ≤ deadline groups p.registration) then
    match p.run.escaped with
    | some (.user e) => some (exceptionText e)
    | _ => joinedFailures (failureMessages (events p.run.trace))
  else some (expiredDetail (deadline groups p.registration))

def entryOf (groups : List Group) (p : Program σ) : Digest :=
  ⟨p.fullName,(p.reason groups).isNone,((p.reason groups).map chomp).getD []⟩

section
variable {σ : Type} {groups : List Group} {p : Program σ}

theorem finish_early :
    (p.finish.any fun time : Nat => decide (0 < deadline groups p.registration → time ≤ deadline groups p.registration)) = true ↔
      Early groups p := by
  rw [Early]
  cases p.finish with
  | none => exact iff_of_false Bool.false_ne_true fun ⟨_,absent,_⟩ => by cases absent
  | some time =>
    rw [Option.any_some,decide_eq_true_eq]
    exact ⟨fun before => ⟨time,rfl,before⟩,fun ⟨_,same,before⟩ => by cases same; exact before⟩

theorem reason_late (late : ¬Early groups p) : p.reason groups = some (expiredDetail (deadline groups p.registration)) := by
  rw [Program.reason,if_neg fun before => late (finish_early.mp before)]

theorem reason_escapes (early : Early groups p) (left : p.run.escaped = some (.user e)) :
    p.reason groups = some (exceptionText e) := by
  rw [Program.reason,if_pos (finish_early.mpr early),left]

theorem reason_checks (early : Early groups p) (quiet : ¬Escapes p.run) :
    p.reason groups = joinedFailures (failureMessages (events p.run.trace)) := by
  rw [Program.reason,if_pos (finish_early.mpr early)]
  split
  · rename_i e left
    exact absurd ⟨e,left⟩ quiet
  · rfl

theorem joined_none (messages : List Str) : joinedFailures messages = none ↔ messages = [] := by
  unfold joinedFailures
  by_cases empty : messages = []
  · rw [if_pos empty]
    exact iff_of_true rfl empty
  · rw [if_neg empty]
    exact iff_of_false (fun absent => by cases absent) empty

theorem reason_none : p.reason groups = none ↔ EndToEnd.Passes groups p := by
  by_cases early : Early groups p
  · by_cases escapes : Escapes p.run
    · obtain ⟨e,left⟩ := escapes
      rw [reason_escapes early left]
      exact iff_of_false (fun absent => by cases absent) fun passes => passes.quiet ⟨e,left⟩
    · have silent : failureMessages (events p.run.trace) = [] ↔ ¬Failing (events p.run.trace) := by
        rw [failing_messages,not_not]
      rw [reason_checks early escapes,joined_none,silent]
      exact ⟨fun unfailing => ⟨early,escapes,unfailing⟩,EndToEnd.Passes.unfailing⟩
  · rw [reason_late early]
    exact iff_of_false (fun absent => by cases absent) fun passes => early passes.early

end

-- A program whose deadline is below the clock's limit and whose checks an int can count, and
-- what this is needed for: its wait and its sink are those of the code.
structure Sized (groups : List Group) (p : Program σ) : Prop where
  waitable : Waitable (deadline groups p.registration)
  countable : p.finish ≠ none → Countable (events p.run.trace)

structure Exact (groups : List Group) (p : Program σ) : Prop where
  clocked : Clocked (deadline groups p.registration)
  counted : p.finish ≠ none → replayInt .new (events p.run.trace) = some p.run.sink

theorem sized_exact {groups : List Group} {p : Program σ} (sized : Sized groups p) : Exact groups p := by
  refine ⟨waitable_clocked sized.waitable,fun ends => ?_⟩
  rw [replayInt_new,if_pos (sized.countable ends),Program.run,runCase_sink]

theorem digest_failed {r : TestResult} (failed : r.ok = false) : digestOf r = ⟨r.fullName,false,chomp r.detail⟩ := by
  rw [digestOf,failed]
  rfl

theorem entry_failed {groups : List Group} {p : Program σ} (why : p.reason groups = some reason) :
    entryOf groups p = ⟨p.fullName,false,chomp reason⟩ := by
  rw [entryOf,why]
  rfl

theorem collected_told (groups : List Group) (p : Program σ) (ends : p.finish = some time)
    (inTime : InTime (deadline groups p.registration) time) :
    digestOf (collect p.registration.testCase (ended p.registration.body p.start time).shared p.elapsed) = entryOf groups p := by
  have early : Early groups p := ⟨time,ends,inTime⟩
  by_cases escapes : Escapes p.run
  · obtain ⟨e,left⟩ := escapes
    rw [collect_error _ (ended p.registration.body p.start time) p.elapsed left,entry_failed (reason_escapes early left),
      digest_failed rfl,caught_text]
    rfl
  · have quiet : ∀ e, (ended p.registration.body p.start time).escaped ≠ some (.user e) := fun e left => escapes ⟨e,left⟩
    have failing := case_failing p.registration.body p.start
    have checks := reason_checks early escapes
    rw [collect_judged _ (ended p.registration.body p.start time) p.elapsed quiet]
    by_cases silent : failureMessages (events p.run.trace) = []
    · have passes : ¬0 < (ended p.registration.body p.start time).sink.failed := fun positive =>
        (failing_messages _).mp (failing.mp positive) silent
      rw [if_neg passes,entryOf,checks,(joined_none _).mpr silent]
      rfl
    · have positive : 0 < (ended p.registration.body p.start time).sink.failed :=
        failing.mpr ((failing_messages _).mpr silent)
      have joined : p.reason groups = some ([newline].intercalate (failureMessages (events p.run.trace))) := by
        rw [checks,joinedFailures,if_neg silent]
      rw [if_pos positive,entry_failed joined,digest_failed rfl,Program.run,← case_joined]
      rfl

theorem program_told (groups : List Group) (p : Program σ)
    (finishing : p.finish = none → 0 < deadline groups p.registration) :
    ∃ r, Gives (groups.foldl Group.apply .new) p.test r ∧ digestOf r = entryOf groups p := by
  have applies := deadline_applies groups p.registration
  by_cases early : Early groups p
  · obtain ⟨time,ends,inTime⟩ := early
    refine ⟨_,?_,collected_told groups p ends inTime⟩
    rw [Gives,Program.test,Program.execution,ends,Option.map_some]
    exact runOne_inTime (by rw [applies]; exact inTime)
  · have limited : 0 < deadline groups p.registration := by
      cases ends : p.finish with
      | none => exact finishing ends
      | some time =>
        by_contra unlimited
        exact early ⟨time,ends,fun positive => absurd positive unlimited⟩
    have late : ∀ ending, p.execution.ending = some ending →
        ¬InTime (deadlineOf (groups.foldl Group.apply .new) p.registration.testCase) ending.finish := by
      intro ending ends inTime
      obtain ⟨time,finish,rfl⟩ := Option.map_eq_some_iff.mp ends
      exact early ⟨time,finish,by rw [← applies]; exact inTime⟩
    refine ⟨_,runOne_late (lt_of_lt_of_eq limited applies.symm) late,?_⟩
    rw [entry_failed (reason_late early),digest_failed rfl,← applies]
    rfl

theorem chosen_programs (groups : List Group) (programs : List (Program σ)) :
    chosenOf (groups.foldl Group.apply .new) (programs.map Program.test) =
      (programs.filter fun p => Wanted groups p.registration).map Program.test := by
  rw [chosenOf,List.filter_map]
  refine congrArg _ (List.filter_congr fun p _ => ?_)
  rw [Bool.eq_iff_iff,decide_eq_true_eq]
  exact wanted_selected groups p.registration

theorem registered_programs (programs : List (Program σ)) :
    registered (programs.map Program.registration) = Test.casesOf (programs.map Program.test) := by
  rw [registered_map,Test.casesOf,List.map_map,List.map_map]
  rfl

theorem programs_told (groups : List Group) (programs : List (Program σ)) (elapsed : Nat)
    (finishing : ∀ p ∈ programs, Wanted groups p.registration → p.finish = none → 0 < deadline groups p.registration) :
    let opts := groups.foldl Group.apply .new
    ∃ results, resultsOf opts (environmentOf opts (programs.map Program.test) elapsed).execution 0
        (selectedCases opts (registered (programs.map Program.registration))) = some results ∧
      results.map digestOf = (programs.filter fun p => Wanted groups p.registration).map (entryOf groups) := by
  intro opts
  have each : ∀ p ∈ programs.filter fun p => Wanted groups p.registration,
      ∃ r, Gives opts p.test r ∧ digestOf r = entryOf groups p := by
    intro p chosen
    obtain ⟨present,wanted⟩ := List.mem_filter.mp chosen
    exact program_told groups p (finishing p present (of_decide_eq_true wanted))
  obtain ⟨results,both⟩ := partners each
  refine ⟨results,?_,?_⟩
  · rw [registered_programs,results_given,chosen_programs,List.forall₂_map_left_iff]
    exact both.imp fun _ _ told => told.1
  · rw [← List.forall₂_eq_eq_eq,List.forall₂_map_left_iff,List.forall₂_map_right_iff]
    exact both.flip.imp fun _ _ told => told.2

theorem all_passed {groups : List Group} {programs : List (Program σ)} {results : List TestResult}
    (told : results.map digestOf = programs.map (entryOf groups)) :
    results.all TestResult.ok = true ↔ ∀ p ∈ programs, EndToEnd.Passes groups p := by
  have oks := congrArg (List.map Digest.ok) told
  rw [List.map_map,List.map_map] at oks
  have verdicts : results.all TestResult.ok = programs.all fun p => (p.reason groups).isNone := by
    have each := congrArg (fun flags : List Bool => flags.all id) oks
    simp only [List.all_map] at each
    exact each
  rw [verdicts,List.all_eq_true]
  simp only [Option.isNone_iff_eq_none,reason_none]

-- From the programs of the tests to what their process says: on a command line that runs
-- tests it ends, its report has one entry for every wanted program in the order of
-- registration, and entries and exit code tell which of them pass.
theorem end_to_end (argv : List Str) (groups : List Group) (written : argv.tail = groupWords groups) (opens : Str → Bool)
    (programs : List (Program σ)) (elapsed : Nat) (executes : ∀ long, .list long ∉ groups)
    (opened : lastGiven Group.output? groups [] = [] ∨ opens (lastGiven Group.output? groups []) = true)
    (colorless : lastGiven Group.format? groups .console = .console → lastGiven Group.noColor? groups true = false)
    (small : programs.length < 2^31) (plain : ∀ p ∈ programs, Plain p.registration.suite ∧ Plain p.registration.name)
    (finishing : ∀ p ∈ programs, Wanted groups p.registration → p.finish = none → 0 < deadline groups p.registration)
    (sized : ∀ p ∈ programs, Wanted groups p.registration → Sized groups p) :
    ∃ exit,
      runAll argv opens (registered (programs.map Program.registration))
        (environmentOf (groups.foldl Group.apply .new) (programs.map Program.test) elapsed) = some (some exit) ∧
      readReport (lastGiven Group.format? groups .console) (reportOf exit) =
        some ((programs.filter fun p => Wanted groups p.registration).map (entryOf groups)) ∧
      exit.err = [] ∧ (exit.code = 0 ∨ exit.code = 1) ∧
      (exit.code = 0 ↔ ∀ p ∈ programs, Wanted groups p.registration → EndToEnd.Passes groups p) ∧
      ∀ p ∈ programs, Wanted groups p.registration → Exact groups p := by
  have selects := groups_select groups
  have listing : (groups.foldl Group.apply .new).listOnly = false := by
    rw [selects.list,← Bool.not_eq_true]
    intro flagged
    obtain ⟨long,present⟩ := listed_flag groups flagged
    exact executes long present
  rw [← selects.output] at opened
  rw [← selects.format,← selects.color] at colorless
  have named : ∀ tc ∈ registered (programs.map Program.registration), Plain tc.suite ∧ Plain tc.name := by
    rw [registered_programs,Test.casesOf,List.map_map,List.forall_mem_map]
    exact plain
  have few : (registered (programs.map Program.registration)).length < 2^31 := by
    rw [registered_map,List.length_map,List.length_map]
    exact small
  obtain ⟨results,found,told⟩ := programs_told groups programs elapsed finishing
  obtain ⟨exit,ended,quiet,code,report⟩ := exit_told written opens _ _ listing opened colorless few named found
  have verdict : exit.code = 0 ↔ results.all TestResult.ok = true := by
    rw [code]
    cases results.all TestResult.ok <;> decide
  refine ⟨exit,ended,?_,quiet,?_,?_,fun p present wanted => sized_exact (sized p present wanted)⟩
  · rw [← selects.format,report,told]
  · rw [code]
    cases results.all TestResult.ok with
    | true => exact .inl rfl
    | false => exact .inr rfl
  · rw [verdict,all_passed told]
    simp only [List.mem_filter,decide_eq_true_eq,and_imp]

structure CaseOptions where
  tagSpec : Str
  timeoutMs : Int

def CaseOptions.new : CaseOptions := ⟨[],0⟩
def CaseOptions.tags (o : CaseOptions) (spec : Str) : CaseOptions := {o with tagSpec := spec}
def CaseOptions.timeoutMs_ (o : CaseOptions) (ms : Int) : CaseOptions := {o with timeoutMs := ms}

def chooseOptions (provided : Option CaseOptions) : CaseOptions := provided.getD .new

def testCase (suite name : Str) (provided : Option CaseOptions) (body : Body σ) : Registration (CaseBody σ) :=
  let o := chooseOptions provided
  ⟨suite,name,o.tagSpec,o.timeoutMs,.free body⟩

def testSuiteF (fixture name : Str) (provided : Option CaseOptions) (setUp body tearDown : Body σ) : Registration (CaseBody σ) :=
  let o := chooseOptions provided
  ⟨fixture,name,o.tagSpec,o.timeoutMs,.fixture setUp body tearDown⟩

def probes : List (Program Nat) :=
  [⟨testCase (text "Probe") (text "polls") (some ((CaseOptions.new.tags (text "slow, i2c")).timeoutMs_ 250))
      (fail (text "no reply") probeSite),0,none,251⟩,
    ⟨testSuiteF (text "Sensor") (text "reads") (some (CaseOptions.new.tags (text "i2c"))) (.statement fun _ => (1,none))
      (expectTrue probeSite (fun n => n == 0) (text "idle")) (.statement fun n => (n,none)),0,some 40,41⟩,
    ⟨testCase (text "Probe") (text "idles") none (assertTrue probeSite (fun n => n == 0) (text "idle")),0,some 3,3⟩]

def probeGroups : List Group := [.tag false (text "i2c"),.noColor]

theorem probes_told : ∃ exit,
    runAll (text "prog" :: groupWords probeGroups) (fun _ => false) (registered (probes.map Program.registration))
      (environmentOf (probeGroups.foldl Group.apply .new) (probes.map Program.test) 295) = some (some exit) ∧
    readReport (lastGiven Group.format? probeGroups .console) (reportOf exit) =
      some ((probes.filter fun p => Wanted probeGroups p.registration).map (entryOf probeGroups)) ∧
    exit.err = [] ∧ (exit.code = 0 ∨ exit.code = 1) ∧
    (exit.code = 0 ↔ ∀ p ∈ probes, Wanted probeGroups p.registration → EndToEnd.Passes probeGroups p) ∧
    ∀ p ∈ probes, Wanted probeGroups p.registration → Exact probeGroups p := by
  apply end_to_end (text "prog" :: groupWords probeGroups) probeGroups rfl (fun _ => false) probes 295
  · intro long present
    cases long <;> simp [probeGroups] at present
  · exact .inl rfl
  · exact fun _ => rfl
  · decide
  · unfold Plain
    decide
  · intro p present _ ends
    simp only [probes,List.mem_cons,List.not_mem_nil,or_false] at present
    rcases present with rfl | rfl | rfl
    · decide
    · cases ends
    · cases ends
  · intro p present _
    refine ⟨?_,fun _ => ?_⟩
    · revert p
      decide
    · revert p
      decide

example : probes.map (Program.reason probeGroups) =
    [some (text "exceeded deadline of 250 ms"),some (text "tests/probe.cpp:12: expected true: idle"),none] := by decide

end Edtf.EndToEnd

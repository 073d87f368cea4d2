import Mathlib.Tactic
import Edtf.TapReports

namespace Edtf.TapReadback
open ByteText Results Reporters ReportReading TapReports

-- A reader of whole TAP reports. It goes by lines and knows nothing of the results.
structure TapEntry where
  number : Nat
  ok : Bool
  name : Str
  timedOut : Bool
  block : Option (Outcome × Str)
  deriving DecidableEq, Repr

structure TapDocument where
  plan : Str
  entries : List TapEntry
  comment : Str
  deriving DecidableEq, Repr

def timeoutMark : Str := text " # TIMEOUT"

def readName (s : Str) : Str × Bool :=
  if timeoutMark.isSuffixOf s then (s.take (s.length - timeoutMark.length),true) else (s,false)

def readNumbered (ok : Bool) (s : Str) : Option TapEntry :=
  (number s).bind fun numbered => (strip (text " - ") numbered.2).map fun rest =>
    ⟨numbered.1,ok,(readName rest).1,(readName rest).2,none⟩

def readTest (line : Str) : Option TapEntry :=
  match strip (text "ok ") line with
  | some rest => readNumbered true rest
  | none => (strip (text "not ok ") line).bind (readNumbered false)

def readOutcome (s : Str) : Option Outcome :=
  [Outcome.passed,.failed,.timeout,.error].find? fun o => o.toString = s

-- The lines between the two marks of a block: outcome, a header, and the indented text.
def readBlock : List Str → Option (Outcome × Str)
  | first :: header :: body =>
    (strip (text "  outcome: ") first).bind fun named => (readOutcome named).bind fun outcome =>
      if header = text "  message: |" then
        (body.mapM (strip (text "    "))).map fun ls => (outcome,[newline].intercalate ls)
      else none
  | _ => none

def blockOpens : Str := text "  ---"
def blockCloses : Str := text "  ..."

structure Reading where
  entries : List TapEntry
  inside : Option (List Str)

def Reading.step (s : Reading) (line : Str) : Option Reading :=
  match s.inside,s.entries with
  | some body,e :: earlier =>
    if line = blockCloses then (readBlock body).map fun block => ⟨{e with block := some block} :: earlier,none⟩
    else some {s with inside := some (body ++ [line])}
  | none,e :: _ =>
    if line = blockOpens then (if e.block = none then some {s with inside := some []} else none)
    else (readTest line).map fun next => ⟨next :: s.entries,none⟩
  | none,[] => (readTest line).map fun next => ⟨[next],none⟩
  | some _,[] => none

def readDocument : List Str → Option TapDocument
  | version :: plan :: rest =>
    if version = text "TAP version 13" then
      (strip (text "1..") plan).bind fun total =>
        (rest.getLast?.bind (strip (text "# "))).bind fun comment =>
          (rest.dropLast.foldlM Reading.step ⟨[],none⟩).bind fun last =>
            if last.inside = none then some ⟨total,last.entries.reverse,comment⟩ else none
    else none
  | _ => none

def readTap (s : Str) : Option TapDocument := readDocument (lines s)

def entryOf (index : Nat) (r : TestResult) : TapEntry :=
  { number := index
    ok := r.ok
    name := r.fullName
    timedOut := r.outcome = .timeout
    block := if r.ok = false ∧ r.detail ≠ [] then some (r.outcome,chomp r.detail) else none }

def hash : UInt8 := byteOf '#'

def Plain (s : Str) : Prop := newline ∉ s ∧ hash ∉ s

def PlainlyNamed (r : TestResult) : Prop := Plain r.suite ∧ Plain r.name

theorem fullName_plain (plain : PlainlyNamed r) : Plain r.fullName := by
  have point : newline ∉ text "." ∧ hash ∉ text "." := by decide
  simp only [Plain,TestResult.fullName,List.mem_append,not_or]
  exact ⟨⟨⟨plain.1.1,point.1⟩,plain.2.1⟩,⟨⟨plain.1.2,point.2⟩,plain.2.2⟩⟩

theorem readName_marked (name : Str) : readName (name ++ timeoutMark) = (name,true) := by
  have marked : timeoutMark.isSuffixOf (name ++ timeoutMark) = true :=
    List.isSuffixOf_iff_suffix.mpr (List.suffix_append name timeoutMark)
  rw [readName,if_pos marked,List.length_append,Nat.add_sub_cancel,List.take_left]

theorem readName_plain (free : hash ∉ name) : readName name = (name,false) := by
  have unmarked : ¬timeoutMark.isSuffixOf name = true := by
    intro marked
    have within := (List.isSuffixOf_iff_suffix.mp marked).subset
    exact free (within (by decide))
  rw [readName,if_neg unmarked]

theorem readName_line (plain : PlainlyNamed r) :
    readName (r.fullName ++ if r.outcome = .timeout then text " # TIMEOUT" else []) =
      (r.fullName,decide (r.outcome = .timeout)) := by
  by_cases late : r.outcome = .timeout
  · rw [if_pos late,decide_eq_true late]
    exact readName_marked r.fullName
  · rw [if_neg late,decide_eq_false late,List.append_nil]
    exact readName_plain (fullName_plain plain).2

theorem readNumbered_line (plain : PlainlyNamed r) (ok : Bool) (index : Nat) :
    readNumbered ok (natText index ++ (text " - " ++ (r.fullName ++ if r.outcome = .timeout then text " # TIMEOUT" else []))) =
      some ⟨index,ok,r.fullName,r.outcome = .timeout,none⟩ := by
  have read : ∀ rest, number (natText index ++ (text " - " ++ rest)) = some (index,text " - " ++ rest) :=
    fun _ => number_natText index rfl
  rw [readNumbered,read,Option.bind_some,strip_append,Option.map_some,readName_line plain]

theorem readTest_line (plain : PlainlyNamed r) (index : Nat) :
    readTest (tapLine index r) = some ⟨index,r.ok,r.fullName,r.outcome = .timeout,none⟩ := by
  cases ok : r.ok with
  | true =>
    simp only [tapLine,ok,↓reduceIte,List.append_assoc,readTest,strip_append]
    exact readNumbered_line plain true index
  | false =>
    have other : ∀ rest, strip (text "ok ") (text "not ok " ++ rest) = none := fun _ => rfl
    simp only [tapLine,ok,Bool.false_eq_true,↓reduceIte,List.append_assoc,readTest,other,strip_append,Option.bind_some]
    exact readNumbered_line plain false index

theorem tapLine_outside (index : Nat) (r : TestResult) : tapLine index r ≠ blockOpens := by
  unfold tapLine
  cases r.ok <;> exact fun same => by cases same

theorem indented_open (line : Str) : text "    " ++ line ≠ blockCloses := by
  intro same
  cases same

theorem outcome_open (o : Outcome) : text "  outcome: " ++ o.toString ≠ blockCloses := by
  intro same
  cases same

theorem readOutcome_toString (o : Outcome) : readOutcome o.toString = some o := by
  cases o <;> decide

def blockBody (r : TestResult) : List Str :=
  [text "  outcome: " ++ r.outcome.toString,text "  message: |"] ++ (lines r.detail).map (text "    " ++ ·)

theorem blockBody_open (r : TestResult) : ∀ line ∈ blockBody r, line ≠ blockCloses := by
  intro line present
  rcases List.mem_append.mp present with head | body
  · simp only [List.mem_cons,List.not_mem_nil,or_false] at head
    rcases head with rfl | rfl
    · exact outcome_open r.outcome
    · decide
  · obtain ⟨source,_,rfl⟩ := List.mem_map.mp body
    exact indented_open source

theorem tapBlock_shape (block : r.ok = false ∧ r.detail ≠ []) :
    tapBlock r = blockOpens :: (blockBody r ++ [blockCloses]) := by
  rw [tapBlock,if_pos block]
  rfl

theorem readBlock_written (r : TestResult) : readBlock (blockBody r) = some (r.outcome,chomp r.detail) := by
  have back : ((lines r.detail).map (text "    " ++ ·)).mapM (strip (text "    ")) = some ((lines r.detail).map id) :=
    mapM_written fun line _ => strip_append (text "    ") line
  rw [List.map_id] at back
  rw [blockBody,List.cons_append,List.cons_append,List.nil_append,readBlock,strip_append,Option.bind_some,
    readOutcome_toString,Option.bind_some,if_pos rfl,back,Option.map_some,joined_lines]

theorem inside_lines {ls : List Str} (inner : ∀ line ∈ ls, line ≠ blockCloses) (e : TapEntry) (earlier : List TapEntry) (body : List Str) :
    ls.foldlM Reading.step ⟨e :: earlier,some body⟩ = some ⟨e :: earlier,some (body ++ ls)⟩ := by
  induction ls generalizing body with
  | nil => rw [List.append_nil]; rfl
  | cons line rest ih =>
    have kept : Reading.step ⟨e :: earlier,some body⟩ line = some ⟨e :: earlier,some (body ++ [line])⟩ :=
      if_neg (inner line (by simp))
    rw [List.foldlM_cons,kept,Option.bind_eq_bind,Option.bind_some,ih fun other listed => inner other (by simp [listed])]
    simp

theorem block_lines (r : TestResult) (e : TapEntry) (earlier : List TapEntry) (fresh : e.block = none) :
    (tapBlock r).foldlM Reading.step ⟨e :: earlier,none⟩ =
      some ⟨{e with block := if r.ok = false ∧ r.detail ≠ [] then some (r.outcome,chomp r.detail) else none} :: earlier,none⟩ := by
  by_cases block : r.ok = false ∧ r.detail ≠ []
  · have opened : Reading.step ⟨e :: earlier,none⟩ blockOpens = some ⟨e :: earlier,some []⟩ := by
      simp only [Reading.step,fresh,↓reduceIte]
    have closed : Reading.step ⟨e :: earlier,some (blockBody r)⟩ blockCloses =
        some ⟨{e with block := some (r.outcome,chomp r.detail)} :: earlier,none⟩ := by
      simp only [Reading.step,↓reduceIte,readBlock_written,Option.map_some]
    rw [tapBlock_shape block,List.foldlM_cons,opened,Option.bind_eq_bind,Option.bind_some,List.foldlM_append,
      inside_lines (blockBody_open r),Option.bind_eq_bind,Option.bind_some,List.nil_append,List.foldlM_cons,closed,
      if_pos block]
    rfl
  · rw [tapBlock,if_neg block,if_neg block,← fresh]
    rfl

theorem test_line (plain : PlainlyNamed r) (index : Nat) (entries : List TapEntry) :
    Reading.step ⟨entries,none⟩ (tapLine index r) =
      some ⟨⟨index,r.ok,r.fullName,r.outcome = .timeout,none⟩ :: entries,none⟩ := by
  cases entries with
  | nil => simp only [Reading.step,readTest_line plain,Option.map_some]
  | cons e earlier => simp only [Reading.step,if_neg (tapLine_outside index r),readTest_line plain,Option.map_some]

theorem entries_lines (plain : ∀ r ∈ results, PlainlyNamed r) (index : Nat) (entries : List TapEntry) :
    (tapLines index results).foldlM Reading.step ⟨entries,none⟩ =
      some ⟨(results.mapIdx fun k r => entryOf (index+k+1) r).reverse ++ entries,none⟩ := by
  induction results generalizing index entries with
  | nil => rfl
  | cons r rest ih =>
    have tail := ih (fun other listed => plain other (by simp [listed])) (index+1)
    have shift : ∀ k, index+1+k+1 = index+(k+1)+1 := fun k => by omega
    rw [tapLines,List.cons_append,List.foldlM_cons,test_line (plain r (by simp)),Option.bind_eq_bind,Option.bind_some,
      List.foldlM_append,block_lines r _ _ rfl,Option.bind_eq_bind,Option.bind_some,tail,List.mapIdx_cons]
    simp only [shift,List.reverse_cons,List.append_assoc,Nat.add_zero]
    rfl

def documentOf (total : Int) (results : List TestResult) (s : RunSummary) : TapDocument :=
  { plan := intText total
    entries := results.mapIdx fun k r => entryOf (k+1) r
    comment := text "passed " ++ (intText s.passed ++ (text " of " ++ intText s.total)) }

theorem readDocument_lines (plain : ∀ r ∈ results, PlainlyNamed r) (total : Int) (s : RunSummary) :
    readDocument (tapText total results s) = some (documentOf total results s) := by
  have entries := entries_lines plain 0 []
  have comment : ∀ rest, strip (text "# ") (text "# passed " ++ rest) = some (text "passed " ++ rest) :=
    fun rest => strip_append (text "# ") (text "passed " ++ rest)
  have shape : tapText total results s = text "TAP version 13" :: (text "1.." ++ intText total) ::
      (tapLines 0 results ++ [text "# passed " ++ (intText s.passed ++ (text " of " ++ intText s.total))]) := rfl
  rw [shape,readDocument,if_pos rfl,strip_append,Option.bind_some,List.getLast?_concat,Option.bind_some,comment,Option.bind_some,
    List.dropLast_concat,entries,Option.bind_some,if_pos rfl,List.append_nil,List.reverse_reverse]
  simp only [documentOf,Nat.zero_add]

-- One result takes one line that is not indented, and a block exactly when it is not
-- Passed and has a detail. The block ends at the first line that closes one.
structure Framed (index : Nat) (r : TestResult) : Prop where
  outside : (tapLine index r).head? ≠ some space
  absent : tapBlock r = [] ↔ ¬(r.ok = false ∧ r.detail ≠ [])
  present : r.ok = false ∧ r.detail ≠ [] →
    ∃ body, tapBlock r = blockOpens :: (body ++ [blockCloses]) ∧ blockCloses ∉ body

theorem result_framed (index : Nat) (r : TestResult) : Framed index r := by
  refine ⟨?_,?_,fun block => ⟨blockBody r,tapBlock_shape block,fun listed => blockBody_open r _ listed rfl⟩⟩
  · unfold tapLine
    cases r.ok <;> exact fun same => by cases same
  · constructor
    · intro empty block
      rw [tapBlock_shape block] at empty
      cases empty
    · exact fun none => if_neg none

-- The reader gets every result back, whatever its detail is. The number on a test line is
-- that of the code for fewer than 2^31 results.
theorem tap_read_back (plain : ∀ r ∈ results, PlainlyNamed r) (total : Int) (s : RunSummary) :
    lines (reportText makeTapReporter total results s) = tapText total results s ∧
      (∀ index, ∀ r ∈ results, Framed index r) ∧
      readTap (reportText makeTapReporter total results s) = some (documentOf total results s) := by
  have whole : lines (reportText makeTapReporter total results s) = tapText total results s := by
    rw [tapText_lines,lines_unlines (tapText_clean (fun r present => (fullName_plain (plain r present)).1) total s)]
  exact ⟨whole,fun index r _ => result_framed index r,by rw [readTap,whole,readDocument_lines plain]⟩

def imitating : TestResult :=
  ⟨text "Bus",text "reads",.failed,0,1,7,text "  ...\n...\n---\n\nok 1 - Bus.reads\n"⟩

def replying : TestResult := ⟨text "Bus",text "replies",.passed,3,0,2,[]⟩

theorem imitating_read : readTap (reportText makeTapReporter 2 [imitating,replying] ⟨2,1,1,0,0,9⟩) =
    some ⟨text "2",[⟨1,false,text "Bus.reads",false,some (.failed,text "  ...\n...\n---\n\nok 1 - Bus.reads")⟩,
      ⟨2,true,text "Bus.replies",false,none⟩],text "passed 1 of 2"⟩ := by
  have plain : ∀ r ∈ [imitating,replying], PlainlyNamed r := by
    unfold PlainlyNamed Plain
    decide
  rw [(tap_read_back plain 2 ⟨2,1,1,0,0,9⟩).2.2]
  rfl

end Edtf.TapReadback

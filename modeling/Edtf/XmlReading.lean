import Mathlib.Tactic
import Edtf.Markup

namespace Edtf.XmlReading
open ByteText Markup

-- A reader of a subset of XML: elements, attributes in double quotes, character data and
-- the five predefined entities. White space is data inside an element and is ignored
-- outside the root. The grammar it follows is stated apart from it.
def ampersand : UInt8 := 38
def semicolon : UInt8 := 59

def entity (name : Str) : Option UInt8 :=
  if name = text "amp" then some ampersand
  else if name = text "lt" then some less
  else if name = text "gt" then some greater
  else if name = text "quot" then some quote
  else if name = text "apos" then some (byteOf '\'')
  else none

def decodeLoop : Option Str → Str → Option Str
  | none,[] => some []
  | some _,[] => none
  | none,c :: rest =>
    if c = ampersand then decodeLoop (some []) rest else (decodeLoop none rest).map (c :: ·)
  | some name,c :: rest =>
    if c = semicolon then (entity name).bind fun b => (decodeLoop none rest).map (b :: ·)
    else decodeLoop (some (name ++ [c])) rest

def decode (s : Str) : Option Str := decodeLoop none s

theorem decode_plain (plain : c ≠ ampersand) (s : Str) : decode (c :: s) = (decode s).map (c :: ·) := if_neg plain

theorem decodeLoop_name (free : semicolon ∉ name) (before s : Str) :
    decodeLoop (some before) (name ++ semicolon :: s) =
      (entity (before ++ name)).bind fun b => (decode s).map (b :: ·) := by
  induction name generalizing before with
  | nil =>
    rw [List.append_nil]
    exact if_pos rfl
  | cons c name ih =>
    simp only [List.mem_cons,not_or] at free
    rw [List.cons_append,decodeLoop,if_neg (Ne.symm free.1),ih free.2,List.append_assoc,List.singleton_append]

theorem decode_entity (free : semicolon ∉ name) (known : entity name = some b) (s : Str) :
    decode (ampersand :: (name ++ semicolon :: s)) = (decode s).map (b :: ·) := by
  rw [decode,decodeLoop,if_pos rfl,decodeLoop_name free,List.nil_append,known,Option.bind_some]

theorem decode_free (free : ampersand ∉ s) : decode s = some s := by
  induction s with
  | nil => rfl
  | cons c s ih =>
    simp only [List.mem_cons,not_or] at free
    rw [decode_plain (Ne.symm free.1),ih free.2,Option.map_some]

def quotedLoop : Str → Option Str → Str → Option (List (Str × Str) × Str)
  | before,none,[] => some ([],before)
  | _,some _,[] => none
  | before,none,c :: rest =>
    if c = quote then quotedLoop before (some []) rest else quotedLoop (before ++ [c]) none rest
  | before,some value,c :: rest =>
    if c = quote then (quotedLoop [] none rest).map fun p => ((before,value) :: p.1,p.2)
    else quotedLoop before (some (value ++ [c])) rest

def quoted (s : Str) : Option (List (Str × Str) × Str) := quotedLoop [] none s

theorem quotedLoop_text (free : quote ∉ s) (before rest : Str) :
    quotedLoop before none (s ++ rest) = quotedLoop (before ++ s) none rest := by
  induction s generalizing before with
  | nil => rw [List.nil_append,List.append_nil]
  | cons c s ih =>
    simp only [List.mem_cons,not_or] at free
    rw [List.cons_append,quotedLoop,if_neg (Ne.symm free.1),ih free.2,List.append_assoc,List.singleton_append]

theorem quotedLoop_value (free : quote ∉ s) (before value rest : Str) :
    quotedLoop before (some value) (s ++ quote :: rest) =
      (quoted rest).map fun p => ((before,value ++ s) :: p.1,p.2) := by
  induction s generalizing value with
  | nil =>
    rw [List.append_nil]
    exact if_pos rfl
  | cons c s ih =>
    simp only [List.mem_cons,not_or] at free
    rw [List.cons_append,quotedLoop,if_neg (Ne.symm free.1),ih free.2,List.append_assoc,List.singleton_append]

theorem quoted_next (clear : quote ∉ before) (free : quote ∉ value) (rest : Str) :
    quoted (before ++ quote :: (value ++ quote :: rest)) =
      (quoted rest).map fun p => ((before,value) :: p.1,p.2) := by
  rw [quoted,quotedLoop_text clear,List.nil_append,quotedLoop,if_pos rfl,quotedLoop_value free,List.nil_append]

theorem quoted_last (clear : quote ∉ s) : quoted s = some ([],s) := by
  have whole := quotedLoop_text clear [] []
  rw [List.append_nil,List.nil_append] at whole
  exact whole

inductive Tag where
  | declaration
  | close (name : Str)
  | start (name : Str) (attributes : List (Str × Str)) (empty : Bool)
  deriving DecidableEq, Repr

def nameByte (b : UInt8) : Bool := b != byteOf ' ' && b != byteOf '/' && b != byteOf '?'

def readAttribute (part : Str × Str) : Option (Str × Str) :=
  (strip (text " ") part.1).bind fun named =>
    if named.getLast? = some (byteOf '=') then (decode part.2).map fun value => (named.dropLast,value) else none

def readStart (raw : Str) : Option Tag :=
  (quoted (raw.dropWhile nameByte)).bind fun parts =>
    (parts.1.mapM readAttribute).bind fun attributes =>
      if parts.2 = [] then some (.start (raw.takeWhile nameByte) attributes false)
      else if parts.2 = text "/" then some (.start (raw.takeWhile nameByte) attributes true)
      else none

def readTag : Str → Option Tag
  | [] => none
  | c :: rest =>
    if c = byteOf '?' then some .declaration
    else if c = byteOf '/' then some (.close rest)
    else readStart (c :: rest)

def attributeText (a : Str × Str) : Str := text " " ++ (a.1 ++ (text "=" ++ (quote :: (a.2 ++ [quote]))))

def startText (name : Str) (attributes : List (Str × Str)) (empty : Bool) : Str :=
  name ++ (attributes.flatMap attributeText ++ if empty then text "/" else [])

def Name (s : Str) : Prop := s ≠ [] ∧ s.all nameByte = true

structure Spells (written meant : Str × Str) : Prop where
  name : written.1 = meant.1
  clear : quote ∉ written.1 ∧ greater ∉ written.1
  free : quote ∉ written.2 ∧ greater ∉ written.2
  value : decode written.2 = some meant.2

theorem readAttribute_written (spells : Spells written meant) :
    readAttribute (text " " ++ (written.1 ++ text "="),written.2) = some meant := by
  have last : (written.1 ++ text "=").getLast? = some (byteOf '=') := List.getLast?_concat
  have front : (written.1 ++ text "=").dropLast = written.1 := List.dropLast_concat
  rw [readAttribute,strip_append,Option.bind_some,if_pos last,front,spells.value,Option.map_some,spells.name]

theorem quoted_attributes (spells : List.Forall₂ Spells written meant) (clear : quote ∉ last) :
    ∃ parts, quoted (written.flatMap attributeText ++ last) = some (parts,last) ∧
      parts.mapM readAttribute = some meant := by
  induction spells with
  | nil => exact ⟨[],quoted_last clear,rfl⟩
  | @cons one value written meant spelled _ ih =>
    obtain ⟨parts,split,values⟩ := ih
    have label : quote ∉ text " " ++ (one.1 ++ text "=") := by
      have blank : quote ∉ text " " := by decide
      have equals : quote ∉ text "=" := by decide
      simp only [List.mem_append,not_or]
      exact ⟨blank,spelled.clear.1,equals⟩
    have shape : (one :: written).flatMap attributeText ++ last =
        (text " " ++ (one.1 ++ text "=")) ++ quote :: (one.2 ++ quote :: (written.flatMap attributeText ++ last)) := by
      simp [attributeText]
    refine ⟨(text " " ++ (one.1 ++ text "="),one.2) :: parts,?_,?_⟩
    · rw [shape,quoted_next label spelled.free.1,split,Option.map_some]
    · rw [List.mapM_cons,readAttribute_written spelled,values]
      rfl

theorem startText_span (named : Name name) (attributes : List (Str × Str)) (empty : Bool) :
    (startText name attributes empty).takeWhile nameByte = name ∧
      (startText name attributes empty).dropWhile nameByte =
        attributes.flatMap attributeText ++ if empty then text "/" else [] := by
  refine span_stop (List.all_eq_true.mp named.2) ?_
  cases attributes with
  | nil => cases empty <;> rfl
  | cons a rest => rfl

theorem readTag_start (named : Name name) (spells : List.Forall₂ Spells written meant) (empty : Bool) :
    readTag (startText name written empty) = some (.start name meant empty) := by
  obtain ⟨front,back⟩ := startText_span named written empty
  have clear : quote ∉ (if empty then text "/" else [] : Str) := by cases empty <;> decide
  obtain ⟨parts,split,values⟩ := quoted_attributes spells clear
  have start : readStart (startText name written empty) = some (.start name meant empty) := by
    rw [readStart,front,back,split,Option.bind_some,values,Option.bind_some]
    cases empty <;> rfl
  obtain ⟨c,rest,rfl⟩ := List.exists_cons_of_ne_nil named.1
  have inside := List.all_eq_true.mp named.2 c (by simp)
  have question : c ≠ byteOf '?' := by
    rintro rfl
    cases inside
  have slash : c ≠ byteOf '/' := by
    rintro rfl
    cases inside
  rw [startText,List.cons_append] at start ⊢
  rw [readTag,if_neg question,if_neg slash,start]

theorem startText_free (named : greater ∉ name) (spells : List.Forall₂ Spells written meant) (empty : Bool) :
    greater ∉ startText name written empty := by
  have slash : greater ∉ (if empty then text "/" else [] : Str) := by cases empty <;> decide
  have values : greater ∉ written.flatMap attributeText := by
    induction spells with
    | nil => simp
    | @cons one value written meant spelled _ ih =>
      have gap : greater ∉ text " " := by decide
      have equals : greater ∉ text "=" := by decide
      have apart : greater ≠ quote := by decide
      simp only [List.flatMap_cons,attributeText,List.mem_append,List.mem_cons,List.not_mem_nil,or_false,not_or]
      exact ⟨⟨gap,spelled.clear.2,equals,apart,spelled.free.2,apart⟩,ih⟩
  simp only [startText,List.mem_append,not_or]
  exact ⟨named,values,slash⟩

theorem readTag_close (name : Str) : readTag (text "/" ++ name) = some (.close name) := rfl

inductive Node where
  | chars (s : Str)
  | element (name : Str) (attributes : List (Str × Str)) (content : List Node)

def charsOf (s : Str) : List Node := if s = [] then [] else [.chars s]

structure Opened where
  name : Str
  attributes : List (Str × Str)
  content : List Node

structure Reader where
  stack : List Opened
  root : Option Node
  pending : Str
  tag : Option Str

def blank (b : UInt8) : Bool := b == 32 || b == 9 || b == 10 || b == 13

def Opened.add (top : Opened) (nodes : List Node) : Opened := {top with content := top.content ++ nodes}

def Reader.flush (s : Reader) : Option Reader :=
  match s.stack with
  | [] => if s.pending.all blank then some {s with pending := []} else none
  | top :: below => (decode s.pending).map fun t => {s with pending := [],stack := top.add (charsOf t) :: below}

def Reader.place (s : Reader) (n : Node) : Option Reader :=
  match s.stack with
  | [] => if s.root.isNone then some {s with root := some n} else none
  | top :: below => some {s with stack := top.add [n] :: below}

def Reader.take (s : Reader) : Tag → Option Reader
  | .declaration => if s.stack.isEmpty && s.root.isNone then some s else none
  | .start name attributes true => s.place (.element name attributes [])
  | .start name attributes false => some {s with stack := ⟨name,attributes,[]⟩ :: s.stack}
  | .close name =>
    match s.stack with
    | [] => none
    | top :: below =>
      if top.name = name then {s with stack := below}.place (.element top.name top.attributes top.content) else none

def Reader.step (s : Reader) (c : UInt8) : Option Reader :=
  match s.tag with
  | none => if c = less then s.flush.map fun s => {s with tag := some []} else some {s with pending := s.pending ++ [c]}
  | some raw =>
    if c = greater then (readTag raw).bind fun t => {s with tag := none}.take t
    else some {s with tag := some (raw ++ [c])}

def Reader.finish (s : Reader) : Option Node :=
  if s.tag.isNone && s.stack.isEmpty && s.pending.all blank then s.root else none

def Reader.run (s : Reader) (source : Str) : Option Reader := source.foldlM Reader.step s

def parse (s : Str) : Option Node := (Reader.run ⟨[],none,[],none⟩ s).bind Reader.finish

-- The grammar of the content of an element: character data before each child and after the
-- last one, with the nodes that it stands for.
inductive Content : Str → List Node → Prop
  | text (clear : less ∉ raw) (decoded : decode raw = some t) : Content raw (charsOf t)
  | empty (clear : less ∉ raw) (decoded : decode raw = some t) (free : greater ∉ tag)
      (starts : readTag tag = some (.start name attributes true)) (later : Content rest nodes) :
      Content (raw ++ less :: (tag ++ greater :: rest)) (charsOf t ++ .element name attributes [] :: nodes)
  | element (clear : less ∉ raw) (decoded : decode raw = some t) (free : greater ∉ tag)
      (starts : readTag tag = some (.start name attributes false)) (inner : Content body children)
      (closed : greater ∉ name) (later : Content rest nodes) :
      Content (raw ++ less :: (tag ++ greater :: (body ++ less :: ((text "/" ++ name) ++ greater :: rest))))
        (charsOf t ++ .element name attributes children :: nodes)

theorem run_text (clear : less ∉ raw) (stack : List Opened) (root : Option Node) (pending rest : Str) :
    Reader.run ⟨stack,root,pending,none⟩ (raw ++ rest) = Reader.run ⟨stack,root,pending ++ raw,none⟩ rest := by
  induction raw generalizing pending with
  | nil => rw [List.nil_append,List.append_nil]
  | cons c raw ih =>
    simp only [List.mem_cons,not_or] at clear
    have kept : Reader.step ⟨stack,root,pending,none⟩ c = some ⟨stack,root,pending ++ [c],none⟩ :=
      if_neg (Ne.symm clear.1)
    have next := ih clear.2 (pending ++ [c])
    rw [Reader.run] at next ⊢
    rw [List.cons_append,List.foldlM_cons,kept,Option.bind_eq_bind,Option.bind_some,next,List.append_assoc,
      List.singleton_append]

theorem run_tag (free : greater ∉ raw) (stack : List Opened) (root : Option Node) (pending before rest : Str) :
    Reader.run ⟨stack,root,pending,some before⟩ (raw ++ greater :: rest) =
      ((readTag (before ++ raw)).bind fun t => Reader.take ⟨stack,root,pending,none⟩ t).bind (·.run rest) := by
  induction raw generalizing before with
  | nil =>
    have ended : Reader.step ⟨stack,root,pending,some before⟩ greater =
        (readTag before).bind fun t => Reader.take ⟨stack,root,pending,none⟩ t := by
      simp only [Reader.step,↓reduceIte]
    rw [List.nil_append,Reader.run,List.foldlM_cons,ended,List.append_nil]
    rfl
  | cons c raw ih =>
    simp only [List.mem_cons,not_or] at free
    have kept : Reader.step ⟨stack,root,pending,some before⟩ c = some ⟨stack,root,pending,some (before ++ [c])⟩ :=
      if_neg (Ne.symm free.1)
    have next := ih free.2 (before ++ [c])
    rw [List.append_assoc,List.singleton_append] at next
    rw [List.cons_append,Reader.run,List.foldlM_cons,kept,Option.bind_eq_bind,Option.bind_some]
    exact next

theorem run_flush (clear : less ∉ raw) (decoded : decode raw = some t) (top : Opened) (below : List Opened)
    (root : Option Node) (rest : Str) :
    Reader.run ⟨top :: below,root,[],none⟩ (raw ++ less :: rest) =
      Reader.run ⟨top.add (charsOf t) :: below,root,[],some []⟩ rest := by
  have flushed : Reader.step ⟨top :: below,root,raw,none⟩ less = some ⟨top.add (charsOf t) :: below,root,[],some []⟩ := by
    simp only [Reader.step,↓reduceIte,Reader.flush,decoded,Option.map_some]
  rw [run_text clear,List.nil_append,Reader.run,List.foldlM_cons,flushed]
  rfl

theorem add_add (top : Opened) (one two : List Node) : (top.add one).add two = top.add (one ++ two) := by
  simp only [Opened.add,List.append_assoc]

theorem closing_free (closed : greater ∉ name) : greater ∉ text "/" ++ name := by
  have slash : greater ∉ text "/" := by decide
  simp only [List.mem_append,not_or]
  exact ⟨slash,closed⟩

-- The reader follows the grammar: at the bracket after a content its nodes are the new
-- children of the element that is open. Induction on the derivation of the content.
theorem content_read (content : Content source nodes) (top : Opened) (below : List Opened) (root : Option Node)
    (rest : Str) :
    Reader.run ⟨top :: below,root,[],none⟩ (source ++ less :: rest) =
      Reader.run ⟨top.add nodes :: below,root,[],some []⟩ rest := by
  induction content generalizing top below rest with
  | text clear decoded => exact run_flush clear decoded top below root rest
  | empty clear decoded free starts _ ih =>
    rw [List.append_assoc,List.cons_append,List.append_assoc,List.cons_append,run_flush clear decoded,run_tag free,
      List.nil_append,starts]
    simp only [Option.bind_some,Reader.take,Reader.place,ih,add_add]
    rw [List.append_assoc,List.singleton_append]
  | @element raw t tag name attributes body children later nodes clear decoded free starts _ closed _ inside after =>
    have shape : raw ++ less :: (tag ++ greater :: (body ++ less :: ((text "/" ++ name) ++ greater :: later))) ++ less :: rest =
        raw ++ less :: (tag ++ greater :: (body ++ less :: ((text "/" ++ name) ++ greater :: (later ++ less :: rest)))) := by
      simp only [List.append_assoc,List.cons_append]
    rw [shape,run_flush clear decoded,run_tag free,List.nil_append,starts]
    simp only [Option.bind_some,Reader.take]
    rw [inside,run_tag (closing_free closed),List.nil_append,readTag_close]
    simp only [Option.bind_some,Reader.take,Opened.add,↓reduceIte,Reader.place,List.nil_append]
    rw [after]
    simp only [Opened.add,List.append_assoc,List.singleton_append]

theorem blank_clear {gap : Str} (blanks : gap.all blank = true) : less ∉ gap := by
  intro present
  cases List.all_eq_true.mp blanks less present

theorem run_outside {gap : Str} (blanks : gap.all blank = true) (root : Option Node) (rest : Str) :
    Reader.run ⟨[],root,[],none⟩ (gap ++ less :: rest) = Reader.run ⟨[],root,[],some []⟩ rest := by
  have flushed : Reader.step ⟨[],root,gap,none⟩ less = some ⟨[],root,[],some []⟩ := by
    simp only [Reader.step,↓reduceIte,Reader.flush,blanks,Option.map_some]
  rw [run_text (blank_clear blanks),List.nil_append,Reader.run,List.foldlM_cons,flushed]
  rfl

theorem document_read (declared : greater ∉ declaration) (known : readTag declaration = some .declaration)
    (between : gap.all blank = true) (free : greater ∉ tag)
    (starts : readTag tag = some (.start name attributes false)) (content : Content body nodes) (closed : greater ∉ name)
    (after : tail.all blank = true) :
    parse (less :: (declaration ++ greater :: (gap ++ less :: (tag ++ greater :: (body ++ less ::
      ((text "/" ++ name) ++ greater :: tail)))))) = some (.element name attributes nodes) := by
  have opening : ∀ rest, Reader.run ⟨[],none,[],none⟩ (less :: rest) = Reader.run ⟨[],none,[],some []⟩ rest := fun _ => rfl
  have last := run_text (blank_clear after) [] (some (.element name attributes nodes)) [] []
  rw [List.append_nil,List.nil_append] at last
  rw [parse,opening,run_tag declared,List.nil_append,known]
  simp only [Option.bind_some,Reader.take,List.isEmpty_nil,Option.isNone_none,Bool.and_self,↓reduceIte]
  rw [run_outside between,run_tag free,List.nil_append,starts]
  simp only [Option.bind_some,Reader.take]
  rw [content_read content,run_tag (closing_free closed),List.nil_append,readTag_close]
  simp only [Option.bind_some,Reader.take,Opened.add,↓reduceIte,Reader.place,List.nil_append,Option.isNone_none]
  rw [last]
  simp only [Reader.run,List.foldlM_nil,Option.pure_def,Option.bind_some,Reader.finish,Option.isNone_none,
    List.isEmpty_nil,Bool.and_self,after,↓reduceIte]

end Edtf.XmlReading

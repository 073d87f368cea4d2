import Mathlib.Tactic
import Edtf.ByteText

namespace Edtf.Markup
open ByteText

-- What stands between an opening byte and the next closing byte, each with the text in
-- front of it. Tags are enclosed by angle brackets, attribute values by quotes.
section
variable (opens closes : UInt8)

def enclosedLoop : Str → Option Str → Str → List (Str × Str)
  | _,_,[] => []
  | before,none,c :: rest =>
    if c = opens then enclosedLoop before (some []) rest else enclosedLoop (before ++ [c]) none rest
  | before,some inside,c :: rest =>
    if c = closes then (before,inside) :: enclosedLoop [] none rest
    else enclosedLoop before (some (inside ++ [c])) rest

def enclosed (s : Str) : List (Str × Str) := enclosedLoop opens closes [] none s

variable {opens closes}

theorem loop_text (free : opens ∉ s) (before rest : Str) :
    enclosedLoop opens closes before none (s ++ rest) = enclosedLoop opens closes (before ++ s) none rest := by
  induction s generalizing before with
  | nil => simp
  | cons c s ih =>
    simp only [List.mem_cons,not_or] at free
    rw [List.cons_append,enclosedLoop,if_neg (Ne.symm free.1),ih free.2]
    simp

theorem loop_inside (free : closes ∉ s) (before inside rest : Str) :
    enclosedLoop opens closes before (some inside) (s ++ closes :: rest) =
      (before,inside ++ s) :: enclosed opens closes rest := by
  induction s generalizing inside with
  | nil => simp [enclosedLoop,enclosed]
  | cons c s ih =>
    simp only [List.mem_cons,not_or] at free
    rw [List.cons_append,enclosedLoop,if_neg (Ne.symm free.1),ih free.2]
    simp

theorem enclosed_next (clear : opens ∉ before) (free : closes ∉ inside) (rest : Str) :
    enclosed opens closes (before ++ (opens :: (inside ++ closes :: rest))) =
      (before,inside) :: enclosed opens closes rest := by
  rw [enclosed,loop_text clear,List.nil_append,enclosedLoop,if_pos rfl,loop_inside free,List.nil_append]

theorem loop_before (one two : Str) (mode : Option Str) (s : Str) :
    (enclosedLoop opens closes one mode s).map Prod.snd = (enclosedLoop opens closes two mode s).map Prod.snd := by
  induction s generalizing one two mode with
  | nil => cases mode <;> rfl
  | cons c s ih =>
    cases mode with
    | none =>
      simp only [enclosedLoop]
      split <;> exact ih _ _ _
    | some inside =>
      simp only [enclosedLoop]
      split
      · rfl
      · exact ih _ _ _

end

def less : UInt8 := 60
def greater : UInt8 := 62
def quote : UInt8 := 34

def tagsOf (s : Str) : List Str := (enclosed less greater s).map Prod.snd

theorem tagsOf_text (free : less ∉ s) (rest : Str) : tagsOf (s ++ rest) = tagsOf rest := by
  rw [tagsOf,enclosed,loop_text free]
  exact loop_before _ _ _ _

theorem tagsOf_tag (free : greater ∉ tag) (rest : Str) : tagsOf (less :: (tag ++ greater :: rest)) = tag :: tagsOf rest := by
  have next : enclosed less greater ([] ++ (less :: (tag ++ greater :: rest))) = ([],tag) :: enclosed less greater rest :=
    enclosed_next List.not_mem_nil free rest
  rw [tagsOf,← List.nil_append (less :: _),next]
  rfl

def elementOf (tag : Str) : Str := tag.takeWhile fun b => b != byteOf ' ' && b != byteOf '/'

def opensElement (element tag : Str) : Bool := elementOf tag == element

def attributeOf (name tag : Str) : Option Str :=
  ((enclosed quote quote tag).find? fun p => (text " " ++ name ++ text "=").isSuffixOf p.1).map Prod.snd

end Edtf.Markup

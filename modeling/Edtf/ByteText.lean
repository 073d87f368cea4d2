import Mathlib.Tactic

namespace Edtf.ByteText

-- A C++ std::string is a sequence of bytes with no encoding attached. Source
-- literals are ASCII, so `text` reads a literal one byte per character.
abbrev Str := List UInt8

def byteOf (c : Char) : UInt8 := UInt8.ofNat c.toNat
def charOf (b : UInt8) : Char := Char.ofNat b.toNat
def text (literal : String) : Str := literal.toList.map byteOf

def newline : UInt8 := 10

-- std::to_string for unsigned and for signed integers.
def natText (n : Nat) : Str := (Nat.toDigits 10 n).map byteOf

def intText : Int → Str
  | .ofNat n => natText n
  | .negSucc n => byteOf '-' :: natText (n+1)

def isDigit (b : UInt8) : Bool := 48 ≤ b && b ≤ 57

def readNat (s : Str) : Option Nat :=
  if s ≠ [] ∧ s.all isDigit = true then some (Nat.ofDigitChars 10 (s.map charOf) 0) else none

theorem digit_bounds {c : Char} (digit : c.isDigit = true) : 48 ≤ c.toNat ∧ c.toNat ≤ 57 := by
  simp only [Char.isDigit,ge_iff_le,Bool.and_eq_true,decide_eq_true_eq] at digit
  exact ⟨by simpa using UInt32.le_iff_toNat_le.mp digit.1,by simpa using UInt32.le_iff_toNat_le.mp digit.2⟩

theorem byteOf_digit {c : Char} (digit : c.isDigit = true) : isDigit (byteOf c) = true := by
  have bounds := digit_bounds digit
  have value : (byteOf c).toNat = c.toNat := by
    simp only [byteOf,UInt8.toNat_ofNat']
    omega
  simp only [isDigit,Bool.and_eq_true,decide_eq_true_eq,UInt8.le_iff_toNat_le,value]
  exact bounds

theorem charOf_byteOf {c : Char} (digit : c.isDigit = true) : charOf (byteOf c) = c := by
  have bounds := digit_bounds digit
  have value : c.toNat % 2^8 = c.toNat := Nat.mod_eq_of_lt (by omega)
  simp only [charOf,byteOf,UInt8.toNat_ofNat',value,Char.ofNat_toNat]

theorem natText_nonempty (n : Nat) : natText n ≠ [] := by
  simp [natText,Nat.toDigits_ne_nil]

theorem natText_digits (n : Nat) : ∀ b ∈ natText n, isDigit b = true := by
  intro b present
  obtain ⟨c,digit,rfl⟩ := List.mem_map.mp present
  exact byteOf_digit (Nat.isDigit_of_mem_toDigits (by decide) (by decide) digit)

theorem readNat_natText (n : Nat) : readNat (natText n) = some n := by
  have every : (natText n).all isDigit = true := List.all_eq_true.mpr (natText_digits n)
  have back : (natText n).map charOf = Nat.toDigits 10 n := by
    rw [natText,List.map_map]
    conv_rhs => rw [← List.map_id (Nat.toDigits 10 n)]
    exact List.map_congr_left fun c member =>
      charOf_byteOf (Nat.isDigit_of_mem_toDigits (by decide) (by decide) member)
  rw [readNat,if_pos ⟨natText_nonempty n,every⟩,back,Nat.ofDigitChars_ten_toDigits]

def InOrder : List Str → Str → Prop
  | [],_ => True
  | piece :: rest,s => ∃ before after, s = before ++ piece ++ after ∧ InOrder rest after

theorem InOrder.snoc (found : InOrder pieces s) : InOrder (pieces ++ [piece]) (s ++ gap ++ piece) := by
  induction pieces generalizing s with
  | nil => exact ⟨s ++ gap,[],by simp,trivial⟩
  | cons first rest ih =>
    obtain ⟨before,after,rfl,later⟩ := found
    exact ⟨before,after ++ gap ++ piece,by simp only [List.append_assoc],ih later⟩

theorem InOrder.length (found : InOrder pieces s) : (pieces.map List.length).sum ≤ s.length := by
  induction pieces generalizing s with
  | nil => simp
  | cons first rest ih =>
    obtain ⟨before,after,rfl,later⟩ := found
    have tail := ih later
    simp only [List.map_cons,List.sum_cons,List.length_append]
    omega

-- The loop `while (std::getline(is, line))`: a final newline ends the last line
-- and does not open another one.
def lines : Str → List Str
  | [] => []
  | c :: rest =>
    if c = newline then [] :: lines rest
    else match lines rest with
      | [] => [[c]]
      | line :: later => (c :: line) :: later

theorem lines_line (clean : newline ∉ line) (rest : Str) :
    lines (line ++ newline :: rest) = line :: lines rest := by
  induction line with
  | nil => simp [lines]
  | cons c line ih =>
    simp only [List.mem_cons,not_or] at clean
    rw [List.cons_append,lines,if_neg (Ne.symm clean.1),ih clean.2]

theorem lines_clean (s : Str) : ∀ line ∈ lines s, newline ∉ line := by
  induction s with
  | nil => simp [lines]
  | cons c s ih =>
    rw [lines]
    split
    · simpa using ih
    · rename_i other
      split
      · simpa using Ne.symm other
      · rename_i line later shape
        intro found present
        rcases List.mem_cons.mp present with rfl | old
        · simp only [List.mem_cons,not_or]
          exact ⟨Ne.symm other,ih line (by simp [shape])⟩
        · exact ih found (by simp [shape,old])

theorem lines_nonempty (filled : s ≠ []) : lines s ≠ [] := by
  cases s with
  | nil => exact absurd rfl filled
  | cons c s =>
    rw [lines]
    split
    · simp
    · split <;> simp

def chomp (s : Str) : Str := if s.getLast? = some newline then s.dropLast else s

theorem chomp_cons (c : UInt8) (filled : s ≠ []) : chomp (c :: s) = c :: chomp s := by
  obtain ⟨d,rest,rfl⟩ := List.exists_cons_of_ne_nil filled
  rw [chomp,chomp,List.getLast?_cons_cons,List.dropLast_cons_of_ne_nil filled]
  split <;> rfl

theorem joined_lines (s : Str) : [newline].intercalate (lines s) = chomp s := by
  induction s with
  | nil => rfl
  | cons c s ih =>
    by_cases filled : s = []
    · rw [filled,lines]
      by_cases ends : c = newline
      · rw [if_pos ends,ends]
        rfl
      · have other : ¬[c].getLast? = some newline := by simp [ends]
        rw [if_neg ends,chomp,if_neg other]
        rfl
    · obtain ⟨line,later,shape⟩ := List.exists_cons_of_ne_nil (lines_nonempty filled)
      rw [chomp_cons c filled,← ih,lines,shape]
      by_cases ends : c = newline
      · rw [if_pos ends,ends,List.intercalate_cons_cons]
        rfl
      · rw [if_neg ends,List.intercalate_cons_cons_left]

def unlines (ls : List Str) : Str := ls.flatMap (· ++ [newline])

theorem unlines_append (one two : List Str) : unlines (one ++ two) = unlines one ++ unlines two :=
  List.flatMap_append

theorem lines_unlines (clean : ∀ line ∈ ls, newline ∉ line) : lines (unlines ls) = ls := by
  induction ls with
  | nil => rfl
  | cons line ls ih =>
    have first := clean line (by simp)
    have tail := ih fun other present => clean other (by simp [present])
    have shape : unlines (line :: ls) = line ++ newline :: unlines ls := by simp [unlines]
    rw [shape,lines_line first,tail]

def strip : Str → Str → Option Str
  | [],s => some s
  | _ :: _,[] => none
  | p :: pre,c :: s => if p = c then strip pre s else none

theorem strip_append (pre s : Str) : strip pre (pre ++ s) = some s := by
  induction pre with
  | nil => rfl
  | cons p pre ih => rw [List.cons_append,strip,if_pos rfl,ih]

theorem mapM_written {write : α → β} {read : β → Option γ} {value : α → γ} {items : List α}
    (each : ∀ item ∈ items, read (write item) = some (value item)) :
    (items.map write).mapM read = some (items.map value) := by
  induction items with
  | nil => rfl
  | cons item rest ih =>
    have tail := ih fun other present => each other (by simp [present])
    simp only [List.map_cons,List.mapM_cons,each item (by simp),tail]
    rfl

def cutAt (mark : Str) : Str → Option (Str × Str)
  | [] => none
  | c :: rest =>
    match strip mark (c :: rest) with
    | some after => some ([],after)
    | none => (cutAt mark rest).map fun parts => (c :: parts.1,parts.2)

theorem cutAt_absent {b : UInt8} (clear : b ∉ s) : cutAt (b :: mark) s = none := by
  induction s with
  | nil => rfl
  | cons c s ih =>
    simp only [List.mem_cons,not_or] at clear
    rw [cutAt,strip,if_neg clear.1,ih clear.2]
    rfl

theorem cutAt_found {b : UInt8} (clear : b ∉ front) (rest : Str) :
    cutAt (b :: mark) (front ++ (b :: mark ++ rest)) = some (front,rest) := by
  induction front with
  | nil =>
    have here := strip_append (b :: mark) rest
    rw [List.cons_append] at here ⊢
    rw [List.nil_append,cutAt,here]
  | cons c front ih =>
    simp only [List.mem_cons,not_or] at clear
    rw [List.cons_append,cutAt,strip,if_neg clear.1,ih clear.2]
    rfl

def number (s : Str) : Option (Nat × Str) :=
  (readNat (s.takeWhile isDigit)).map fun n => (n,s.dropWhile isDigit)

def Stops (p : UInt8 → Bool) (rest : Str) : Prop := rest.head?.all (fun b => !p b) = true

theorem span_stop {p : UInt8 → Bool} {body rest : Str} (inside : ∀ b ∈ body, p b = true) (stop : Stops p rest) :
    (body ++ rest).takeWhile p = body ∧ (body ++ rest).dropWhile p = rest := by
  rw [List.takeWhile_append_of_pos inside,List.dropWhile_append_of_pos inside]
  cases rest with
  | nil => simp
  | cons b rest =>
    have out : p b = false := by simpa [Stops] using stop
    simp [out]

theorem number_natText (n : Nat) (stop : Stops isDigit rest) : number (natText n ++ rest) = some (n,rest) := by
  have split := span_stop (natText_digits n) stop
  rw [number,split.1,split.2,readNat_natText]
  rfl

theorem natText_clean {b : UInt8} (n : Nat) (other : isDigit b = false) : b ∉ natText n := by
  intro present
  rw [natText_digits n b present] at other
  cases other

theorem intText_clean {b : UInt8} (i : Int) (other : isDigit b = false) (sign : b ≠ byteOf '-') : b ∉ intText i := by
  cases i with
  | ofNat n => exact natText_clean n other
  | negSucc n =>
    simp only [intText,List.mem_cons,not_or]
    exact ⟨sign,natText_clean (n+1) other⟩

theorem intText_natCast (n : Nat) : intText (n : Int) = natText n := rfl

end Edtf.ByteText

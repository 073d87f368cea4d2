import Mathlib.Tactic
import Edtf.I2CAbstraction

namespace Edtf.I2CTexts
open ByteText I2CBus I2CAbstraction

-- A reader of the mock's messages: two digits of a byte, a transaction as describe writes
-- it, and the texts around it.
def hexDigit (b : UInt8) : Option UInt8 := ((text "0123456789abcdef").idxOf? b).map UInt8.ofNat

def readHex : Str → Option (UInt8 × Str)
  | high :: low :: rest => (hexDigit high).bind fun h => (hexDigit low).map fun l => (h*16+l,rest)
  | _ => none

def readOp : Str → Option (Op × Str)
  | b :: rest => if b = byteOf 'R' then some (.read,rest) else if b = byteOf 'W' then some (.write,rest) else none
  | [] => none

def readField (label s : Str) : Option (UInt8 × Str) := (strip label s).bind readHex

def readTransaction (s : Str) : Option (Transaction × Str) :=
  (readOp s).bind fun (op,s) => (readField (text " dev=0x") s).bind fun (addr,s) =>
    (readField (text " reg=0x") s).bind fun (reg,s) => (readField (text " val=0x") s).map fun (value,s) =>
      (⟨op,addr,reg,value⟩,s)

def noDeviceText : Str := text "no I2C device at address 0x"
def exhaustedText : Str := text "unexpected I2C transaction (script exhausted): "
def mismatchText : Str := text "I2C expectation mismatch:\n    expected "

def readMismatch (s : Str) : Option Problem :=
  (readTransaction s).bind fun (expected,s) => (strip (text "\n    actual   ") s).bind fun s =>
    (readTransaction s).map fun (actual,_) => .mismatch expected actual

def readProblem (what : Str) : Option Problem :=
  match strip noDeviceText what,strip exhaustedText what with
  | some rest,_ => (readHex rest).map fun (addr,_) => .noDevice addr
  | none,some rest => (readTransaction rest).map fun (actual,_) => .exhausted actual
  | none,none => (strip mismatchText what).bind readMismatch

def readVerdict (message : Str) : Option (Option (Nat × Transaction)) :=
  if message = [] then some none
  else (number message).bind fun (count,s) =>
    (strip (text " expected transaction(s) never occurred (next expected: ") s).bind fun s =>
      (readTransaction s).map fun (next,_) => some (count,next)

def readAnswer : Reply → Option Answer
  | .done => some .done
  | .byte value => some (.byte value)
  | .flag value => some (.flag value)
  | .message message => (readVerdict message).map .verdict
  | .rejected error => (readProblem error.what).map .refused

theorem hex2_shape (b : UInt8) : ∃ high low, hex2 b = [high,low] ∧
    ((hexDigit high).bind fun h => (hexDigit low).map fun l => h*16+l) = some b := by
  refine ⟨_,_,rfl,?_⟩
  have every : ∀ n < 256, ((hexDigit ((text "0123456789abcdef").getD (((UInt8.ofNat n) >>> 4) &&& 0xF).toNat 0)).bind
      fun h => (hexDigit ((text "0123456789abcdef").getD ((UInt8.ofNat n) &&& 0xF).toNat 0)).map fun l => h*16+l) =
        some (UInt8.ofNat n) := by
    decide +kernel
  have here := every b.toNat (UInt8.toNat_lt b)
  rw [UInt8.ofNat_toNat] at here
  exact here

theorem readHex_hex2 (b : UInt8) (rest : Str) : readHex (hex2 b ++ rest) = some (b,rest) := by
  obtain ⟨high,low,shape,value⟩ := hex2_shape b
  obtain ⟨h,upper,both⟩ := Option.bind_eq_some_iff.mp value
  obtain ⟨l,lower,same⟩ := Option.map_eq_some_iff.mp both
  rw [shape]
  change ((hexDigit high).bind fun h => (hexDigit low).map fun l => (h*16+l,rest)) = some (b,rest)
  rw [upper,lower,← same]
  rfl

theorem readField_written (label : Str) (b : UInt8) (rest : Str) :
    readField label (label ++ (hex2 b ++ rest)) = some (b,rest) := by
  rw [readField,strip_append,Option.bind_some,readHex_hex2]

theorem readOp_letter (op : Op) (rest : Str) :
    readOp ((if op = .read then text "R" else text "W") ++ rest) = some (op,rest) := by
  cases op <;> rfl

theorem readTransaction_described (t : Transaction) (rest : Str) :
    readTransaction (describe t ++ rest) = some (t,rest) := by
  simp only [describe,List.append_assoc,readTransaction,readOp_letter,readField_written,Option.bind_some,Option.map_some]

theorem strip_apart {a b : UInt8} (apart : a ≠ b) (pre s : Str) : strip (a :: pre) (b :: s) = none := if_neg apart

theorem readProblem_error (problem : Problem) : readProblem problem.error.what = some problem := by
  cases problem with
  | noDevice addr =>
    have opening : strip noDeviceText (noDeviceText ++ hex2 addr) = some (hex2 addr) := strip_append _ _
    have digits := readHex_hex2 addr []
    rw [List.append_nil] at digits
    change readProblem (noDeviceText ++ hex2 addr) = _
    simp only [readProblem,opening,digits,Option.map_some]
  | exhausted actual =>
    have other : strip noDeviceText (exhaustedText ++ describe actual) = none := strip_apart (by decide) _ _
    have opening : strip exhaustedText (exhaustedText ++ describe actual) = some (describe actual) := strip_append _ _
    have described := readTransaction_described actual []
    rw [List.append_nil] at described
    change readProblem (exhaustedText ++ describe actual) = _
    simp only [readProblem,other,opening,described,Option.map_some]
  | mismatch expected actual =>
    have shape : (Problem.mismatch expected actual).error.what =
        mismatchText ++ (describe expected ++ (text "\n    actual   " ++ describe actual)) := by
      simp only [Problem.error,mismatch,mismatchText,List.append_assoc]
    have first : strip noDeviceText (mismatchText ++ (describe expected ++ (text "\n    actual   " ++ describe actual))) =
        none := strip_apart (by decide) _ _
    have second : strip exhaustedText (mismatchText ++ (describe expected ++ (text "\n    actual   " ++ describe actual))) =
        none := strip_apart (by decide) _ _
    have described := readTransaction_described actual []
    rw [List.append_nil] at described
    rw [shape]
    simp only [readProblem,first,second,strip_append,Option.bind_some,readMismatch,readTransaction_described,described,
      Option.map_some]

theorem readVerdict_text (missing : Option (Nat × Transaction)) : readVerdict (verdictText missing) = some missing := by
  rcases missing with _ | ⟨count,next⟩
  · rfl
  · have shape : verdictText (some (count,next)) = natText count ++
        (text " expected transaction(s) never occurred (next expected: " ++ (describe next ++ text ")")) := by
      simp only [verdictText,List.append_assoc]
    have filled : verdictText (some (count,next)) ≠ [] := by
      rw [shape]
      simp [natText_nonempty]
    have stop : Stops isDigit (text " expected transaction(s) never occurred (next expected: " ++
        (describe next ++ text ")")) := rfl
    rw [readVerdict,if_neg filled,shape,number_natText count stop]
    simp only [Option.bind_some,strip_append,readTransaction_described,Option.map_some]

theorem readAnswer_reply (answer : Answer) : readAnswer answer.reply = some answer := by
  cases answer with
  | done => rfl
  | byte value => rfl
  | flag value => rfl
  | verdict missing => exact congrArg (Option.map Answer.verdict) (readVerdict_text missing)
  | refused problem => exact congrArg (Option.map Answer.refused) (readProblem_error problem)

-- Every message of every history says what was wrong: read back, the replies of the mock
-- are the answers of the abstract bus.
theorem messages_read (calls : List Call) :
    (seen .new calls).map (fun event => (event.1,readAnswer event.2)) =
      (Histories.seen respond .new calls).map fun event => (event.1,some event.2) := by
  have refined := (Histories.history_refined step view Answer.reply call_kept new_within calls).1
  change seen .new calls = (Histories.seen respond .new calls).map _ at refined
  rw [refined,List.map_map]
  apply List.map_congr_left
  intro event _
  exact congrArg (Prod.mk event.1) (readAnswer_reply event.2)

end Edtf.I2CTexts

import Mathlib.Tactic
import Edtf.I2CBus
import Edtf.Assertions

namespace Edtf.RegisterBank
open ByteText KeptState Histories Assertions
open I2CBus (HardwareError)

inductive Escape where
  | hardware (error : HardwareError)
  | user (exception : UserException)
  deriving DecidableEq, Repr

-- A poke that a hook makes on the bank it belongs to. The hook may guard it with a
-- handler of its own; an unguarded one that throws ends the hook.
structure Poke where
  addr : UInt32
  value : UInt32
  guarded : Bool
  deriving DecidableEq, Repr

structure HookRun where
  pokes : List Poke
  outcome : Except Escape UInt32

-- A hook decides by its arguments and by the contents of the registers.
abbrev ReadHook := (addr stored : UInt32) → List UInt32 → HookRun
abbrev WriteHook := (addr current incoming : UInt32) → List UInt32 → HookRun

structure MockRegisterBank where
  regs : List UInt32
  readHook : Option ReadHook
  writeHook : Option WriteHook
  reads : Nat
  writes : Nat

def MockRegisterBank.new (sizeWords : UInt32) : MockRegisterBank := ⟨List.replicate sizeWords.toNat 0,none,none,0,0⟩

abbrev BankM := EStateM Escape MockRegisterBank

def outOfRange (addr : UInt32) : Escape :=
  .hardware ⟨text "register address out of range: " ++ natText addr.toNat⟩

def checkAddr (addr : UInt32) : BankM Unit := do
  if addr.toNat ≥ (← get).regs.length then throw (outOfRange addr) else return ()

def MockRegisterBank.at (bank : MockRegisterBank) (addr : UInt32) : UInt32 := bank.regs.getD addr.toNat 0
def MockRegisterBank.assign (bank : MockRegisterBank) (addr value : UInt32) : MockRegisterBank :=
  {bank with regs := bank.regs.set addr.toNat value}

def peek (addr : UInt32) : BankM UInt32 := do
  checkAddr addr
  return (← get).at addr

def poke (addr value : UInt32) : BankM Unit := do
  checkAddr addr
  modify (·.assign addr value)

def runPokes : List Poke → BankM Unit
  | [] => return ()
  | p :: rest => fun bank =>
    match poke p.addr p.value bank with
    | .ok _ next => runPokes rest next
    | .error e next => if p.guarded then runPokes rest next else .error e next

def runHook (run : HookRun) : BankM UInt32 := do
  runPokes run.pokes
  match run.outcome with
  | .ok value => return value
  | .error e => throw e

-- `hook ? hook(...) : plain`, with the call of the hook as `run`.
def callHook (run : Option HookRun) (plain : UInt32) : BankM UInt32 :=
  match run with
  | some run => runHook run
  | none => pure plain

def read (addr : UInt32) : BankM UInt32 := do
  checkAddr addr
  let bank ← get
  let stored := bank.at addr
  let value ← callHook (bank.readHook.map fun hook => hook addr stored bank.regs) stored
  modify fun bank => {bank with reads := bank.reads+1}
  return value

def write (addr value : UInt32) : BankM Unit := do
  checkAddr addr
  let bank ← get
  let current := bank.at addr
  let assigned ← callHook (bank.writeHook.map fun hook => hook addr current value bank.regs) value
  modify (·.assign addr assigned)
  modify fun bank => {bank with writes := bank.writes+1}

inductive Call where
  | read (addr : UInt32)
  | write (addr value : UInt32)
  | peek (addr : UInt32)
  | poke (addr value : UInt32)
  | setReadHook (hook : Option ReadHook)
  | setWriteHook (hook : Option WriteHook)
  | size
  | readCount
  | writeCount

inductive Reply where
  | done
  | word (value : UInt32)
  | count (n : Nat)
  | rejected (escape : Escape)
  deriving DecidableEq, Repr

def Reply.normal : Reply → Bool
  | .rejected _ => false
  | _ => true

def perform : Call → BankM Reply
  | .read addr => return .word (← read addr)
  | .write addr value => do write addr value; return .done
  | .peek addr => return .word (← peek addr)
  | .poke addr value => do poke addr value; return .done
  | .setReadHook hook => do modify fun bank => {bank with readHook := hook}; return .done
  | .setWriteHook hook => do modify fun bank => {bank with writeHook := hook}; return .done
  | .size => return .count (← get).regs.length
  | .readCount => return .count (← get).reads
  | .writeCount => return .count (← get).writes

def step (bank : MockRegisterBank) (call : Call) : Reply × MockRegisterBank :=
  match perform call bank with
  | .ok reply next => (reply,next)
  | .error e next => (.rejected e,next)

def poked : List Poke → List UInt32 → Option Escape × List UInt32
  | [],regs => (none,regs)
  | p :: rest,regs =>
    if p.addr.toNat < regs.length then poked rest (regs.set p.addr.toNat p.value)
    else if p.guarded then poked rest regs
    else (some (outOfRange p.addr),regs)

def HookRun.result (run : HookRun) (regs : List UInt32) : Except Escape UInt32 × List UInt32 :=
  match poked run.pokes regs with
  | (some e,left) => (.error e,left)
  | (none,left) => (run.outcome,left)

def hooked (run : Option HookRun) (plain : UInt32) (regs : List UInt32) : Except Escape UInt32 × List UInt32 :=
  match run with
  | some run => run.result regs
  | none => (.ok plain,regs)

def MockRegisterBank.readResult (bank : MockRegisterBank) (addr : UInt32) : Except Escape UInt32 × List UInt32 :=
  hooked (bank.readHook.map fun hook => hook addr (bank.at addr) bank.regs) (bank.at addr) bank.regs

def MockRegisterBank.writeResult (bank : MockRegisterBank) (addr value : UInt32) : Except Escape UInt32 × List UInt32 :=
  hooked (bank.writeHook.map fun hook => hook addr (bank.at addr) value bank.regs) value bank.regs

theorem checkAddr_inside (inside : addr.toNat < bank.regs.length) : checkAddr addr bank = .ok () bank := by
  unfold checkAddr
  rw [bind_ok (get_run bank),if_neg (Nat.not_le_of_lt inside)]
  exact pure_run _ _

theorem checkAddr_outside (outside : bank.regs.length ≤ addr.toNat) :
    checkAddr addr bank = .error (outOfRange addr) bank := by
  unfold checkAddr
  rw [bind_ok (get_run bank),if_pos outside]
  exact throw_run _ _

theorem poke_inside (inside : addr.toNat < bank.regs.length) : poke addr value bank = .ok () (bank.assign addr value) :=
  (bind_ok (checkAddr_inside inside)).trans (modify_run _ _)

theorem poke_outside (outside : bank.regs.length ≤ addr.toNat) :
    poke addr value bank = .error (outOfRange addr) bank := bind_error (checkAddr_outside outside)

def MockRegisterBank.holding (bank : MockRegisterBank) (regs : List UInt32) : MockRegisterBank := {bank with regs := regs}

theorem runPokes_run (pokes : List Poke) (bank : MockRegisterBank) :
    runPokes pokes bank = match poked pokes bank.regs with
      | (some e,left) => .error e (bank.holding left)
      | (none,left) => .ok () (bank.holding left) := by
  induction pokes generalizing bank with
  | nil => rfl
  | cons p rest ih =>
    simp only [runPokes,poked]
    by_cases inside : p.addr.toNat < bank.regs.length
    · rw [poke_inside inside,if_pos inside]
      exact ih _
    · rw [poke_outside (Nat.le_of_not_lt inside),if_neg inside]
      dsimp only
      split
      · exact ih bank
      · rfl

theorem runHook_run (run : HookRun) (bank : MockRegisterBank) :
    runHook run bank = match run.result bank.regs with
      | (.ok value,left) => .ok value (bank.holding left)
      | (.error e,left) => .error e (bank.holding left) := by
  have pokes := runPokes_run run.pokes bank
  unfold runHook HookRun.result
  cases made : poked run.pokes bank.regs with
  | mk thrown left =>
    rw [made] at pokes
    cases thrown with
    | some e => rw [bind_error pokes]
    | none =>
      rw [bind_ok pokes]
      cases run.outcome <;> rfl

theorem callHook_run (run : Option HookRun) (plain : UInt32) (bank : MockRegisterBank) :
    callHook run plain bank = match hooked run plain bank.regs with
      | (.ok value,left) => .ok value (bank.holding left)
      | (.error e,left) => .error e (bank.holding left) := by
  cases run with
  | none => rfl
  | some run => exact runHook_run run bank

theorem callHook_ok (result : hooked run plain bank.regs = (.ok value,left)) :
    callHook run plain bank = .ok value (bank.holding left) := by
  rw [callHook_run,result]

theorem callHook_thrown (result : hooked run plain bank.regs = (.error e,left)) :
    callHook run plain bank = .error e (bank.holding left) := by
  rw [callHook_run,result]

theorem step_ok (ran : perform call bank = .ok reply next) : step bank call = (reply,next) := by
  rw [step,ran]

theorem step_error (ran : perform call bank = .error e next) : step bank call = (.rejected e,next) := by
  rw [step,ran]

-- The replies of a call that returns.
def Call.answeredBy : Call → Reply → Bool
  | .read _,.word _ => true
  | .peek _,.word _ => true
  | .size,.count _ => true
  | .readCount,.count _ => true
  | .writeCount,.count _ => true
  | .write _ _,.done => true
  | .poke _ _,.done => true
  | .setReadHook _,.done => true
  | .setWriteHook _,.done => true
  | _,_ => false

theorem step_answered (bank : MockRegisterBank) (call : Call) :
    call.answeredBy (step bank call).1 = true ∨ ∃ e, (step bank call).1 = .rejected e := by
  cases call with
  | read addr =>
    cases ran : read addr bank with
    | ok value next => rw [step_ok (bind_ok ran)]; exact .inl rfl
    | error e next => rw [step_error (bind_error ran)]; exact .inr ⟨e,rfl⟩
  | write addr value =>
    cases ran : write addr value bank with
    | ok _ next => rw [step_ok (bind_ok ran)]; exact .inl rfl
    | error e next => rw [step_error (bind_error ran)]; exact .inr ⟨e,rfl⟩
  | peek addr =>
    cases ran : peek addr bank with
    | ok value next => rw [step_ok (bind_ok ran)]; exact .inl rfl
    | error e next => rw [step_error (bind_error ran)]; exact .inr ⟨e,rfl⟩
  | poke addr value =>
    cases ran : poke addr value bank with
    | ok _ next => rw [step_ok (bind_ok ran)]; exact .inl rfl
    | error e next => rw [step_error (bind_error ran)]; exact .inr ⟨e,rfl⟩
  | _ => exact .inl rfl

def addressed : Call → Option UInt32
  | .read addr => some addr
  | .write addr _ => some addr
  | .peek addr => some addr
  | .poke addr _ => some addr
  | _ => none

theorem step_outside {call : Call} (addr_ : addressed call = some addr) (outside : bank.regs.length ≤ addr.toNat) :
    step bank call = (.rejected (outOfRange addr),bank) := by
  have refused := checkAddr_outside outside
  cases call <;> cases addr_ <;> exact step_error (bind_error (bind_error refused))

theorem step_peek (inside : addr.toNat < bank.regs.length) : step bank (.peek addr) = (.word (bank.at addr),bank) :=
  step_ok (bind_ok (bind_ok (checkAddr_inside inside)))

theorem step_poke (inside : addr.toNat < bank.regs.length) :
    step bank (.poke addr value) = (.done,bank.assign addr value) :=
  step_ok (bind_ok (poke_inside inside))

theorem step_read_ok (inside : addr.toNat < bank.regs.length) (result : bank.readResult addr = (.ok value,left)) :
    step bank (.read addr) = (.word value,{bank.holding left with reads := bank.reads+1}) := by
  refine step_ok (bind_ok ?_)
  unfold read
  rw [bind_ok (checkAddr_inside inside),bind_ok (get_run bank),bind_ok (callHook_ok result),bind_ok (modify_run _ _),
    pure_run]
  rfl

theorem step_read_thrown (inside : addr.toNat < bank.regs.length) (result : bank.readResult addr = (.error e,left)) :
    step bank (.read addr) = (.rejected e,bank.holding left) := by
  refine step_error (bind_error ?_)
  unfold read
  rw [bind_ok (checkAddr_inside inside),bind_ok (get_run bank),bind_error (callHook_thrown result)]

theorem step_write_ok (inside : addr.toNat < bank.regs.length) (result : bank.writeResult addr value = (.ok assigned,left)) :
    step bank (.write addr value) =
      (.done,{(bank.holding left).assign addr assigned with writes := bank.writes+1}) := by
  have ran : write addr value bank = .ok () {(bank.holding left).assign addr assigned with writes := bank.writes+1} := by
    unfold write
    rw [bind_ok (checkAddr_inside inside),bind_ok (get_run bank),bind_ok (callHook_ok result),bind_ok (modify_run _ _),
      modify_run]
    rfl
  exact step_ok (bind_ok ran)

theorem step_write_thrown (inside : addr.toNat < bank.regs.length)
    (result : bank.writeResult addr value = (.error e,left)) :
    step bank (.write addr value) = (.rejected e,bank.holding left) := by
  refine step_error (bind_error ?_)
  unfold write
  rw [bind_ok (checkAddr_inside inside),bind_ok (get_run bank),bind_error (callHook_thrown result)]

theorem poked_length (pokes : List Poke) (regs : List UInt32) : (poked pokes regs).2.length = regs.length := by
  induction pokes generalizing regs with
  | nil => rfl
  | cons p rest ih =>
    rw [poked]
    split
    · exact (ih _).trans List.length_set
    · split
      · exact ih regs
      · rfl

theorem result_length (run : HookRun) (regs : List UInt32) : (run.result regs).2.length = regs.length := by
  have kept := poked_length run.pokes regs
  unfold HookRun.result
  split
  · rename_i made
    rwa [made] at kept
  · rename_i made
    rwa [made] at kept

theorem hooked_length (run : Option HookRun) (plain : UInt32) (regs : List UInt32) :
    (hooked run plain regs).2.length = regs.length := by
  cases run with
  | none => rfl
  | some run => exact result_length run regs

def readDone : Call × Reply → Bool
  | (.read _,reply) => reply.normal
  | _ => false

def writeDone : Call × Reply → Bool
  | (.write _ _,reply) => reply.normal
  | _ => false

def setsReadHook : Call → Option (Option ReadHook)
  | .setReadHook hook => some hook
  | _ => none

def setsWriteHook : Call → Option (Option WriteHook)
  | .setWriteHook hook => some hook
  | _ => none

structure Counts (bank : MockRegisterBank) (event : Call × Reply) (next : MockRegisterBank) : Prop where
  size : next.regs.length = bank.regs.length
  reads : next.reads = bank.reads + if readDone event then 1 else 0
  writes : next.writes = bank.writes + if writeDone event then 1 else 0
  readHook : next.readHook = (setsReadHook event.1).getD bank.readHook
  writeHook : next.writeHook = (setsWriteHook event.1).getD bank.writeHook

theorem counts_rejected (call : Call) (e : Escape) (left : List UInt32) (size : left.length = bank.regs.length)
    (names : addressed call = some addr) : Counts bank (call,.rejected e) (bank.holding left) := by
  refine ⟨size,?_,?_,?_,?_⟩ <;> cases call <;> first | rfl | cases names

theorem step_counts (bank : MockRegisterBank) (call : Call) : Counts bank (call,(step bank call).1) (step bank call).2 := by
  have outside : ∀ addr, addressed call = some addr → bank.regs.length ≤ addr.toNat →
      Counts bank (call,(step bank call).1) (step bank call).2 := by
    intro addr names out
    rw [step_outside names out]
    exact counts_rejected call _ bank.regs rfl names
  cases call with
  | read addr =>
    by_cases inside : addr.toNat < bank.regs.length
    · have size := hooked_length (bank.readHook.map fun hook => hook addr (bank.at addr) bank.regs) (bank.at addr) bank.regs
      cases result : bank.readResult addr with
      | mk outcome left =>
        rw [MockRegisterBank.readResult] at result
        rw [result] at size
        cases outcome with
        | ok value =>
          rw [step_read_ok inside result]
          exact ⟨size,rfl,rfl,rfl,rfl⟩
        | error e =>
          rw [step_read_thrown inside result]
          exact counts_rejected _ e left size rfl
    · exact outside addr rfl (Nat.le_of_not_lt inside)
  | write addr value =>
    by_cases inside : addr.toNat < bank.regs.length
    · have size := hooked_length (bank.writeHook.map fun hook => hook addr (bank.at addr) value bank.regs) value bank.regs
      cases result : bank.writeResult addr value with
      | mk outcome left =>
        rw [MockRegisterBank.writeResult] at result
        rw [result] at size
        cases outcome with
        | ok assigned =>
          rw [step_write_ok inside result]
          exact ⟨List.length_set.trans size,rfl,rfl,rfl,rfl⟩
        | error e =>
          rw [step_write_thrown inside result]
          exact counts_rejected _ e left size rfl
    · exact outside addr rfl (Nat.le_of_not_lt inside)
  | peek addr =>
    by_cases inside : addr.toNat < bank.regs.length
    · rw [step_peek inside]
      exact ⟨rfl,rfl,rfl,rfl,rfl⟩
    · exact outside addr rfl (Nat.le_of_not_lt inside)
  | poke addr value =>
    by_cases inside : addr.toNat < bank.regs.length
    · rw [step_poke inside]
      exact ⟨List.length_set,rfl,rfl,rfl,rfl⟩
    · exact outside addr rfl (Nat.le_of_not_lt inside)
  | _ => exact ⟨rfl,rfl,rfl,rfl,rfl⟩

def lastSet {H : Type} (sets : Call → Option (Option H)) (history : List (Call × Reply)) : Option H :=
  (history.filterMap fun event => sets event.1).getLast?.getD none

theorem lastSet_snoc {H : Type} (sets : Call → Option (Option H)) (history : List (Call × Reply)) (event : Call × Reply) :
    lastSet sets (history ++ [event]) = (sets event.1).getD (lastSet sets history) := by
  rw [lastSet,last_snoc,lastSet]
  cases sets event.1 <;> rfl

structure Counted (size : UInt32) (history : List (Call × Reply)) (bank : MockRegisterBank) : Prop where
  size : bank.regs.length = size.toNat
  reads : bank.reads = history.countP readDone
  writes : bank.writes = history.countP writeDone
  readHook : bank.readHook = lastSet setsReadHook history
  writeHook : bank.writeHook = lastSet setsWriteHook history

theorem counted_kept (held : Counted size history bank) (counts : Counts bank event next) :
    Counted size (history ++ [event]) next := by
  refine ⟨counts.size.trans held.size,?_,?_,?_,?_⟩
  · rw [counts.reads,held.reads,List.countP_append,List.countP_singleton]
  · rw [counts.writes,held.writes,List.countP_append,List.countP_singleton]
  · rw [counts.readHook,held.readHook,lastSet_snoc]
  · rw [counts.writeHook,held.writeHook,lastSet_snoc]

theorem history_counted (size : UInt32) (calls : List Call) :
    Counted size (seen step (.new size) calls) (after step (.new size) calls) :=
  history_invariant step (Counted size) ⟨List.length_replicate,rfl,rfl,rfl,rfl⟩
    (fun _ bank call held => counted_kept held (step_counts bank call)) calls

def MockRegisterBank.hookOf (bank : MockRegisterBank) : Call → Option HookRun
  | .read addr => bank.readHook.map fun hook => hook addr (bank.at addr) bank.regs
  | .write addr value => bank.writeHook.map fun hook => hook addr (bank.at addr) value bank.regs
  | _ => none

-- The contract of a bank against its history: `counted` also says that the hooks in force
-- are the last ones set, and `left` is what the pokes of the hook leave.
structure BankLaw (size : UInt32) (history : List (Call × Reply)) (bank : MockRegisterBank) : Prop where
  counted : Counted size history bank
  answered : ∀ call, call.answeredBy (step bank call).1 = true ∨ ∃ e, (step bank call).1 = .rejected e
  size : step bank .size = (.count size.toNat,bank)
  readCount : step bank .readCount = (.count (history.countP readDone),bank)
  writeCount : step bank .writeCount = (.count (history.countP writeDone),bank)
  setReadHook : ∀ hook, step bank (.setReadHook hook) = (.done,{bank with readHook := hook})
  setWriteHook : ∀ hook, step bank (.setWriteHook hook) = (.done,{bank with writeHook := hook})
  read : ∀ addr value, (step bank (.read addr)).1 = .word value → ∃ stored left, bank.regs[addr.toNat]? = some stored ∧
    hooked (bank.readHook.map fun hook => hook addr stored bank.regs) stored bank.regs = (.ok value,left) ∧
    (step bank (.read addr)).2.regs = left
  write : ∀ addr value, (step bank (.write addr value)).1 = .done → ∃ current result left,
    bank.regs[addr.toNat]? = some current ∧
    hooked (bank.writeHook.map fun hook => hook addr current value bank.regs) value bank.regs = (.ok result,left) ∧
    (step bank (.write addr value)).2.regs[addr.toNat]? = some result ∧
    ∀ other, other ≠ addr.toNat → (step bank (.write addr value)).2.regs[other]? = left[other]?
  peek : ∀ addr value, (step bank (.peek addr)).1 = .word value →
    bank.regs[addr.toNat]? = some value ∧ (step bank (.peek addr)).2 = bank
  poke : ∀ addr value, (step bank (.poke addr value)).1 = .done →
    (step bank (.poke addr value)).2 = bank.holding (bank.regs.set addr.toNat value)
  outside : ∀ call addr, addressed call = some addr → bank.regs.length ≤ addr.toNat →
    step bank call = (.rejected (outOfRange addr),bank)
  thrown : ∀ call addr e, addressed call = some addr → addr.toNat < bank.regs.length →
    (step bank call).1 = .rejected e → ∃ run left, bank.hookOf call = some run ∧
    run.result bank.regs = (.error e,left) ∧ (step bank call).2 = bank.holding left

theorem at_inside {bank : MockRegisterBank} {addr : UInt32} (inside : addr.toNat < bank.regs.length) : bank.regs[addr.toNat]? = some (bank.at addr) := by
  rw [MockRegisterBank.at,List.getD_eq_getElem?_getD,List.getElem?_eq_getElem inside,Option.getD_some]

theorem returned_inside (call : Call) (names : addressed call = some addr) (normal : (step bank call).1.normal = true) :
    addr.toNat < bank.regs.length := by
  by_contra outside
  rw [step_outside names (Nat.le_of_not_lt outside)] at normal
  cases normal

theorem hooked_thrown (result : hooked run plain regs = (.error e,left)) :
    ∃ hook, run = some hook ∧ hook.result regs = (.error e,left) := by
  cases run with
  | none => cases result
  | some hook => exact ⟨hook,rfl,result⟩

theorem read_law (addr value : UInt32) (returned : (step bank (.read addr)).1 = .word value) :
    ∃ stored left, bank.regs[addr.toNat]? = some stored ∧
      hooked (bank.readHook.map fun hook => hook addr stored bank.regs) stored bank.regs = (.ok value,left) ∧
      (step bank (.read addr)).2.regs = left := by
  have inside := returned_inside (.read addr) rfl (by rw [returned]; rfl)
  cases result : bank.readResult addr with
  | mk outcome left =>
    cases outcome with
    | error e =>
      rw [step_read_thrown inside result] at returned
      cases returned
    | ok got =>
      rw [step_read_ok inside result] at returned ⊢
      cases returned
      exact ⟨bank.at addr,left,at_inside inside,result,rfl⟩

theorem write_law (addr value : UInt32) (returned : (step bank (.write addr value)).1 = .done) :
    ∃ current result left, bank.regs[addr.toNat]? = some current ∧
      hooked (bank.writeHook.map fun hook => hook addr current value bank.regs) value bank.regs = (.ok result,left) ∧
      (step bank (.write addr value)).2.regs[addr.toNat]? = some result ∧
      ∀ other, other ≠ addr.toNat → (step bank (.write addr value)).2.regs[other]? = left[other]? := by
  have inside := returned_inside (.write addr value) rfl (by rw [returned]; rfl)
  cases result : bank.writeResult addr value with
  | mk outcome left =>
    cases outcome with
    | error e =>
      rw [step_write_thrown inside result] at returned
      cases returned
    | ok assigned =>
      have size := hooked_length (bank.writeHook.map fun hook => hook addr (bank.at addr) value bank.regs) value bank.regs
      rw [MockRegisterBank.writeResult] at result
      rw [result] at size
      rw [step_write_ok inside result]
      refine ⟨bank.at addr,assigned,left,at_inside inside,result,?_,fun other apart => ?_⟩
      · exact List.getElem?_set_self (Nat.lt_of_lt_of_eq inside size.symm)
      · exact List.getElem?_set_ne (Ne.symm apart)

theorem thrown_law (call : Call) (addr : UInt32) (e : Escape) (names : addressed call = some addr)
    (inside : addr.toNat < bank.regs.length) (rejected : (step bank call).1 = .rejected e) :
    ∃ run left, bank.hookOf call = some run ∧ run.result bank.regs = (.error e,left) ∧
      (step bank call).2 = bank.holding left := by
  cases call with
  | read addr =>
    cases names
    cases result : bank.readResult addr with
    | mk outcome left =>
      cases outcome with
      | ok value => rw [step_read_ok inside result] at rejected; cases rejected
      | error thrown =>
        rw [step_read_thrown inside result] at rejected ⊢
        cases rejected
        obtain ⟨hook,present,threw⟩ := hooked_thrown result
        exact ⟨hook,left,present,threw,rfl⟩
  | write addr value =>
    cases names
    cases result : bank.writeResult addr value with
    | mk outcome left =>
      cases outcome with
      | ok assigned => rw [step_write_ok inside result] at rejected; cases rejected
      | error thrown =>
        rw [step_write_thrown inside result] at rejected ⊢
        cases rejected
        obtain ⟨hook,present,threw⟩ := hooked_thrown result
        exact ⟨hook,left,present,threw,rfl⟩
  | peek addr => cases names; rw [step_peek inside] at rejected; cases rejected
  | poke addr value => cases names; rw [step_poke inside] at rejected; cases rejected
  | _ => cases names

theorem bank_law (size : UInt32) (calls : List Call) :
    BankLaw size (seen step (.new size) calls) (after step (.new size) calls) := by
  have counted := history_counted size calls
  refine ⟨counted,step_answered _,?_,?_,?_,fun _ => rfl,fun _ => rfl,read_law,write_law,?_,?_,fun _ _ => step_outside,thrown_law⟩
  · rw [← counted.size]
    rfl
  · rw [← counted.reads]
    rfl
  · rw [← counted.writes]
    rfl
  · intro addr value returned
    have inside := returned_inside (.peek addr) rfl (by rw [returned]; rfl)
    rw [step_peek inside] at returned ⊢
    cases returned
    exact ⟨at_inside inside,rfl⟩
  · intro addr value returned
    have inside := returned_inside (.poke addr value) rfl (by rw [returned]; rfl)
    rw [step_poke inside]
    rfl

end Edtf.RegisterBank

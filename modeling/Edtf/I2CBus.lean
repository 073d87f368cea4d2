import Mathlib.Tactic
import Edtf.ByteText
import Edtf.Histories
import Edtf.KeptState

namespace Edtf.I2CBus
open ByteText KeptState

structure HardwareError where
  what : Str
  deriving DecidableEq, Repr

inductive Op where
  | read | write
  deriving DecidableEq, Repr

structure Transaction where
  op : Op
  addr : UInt8
  reg : UInt8
  value : UInt8
  deriving DecidableEq, Repr

-- std::map<uint8_t,uint8_t>: a register without an entry is absent, not zero.
abbrev RegisterMap := UInt8 → Option UInt8

structure MockI2CBus where
  devices : UInt8 → Option RegisterMap
  log : List Transaction
  expectations : List Transaction
  expectCursor : Nat

def MockI2CBus.new : MockI2CBus := ⟨fun _ => none,[],[],0⟩

def hex2 (b : UInt8) : Str :=
  let d := text "0123456789abcdef"
  [d.getD ((b >>> 4) &&& 0xF).toNat 0,d.getD (b &&& 0xF).toNat 0]

def describe (t : Transaction) : Str :=
  (if t.op = .read then text "R" else text "W") ++ text " dev=0x" ++ hex2 t.addr ++
    text " reg=0x" ++ hex2 t.reg ++ text " val=0x" ++ hex2 t.value

-- A member function of the bus. A throw keeps every mutation made before it.
abbrev BusM := EStateM HardwareError MockI2CBus

def noDevice (addr : UInt8) : HardwareError := ⟨text "no I2C device at address 0x" ++ hex2 addr⟩
def exhausted (t : Transaction) : HardwareError :=
  ⟨text "unexpected I2C transaction (script exhausted): " ++ describe t⟩
def mismatch (e t : Transaction) : HardwareError :=
  ⟨text "I2C expectation mismatch:\n    expected " ++ describe e ++ text "\n    actual   " ++ describe t⟩

def device (addr : UInt8) : BusM RegisterMap := do
  match (← get).devices addr with
  | some registers => return registers
  | none => throw (noDevice addr)

-- `m[reg] = value` through the reference that device(addr) returned.
def MockI2CBus.assign (bus : MockI2CBus) (addr reg value : UInt8) : MockI2CBus :=
  let written := (bus.devices addr).map fun registers => Function.update registers reg (some value)
  {bus with devices := Function.update bus.devices addr written}

def attachDevice (addr : UInt8) (initial : RegisterMap) : BusM Unit :=
  modify fun bus => {bus with devices := Function.update bus.devices addr (some initial)}

def hasDevice (addr : UInt8) (bus : MockI2CBus) : Bool := (bus.devices addr).isSome

def setRegister (addr reg value : UInt8) : BusM Unit := do
  let _ ← device addr
  modify (·.assign addr reg value)

def getRegister (addr reg : UInt8) : BusM UInt8 := do
  let m ← device addr
  return (m reg).getD 0

def matchExpectation (op : Op) (addr reg value : UInt8) : BusM Unit := do
  let bus ← get
  if bus.expectations = [] then
    return ()  -- no script installed: free-running mode
  else if room : bus.expectCursor < bus.expectations.length then
    let e := bus.expectations[bus.expectCursor]
    if e.op ≠ op ∨ e.addr ≠ addr ∨ e.reg ≠ reg ∨ (op = .write ∧ e.value ≠ value) then
      throw (mismatch e ⟨op,addr,reg,value⟩)
    else
      set {bus with expectCursor := bus.expectCursor+1}
  else
    throw (exhausted ⟨op,addr,reg,value⟩)

def pushLog (t : Transaction) : BusM Unit := modify fun bus => {bus with log := bus.log ++ [t]}

def readRegister (addr reg : UInt8) : BusM UInt8 := do
  let m ← device addr
  let value := (m reg).getD 0
  matchExpectation .read addr reg value
  pushLog ⟨.read,addr,reg,value⟩
  return value

def writeRegister (addr reg value : UInt8) : BusM Unit := do
  let _ ← device addr
  matchExpectation .write addr reg value
  modify (·.assign addr reg value)
  pushLog ⟨.write,addr,reg,value⟩

def pushExpectation (t : Transaction) : BusM Unit :=
  modify fun bus => {bus with expectations := bus.expectations ++ [t]}

def expectRead (addr reg returns : UInt8) : BusM Unit := do
  let _ ← device addr
  modify (·.assign addr reg returns)
  pushExpectation ⟨.read,addr,reg,returns⟩

def expectWrite (addr reg value : UInt8) : BusM Unit := pushExpectation ⟨.write,addr,reg,value⟩

def verify (bus : MockI2CBus) : Str :=
  if pending : bus.expectations ≠ [] ∧ bus.expectCursor < bus.expectations.length then
    natText (bus.expectations.length - bus.expectCursor) ++
      text " expected transaction(s) never occurred (next expected: " ++
      describe bus.expectations[bus.expectCursor] ++ text ")"
  else []

def clearLog : BusM Unit := modify fun bus => {bus with log := []}

inductive Call where
  | attachDevice (addr : UInt8) (initial : RegisterMap)
  | hasDevice (addr : UInt8)
  | setRegister (addr reg value : UInt8)
  | getRegister (addr reg : UInt8)
  | readRegister (addr reg : UInt8)
  | writeRegister (addr reg value : UInt8)
  | expectRead (addr reg returns : UInt8)
  | expectWrite (addr reg value : UInt8)
  | verify
  | clearLog

inductive Reply where
  | done
  | byte (value : UInt8)
  | flag (value : Bool)
  | message (text : Str)
  | rejected (error : HardwareError)
  deriving DecidableEq, Repr

def Reply.normal : Reply → Bool
  | .rejected _ => false
  | _ => true

def perform : Call → BusM Reply
  | .attachDevice addr initial => do attachDevice addr initial; return .done
  | .hasDevice addr => return .flag (hasDevice addr (← get))
  | .setRegister addr reg value => do setRegister addr reg value; return .done
  | .getRegister addr reg => return .byte (← getRegister addr reg)
  | .readRegister addr reg => return .byte (← readRegister addr reg)
  | .writeRegister addr reg value => do writeRegister addr reg value; return .done
  | .expectRead addr reg returns => do expectRead addr reg returns; return .done
  | .expectWrite addr reg value => do expectWrite addr reg value; return .done
  | .verify => return .message (verify (← get))
  | .clearLog => do clearLog; return .done

def step (bus : MockI2CBus) (call : Call) : Reply × MockI2CBus :=
  match perform call bus with
  | .ok reply next => (reply,next)
  | .error error next => (.rejected error,next)

abbrev after := Histories.after step
abbrev seen := Histories.seen step

def Transaction.Fits (e t : Transaction) : Prop :=
  e.op = t.op ∧ e.addr = t.addr ∧ e.reg = t.reg ∧ (t.op = .write → e.value = t.value)

instance (e t : Transaction) : Decidable (e.Fits t) := by unfold Transaction.Fits; infer_instance

def MockI2CBus.Admits (bus : MockI2CBus) (t : Transaction) : Prop :=
  bus.expectations = [] ∨ ∃ e, bus.expectations[bus.expectCursor]? = some e ∧ e.Fits t

def MockI2CBus.advance (bus : MockI2CBus) : MockI2CBus :=
  if bus.expectations = [] then bus else {bus with expectCursor := bus.expectCursor+1}

def MockI2CBus.record (bus : MockI2CBus) (t : Transaction) : MockI2CBus := {bus with log := bus.log ++ [t]}

theorem matchExpectation_admits (admitted : bus.Admits ⟨op,addr,reg,value⟩) :
    matchExpectation op addr reg value bus = .ok () bus.advance := by
  unfold matchExpectation
  rw [bind_ok (get_run bus)]
  by_cases free : bus.expectations = []
  · rw [if_pos free,pure_run,MockI2CBus.advance,if_pos free]
  · rcases admitted with free' | ⟨e,next,fits⟩
    · exact absurd free' free
    · obtain ⟨room,entry⟩ := List.getElem?_eq_some_iff.mp next
      obtain ⟨sameOp,sameAddr,sameReg,sameValue⟩ := fits
      have accepted : ¬(e.op ≠ op ∨ e.addr ≠ addr ∨ e.reg ≠ reg ∨ (op = .write ∧ e.value ≠ value)) := by
        simp only [sameOp,sameAddr,sameReg,ne_eq,not_true_eq_false,false_or]
        exact fun wrong => wrong.2 (sameValue wrong.1)
      simp only [entry]
      rw [if_neg free,dif_pos room,if_neg accepted,set_run,MockI2CBus.advance,if_neg free]

theorem matchExpectation_refuses (refused : ¬bus.Admits ⟨op,addr,reg,value⟩) :
    ∃ error, matchExpectation op addr reg value bus = .error error bus := by
  have scripted : bus.expectations ≠ [] := fun free => refused (.inl free)
  unfold matchExpectation
  rw [bind_ok (get_run bus),if_neg scripted]
  by_cases room : bus.expectCursor < bus.expectations.length
  · have wrong : bus.expectations[bus.expectCursor].op ≠ op ∨ bus.expectations[bus.expectCursor].addr ≠ addr ∨
        bus.expectations[bus.expectCursor].reg ≠ reg ∨
        (op = .write ∧ bus.expectations[bus.expectCursor].value ≠ value) := by
      by_contra matching
      simp only [not_or,not_and,not_not,ne_eq] at matching
      exact refused (.inr ⟨_,List.getElem?_eq_getElem room,matching⟩)
    rw [dif_pos room,if_pos wrong]
    exact ⟨_,throw_run _ bus⟩
  · rw [dif_neg room]
    exact ⟨_,throw_run _ bus⟩

-- A driver transaction as the driver asks for it: what a read will return is not
-- part of the request.
inductive Request where
  | read (addr reg : UInt8)
  | write (addr reg value : UInt8)
  deriving DecidableEq, Repr

def Request.addr : Request → UInt8
  | .read addr _ => addr
  | .write addr _ _ => addr

def Request.call : Request → Call
  | .read addr reg => .readRegister addr reg
  | .write addr reg value => .writeRegister addr reg value

def Request.transaction (registers : RegisterMap) : Request → Transaction
  | .read addr reg => ⟨.read,addr,reg,(registers reg).getD 0⟩
  | .write addr reg value => ⟨.write,addr,reg,value⟩

def Transaction.request (t : Transaction) : Request :=
  match t.op with
  | .read => .read t.addr t.reg
  | .write => .write t.addr t.reg t.value

def Transaction.reply (t : Transaction) : Reply :=
  match t.op with
  | .read => .byte t.value
  | .write => .done

theorem fits_request (e t : Transaction) : e.Fits t ↔ e.request = t.request := by
  rcases e with ⟨eop,ea,er,ev⟩
  rcases t with ⟨top,ta,tr,tv⟩
  cases eop <;> cases top <;> simp [Transaction.Fits,Transaction.request]

theorem request_transaction (r : Request) (registers : RegisterMap) : (r.transaction registers).request = r := by
  cases r <;> rfl

def MockI2CBus.commit (bus : MockI2CBus) (t : Transaction) : MockI2CBus :=
  match t.op with
  | .read => bus.advance.record t
  | .write => (bus.advance.assign t.addr t.reg t.value).record t

def MockI2CBus.Accepts (bus : MockI2CBus) (r : Request) : Prop :=
  ∃ registers, bus.devices r.addr = some registers ∧ bus.Admits (r.transaction registers)

theorem device_present (present : bus.devices addr = some registers) : device addr bus = .ok registers bus := by
  unfold device
  rw [bind_ok (get_run bus),present]
  exact pure_run _ _

theorem device_absent (absent : bus.devices addr = none) : device addr bus = .error (noDevice addr) bus := by
  unfold device
  rw [bind_ok (get_run bus),absent]
  exact throw_run _ _

theorem step_ok {call : Call} (ran : perform call bus = .ok reply next) : step bus call = (reply,next) := by
  rw [step,ran]

theorem step_error {call : Call} (ran : perform call bus = .error error next) :
    step bus call = (.rejected error,next) := by
  rw [step,ran]

theorem readRegister_accepted (present : bus.devices addr = some registers)
    (admitted : bus.Admits ⟨.read,addr,reg,(registers reg).getD 0⟩) :
    readRegister addr reg bus =
      .ok ((registers reg).getD 0) (bus.commit ⟨.read,addr,reg,(registers reg).getD 0⟩) := by
  unfold readRegister pushLog
  rw [bind_ok (device_present present),bind_ok (matchExpectation_admits admitted),bind_ok (modify_run _ _),pure_run]
  rfl

theorem writeRegister_accepted (present : bus.devices addr = some registers)
    (admitted : bus.Admits ⟨.write,addr,reg,value⟩) :
    writeRegister addr reg value bus = .ok () (bus.commit ⟨.write,addr,reg,value⟩) := by
  unfold writeRegister pushLog
  rw [bind_ok (device_present present),bind_ok (matchExpectation_admits admitted),bind_ok (modify_run _ _),modify_run]
  rfl

theorem step_accepted {r : Request} (present : bus.devices r.addr = some registers)
    (admitted : bus.Admits (r.transaction registers)) :
    step bus r.call = ((r.transaction registers).reply,bus.commit (r.transaction registers)) := by
  cases r with
  | read addr reg => exact step_ok (bind_ok (readRegister_accepted present admitted))
  | write addr reg value => exact step_ok (bind_ok (writeRegister_accepted present admitted))

theorem step_unattached {r : Request} (absent : bus.devices r.addr = none) :
    step bus r.call = (.rejected (noDevice r.addr),bus) := by
  cases r with
  | read addr reg => exact step_error (bind_error (bind_error (device_absent absent)))
  | write addr reg value => exact step_error (bind_error (bind_error (device_absent absent)))

theorem step_denied {r : Request} (present : bus.devices r.addr = some registers)
    (denied : ¬bus.Admits (r.transaction registers)) : ∃ error, step bus r.call = (.rejected error,bus) := by
  cases r with
  | read addr reg =>
    obtain ⟨error,checked⟩ := matchExpectation_refuses denied
    exact ⟨error,step_error (bind_error ((bind_ok (device_present present)).trans (bind_error checked)))⟩
  | write addr reg value =>
    obtain ⟨error,checked⟩ := matchExpectation_refuses denied
    exact ⟨error,step_error (bind_error ((bind_ok (device_present present)).trans (bind_error checked)))⟩

theorem step_refused {r : Request} (refused : ¬bus.Accepts r) :
    ∃ error, step bus r.call = (.rejected error,bus) := by
  cases present : bus.devices r.addr with
  | none => exact ⟨_,step_unattached present⟩
  | some registers => exact step_denied present fun admitted => refused ⟨registers,present,admitted⟩

theorem step_attachDevice (bus : MockI2CBus) (addr : UInt8) (initial : RegisterMap) :
    step bus (.attachDevice addr initial) =
      (.done,{bus with devices := Function.update bus.devices addr (some initial)}) := rfl

theorem step_setRegister_present (present : bus.devices addr = some registers) :
    step bus (.setRegister addr reg value) = (.done,bus.assign addr reg value) :=
  step_ok (bind_ok ((bind_ok (device_present present)).trans (modify_run _ _)))

theorem step_setRegister_absent (absent : bus.devices addr = none) :
    step bus (.setRegister addr reg value) = (.rejected (noDevice addr),bus) :=
  step_error (bind_error (bind_error (device_absent absent)))

theorem step_getRegister_present (present : bus.devices addr = some registers) :
    step bus (.getRegister addr reg) = (.byte ((registers reg).getD 0),bus) :=
  step_ok (bind_ok ((bind_ok (device_present present)).trans (pure_run _ _)))

theorem step_getRegister_absent (absent : bus.devices addr = none) :
    step bus (.getRegister addr reg) = (.rejected (noDevice addr),bus) :=
  step_error (bind_error (bind_error (device_absent absent)))

theorem step_expectRead_present (present : bus.devices addr = some registers) :
    step bus (.expectRead addr reg returns) = (.done,{bus.assign addr reg returns with
      expectations := bus.expectations ++ [⟨.read,addr,reg,returns⟩]}) :=
  step_ok (bind_ok ((bind_ok (device_present present)).trans ((bind_ok (modify_run _ _)).trans (modify_run _ _))))

theorem step_expectRead_absent (absent : bus.devices addr = none) :
    step bus (.expectRead addr reg returns) = (.rejected (noDevice addr),bus) :=
  step_error (bind_error (bind_error (device_absent absent)))

theorem step_expectWrite (bus : MockI2CBus) (addr reg value : UInt8) :
    step bus (.expectWrite addr reg value) =
      (.done,{bus with expectations := bus.expectations ++ [⟨.write,addr,reg,value⟩]}) := rfl

theorem step_hasDevice (bus : MockI2CBus) (addr : UInt8) :
    step bus (.hasDevice addr) = (.flag (hasDevice addr bus),bus) := rfl

theorem step_verify (bus : MockI2CBus) : step bus .verify = (.message (verify bus),bus) := rfl

theorem step_clearLog (bus : MockI2CBus) : step bus .clearLog = (.done,{bus with log := []}) := rfl

theorem assign_attached (bus : MockI2CBus) (a r v addr : UInt8) :
    hasDevice addr (bus.assign a r v) = hasDevice addr bus := by
  by_cases same : addr = a
  · subst a
    simp [hasDevice,MockI2CBus.assign]
  · simp [hasDevice,MockI2CBus.assign,same]

theorem commit_attached (bus : MockI2CBus) (t : Transaction) (addr : UInt8) :
    hasDevice addr (bus.commit t) = hasDevice addr bus := by
  have advanced : hasDevice addr bus.advance = hasDevice addr bus := by
    unfold MockI2CBus.advance
    split <;> rfl
  rcases t with ⟨op,a,r,v⟩
  cases op with
  | read => exact advanced
  | write => exact (assign_attached bus.advance a r v addr).trans advanced

def Call.attaches (addr : UInt8) : Call → Bool
  | .attachDevice a _ => a == addr
  | _ => false

theorem request_attached (bus : MockI2CBus) (r : Request) (addr : UInt8) :
    hasDevice addr (step bus r.call).2 = hasDevice addr bus := by
  by_cases accepts : bus.Accepts r
  · obtain ⟨registers,present,admitted⟩ := accepts
    rw [step_accepted present admitted]
    exact commit_attached bus _ addr
  · obtain ⟨error,refused⟩ := step_refused accepts
    rw [refused]

theorem step_attached (bus : MockI2CBus) (call : Call) (addr : UInt8) :
    hasDevice addr (step bus call).2 = (call.attaches addr || hasDevice addr bus) := by
  cases call with
  | readRegister a reg => exact request_attached bus (.read a reg) addr
  | writeRegister a reg value => exact request_attached bus (.write a reg value) addr
  | hasDevice a => rfl
  | verify => rfl
  | clearLog => rfl
  | expectWrite a reg value => rfl
  | attachDevice a initial =>
    rw [step_attachDevice]
    by_cases same : a = addr
    · subst a
      simp [hasDevice,Call.attaches]
    · simp [hasDevice,Call.attaches,same,Ne.symm same]
  | setRegister a reg value =>
    cases present : bus.devices a with
    | none => rw [step_setRegister_absent present]; rfl
    | some registers =>
      rw [step_setRegister_present present]
      exact assign_attached bus a reg value addr
  | getRegister a reg =>
    cases present : bus.devices a with
    | none => rw [step_getRegister_absent present]; rfl
    | some registers => rw [step_getRegister_present present]; rfl
  | expectRead a reg returns =>
    cases present : bus.devices a with
    | none => rw [step_expectRead_absent present]; rfl
    | some registers =>
      rw [step_expectRead_present present]
      exact assign_attached bus a reg returns addr

-- The two traces a call leaves besides its reply: the expectation it queued and the
-- driver transaction it carried out.
def queued : Call × Reply → Option Transaction
  | (.expectRead addr reg returns,reply) => if reply.normal then some ⟨.read,addr,reg,returns⟩ else none
  | (.expectWrite addr reg value,reply) => if reply.normal then some ⟨.write,addr,reg,value⟩ else none
  | _ => none

def driven : Call × Reply → Option Transaction
  | (.readRegister addr reg,.byte value) => some ⟨.read,addr,reg,value⟩
  | (.writeRegister addr reg value,reply) => if reply.normal then some ⟨.write,addr,reg,value⟩ else none
  | _ => none

theorem driven_reply (r : Request) (registers : RegisterMap) :
    driven (r.call,(r.transaction registers).reply) = some (r.transaction registers) := by
  cases r <;> rfl

theorem driven_rejected (r : Request) (error : HardwareError) : driven (r.call,.rejected error) = none := by
  cases r <;> rfl

theorem queued_request (r : Request) (reply : Reply) : queued (r.call,reply) = none := by
  cases r <;> rfl

end Edtf.I2CBus

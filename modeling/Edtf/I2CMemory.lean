import Mathlib.Tactic
import Edtf.I2CPromises

namespace Edtf.I2CMemory
open ByteText I2CBus I2CScript I2CPromises

-- What a read of a register would return; an absent register of a device reads as zero.
def current (bus : MockI2CBus) (addr reg : UInt8) : Option UInt8 :=
  (bus.devices addr).map fun registers => (registers reg).getD 0

def gives : Call → UInt8 → UInt8 → Option UInt8
  | .attachDevice a initial,addr,reg => if a = addr then some ((initial reg).getD 0) else none
  | .setRegister a r value,addr,reg => if a = addr ∧ r = reg then some value else none
  | .writeRegister a r value,addr,reg => if a = addr ∧ r = reg then some value else none
  | .expectRead a r returns,addr,reg => if a = addr ∧ r = reg then some returns else none
  | _,_,_ => none

def given (addr reg : UInt8) (event : Call × Reply) : Option UInt8 :=
  if event.2.normal then gives event.1 addr reg else none

def lastGiven (history : List (Call × Reply)) (addr reg : UInt8) : Option UInt8 :=
  (history.filterMap (given addr reg)).getLast?

def clears : Call × Reply → Bool
  | (.clearLog,_) => true
  | _ => false

def recorded (history : List (Call × Reply)) : List Transaction :=
  (Histories.since clears history).filterMap driven

theorem request_rejected (r : Request) (rejected : (step bus r.call).1 = .rejected error) :
    (step bus r.call).2 = bus := by
  by_cases accepts : bus.Accepts r
  · obtain ⟨registers,present,admitted⟩ := accepts
    have normal := reply_normal (r.transaction registers)
    rw [step_accepted present admitted] at rejected
    simp only at rejected
    rw [rejected] at normal
    cases normal
  · obtain ⟨_,refused⟩ := step_refused accepts
    rw [refused]

theorem step_rejected (call : Call) (rejected : (step bus call).1 = .rejected error) : (step bus call).2 = bus := by
  cases call with
  | readRegister addr reg => exact request_rejected (.read addr reg) rejected
  | writeRegister addr reg value => exact request_rejected (.write addr reg value) rejected
  | attachDevice addr initial => rw [step_attachDevice] at rejected; cases rejected
  | hasDevice addr => rw [step_hasDevice] at rejected; cases rejected
  | verify => rw [step_verify] at rejected; cases rejected
  | clearLog => rw [step_clearLog] at rejected; cases rejected
  | expectWrite addr reg value => rw [step_expectWrite] at rejected; cases rejected
  | setRegister addr reg value =>
    cases present : bus.devices addr with
    | none => rw [step_setRegister_absent present]
    | some registers => rw [step_setRegister_present present] at rejected; cases rejected
  | getRegister addr reg =>
    cases present : bus.devices addr with
    | none => rw [step_getRegister_absent present]
    | some registers => rw [step_getRegister_present present] at rejected; cases rejected
  | expectRead addr reg returns =>
    cases present : bus.devices addr with
    | none => rw [step_expectRead_absent present]
    | some registers => rw [step_expectRead_present present] at rejected; cases rejected

theorem assign_current (present : bus.devices a = some registers) (addr reg : UInt8) :
    current (bus.assign a r v) addr reg = if a = addr ∧ r = reg then some v else current bus addr reg := by
  by_cases sameAddr : a = addr
  · subst a
    by_cases sameReg : r = reg
    · subst r
      simp [current,MockI2CBus.assign,present]
    · simp [current,MockI2CBus.assign,present,sameReg,Ne.symm sameReg]
  · simp [current,MockI2CBus.assign,sameAddr,Ne.symm sameAddr]

theorem advance_devices (bus : MockI2CBus) : bus.advance.devices = bus.devices := by
  unfold MockI2CBus.advance
  split <;> rfl

theorem commit_log (bus : MockI2CBus) (t : Transaction) : (bus.commit t).log = bus.log ++ [t] := by
  have advanced : bus.advance.log = bus.log := by
    unfold MockI2CBus.advance
    split <;> rfl
  rcases t with ⟨op,addr,reg,value⟩
  cases op <;> exact congrArg (· ++ _) advanced

-- What one call does to the register memory and to the log, by the event it leaves.
structure Remembers (bus : MockI2CBus) (event : Call × Reply) (next : MockI2CBus) : Prop where
  memory : ∀ addr reg, current next addr reg = (given addr reg event).or (current bus addr reg)
  log : next.log = if clears event then [] else bus.log ++ (driven event).toList

theorem remembers_quiet (silent : ∀ addr reg, given addr reg event = none) (kept : clears event = false)
    (undriven : driven event = none) (devices : next.devices = bus.devices) (log : next.log = bus.log) :
    Remembers bus event next := by
  refine ⟨fun addr reg => ?_,?_⟩
  · rw [silent,Option.none_or,current,current,devices]
  · rw [kept,undriven,log]
    simp

theorem given_rejected (addr reg : UInt8) (call : Call) (error : HardwareError) :
    given addr reg (call,.rejected error) = none := rfl

theorem driven_thrown (call : Call) (error : HardwareError) : driven (call,.rejected error) = none := by
  cases call <;> rfl

theorem remembers_rejected (call : Call) (rejected : (step bus call).1 = .rejected error) :
    Remembers bus (call,(step bus call).1) (step bus call).2 := by
  have kept : clears (call,.rejected error) = false := by
    cases call with
    | clearLog => rw [step_clearLog] at rejected; cases rejected
    | _ => rfl
  rw [step_rejected call rejected,rejected]
  exact remembers_quiet (fun addr reg => given_rejected addr reg call error) kept (driven_thrown call error) rfl rfl

theorem remembers_accepted {r : Request} (present : bus.devices r.addr = some registers)
    (admitted : bus.Admits (r.transaction registers)) :
    Remembers bus (r.call,(step bus r.call).1) (step bus r.call).2 := by
  rw [step_accepted present admitted]
  have kept : ∀ a g, current bus.advance a g = current bus a g := fun a g => by rw [current,advance_devices,current]
  refine ⟨fun a g => ?_,?_⟩
  · cases r with
    | read addr reg => exact kept a g
    | write addr reg value =>
      have here : bus.advance.devices addr = some registers := by rw [advance_devices]; exact present
      have assigned := assign_current (r := reg) (v := value) here a g
      rw [kept] at assigned
      refine Eq.trans assigned ?_
      change _ = (if addr = a ∧ reg = g then some value else none).or (current bus a g)
      split <;> simp
  · have other : clears (r.call,(r.transaction registers).reply) = false := by cases r <;> rfl
    rw [commit_log,other,driven_reply]
    rfl

theorem request_remembers (bus : MockI2CBus) (r : Request) :
    Remembers bus (r.call,(step bus r.call).1) (step bus r.call).2 := by
  by_cases accepts : bus.Accepts r
  · obtain ⟨registers,present,admitted⟩ := accepts
    exact remembers_accepted present admitted
  · obtain ⟨error,refused⟩ := step_refused accepts
    exact remembers_rejected r.call (by rw [refused])

theorem remembers_assigned (present : bus.devices a = some registers) (devices : next.devices = (bus.assign a r value).devices)
    (log : next.log = bus.log) (gives : ∀ addr reg, given addr reg event = if a = addr ∧ r = reg then some value else none)
    (kept : clears event = false) (undriven : driven event = none) : Remembers bus event next := by
  refine ⟨fun addr reg => ?_,by rw [kept,undriven,log]; simp⟩
  have assigned := assign_current (r := r) (v := value) present addr reg
  rw [current,devices,gives]
  refine Eq.trans assigned ?_
  split <;> simp

theorem step_remembers (bus : MockI2CBus) (call : Call) :
    Remembers bus (call,(step bus call).1) (step bus call).2 := by
  cases call with
  | readRegister addr reg => exact request_remembers bus (.read addr reg)
  | writeRegister addr reg value => exact request_remembers bus (.write addr reg value)
  | hasDevice addr => rw [step_hasDevice]; exact remembers_quiet (fun _ _ => rfl) rfl rfl rfl rfl
  | verify => rw [step_verify]; exact remembers_quiet (fun _ _ => rfl) rfl rfl rfl rfl
  | expectWrite addr reg value => rw [step_expectWrite]; exact remembers_quiet (fun _ _ => rfl) rfl rfl rfl rfl
  | clearLog =>
    rw [step_clearLog]
    exact ⟨fun _ _ => rfl,rfl⟩
  | attachDevice a initial =>
    rw [step_attachDevice]
    refine ⟨fun addr reg => ?_,by simp [clears,driven]⟩
    by_cases same : a = addr
    · subst a
      simp [current,given,gives,Reply.normal]
    · simp [current,given,gives,Reply.normal,same,Ne.symm same]
  | setRegister addr reg value =>
    cases present : bus.devices addr with
    | none => exact remembers_rejected _ (by rw [step_setRegister_absent present])
    | some registers =>
      rw [step_setRegister_present present]
      exact remembers_assigned present rfl rfl (fun _ _ => rfl) rfl rfl
  | getRegister addr reg =>
    cases present : bus.devices addr with
    | none => exact remembers_rejected _ (by rw [step_getRegister_absent present])
    | some registers =>
      rw [step_getRegister_present present]
      exact remembers_quiet (fun _ _ => rfl) rfl rfl rfl rfl
  | expectRead addr reg returns =>
    cases present : bus.devices addr with
    | none => exact remembers_rejected _ (by rw [step_expectRead_absent present])
    | some registers =>
      rw [step_expectRead_present present]
      exact remembers_assigned present rfl rfl (fun _ _ => rfl) rfl rfl

structure Recalls (history : List (Call × Reply)) (bus : MockI2CBus) : Prop where
  memory : ∀ addr reg, current bus addr reg = lastGiven history addr reg
  log : bus.log = recorded history

theorem lastGiven_snoc (history : List (Call × Reply)) (event : Call × Reply) (addr reg : UInt8) :
    lastGiven (history ++ [event]) addr reg = (given addr reg event).or (lastGiven history addr reg) :=
  Histories.last_snoc (given addr reg) history event

theorem recorded_snoc (history : List (Call × Reply)) (event : Call × Reply) :
    recorded (history ++ [event]) = if clears event then [] else recorded history ++ (driven event).toList := by
  rw [recorded,Histories.since_snoc,recorded]
  split
  · rfl
  · rw [List.filterMap_append]
    cases found : driven event <;> simp [found]

theorem recalls_kept (held : Recalls history bus) (remembers : Remembers bus event next) :
    Recalls (history ++ [event]) next := by
  refine ⟨fun addr reg => ?_,?_⟩
  · rw [remembers.memory,held.memory,lastGiven_snoc]
  · rw [remembers.log,held.log,recorded_snoc]

theorem history_recalls (calls : List Call) : Recalls (seen .new calls) (after .new calls) :=
  Histories.history_invariant step Recalls ⟨fun _ _ => rfl,rfl⟩
    (fun _ bus call held => recalls_kept held (step_remembers bus call)) calls

theorem readRegister_returns (normal : (step bus (.readRegister addr reg)).1.normal = true) :
    ∃ value, (step bus (.readRegister addr reg)).1 = .byte value ∧ current bus addr reg = some value := by
  by_cases accepts : bus.Accepts (.read addr reg)
  · obtain ⟨registers,present,admitted⟩ := accepts
    have carried := step_accepted present admitted
    refine ⟨(registers reg).getD 0,congrArg Prod.fst carried,?_⟩
    have here : bus.devices addr = some registers := present
    rw [current,here]
    rfl
  · obtain ⟨error,refused⟩ := step_refused accepts
    have thrown : step bus (.readRegister addr reg) = (.rejected error,bus) := refused
    rw [thrown] at normal
    cases normal

theorem getRegister_returns (normal : (step bus (.getRegister addr reg)).1.normal = true) :
    ∃ value, (step bus (.getRegister addr reg)).1 = .byte value ∧ current bus addr reg = some value := by
  cases present : bus.devices addr with
  | none => rw [step_getRegister_absent present] at normal; cases normal
  | some registers =>
    rw [step_getRegister_present present]
    exact ⟨_,rfl,by rw [current,present]; rfl⟩

-- The memory contract of a bus against its history: reads return what was given last, an
-- attached device answers, other calls leave a register as it is, and the log lists the driver's transactions.
structure Faithful (history : List (Call × Reply)) (bus : MockI2CBus) : Prop where
  read : ∀ addr reg, (step bus (.readRegister addr reg)).1.normal = true →
    ∃ value, (step bus (.readRegister addr reg)).1 = .byte value ∧ lastGiven history addr reg = some value
  get : ∀ addr reg, (step bus (.getRegister addr reg)).1.normal = true →
    ∃ value, (step bus (.getRegister addr reg)).1 = .byte value ∧ lastGiven history addr reg = some value
  answers : ∀ addr, Attached history addr → hasDevice addr bus = true ∧
    ∀ reg, (step bus (.getRegister addr reg)).1.normal = true
  frame : ∀ call addr reg, given addr reg (call,(step bus call).1) = none →
    current (step bus call).2 addr reg = current bus addr reg
  log : bus.log = recorded history

theorem memory_faithful (calls : List Call) : Faithful (seen .new calls) (after .new calls) := by
  have held := history_recalls calls
  refine ⟨?_,?_,?_,?_,held.log⟩
  · intro addr reg normal
    rw [← held.memory]
    exact readRegister_returns normal
  · intro addr reg normal
    rw [← held.memory]
    exact getRegister_returns normal
  · intro addr attached
    have here := (history_attached calls addr).mpr attached
    obtain ⟨registers,present⟩ := Option.isSome_iff_exists.mp here
    refine ⟨here,fun reg => ?_⟩
    rw [step_getRegister_present present]
    rfl
  · intro call addr reg silent
    rw [(step_remembers _ call).memory,silent,Option.none_or]

theorem rejected_untouched (calls : List Call) (call : Call) (error : HardwareError)
    (rejected : (step (after .new calls) call).1 = .rejected error) :
    (step (after .new calls) call).2 = after .new calls ∧
      ∀ later, seen .new (calls ++ call :: later) =
        seen .new calls ++ (call,.rejected error) :: seen (after .new calls) later := by
  have same := step_rejected call rejected
  refine ⟨same,fun later => ?_⟩
  rw [seen,Histories.seen_append,Histories.seen]
  rw [show step (Histories.after step .new calls) call = (.rejected error,after .new calls) from Prod.ext rejected same]

def scripted : List Call := [.attachDevice 0x48 fun _ => none,.expectWrite 0x48 0x01 0xE1]

theorem scripted_untouched : (step (after .new scripted) (.writeRegister 0x48 0x01 0xE0)).2 = after .new scripted ∧
    ∀ later, seen .new (scripted ++ .writeRegister 0x48 0x01 0xE0 :: later) = seen .new scripted ++
      (.writeRegister 0x48 0x01 0xE0,.rejected (mismatch ⟨.write,0x48,0x01,0xE1⟩ ⟨.write,0x48,0x01,0xE0⟩)) ::
        seen (after .new scripted) later :=
  rejected_untouched scripted (.writeRegister 0x48 0x01 0xE0) _ (by decide)

end Edtf.I2CMemory

import Mathlib.Tactic
import Edtf.I2CTexts
import Edtf.Observations
import Edtf.SerialPort

namespace Edtf.BusObservations
open I2CBus I2CAbstraction I2CTexts Observations

-- A probe of the script: an empty device is attached at the address of a transaction, then
-- the transaction is made.
def attached (bus : AbstractBus) (addr : UInt8) : AbstractBus := (respond bus (.attachDevice addr fun _ => none)).2
def probed (bus : AbstractBus) (request : Request) : Answer × AbstractBus := respond (attached bus request.addr) request.call

theorem attached_memory (bus : AbstractBus) (addr : UInt8) : (attached bus addr).memory addr = some fun _ => 0 :=
  Function.update_self _ _ _

def zeroed : Request → Transaction
  | .read addr reg => ⟨.read,addr,reg,0⟩
  | .write addr reg value => ⟨.write,addr,reg,value⟩

theorem zeroed_request (request : Request) : (zeroed request).request = request := by
  cases request <;> rfl

theorem probed_through (bus : AbstractBus) (request : Request) : probed bus request =
    letThrough (attached bus request.addr) (zeroed request) fun now => match request with
      | .read _ _ => (.byte 0,record now (zeroed request))
      | .write addr reg value => (.done,record (store now addr reg value) (zeroed request)) := by
  cases request with
  | read addr reg => simp only [probed,Request.call,Request.addr,respond,onDevice,attached_memory,zeroed]
  | write addr reg value => simp only [probed,Request.call,Request.addr,respond,onDevice,attached_memory,zeroed]

theorem probed_taken (scripted : AbstractBus.script bus = some (t :: later)) :
    (probed bus t.request).2.script = some later := by
  have kept : (attached bus t.request.addr).script = some (t :: later) := scripted
  rw [probed_through]
  simp only [letThrough,kept,zeroed_request,if_true]
  cases t.request <;> rfl

theorem probed_free (free : AbstractBus.script bus = none) : (probed bus (.read 0 0)).1 = .byte 0 := by
  have kept : (attached bus 0).script = none := free
  simp only [probed_through,Request.addr,letThrough,kept]

theorem probed_ended (ended : AbstractBus.script bus = some []) :
    (probed bus (.read 0 0)).1 = .refused (.exhausted ⟨.read,0,0,0⟩) := by
  have kept : (attached bus 0).script = some [] := ended
  simp only [probed_through,Request.addr,letThrough,kept,zeroed]

abbrev Unknown (a b : AbstractBus) : Prop := Indistinct respond AbstractBus.log a b

theorem probed_unknown (same : Unknown a b) (request : Request) : (probed a request).1 = (probed b request).1 ∧
    Unknown (probed a request).2 (probed b request).2 :=
  have next := same.next (.attachDevice request.addr fun _ => none)
  ⟨next.reply request.call,next.next request.call⟩

theorem verdict_unknown (same : Unknown a b) : shortOf a.script = shortOf b.script := by
  have verdicts := same.reply .verify
  simp only [respond,Answer.verdict.injEq] at verdicts
  exact verdicts

-- Induction on the script: verify shows the next entry, and a probe for it takes it away.
theorem script_unknown (scripted : AbstractBus.script a = some entries) (same : Unknown a b) : b.script = some entries := by
  induction entries generalizing a b with
  | nil =>
    have verdicts := verdict_unknown same
    rw [scripted] at verdicts
    cases other : b.script with
    | none =>
      have answers := (probed_unknown same (.read 0 0)).1
      rw [probed_ended scripted,probed_free other] at answers
      cases answers
    | some entries =>
      rw [other] at verdicts
      cases entries with
      | nil => rfl
      | cons t later => cases verdicts
  | cons t later ih =>
    have verdicts := verdict_unknown same
    rw [scripted] at verdicts
    cases other : b.script with
    | none => rw [other] at verdicts; cases verdicts
    | some entries =>
      rw [other] at verdicts
      cases entries with
      | nil => cases verdicts
      | cons u rest =>
        simp only [shortOf,Option.some.injEq,Prod.mk.injEq] at verdicts
        obtain ⟨_,rfl⟩ := verdicts
        have left := ih (probed_taken scripted) (probed_unknown same t.request).2
        rw [probed_taken other] at left
        rw [Option.some.inj left]

theorem memory_unknown (same : Unknown a b) : a.memory = b.memory := by
  funext addr
  have present := same.reply (.hasDevice addr)
  simp only [respond,Answer.flag.injEq] at present
  cases here : a.memory addr with
  | none =>
    rw [here] at present
    exact (Option.not_isSome_iff_eq_none.mp (by rw [← present]; decide)).symm
  | some memory =>
    rw [here] at present
    obtain ⟨memory',there⟩ := Option.isSome_iff_exists.mp present.symm
    rw [there]
    refine congrArg some (funext fun reg => ?_)
    have bytes := same.reply (.getRegister addr reg)
    simp only [respond,onDevice,here,there,Answer.byte.injEq] at bytes
    exact bytes

theorem abstract_minimal (same : Unknown a b) : a = b := by
  have script : a.script = b.script := by
    cases here : a.script with
    | some entries => exact (script_unknown here same).symm
    | none =>
      cases there : b.script with
      | none => rfl
      | some entries => rw [script_unknown there same.symm] at here; cases here
  have memory := memory_unknown same
  have log : a.log = b.log := same.looks []
  rcases a with ⟨_,_,_⟩
  subst memory script log
  rfl

theorem reply_injective : Function.Injective Answer.reply := fun a b same => by
  have read := congrArg readAnswer same
  rw [readAnswer_reply,readAnswer_reply] at read
  exact Option.some.inj read

theorem after_within (calls : List Call) : Within (after .new calls) :=
  Histories.state_invariant step Within new_within (fun now c held => (call_kept now c held).2.2) calls

-- What a test can find out about a bus, whatever was done to it: its memories, the part of
-- the script that is left and the log, and no more. What was met before, the cursor and
-- whether a zero was ever written are lost.
theorem bus_observed (first second : List Call) :
    Indistinct step MockI2CBus.log (after .new first) (after .new second) ↔
      view (after .new first) = view (after .new second) := by
  have model : Indistinct step MockI2CBus.log (after .new first) (after .new second) ↔
      Unknown (view (after .new first)) (view (after .new second)) :=
    indistinct_model call_kept reply_injective (fun _ _ => rfl) (after_within first) (after_within second)
  rw [model]
  constructor
  · exact abstract_minimal
  · intro same
    rw [same]
    exact .refl _

theorem port_observed (port other : SerialPort.MockSerialPort) :
    Indistinct SerialPort.perform (fun _ => ()) port other ↔ port.queues = other.queues := by
  have each : ∀ (now : SerialPort.MockSerialPort) (c : SerialPort.Call), True →
      (SerialPort.perform now c).1 = id (now.queues.perform c).1 ∧
        (SerialPort.perform now c).2.queues = (now.queues.perform c).2 ∧ True := fun now c _ =>
    ⟨(SerialPort.perform_simulates now c).1,(SerialPort.perform_simulates now c).2,trivial⟩
  have model : Indistinct SerialPort.perform (fun _ => ()) port other ↔
      Indistinct SerialPort.Queues.perform (fun _ => ()) port.queues other.queues :=
    indistinct_model each Function.injective_id (fun _ _ => rfl) trivial trivial
  rw [model]
  constructor
  · intro same
    have sent := same.reply .txData
    have count := same.reply .rxRemaining
    have received := same.reply (.read [] port.queues.pending.length)
    simp only [SerialPort.Queues.perform,SerialPort.Reply.bytes.injEq,SerialPort.Reply.int.injEq,Nat.cast_inj,
      SerialPort.Reply.copied.injEq,List.nil_append] at sent count received
    have pending := received.2
    rw [List.take_length,count,List.take_length] at pending
    exact congrArg₂ SerialPort.Queues.mk sent pending
  · intro same
    rw [same]
    exact .refl _

end Edtf.BusObservations

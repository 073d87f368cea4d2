import Mathlib.Tactic
import Edtf.DriverScripts

namespace Edtf.I2CAbstraction
open ByteText I2CBus I2CScript DriverScripts

-- What the mock is for, without its maps, its cursor and its texts: memories of bytes that
-- start as zero, the part of the script that is still to come, and the log.
structure AbstractBus where
  memory : UInt8 → Option (UInt8 → UInt8)
  script : Option (List Transaction)
  log : List Transaction

def AbstractBus.new : AbstractBus := ⟨fun _ => none,none,[]⟩

inductive Problem where
  | noDevice (addr : UInt8)
  | exhausted (actual : Transaction)
  | mismatch (expected actual : Transaction)
  deriving DecidableEq, Repr

inductive Answer where
  | done
  | byte (value : UInt8)
  | flag (value : Bool)
  | verdict (missing : Option (Nat × Transaction))
  | refused (problem : Problem)
  deriving DecidableEq, Repr

def store (bus : AbstractBus) (addr reg value : UInt8) : AbstractBus :=
  {bus with memory := Function.update bus.memory addr ((bus.memory addr).map fun m => Function.update m reg value)}

def record (bus : AbstractBus) (t : Transaction) : AbstractBus := {bus with log := bus.log ++ [t]}

def expect (bus : AbstractBus) (t : Transaction) : AbstractBus := {bus with script := some (bus.script.getD [] ++ [t])}

def onDevice (bus : AbstractBus) (addr : UInt8) (use : (UInt8 → UInt8) → Answer × AbstractBus) : Answer × AbstractBus :=
  match bus.memory addr with
  | none => (.refused (.noDevice addr),bus)
  | some memory => use memory

def letThrough (bus : AbstractBus) (t : Transaction) (carry : AbstractBus → Answer × AbstractBus) : Answer × AbstractBus :=
  match bus.script with
  | none => carry bus
  | some [] => (.refused (.exhausted t),bus)
  | some (next :: later) =>
    if next.request = t.request then carry {bus with script := some later} else (.refused (.mismatch next t),bus)

def shortOf (script : Option (List Transaction)) : Option (Nat × Transaction) :=
  match script with
  | some (next :: later) => some (later.length+1,next)
  | _ => none

def respond (bus : AbstractBus) : Call → Answer × AbstractBus
  | .attachDevice addr initial =>
    (.done,{bus with memory := Function.update bus.memory addr (some fun reg => (initial reg).getD 0)})
  | .hasDevice addr => (.flag (bus.memory addr).isSome,bus)
  | .setRegister addr reg value => onDevice bus addr fun _ => (.done,store bus addr reg value)
  | .getRegister addr reg => onDevice bus addr fun memory => (.byte (memory reg),bus)
  | .readRegister addr reg => onDevice bus addr fun memory =>
    let t : Transaction := ⟨.read,addr,reg,memory reg⟩
    letThrough bus t fun now => (.byte (memory reg),record now t)
  | .writeRegister addr reg value => onDevice bus addr fun _ =>
    let t : Transaction := ⟨.write,addr,reg,value⟩
    letThrough bus t fun now => (.done,record (store now addr reg value) t)
  | .expectRead addr reg returns => onDevice bus addr fun _ =>
    (.done,expect (store bus addr reg returns) ⟨.read,addr,reg,returns⟩)
  | .expectWrite addr reg value => (.done,expect bus ⟨.write,addr,reg,value⟩)
  | .verify => (.verdict (shortOf bus.script),bus)
  | .clearLog => (.done,{bus with log := []})

def Problem.error : Problem → HardwareError
  | .noDevice addr => I2CBus.noDevice addr
  | .exhausted actual => I2CBus.exhausted actual
  | .mismatch expected actual => I2CBus.mismatch expected actual

def verdictText : Option (Nat × Transaction) → Str
  | none => []
  | some (count,next) => natText count ++ text " expected transaction(s) never occurred (next expected: " ++
      describe next ++ text ")"

def Answer.reply : Answer → Reply
  | .done => .done
  | .byte value => .byte value
  | .flag value => .flag value
  | .verdict missing => .message (verdictText missing)
  | .refused problem => .rejected problem.error

-- The mock as the abstract bus sees it: an absent register of a device is a zero byte.
def bytes (registers : RegisterMap) : UInt8 → UInt8 := fun reg => (registers reg).getD 0

def view (bus : MockI2CBus) : AbstractBus :=
  { memory := fun addr => (bus.devices addr).map bytes
    script := if bus.expectations = [] then none else some (unmet bus)
    log := bus.log }

def Within (bus : MockI2CBus) : Prop := bus.expectCursor ≤ bus.expectations.length

structure Refines (call : Call) (bus : MockI2CBus) : Prop where
  reply : (step bus call).1 = (respond (view bus) call).1.reply
  state : view (step bus call).2 = (respond (view bus) call).2
  within : Within (step bus call).2

theorem view_present (present : MockI2CBus.devices bus addr = some registers) :
    (view bus).memory addr = some (bytes registers) := by
  rw [view]
  simp only [present,Option.map_some]

theorem view_absent (absent : MockI2CBus.devices bus addr = none) : (view bus).memory addr = none := by
  rw [view]
  simp only [absent,Option.map_none]

theorem bytes_update (registers : RegisterMap) (reg value : UInt8) :
    bytes (Function.update registers reg (some value)) = Function.update (bytes registers) reg value := by
  funext r
  by_cases same : r = reg
  · subst same
    simp [bytes]
  · simp [bytes,same]

theorem view_assign (bus : MockI2CBus) (addr reg value : UInt8) :
    view (bus.assign addr reg value) = store (view bus) addr reg value := by
  have memory : (view (bus.assign addr reg value)).memory = (store (view bus) addr reg value).memory := by
    funext a
    by_cases here : a = addr
    · subst here
      cases present : bus.devices a <;> simp [view,store,MockI2CBus.assign,present,bytes_update]
    · simp [view,store,MockI2CBus.assign,here]
  exact congrArg (fun m => ({view bus with memory := m} : AbstractBus)) memory

theorem view_expect (within : Within bus) (t : Transaction) :
    view {bus with expectations := bus.expectations ++ [t]} = expect (view bus) t := by
  have queued : (bus.expectations ++ [t]).drop bus.expectCursor = bus.expectations.drop bus.expectCursor ++ [t] :=
    List.drop_append_of_le_length within
  simp only [view,expect,unmet,queued,AbstractBus.mk.injEq,true_and,and_true]
  by_cases free : bus.expectations = []
  · simp [free]
  · simp [free]

theorem view_advance (scripted : MockI2CBus.expectations bus ≠ []) :
    view bus.advance = {view bus with script := some (unmet bus).tail} := by
  simp only [view,MockI2CBus.advance,if_neg scripted,unmet,List.tail_drop]

theorem onDevice_present {use : (UInt8 → UInt8) → Answer × AbstractBus}
    (present : MockI2CBus.devices bus addr = some registers) : onDevice (view bus) addr use = use (bytes registers) := by
  rw [onDevice,view_present present]

theorem onDevice_absent {use : (UInt8 → UInt8) → Answer × AbstractBus}
    (absent : MockI2CBus.devices bus addr = none) :
    onDevice (view bus) addr use = (.refused (.noDevice addr),view bus) := by
  rw [onDevice,view_absent absent]

theorem refines_step {call : Call} (within : Within next) (ran : step bus call = (reply,next))
    (specified : respond (view bus) call = (answer,view next)) (same : reply = answer.reply) : Refines call bus := by
  refine ⟨?_,?_,?_⟩
  · rw [ran,specified]
    exact same
  · rw [ran,specified]
  · rw [ran]
    exact within

theorem refines_done {call : Call} (within : Within next) (ran : step bus call = (.done,next))
    (specified : respond (view bus) call = (.done,view next)) : Refines call bus :=
  refines_step within ran specified rfl

theorem step_serve (bus : MockI2CBus) (request : Request) : step bus request.call =
    (match (serve bus request).1 with
      | .ok answer => (transactionOf ⟨request,answer⟩).reply
      | .error error => .rejected error,(serve bus request).2) := by
  cases request with
  | read addr reg =>
    cases ran : readRegister addr reg bus with
    | ok value next =>
      have served : serve bus (.read addr reg) = (.ok value,next) := outcome_ok ran
      rw [served]
      exact step_ok (KeptState.bind_ok ran)
    | error error next =>
      have served : serve bus (.read addr reg) = (.error error,next) := outcome_error ran
      rw [served]
      exact step_error (KeptState.bind_error ran)
  | write addr reg value =>
    cases ran : writeRegister addr reg value bus with
    | ok value next =>
      have served : serve bus (.write addr reg _) = (.ok value,next) := outcome_ok ran
      rw [served]
      exact step_ok (KeptState.bind_ok ran)
    | error error next =>
      have served : serve bus (.write addr reg _) = (.error error,next) := outcome_error ran
      rw [served]
      exact step_error (KeptState.bind_error ran)

theorem letThrough_accepted {carry : AbstractBus → Answer × AbstractBus} {request : Request} {registers : RegisterMap}
    (admitted : MockI2CBus.Admits bus (request.transaction registers)) :
    letThrough (view bus) (request.transaction registers) carry = carry (view bus.advance) := by
  by_cases free : bus.expectations = []
  · have same : bus.advance = bus := if_pos free
    rw [same]
    simp only [letThrough,view,if_pos free]
  · have next := ((admits_next bus request registers).mp admitted).resolve_left free
    rw [view_advance free]
    cases waiting : unmet bus with
    | nil =>
      rw [waiting] at next
      cases next
    | cons first later =>
      rw [waiting] at next
      have fits : first.request = (request.transaction registers).request :=
        (Option.some.inj next).trans (request_transaction request registers).symm
      simp only [letThrough,view,if_neg free,waiting,if_pos fits,List.tail_cons]

def problemOf (waiting : List Transaction) (t : Transaction) : Problem :=
  match waiting with
  | [] => .exhausted t
  | next :: _ => .mismatch next t

theorem letThrough_denied {carry : AbstractBus → Answer × AbstractBus} {request : Request} {registers : RegisterMap}
    (denied : ¬MockI2CBus.Admits bus (request.transaction registers)) :
    letThrough (view bus) (request.transaction registers) carry =
      (.refused (problemOf (unmet bus) (request.transaction registers)),view bus) := by
  have scripted : bus.expectations ≠ [] := fun free => denied (.inl free)
  cases waiting : unmet bus with
  | nil => simp only [letThrough,view,if_neg scripted,waiting,problemOf]
  | cons first later =>
    have unfit : ¬first.request = (request.transaction registers).request := by
      intro fits
      refine denied ((admits_next bus request registers).mpr (.inr ?_))
      rw [waiting]
      exact congrArg some (fits.trans (request_transaction request registers))
    simp only [letThrough,view,if_neg scripted,waiting,if_neg unfit,problemOf]

theorem problem_refusal (waiting : List Transaction) (request : Request) (registers : RegisterMap) :
    refusal waiting ⟨request,answerOf registers request⟩ = (problemOf waiting (request.transaction registers)).error := by
  have same := transactionOf_answer registers request
  cases waiting with
  | nil => exact congrArg I2CBus.exhausted same
  | cons next later => exact congrArg (I2CBus.mismatch next) same

theorem commit_within (within : Within bus) {request : Request} {registers : RegisterMap}
    (admitted : bus.Admits (request.transaction registers)) : Within (bus.commit (request.transaction registers)) := by
  have fields := commit_script bus (request.transaction registers)
  unfold Within at within ⊢
  rw [fields.1,fields.2]
  by_cases free : bus.expectations = []
  · rw [if_pos free]
    exact within
  · rw [if_neg free]
    rcases admitted with none | ⟨e,entry,_⟩
    · exact absurd none free
    · exact (List.getElem?_eq_some_iff.mp entry).1

theorem respond_request (present : MockI2CBus.devices bus (Request.addr request) = some registers) :
    respond (view bus) request.call = letThrough (view bus) (request.transaction registers) fun now =>
      match request with
      | .read _ reg => (.byte (bytes registers reg),record now (request.transaction registers))
      | .write addr reg value => (.done,record (store now addr reg value) (request.transaction registers)) := by
  cases request with
  | read addr reg => exact onDevice_present present
  | write addr reg value => exact onDevice_present present

theorem request_refines (within : Within bus) (request : Request) : Refines request.call bus := by
  cases present : bus.devices request.addr with
  | none =>
    have specified : respond (view bus) request.call = (.refused (.noDevice request.addr),view bus) := by
      cases request with
      | read addr reg => exact onDevice_absent present
      | write addr reg value => exact onDevice_absent present
    exact refines_step within (step_unattached present) specified rfl
  | some registers =>
    by_cases admitted : bus.Admits (request.transaction registers)
    · have carried := step_accepted present admitted
      have specified := respond_request present
      rw [letThrough_accepted admitted] at specified
      have kept := commit_within within admitted
      cases request with
      | read addr reg => exact refines_step kept carried specified rfl
      | write addr reg value =>
        refine refines_done kept carried (specified.trans ?_)
        exact congrArg (fun now => (Answer.done,record now ⟨.write,addr,reg,value⟩))
          (view_assign bus.advance addr reg value).symm
    · have refused := step_serve bus request
      rw [serve_denied present admitted] at refused
      have specified := respond_request present
      rw [letThrough_denied admitted] at specified
      exact refines_step within refused specified (congrArg Reply.rejected (problem_refusal _ request registers))

theorem verdict_text (bus : MockI2CBus) : verify bus = verdictText (shortOf (view bus).script) := by
  rw [verify_shortfall]
  by_cases free : bus.expectations = []
  · have none : unmet bus = [] := by rw [unmet,free,List.drop_nil]
    rw [none,view]
    simp only [if_pos free]
    rfl
  · rw [view]
    simp only [if_neg free]
    cases unmet bus <;> rfl

theorem call_refines (within : Within bus) (call : Call) : Refines call bus := by
  cases call with
  | readRegister addr reg => exact request_refines within (.read addr reg)
  | writeRegister addr reg value => exact request_refines within (.write addr reg value)
  | hasDevice addr =>
    refine refines_step within (step_hasDevice bus addr) rfl ?_
    simp only [view,Answer.reply,I2CBus.hasDevice,Option.isSome_map]
  | verify => exact refines_step within (step_verify bus) rfl (congrArg Reply.message (verdict_text bus))
  | clearLog =>
    have kept : Within {bus with log := []} := within
    exact refines_done kept (step_clearLog bus) rfl
  | attachDevice addr initial =>
    refine refines_done ?_ (step_attachDevice bus addr initial) ?_
    · exact within
    · have memory : Function.update (view bus).memory addr (some fun reg => (initial reg).getD 0) =
          (view {bus with devices := Function.update bus.devices addr (some initial)}).memory := by
        funext a
        by_cases here : a = addr
        · subst here
          simp only [view,Function.update_self,Option.map_some]
          rfl
        · simp only [view,Function.update_of_ne here]
      rw [respond,memory]
      rfl
  | setRegister addr reg value =>
    cases present : bus.devices addr with
    | none => exact refines_step within (step_setRegister_absent present) (onDevice_absent present) rfl
    | some registers =>
      refine refines_done ?_ (step_setRegister_present present) ((onDevice_present present).trans ?_)
      · exact within
      · rw [view_assign]
  | getRegister addr reg =>
    cases present : bus.devices addr with
    | none => exact refines_step within (step_getRegister_absent present) (onDevice_absent present) rfl
    | some registers => exact refines_step within (step_getRegister_present present) (onDevice_present present) rfl
  | expectWrite addr reg value =>
    refine refines_done ?_ (step_expectWrite bus addr reg value) ?_
    · exact Nat.le_trans within (by simp)
    · rw [respond,view_expect within]
  | expectRead addr reg returns =>
    cases present : bus.devices addr with
    | none => exact refines_step within (step_expectRead_absent present) (onDevice_absent present) rfl
    | some registers =>
      refine refines_done ?_ (step_expectRead_present present) ((onDevice_present present).trans ?_)
      · exact Nat.le_trans within (by simp)
      · have kept : Within (bus.assign addr reg returns) := within
        have queued := view_expect kept ⟨.read,addr,reg,returns⟩
        rw [view_assign] at queued
        rw [← queued]
        rfl

theorem new_within : Within .new := Nat.le_refl _

theorem call_kept (bus : MockI2CBus) (call : Call) (within : Within bus) :
    (step bus call).1 = (respond (view bus) call).1.reply ∧ view (step bus call).2 = (respond (view bus) call).2 ∧
      Within (step bus call).2 :=
  have refines := call_refines within call
  ⟨refines.reply,refines.state,refines.within⟩

-- Any number of calls, in any order: the mock gives the answers of the abstract bus, put
-- into its texts.
theorem bus_abstracts (calls : List Call) :
    seen .new calls = (Histories.seen respond .new calls).map (fun event => (event.1,event.2.reply)) ∧
      view (after .new calls) = Histories.after respond .new calls :=
  Histories.history_refined step view Answer.reply call_kept new_within calls

end Edtf.I2CAbstraction

import Mathlib.Tactic
import Edtf.DriverScripts
import Edtf.SharedServers

namespace Edtf.SharedBus
open I2CBus I2CPromises Clients SharedServers DriverScripts
open I2CMemory (commit_log)

-- Several drivers on one bus, each at addresses of its own.
variable {ι : Type} [DecidableEq ι] {owner : UInt8 → ι}

def devicesOf (owner : UInt8 → ι) (i : ι) (bus : MockI2CBus) : UInt8 → Option RegisterMap :=
  fun addr => if owner addr = i then bus.devices addr else none

def logOf (owner : UInt8 → ι) (i : ι) (log : List Transaction) : List Transaction :=
  log.filter fun t => owner t.addr = i

def part (owner : UInt8 → ι) (i : ι) (bus : MockI2CBus) : (UInt8 → Option RegisterMap) × List Transaction :=
  (devicesOf owner i bus,logOf owner i bus.log)

def Owned (owner : UInt8 → ι) (i : ι) (request : Request) : Prop := owner request.addr = i

theorem part_device (same : part owner i bus = part owner i other) (mine : owner addr = i) :
    MockI2CBus.devices bus addr = MockI2CBus.devices other addr := by
  have devices := congrFun (congrArg Prod.fst same) addr
  simpa only [part,devicesOf,mine,if_true] using devices

theorem logOf_append (owner : UInt8 → ι) (i : ι) (first second : List Transaction) :
    logOf owner i (first ++ second) = logOf owner i first ++ logOf owner i second := List.filter_append _ _

theorem transaction_addr (request : Request) (registers : RegisterMap) :
    (request.transaction registers).addr = request.addr := by
  cases request <;> rfl

theorem part_commit (bus : MockI2CBus) (t : Transaction) (i : ι) : part owner i (bus.commit t) =
    if owner t.addr = i then
      (match t.op with
        | .read => devicesOf owner i bus
        | .write => devicesOf owner i (bus.assign t.addr t.reg t.value),logOf owner i bus.log ++ [t])
    else part owner i bus := by
  have devices := commit_devices bus t
  have log := commit_log bus t
  rcases t with ⟨op,addr,reg,value⟩
  by_cases mine : owner addr = i
  · rw [if_pos mine]
    refine Prod.ext ?_ (by simp [part,logOf,log,mine])
    cases op with
    | read => exact congrArg (fun now a => if owner a = i then now a else none) devices
    | write => exact congrArg (fun now a => if owner a = i then now a else none) devices
  · rw [if_neg mine]
    refine Prod.ext (funext fun a => ?_) (by simp [part,logOf,log,mine])
    simp only [part,devicesOf,devices]
    by_cases here : owner a = i
    · have apart : a ≠ addr := fun same => mine (same ▸ here)
      cases op <;> simp [here,MockI2CBus.assign,apart]
    · simp only [if_neg here]

theorem part_assign (same : part owner i bus = part owner i other) (mine : owner addr = i) (reg value : UInt8) :
    devicesOf owner i (MockI2CBus.assign bus addr reg value) = devicesOf owner i (MockI2CBus.assign other addr reg value) := by
  funext a
  unfold devicesOf
  by_cases here : owner a = i
  · have device := part_device same here
    by_cases target : a = addr
    · subst target
      simp [MockI2CBus.assign,device]
    · simp [MockI2CBus.assign,target,device]
  · simp only [if_neg here]

theorem bus_apart : Apart serve (fun bus => bus.expectations = []) (Owned owner) (part owner) := by
  refine ⟨fun bus request free => (serve_expectations bus request).trans free,?_,?_⟩
  · intro i bus other request free free' mine same
    have device := part_device same mine
    cases present : bus.devices request.addr with
    | none =>
      rw [serve_unattached present,serve_unattached (device.symm.trans present)]
      exact ⟨rfl,same⟩
    | some registers =>
      rw [serve_free present free,serve_free (device.symm.trans present) free']
      have target := transaction_addr request registers
      have here : owner request.addr = i := mine
      have devices : devicesOf owner i bus = devicesOf owner i other := congrArg Prod.fst same
      refine ⟨rfl,?_⟩
      simp only
      rw [part_commit,part_commit,target,if_pos here,if_pos here]
      refine Prod.ext ?_ (congrArg (· ++ _) (congrArg Prod.snd same))
      cases (request.transaction registers).op with
      | read => exact devices
      | write => exact part_assign same mine _ _
  · intro i j bus request free mine different
    cases present : bus.devices request.addr with
    | none => rw [serve_unattached present]
    | some registers =>
      rw [serve_free present free]
      have target := transaction_addr request registers
      simp only
      rw [part_commit,target,if_neg]
      exact fun other => different (other.symm.trans mine)

-- What becomes of one driver among the others, by what it does alone on the same bus.
structure Undisturbed (owner : UInt8 → ι) (bus : MockI2CBus) (drivers : ι → Driver R) (schedule : List ι) (i : ι) : Prop where
  soFar : (shared serve (fun k => begun HardwareError (drivers k)) bus schedule).1 i =
    (alone serve (begun HardwareError (drivers i)) bus (schedule.count i)).1
  part : part owner i (shared serve (fun k => begun HardwareError (drivers k)) bus schedule).2 =
    part owner i (alone serve (begun HardwareError (drivers i)) bus (schedule.count i)).2
  finished : (run serve (drivers i) bus).traffic.length < schedule.count i →
    (shared serve (fun k => begun HardwareError (drivers k)) bus schedule).1 i =
      ⟨(run serve (drivers i) bus).result.map .done,(run serve (drivers i) bus).traffic⟩
  devices : (run serve (drivers i) bus).traffic.length < schedule.count i → ∀ addr, owner addr = i →
    (shared serve (fun k => begun HardwareError (drivers k)) bus schedule).2.devices addr =
      (run serve (drivers i) bus).state.devices addr
  log : (run serve (drivers i) bus).traffic.length < schedule.count i →
    logOf owner i (shared serve (fun k => begun HardwareError (drivers k)) bus schedule).2.log =
      logOf owner i bus.log ++ (run serve (drivers i) bus).traffic.map transactionOf

omit [DecidableEq ι] in
theorem traffic_owned {driver : Driver R} (allowed : Allowed (Owned owner i) driver) (bus : MockI2CBus) :
    ∀ t ∈ (run serve driver bus).traffic.map transactionOf, owner t.addr = i := by
  induction driver generalizing bus with
  | done result => exact fun t member => nomatch member
  | ask request next ih =>
    obtain ⟨mine,later⟩ := allowed
    cases reply : serve bus request with
    | mk answer after =>
      cases answer with
      | error error =>
        rw [run_refused serve reply]
        exact fun t member => nomatch member
      | ok answer =>
        rw [run_answered serve reply]
        intro t member
        rcases List.mem_cons.mp member with rfl | rest
        · cases request <;> exact mine
        · exact ih answer (later answer) after t rest

theorem drivers_undisturbed (free : MockI2CBus.expectations bus = []) {drivers : ι → Driver R}
    (allowed : ∀ i, Allowed (Owned owner i) (drivers i)) (schedule : List ι) (i : ι) :
    Undisturbed owner bus drivers schedule i := by
  have owned : ∀ k, (begun HardwareError (drivers k)).Allowed (Owned owner k) := by
    intro k client left
    cases left
    exact allowed k
  obtain ⟨soFar,seen⟩ := shared_alone bus_apart owned free free rfl schedule (i := i)
  have whole : (run serve (drivers i) bus).traffic.length < schedule.count i →
      alone serve (begun HardwareError (drivers i)) bus (schedule.count i) =
        (⟨(run serve (drivers i) bus).result.map .done,(run serve (drivers i) bus).traffic⟩,
          (run serve (drivers i) bus).state) := fun enough => alone_run serve (drivers i) [] bus enough
  refine ⟨soFar,seen,fun enough => ?_,fun enough addr mine => ?_,fun enough => ?_⟩
  · rw [soFar,whole enough]
  · rw [whole enough] at seen
    exact part_device seen mine
  · rw [whole enough] at seen
    have logs : logOf owner i _ = logOf owner i _ := congrArg Prod.snd seen
    rw [logs,run_log,logOf_append]
    congr 1
    exact List.filter_eq_self.mpr fun t member => decide_eq_true (traffic_owned (allowed i) bus t member)

def sensors : MockI2CBus := after .new [.attachDevice 0x48 fun _ => none,.attachDevice 0x49 fun _ => none]

def sensorDriver (first : Bool) : Driver (Except HardwareError Unit) := setBits (if first then 0x48 else 0x49) 0x01 0x81

theorem sensors_undisturbed :
    Undisturbed (fun addr : UInt8 => decide (addr = 0x48)) sensors sensorDriver [true,false,false,true,true,false] false := by
  refine drivers_undisturbed rfl (fun first => ?_) _ false
  cases first <;> exact ⟨rfl,fun _ => ⟨rfl,fun _ => trivial⟩⟩

end Edtf.SharedBus

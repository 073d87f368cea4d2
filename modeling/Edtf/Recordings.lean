import Mathlib.Tactic
import Edtf.DriverScripts
import Edtf.MemoryTraces

namespace Edtf.Recordings
open KeptState I2CBus I2CScript I2CPromises Clients DriverScripts MemoryTraces

-- A register of the bus is a key of its memory; one that was never given reads as 0.
abbrev Key := UInt8 × UInt8

def accessOf (t : Transaction) : Access Key UInt8 :=
  match t.op with
  | .read => .read (t.addr,t.reg) t.value
  | .write => .write (t.addr,t.reg) t.value

def contents (bus : MockI2CBus) (key : Key) : UInt8 := (registerAt bus key.1 key.2).getD 0

def traceOf (traffic : List (Exchange Request Answer)) : List (Access Key UInt8) :=
  traffic.map fun exchange => accessOf (transactionOf exchange)

theorem commit_read (bus : MockI2CBus) (addr reg value : UInt8) : contents (bus.commit ⟨.read,addr,reg,value⟩) = contents bus := by
  funext key
  rw [contents,contents,registerAt,registerAt,commit_devices]

theorem commit_write {bus : MockI2CBus} (attached : hasDevice addr bus = true) (reg value : UInt8) :
    contents (bus.commit ⟨.write,addr,reg,value⟩) = Function.update (contents bus) (addr,reg) value := by
  funext key
  rw [contents,registerAt,commit_devices]
  have assigned := assign_register (r := reg) (v := value) attached key.1 key.2
  rw [registerAt] at assigned
  simp only [assigned]
  by_cases same : key = (addr,reg)
  · rw [same,if_pos ⟨rfl,rfl⟩,Function.update_self,Option.getD_some]
  · have other : ¬(addr = key.1 ∧ reg = key.2) := fun both => same (Prod.ext both.1.symm both.2.symm)
    rw [if_neg other,Function.update_of_ne same,contents]

theorem commit_attached (bus : MockI2CBus) (t : Transaction) (addr : UInt8) :
    hasDevice addr (bus.commit t) = hasDevice addr bus := by
  have devices := commit_devices bus t
  rcases t with ⟨op,a,reg,value⟩
  cases op with
  | read => exact congrArg (fun d => (d addr).isSome) devices
  | write => exact (congrArg (fun d => (d addr).isSome) devices).trans (assign_attached bus a reg value addr)

theorem answer_contents {bus : MockI2CBus} (present : bus.devices addr = some registers) (reg : UInt8) :
    (registers reg).getD 0 = contents bus (addr,reg) := by
  rw [contents,registerAt,present,Option.bind_some]

structure Serves (bus : MockI2CBus) (request : Request) (registers : RegisterMap) : Prop where
  served : serve bus request = (.ok (answerOf registers request),bus.commit (request.transaction registers))
  free : (bus.commit (request.transaction registers)).expectations = []

theorem free_serves {request : Request} (free : MockI2CBus.expectations bus = [])
    (present : bus.devices request.addr = some registers) : Serves bus request registers :=
  ⟨serve_free present free,(commit_script bus _).1.trans free⟩

theorem run_legal (free : MockI2CBus.expectations bus = []) (driver : Driver R) :
    Legal (contents bus) (traceOf (run serve driver bus).traffic) := by
  induction driver generalizing bus with
  | done value => exact trivial
  | ask request next ih =>
    cases present : bus.devices request.addr with
    | none =>
      rw [run_refused serve (serve_unattached present)]
      exact trivial
    | some registers =>
      have serves := free_serves free present
      have later := ih (answerOf registers request) serves.free
      rw [run_answered serve serves.served]
      cases request with
      | read addr reg =>
        rw [Request.transaction,commit_read] at later
        exact ⟨answer_contents present reg,later⟩
      | write addr reg value =>
        have attached : hasDevice addr bus = true := Option.isSome_iff_exists.mpr ⟨registers,present⟩
        rw [Request.transaction,commit_write attached] at later
        exact later

-- A driver that runs on one free bus runs the same on every other one on which its
-- transactions are legal. Induction on the driver.
theorem legal_run (free : MockI2CBus.expectations bus = []) (free' : MockI2CBus.expectations other = [])
    (attached : ∀ addr, hasDevice addr other = hasDevice addr bus) (driver : Driver R)
    (legal : Legal (contents other) (traceOf (run serve driver bus).traffic)) :
    (run serve driver other).traffic = (run serve driver bus).traffic ∧
      (run serve driver other).result = (run serve driver bus).result := by
  induction driver generalizing bus other with
  | done value => exact ⟨rfl,rfl⟩
  | ask request next ih =>
    have here := attached request.addr
    cases present : bus.devices request.addr with
    | none =>
      have absent : other.devices request.addr = none := by
        rw [hasDevice,hasDevice,present] at here
        exact Option.not_isSome_iff_eq_none.mp (by rw [here]; decide)
      rw [run_refused serve (serve_unattached present),run_refused serve (serve_unattached absent)]
      exact ⟨rfl,rfl⟩
    | some registers =>
      obtain ⟨registers',present'⟩ : ∃ registers', other.devices request.addr = some registers' := by
        rw [hasDevice,hasDevice,present] at here
        exact Option.isSome_iff_exists.mp here
      have serves := free_serves free present
      have serves' := free_serves free' present'
      have same : ∀ t t' addr, hasDevice addr (other.commit t') = hasDevice addr (bus.commit t) := fun t t' addr => by
        rw [commit_attached,commit_attached,attached]
      rw [run_answered serve serves.served] at legal ⊢
      rw [run_answered serve serves'.served]
      cases request with
      | read addr reg =>
        have now : (registers reg).getD 0 = (registers' reg).getD 0 := by
          rw [answer_contents present' reg]
          exact legal.1
        have later := ih (answerOf registers (.read addr reg)) serves.free serves'.free (same _ _)
          (by rw [Request.transaction,commit_read]; exact legal.2)
        simp only [answerOf,now] at later ⊢
        exact ⟨congrArg (List.cons _) later.1,later.2⟩
      | write addr reg value =>
        have present'' : hasDevice addr other = true := Option.isSome_iff_exists.mpr ⟨registers',present'⟩
        have later := ih () serves.free serves'.free (same _ _)
          (by rw [Request.transaction,commit_write present'']; exact legal)
        exact ⟨congrArg (List.cons _) later.1,later.2⟩

theorem run_attached (free : MockI2CBus.expectations bus = []) (driver : Driver R) :
    ∀ exchange ∈ (run serve driver bus).traffic, hasDevice exchange.1.addr bus = true := by
  induction driver generalizing bus with
  | done value => exact fun _ member => absurd member List.not_mem_nil
  | ask request next ih =>
    cases present : bus.devices request.addr with
    | none =>
      rw [run_refused serve (serve_unattached present)]
      exact fun _ member => absurd member List.not_mem_nil
    | some registers =>
      have serves := free_serves free present
      rw [run_answered serve serves.served]
      intro exchange member
      rcases List.mem_cons.mp member with rfl | later
      · exact Option.isSome_iff_exists.mpr ⟨registers,present⟩
      · exact (commit_attached bus _ _).symm.trans (ih _ serves.free exchange later)

theorem run_final (free : MockI2CBus.expectations bus = []) (driver : Driver R) :
    contents (run serve driver bus).state = final (contents bus) (traceOf (run serve driver bus).traffic) := by
  induction driver generalizing bus with
  | done value => rfl
  | ask request next ih =>
    cases present : bus.devices request.addr with
    | none =>
      rw [run_refused serve (serve_unattached present)]
      rfl
    | some registers =>
      have serves := free_serves free present
      have later := ih (answerOf registers request) serves.free
      rw [run_answered serve serves.served]
      refine later.trans (funext fun key => ?_)
      cases request with
      | read addr reg =>
        rw [Request.transaction,commit_read]
        rfl
      | write addr reg value =>
        have attached : hasDevice addr bus = true := Option.isSome_iff_exists.mpr ⟨registers,present⟩
        rw [Request.transaction,commit_write attached]
        exact (lastWritten_write (addr,reg) value _ key (contents bus)).symm

def recording (bus : MockI2CBus) (driver : Driver R) : List Transaction := (run serve driver bus).traffic.map transactionOf

theorem latest_lastRead (entries : List Transaction) (addr reg : UInt8) :
    lastRead (entries.map accessOf) (addr,reg) = latest .read entries addr reg := by
  induction entries using List.reverseRecOn with
  | nil => rfl
  | append_singleton entries t ih =>
    rw [latest_snoc,← ih,List.map_append,lastRead,List.map_singleton,Histories.last_snoc,lastRead]
    rcases t with ⟨op,a,r,value⟩
    cases op with
    | write => rw [if_neg (by simp)]; rfl
    | read =>
      simp only [accessOf,Access.reads?,true_and,Prod.mk.injEq]
      split <;> rfl

theorem seeded_contents (clean : Unscripted bus) (attached : ∀ t ∈ entries, hasDevice t.addr bus = true) :
    contents (seeded bus entries) = overlay (contents bus) (entries.map accessOf) := by
  have seeds : Installed entries bus bus (seeded bus entries) (installed bus entries) :=
    install_seeds rfl rfl fun t member _ => attached t member
  funext key
  have queued := (install_queued clean attached).registers key.1 key.2
  rw [contents,registerAt,seeds.devices,overlay,latest_lastRead]
  rw [registerAt] at queued
  rw [queued,contents]
  cases latest .read entries key.1 key.2 <;> rfl

theorem recording_attached (free : MockI2CBus.expectations bus = []) (driver : Driver R) :
    ∀ t ∈ recording bus driver, hasDevice t.addr bus = true := by
  intro t member
  obtain ⟨⟨request,answer⟩,made,rfl⟩ := List.mem_map.mp member
  have attached := run_attached free driver _ made
  cases request <;> exact attached

theorem recording_requests (bus : MockI2CBus) (driver : Driver R) :
    (recording bus driver).map (·.request) = asked (run serve driver bus).traffic := by
  rw [recording,List.map_map,asked]
  exact List.map_congr_left fun exchange _ => by
    rcases exchange with ⟨request,answer⟩
    cases request <;> rfl

theorem scripted_front (clean : Unscripted bus) (attached : ∀ t ∈ entries, t.op = .read → hasDevice t.addr bus = true)
    (driver : Driver R) : (scriptedRun bus entries driver).traffic <+: (freeRun bus entries driver).traffic := by
  by_cases none : entries = []
  · subst none
    exact List.prefix_refl _
  · rcases first_difference (·.request) (asked (freeRun bus entries driver).traffic) entries with
      within | ⟨expected,question,later,rest,split,same,differs⟩
    · rw [(script_within clean attached driver none within).traffic]
    · obtain ⟨met,tail,traffic,before,after⟩ := List.map_eq_append_iff.mp split
      obtain ⟨exchange,more,rfl,rfl,_⟩ := List.map_eq_cons_iff.mp after
      rw [(script_astray clean attached driver same none traffic before differs).traffic,traffic]
      exact List.prefix_append _ _

structure Replayed (recorded replay : Served MockI2CBus Request Answer HardwareError R) : Prop where
  traffic : replay.traffic = recorded.traffic
  result : replay.result = recorded.result
  registers : contents replay.state = contents recorded.state
  verdict : verify replay.state = []

-- Under the log of its own run, taken as a script on the bus it ran on, a driver does the
-- same again exactly if no register that it reads before it writes it is later read with
-- another value: the seed of the last expect_read would take the place of the first.
theorem recording_replays (clean : Unscripted bus) (driver : Driver R) :
    (run serve driver bus).state.log = bus.log ++ recording bus driver ∧
      ((scriptedRun bus (recording bus driver) driver).traffic = (run serve driver bus).traffic ↔
        Steady (traceOf (run serve driver bus).traffic)) ∧
      (Steady (traceOf (run serve driver bus).traffic) →
        Replayed (run serve driver bus) (scriptedRun bus (recording bus driver) driver)) := by
  have attached := recording_attached clean.free driver
  have reads : ∀ t ∈ recording bus driver, t.op = .read → hasDevice t.addr bus = true := fun t member _ => attached t member
  have legal := run_legal clean.free driver
  have seeds : Installed (recording bus driver) bus bus (seeded bus (recording bus driver)) (installed bus (recording bus driver)) :=
    install_seeds rfl rfl reads
  have free : (seeded bus (recording bus driver)).expectations = [] := seeds.free.trans clean.free
  have seeding : contents (seeded bus (recording bus driver)) =
      overlay (contents bus) (traceOf (run serve driver bus).traffic) := by
    rw [seeded_contents clean attached,recording,List.map_map]
    rfl
  have replayed : Steady (traceOf (run serve driver bus).traffic) →
      Replayed (run serve driver bus) (scriptedRun bus (recording bus driver) driver) := by
    intro steady
    obtain ⟨traffic,result⟩ := legal_run clean.free free (seeds_attached bus _) driver
      (by rw [seeding]; exact (overlay_legal legal).mpr steady)
    have registers := run_final free driver
    rw [seeding,traffic,overlay_final legal,← run_final clean.free driver] at registers
    by_cases none : recording bus driver = []
    · rw [none] at traffic result registers ⊢
      have quiet : (scriptedRun bus [] driver).state.expectations = [] :=
        run_invariant serve (fun now request held => (serve_expectations now request).trans held) clean.free driver
      refine ⟨traffic,result,registers,?_⟩
      rw [verify_shortfall,unmet,quiet,List.drop_nil,shortfall]
    · have whole : asked (freeRun bus (recording bus driver) driver).traffic = (recording bus driver).map (·.request) := by
        rw [recording_requests,traffic]
      obtain ⟨result',traffic',left⟩ := script_within clean reads driver none (by rw [whole])
      refine ⟨traffic'.symm.trans traffic,result'.symm.trans result,?_,?_⟩
      · rw [← registers]
        funext key
        rw [contents,contents,registerAt,registerAt,left.devices]
      · rw [left.verdict,shortfall_nil,List.drop_eq_nil_iff,traffic,recording,List.length_map]
  refine ⟨run_log driver bus,⟨?_,fun steady => (replayed steady).traffic⟩,replayed⟩
  intro same
  obtain ⟨rest,traffic⟩ := scripted_front clean reads driver
  have again := run_legal free driver
  rw [← traffic,same,traceOf,List.map_append,seeding] at again
  exact (overlay_legal legal).mp (legal_front again)

theorem setBits_replays : Replayed (run serve (setBits 0x48 0x01 0x81 : Driver (Except HardwareError Unit)) sensorBus)
    (scriptedRun sensorBus (recording sensorBus (setBits 0x48 0x01 0x81 : Driver (Except HardwareError Unit)))
      (setBits 0x48 0x01 0x81)) := by
  apply (recording_replays sensorBus_fresh.toUnscripted _).2.2
  rintro (_ | ⟨_,_ | ⟨_,_ | _⟩⟩) key value later split unwritten <;> cases split
  rfl

def setTwice : Driver Unit := (setBits 0x48 0x01 0x81 : Driver (Except Unit Unit)).bind fun _ =>
  (setBits 0x48 0x01 0x81 : Driver (Except Unit Unit)).bind fun _ => .done ()

example : (recording sensorBus setTwice).map (·.value) = [0x00,0x81,0x81,0x81] ∧
    ((scriptedRun sensorBus (recording sensorBus setTwice) setTwice).traffic.map transactionOf).map (·.value) =
      [0x81,0x81,0x81,0x81] := by decide

end Edtf.Recordings

import Mathlib.Tactic
import Edtf.Clients
import Edtf.I2CMemory
import Edtf.I2CPromises

namespace Edtf.DriverScripts
open ByteText KeptState I2CBus I2CScript I2CPromises Clients
open I2CMemory (advance_devices commit_log)

abbrev Answer : Request → Type
  | .read _ _ => UInt8
  | .write _ _ _ => Unit

-- Driver code: it may compute what it likes between two transactions, and a throw of the
-- bus leaves it. Its own results and errors are the type R.
abbrev Driver := Client Request Answer

def outcome (m : BusM α) (bus : MockI2CBus) : Except HardwareError α × MockI2CBus :=
  match m bus with
  | .ok a next => (.ok a,next)
  | .error e next => (.error e,next)

theorem outcome_ok {m : BusM α} (ran : m bus = .ok a next) : outcome m bus = (.ok a,next) := by
  rw [outcome,ran]

theorem outcome_error {m : BusM α} (ran : m bus = .error e next) : outcome m bus = (.error e,next) := by
  rw [outcome,ran]

def serve : Server MockI2CBus Request Answer HardwareError := fun bus request =>
  match request with
  | .read addr reg => outcome (readRegister addr reg) bus
  | .write addr reg value => outcome (writeRegister addr reg value) bus

def transactionOf : Exchange Request Answer → Transaction
  | ⟨.read addr reg,value⟩ => ⟨.read,addr,reg,value⟩
  | ⟨.write addr reg value,_⟩ => ⟨.write,addr,reg,value⟩

def answerOf (registers : RegisterMap) : (request : Request) → Answer request
  | .read _ reg => (registers reg).getD 0
  | .write _ _ _ => ()

theorem transactionOf_answer (registers : RegisterMap) (request : Request) :
    transactionOf ⟨request,answerOf registers request⟩ = request.transaction registers := by
  cases request <;> rfl

-- What the script check throws at a transaction that is not the next one: the entries
-- still unmet decide which of its two texts it is.
def refusal : List Transaction → Exchange Request Answer → HardwareError
  | [],exchange => exhausted (transactionOf exchange)
  | next :: _,exchange => mismatch next (transactionOf exchange)

def shortfall : List Transaction → Str
  | [] => []
  | next :: later => natText (later.length+1) ++ text " expected transaction(s) never occurred (next expected: " ++
      describe next ++ text ")"

def unmet (bus : MockI2CBus) : List Transaction := bus.expectations.drop bus.expectCursor

theorem verify_shortfall (bus : MockI2CBus) : verify bus = shortfall (unmet bus) := by
  by_cases room : bus.expectCursor < bus.expectations.length
  · have counted : (bus.expectations.drop (bus.expectCursor+1)).length+1 =
        bus.expectations.length - bus.expectCursor := by
      rw [List.length_drop]
      omega
    rw [verify_pending room,unmet,List.drop_eq_getElem_cons room,shortfall,counted]
  · rw [verify_consumed (by omega),unmet,List.drop_eq_nil_of_le (by omega),shortfall]

theorem shortfall_nil (entries : List Transaction) : shortfall entries = [] ↔ entries = [] := by
  cases entries with
  | nil => simp [shortfall]
  | cons next later =>
    refine iff_of_false (fun empty => ?_) (by simp)
    simp only [shortfall,List.append_eq_nil_iff] at empty
    exact natText_nonempty _ empty.1.1.1

theorem serve_accepted {request : Request} (present : bus.devices request.addr = some registers)
    (admitted : bus.Admits (request.transaction registers)) :
    serve bus request = (.ok (answerOf registers request),bus.commit (request.transaction registers)) := by
  cases request with
  | read addr reg => exact outcome_ok (readRegister_accepted present admitted)
  | write addr reg value => exact outcome_ok (writeRegister_accepted present admitted)

theorem serve_unattached {request : Request} (absent : MockI2CBus.devices bus request.addr = none) :
    serve bus request = (.error (noDevice request.addr),bus) := by
  cases request with
  | read addr reg => exact outcome_error (bind_error (device_absent absent))
  | write addr reg value => exact outcome_error (bind_error (device_absent absent))

theorem matchExpectation_throws (scripted : MockI2CBus.expectations bus ≠ [])
    (denied : ∀ e, (unmet bus).head? = some e → ¬e.Fits ⟨op,addr,reg,value⟩) :
    matchExpectation op addr reg value bus = .error (match unmet bus with
      | [] => exhausted ⟨op,addr,reg,value⟩
      | next :: _ => mismatch next ⟨op,addr,reg,value⟩) bus := by
  unfold matchExpectation
  rw [bind_ok (get_run bus),if_neg scripted]
  by_cases room : bus.expectCursor < bus.expectations.length
  · have next : unmet bus = bus.expectations[bus.expectCursor] :: bus.expectations.drop (bus.expectCursor+1) :=
      List.drop_eq_getElem_cons room
    have wrong := denied _ (by rw [next]; rfl)
    simp only [next]
    rw [dif_pos room,if_pos]
    · exact throw_run _ bus
    · by_contra matching
      simp only [not_or,not_and,not_not,ne_eq] at matching
      exact wrong matching
  · have none : unmet bus = [] := List.drop_eq_nil_of_le (by omega)
    rw [dif_neg room,none]
    exact throw_run _ bus

theorem admits_next (bus : MockI2CBus) (request : Request) (registers : RegisterMap) :
    bus.Admits (request.transaction registers) ↔
      bus.expectations = [] ∨ (unmet bus).head?.map (·.request) = some request := by
  rw [admits_iff,unmet,List.head?_drop,Option.map_eq_some_iff]

theorem denied_unfit {request : Request} (denied : ¬bus.Admits (request.transaction registers)) (e : Transaction)
    (head : (unmet bus).head? = some e) : ¬e.Fits (request.transaction registers) := by
  rw [fits_request,request_transaction]
  intro same
  exact denied ((admits_next bus request registers).mpr (.inr (by rw [head,Option.map_some,same])))

theorem serve_denied {request : Request} (present : bus.devices request.addr = some registers)
    (denied : ¬bus.Admits (request.transaction registers)) :
    serve bus request = (.error (refusal (unmet bus) ⟨request,answerOf registers request⟩),bus) := by
  have scripted : bus.expectations ≠ [] := fun free => denied (.inl free)
  have unfit := denied_unfit denied
  cases request with
  | read addr reg =>
    have checked := matchExpectation_throws scripted unfit
    refine (outcome_error ((bind_ok (device_present present)).trans (bind_error checked))).trans ?_
    cases unmet bus <;> rfl
  | write addr reg value =>
    have checked := matchExpectation_throws scripted unfit
    refine (outcome_error ((bind_ok (device_present present)).trans (bind_error checked))).trans ?_
    cases unmet bus <;> rfl

theorem serve_free {request : Request} (present : bus.devices request.addr = some registers) (free : bus.expectations = []) :
    serve bus request = (.ok (answerOf registers request),bus.commit (request.transaction registers)) :=
  serve_accepted present (.inl free)

theorem commit_devices (bus : MockI2CBus) (t : Transaction) : (bus.commit t).devices = match t.op with
    | .read => bus.devices
    | .write => (bus.assign t.addr t.reg t.value).devices := by
  have advanced := advance_devices bus
  rcases t with ⟨op,addr,reg,value⟩
  cases op with
  | read => exact advanced
  | write => simp only [MockI2CBus.commit,MockI2CBus.record,MockI2CBus.assign,advanced]

-- A bus under a script, beside a bus that runs freely and the entries still unmet.
structure Beside (pair : MockI2CBus × List Transaction) (bus : MockI2CBus) : Prop where
  devices : pair.1.devices = bus.devices
  log : pair.1.log = bus.log
  free : pair.1.expectations = []
  scripted : bus.expectations ≠ []
  waiting : pair.2 = unmet bus

theorem commit_beside (beside : Beside (now,waiting) bus) (t : Transaction) :
    Beside (now.commit t,waiting.tail) (bus.commit t) := by
  obtain ⟨devices,log,free,scripted,remaining⟩ := beside
  simp only at devices log free remaining
  have quiet := commit_script now t
  have taken := commit_script bus t
  rw [if_neg scripted] at taken
  refine ⟨?_,?_,quiet.1.trans free,by rw [taken.1]; exact scripted,?_⟩
  · rw [commit_devices,commit_devices,devices]
    cases t.op with
    | read => rfl
    | write => simp only [MockI2CBus.assign,devices]
  · rw [commit_log,commit_log,log]
  · rw [remaining,unmet,unmet,taken.1,taken.2,List.tail_drop]

theorem serve_beside (beside : Beside (now,waiting) bus) (request : Request) :
    (scripted serve (·.request) refusal (now,waiting) request).1 = (serve bus request).1 ∧
      Beside (scripted serve (·.request) refusal (now,waiting) request).2 (serve bus request).2 := by
  have devices : now.devices = bus.devices := beside.devices
  have remaining : waiting = unmet bus := beside.waiting
  cases present : bus.devices request.addr with
  | none =>
    have absent : now.devices request.addr = none := by rw [devices]; exact present
    simp only [scripted,serve_unattached absent,serve_unattached present]
    exact ⟨trivial,beside⟩
  | some registers =>
    have here : now.devices request.addr = some registers := by rw [devices]; exact present
    simp only [scripted,serve_free here beside.free]
    have admits := admits_next bus request registers
    simp only [beside.scripted,false_or,← remaining] at admits
    by_cases next : waiting.head?.map (·.request) = some request
    · rw [serve_accepted present (admits.mpr next),if_pos next]
      exact ⟨rfl,commit_beside beside _⟩
    · rw [serve_denied present (mt admits.mp next),if_neg next,← remaining]
      exact ⟨rfl,beside⟩

theorem run_beside (beside : Beside pair bus) (driver : Driver R) :
    Alike Beside (run (scripted serve (·.request) refusal) driver pair) (run serve driver bus) := by
  refine @run_related _ _ _ _ _ _ _ _ _ _ Beside ?_ beside driver
  rintro ⟨now,waiting⟩ scripted request related
  exact serve_beside related request

theorem serve_log (bus : MockI2CBus) (request : Request) : (serve bus request).2.log =
    bus.log ++ match (serve bus request).1 with
      | .ok answer => [transactionOf ⟨request,answer⟩]
      | .error _ => [] := by
  cases present : bus.devices request.addr with
  | none => simp only [serve_unattached present,List.append_nil]
  | some registers =>
    by_cases admitted : bus.Admits (request.transaction registers)
    · simp only [serve_accepted present admitted,commit_log,transactionOf_answer]
    · simp only [serve_denied present admitted,List.append_nil]

theorem run_log (driver : Driver R) (bus : MockI2CBus) :
    (run serve driver bus).state.log = bus.log ++ (run serve driver bus).traffic.map transactionOf := by
  induction driver generalizing bus with
  | done value => simp [run]
  | ask request next ih =>
    have grown := serve_log bus request
    cases reply : serve bus request with
    | mk answer after =>
      rw [reply] at grown
      cases answer with
      | error error =>
        rw [run_refused serve reply]
        simpa using grown
      | ok answer =>
        rw [run_answered serve reply]
        simp only [Served.after,List.map_append,List.map_cons,List.map_nil]
        rw [ih answer after,grown,List.append_assoc]

theorem serve_expectations (bus : MockI2CBus) (request : Request) :
    (serve bus request).2.expectations = bus.expectations := by
  cases present : bus.devices request.addr with
  | none => rw [serve_unattached present]
  | some registers =>
    by_cases admitted : bus.Admits (request.transaction registers)
    · rw [serve_accepted present admitted]
      exact (commit_script bus _).1
    · rw [serve_denied present admitted]

def seeds (entries : List Transaction) : List Call :=
  entries.filterMap fun t => if t.op = .read then some (.setRegister t.addr t.reg t.value) else none

abbrev seeded (bus : MockI2CBus) (entries : List Transaction) : MockI2CBus := after bus (seeds entries)
abbrev installed (bus : MockI2CBus) (entries : List Transaction) : MockI2CBus := after bus (install entries)

theorem seeds_attached (bus : MockI2CBus) (entries : List Transaction) (addr : UInt8) :
    hasDevice addr (seeded bus entries) = hasDevice addr bus := by
  induction entries generalizing bus with
  | nil => rfl
  | cons t entries ih =>
    rcases t with ⟨op,a,reg,value⟩
    cases op with
    | write => exact ih bus
    | read =>
      refine (ih (step bus (.setRegister a reg value)).2).trans ?_
      cases present : bus.devices a with
      | none => rw [step_setRegister_absent present]
      | some registers =>
        rw [step_setRegister_present present]
        exact assign_attached bus a reg value addr

structure Installed (entries : List Transaction) (plain scripted plain' scripted' : MockI2CBus) : Prop where
  devices : plain'.devices = scripted'.devices
  log : plain'.log = scripted'.log
  kept : plain'.log = plain.log
  free : plain'.expectations = plain.expectations
  queue : scripted'.expectations = scripted.expectations ++ entries
  cursor : scripted'.expectCursor = scripted.expectCursor

theorem install_seeds (devices : MockI2CBus.devices plain = bus.devices) (log : plain.log = bus.log)
    (attached : ∀ t ∈ entries, t.op = .read → hasDevice t.addr bus = true) :
    Installed entries plain bus (after plain (seeds entries)) (after bus (install entries)) := by
  induction entries generalizing plain bus with
  | nil => exact ⟨devices,log,rfl,rfl,(List.append_nil _).symm,rfl⟩
  | cons t entries ih =>
    rcases t with ⟨op,addr,reg,value⟩
    cases op with
    | write =>
      have rest : Installed entries plain (step bus (.expectWrite addr reg value)).2 _ _ :=
        ih devices log fun t member => attached t (List.mem_cons_of_mem _ member)
      refine ⟨rest.devices,rest.log,rest.kept,rest.free,?_,rest.cursor⟩
      exact rest.queue.trans (by rw [step_expectWrite,List.append_assoc,List.singleton_append])
    | read =>
      obtain ⟨registers,present⟩ := Option.isSome_iff_exists.mp (attached _ List.mem_cons_self rfl)
      have here : plain.devices addr = some registers := by rw [devices]; exact present
      have assigned := @step_expectRead_present _ _ _ reg value present
      have seeded := @step_setRegister_present _ _ _ reg value here
      have nextDevices : (step plain (.setRegister addr reg value)).2.devices =
          (step bus (.expectRead addr reg value)).2.devices := by
        rw [assigned,seeded]
        simp only [MockI2CBus.assign,devices]
      have nextLog : (step plain (.setRegister addr reg value)).2.log = (step bus (.expectRead addr reg value)).2.log := by
        rw [assigned,seeded]
        exact log
      have rest := ih nextDevices nextLog (by
        intro t member read
        rw [assigned]
        exact (assign_attached bus addr reg value t.addr).trans (attached t (List.mem_cons_of_mem _ member) read))
      refine ⟨rest.devices,rest.log,?_,?_,?_,?_⟩
      · exact rest.kept.trans (by rw [seeded]; rfl)
      · exact rest.free.trans (by rw [seeded]; rfl)
      · exact rest.queue.trans (by rw [assigned,List.append_assoc,List.singleton_append])
      · exact rest.cursor.trans (by rw [assigned]; rfl)

abbrev scriptedRun (bus : MockI2CBus) (entries : List Transaction) (driver : Driver R) :=
  run serve driver (installed bus entries)
abbrev freeRun (bus : MockI2CBus) (entries : List Transaction) (driver : Driver R) :=
  run serve driver (seeded bus entries)

structure Left (rest : List Transaction) (plain bus : MockI2CBus) : Prop where
  devices : plain.devices = bus.devices
  log : plain.log = bus.log
  verdict : verify bus = shortfall rest

structure Stopped (bus : MockI2CBus) (met : List (Exchange Request Answer)) (exchange : Exchange Request Answer)
    (rest : List Transaction) (served : Served MockI2CBus Request Answer HardwareError R) : Prop where
  thrown : served.result = .error (refusal rest exchange)
  traffic : served.traffic = met
  log : served.state.log = bus.log ++ met.map transactionOf
  verdict : verify served.state = shortfall rest

structure Decides (bus : MockI2CBus) (entries : List Transaction) (driver : Driver R) : Prop where
  passes : ∀ result, ((scriptedRun bus entries driver).result = .ok result ∧
      verify (scriptedRun bus entries driver).state = []) ↔
    (freeRun bus entries driver).result = .ok result ∧
      (entries = [] ∨ asked (freeRun bus entries driver).traffic = entries.map (·.request))
  within : entries ≠ [] → asked (freeRun bus entries driver).traffic <+: entries.map (·.request) →
    Alike (Left (entries.drop (freeRun bus entries driver).traffic.length)) (freeRun bus entries driver)
      (scriptedRun bus entries driver)
  astray : ∀ met exchange later expected rest, entries = expected ++ rest → entries ≠ [] →
    (freeRun bus entries driver).traffic = met ++ exchange :: later → asked met = expected.map (·.request) →
    rest.head?.map (·.request) ≠ some exchange.1 →
    Stopped bus met exchange rest (scriptedRun bus entries driver)

section
variable {bus : MockI2CBus} {entries : List Transaction} (clean : Unscripted bus)
  (attached : ∀ t ∈ entries, t.op = .read → hasDevice t.addr bus = true) (driver : Driver R)
include clean attached

theorem install_beside (nonempty : entries ≠ []) : Beside (seeded bus entries,entries) (installed bus entries) := by
  obtain ⟨devices,log,_,free,queue,cursor⟩ := install_seeds rfl rfl attached
  rw [clean.free,List.nil_append] at queue
  refine ⟨devices,log,free.trans clean.free,by rw [queue]; exact nonempty,?_⟩
  rw [unmet,queue,cursor,clean.start,List.drop_zero]

theorem script_within (nonempty : entries ≠ [])
    (within : asked (freeRun bus entries driver).traffic <+: entries.map (·.request)) :
    Alike (Left (entries.drop (freeRun bus entries driver).traffic.length)) (freeRun bus entries driver)
      (scriptedRun bus entries driver) := by
  have alike := run_beside (install_beside clean attached nonempty) driver
  rw [scripted_within serve (·.request) refusal within] at alike
  obtain ⟨result,traffic,beside⟩ := alike
  refine ⟨result,traffic,⟨beside.devices,beside.log,?_⟩⟩
  rw [verify_shortfall,← beside.waiting]

theorem script_astray (split : entries = expected ++ rest) (nonempty : entries ≠ [])
    (met : (freeRun bus entries driver).traffic = before ++ exchange :: later)
    (agreed : asked before = expected.map (·.request)) (differs : rest.head?.map (·.request) ≠ some exchange.1) :
    Stopped bus before exchange rest (scriptedRun bus entries driver) := by
  have alike := run_beside (install_beside clean attached nonempty) driver
  have stops := scripted_astray serve (·.request) refusal met agreed differs
  rw [← split] at stops
  rw [stops] at alike
  obtain ⟨result,traffic,beside⟩ := alike
  have silent : (installed bus entries).log = bus.log :=
    (install_seeds rfl rfl attached).log.symm.trans (install_seeds rfl rfl attached).kept
  refine ⟨result.symm,traffic.symm,?_,?_⟩
  · rw [run_log,silent,← traffic]
  · rw [verify_shortfall,← beside.waiting]

theorem script_passes (result : R) : ((scriptedRun bus entries driver).result = .ok result ∧
      verify (scriptedRun bus entries driver).state = []) ↔
    (freeRun bus entries driver).result = .ok result ∧
      (entries = [] ∨ asked (freeRun bus entries driver).traffic = entries.map (·.request)) := by
  by_cases none : entries = []
  · -- without a script the two runs are one, and verify has nothing to miss
    subst none
    have kept : (run serve driver bus).state.expectations = bus.expectations :=
      run_invariant serve (fun now request held => (serve_expectations now request).trans held) rfl driver
    have quiet : verify (run serve driver bus).state = [] := by
      rw [verify_shortfall,unmet,kept,clean.free,List.drop_nil,shortfall]
    exact ⟨fun both => ⟨both.1,.inl rfl⟩,fun both => ⟨both.1,quiet⟩⟩
  · rcases first_difference (·.request) (asked (freeRun bus entries driver).traffic) entries with
      within | ⟨expected,question,later,rest,split,same,differs⟩
    · obtain ⟨result',_,left⟩ := script_within clean attached driver none within
      have whole : verify (scriptedRun bus entries driver).state = [] ↔
          asked (freeRun bus entries driver).traffic = entries.map (·.request) := by
        rw [left.verdict,shortfall_nil,List.drop_eq_nil_iff]
        constructor
        · intro long
          refine within.eq_of_length_le ?_
          rw [List.length_map,asked,List.length_map]
          exact long
        · intro same
          have counted := congrArg List.length same
          rw [List.length_map,asked,List.length_map] at counted
          omega
      rw [result',whole,or_iff_right none]
    · obtain ⟨met,tail,traffic,before,after⟩ := List.map_eq_append_iff.mp split
      obtain ⟨exchange,more,rfl,rfl,_⟩ := List.map_eq_cons_iff.mp after
      have stopped := script_astray clean attached driver same none traffic before differs
      constructor
      · rintro ⟨passed,_⟩
        rw [stopped.thrown] at passed
        cases passed
      · rintro ⟨_,empty | exact⟩
        · exact absurd empty none
        · rw [split,same,List.map_append] at exact
          have next := List.append_cancel_left exact
          exact absurd (by rw [← List.head?_map,← next]; rfl) differs

theorem script_decides : Decides bus entries driver :=
  ⟨script_passes clean attached driver,script_within clean attached driver,
    fun _ _ _ _ _ split nonempty traffic agreed differs =>
      script_astray clean attached driver split nonempty traffic agreed differs⟩

end

def setBits (addr reg bits : UInt8) : Driver (Except E Unit) :=
  .ask (.read addr reg) fun value => .ask (.write addr reg (value ||| bits)) fun _ => .done (.ok ())

theorem oneShot_decides : Decides sensorBus oneShot (setBits 0x48 0x01 0x81 : Driver (Except HardwareError Unit)) :=
  script_decides sensorBus_fresh.toUnscripted (by decide) (setBits 0x48 0x01 0x81)

end Edtf.DriverScripts

import Mathlib.Tactic
import Edtf.I2CScript

namespace Edtf.I2CPromises
open ByteText I2CBus I2CScript

def expectation (t : Transaction) : Call :=
  match t.op with
  | .read => .expectRead t.addr t.reg t.value
  | .write => .expectWrite t.addr t.reg t.value

def install (entries : List Transaction) : List Call := entries.map expectation
def drive (entries : List Transaction) : List Call := entries.map (·.request.call)

-- The bus as a test has it before it queues its first expectation, and before any
-- transaction as well.
structure Unscripted (bus : MockI2CBus) : Prop where
  free : bus.expectations = []
  start : bus.expectCursor = 0
structure Fresh (bus : MockI2CBus) : Prop extends Unscripted bus where
  silent : bus.log = []

def latest (op : Op) (entries : List Transaction) (addr reg : UInt8) : Option UInt8 :=
  ((entries.filter fun t => t.op = op ∧ t.addr = addr ∧ t.reg = reg).getLast?).map (·.value)

-- What the register holds when the driver reaches position k: the last scripted write
-- before k, else the seed of the last expect_read of the whole script.
def supplied (entries : List Transaction) (k : Nat) (addr reg : UInt8) : Option UInt8 :=
  (latest .write (entries.take k) addr reg).or (latest .read entries addr reg)

def Settled (entries : List Transaction) : Prop :=
  ∀ (k : Nat) t, entries[k]? = some t → t.op = .read → supplied entries k t.addr t.reg = some t.value

def registerAt (bus : MockI2CBus) (addr reg : UInt8) : Option UInt8 :=
  (bus.devices addr).bind fun registers => registers reg

theorem latest_snoc (op : Op) (entries : List Transaction) (t : Transaction) (addr reg : UInt8) :
    latest op (entries ++ [t]) addr reg =
      if t.op = op ∧ t.addr = addr ∧ t.reg = reg then some t.value else latest op entries addr reg := by
  rw [latest,List.filter_append,latest]
  split
  · rename_i same
    simp [same]
  · rename_i other
    have dropped : [t].filter (fun t => t.op = op ∧ t.addr = addr ∧ t.reg = reg) = [] := by simpa using other
    rw [dropped,List.append_nil]

theorem latest_present (member : t ∈ entries) : (latest t.op entries t.addr t.reg).isSome = true := by
  rw [latest,Option.isSome_map,List.getLast?_isSome]
  exact List.ne_nil_of_mem (List.mem_filter.mpr ⟨member,by simp⟩)

theorem assign_register (attached : hasDevice a bus = true) (addr reg : UInt8) :
    registerAt (bus.assign a r v) addr reg = if a = addr ∧ r = reg then some v else registerAt bus addr reg := by
  obtain ⟨registers,present⟩ := Option.isSome_iff_exists.mp attached
  by_cases sameAddr : addr = a
  · subst addr
    by_cases sameReg : reg = r
    · subst reg
      simp [registerAt,MockI2CBus.assign,present]
    · simp [registerAt,MockI2CBus.assign,present,sameReg,Ne.symm sameReg]
  · simp [registerAt,MockI2CBus.assign,sameAddr,Ne.symm sameAddr]

structure Queued (start : MockI2CBus) (entries : List Transaction) (bus : MockI2CBus) : Prop where
  expectations : bus.expectations = entries
  cursor : bus.expectCursor = 0
  log : bus.log = start.log
  attached : ∀ addr, hasDevice addr bus = hasDevice addr start
  registers : ∀ addr reg, registerAt bus addr reg = (latest .read entries addr reg).or (registerAt start addr reg)

theorem queue_step (queued : Queued start entries bus) (attached : hasDevice t.addr start = true) :
    Queued start (entries ++ [t]) (step bus (expectation t)).2 := by
  rcases t with ⟨op,addr,reg,value⟩
  have here : hasDevice addr bus = true := (queued.attached addr).trans attached
  cases op with
  | write =>
    refine ⟨by simp [expectation,step_expectWrite,queued.expectations],queued.cursor,queued.log,
      queued.attached,?_⟩
    intro a r
    rw [latest_snoc,if_neg (by simp)]
    exact queued.registers a r
  | read =>
    obtain ⟨registers,present⟩ := Option.isSome_iff_exists.mp here
    simp only [expectation]
    rw [step_expectRead_present present]
    refine ⟨by simp [queued.expectations],queued.cursor,queued.log,?_,?_⟩
    · intro a
      exact (assign_attached bus addr reg value a).trans (queued.attached a)
    · intro a r
      have assigned := assign_register (r := reg) (v := value) here a r
      rw [latest_snoc]
      by_cases same : addr = a ∧ reg = r
      · rw [if_pos same] at assigned
        rw [if_pos ⟨rfl,same⟩]
        exact assigned
      · rw [if_neg same] at assigned
        rw [if_neg fun both => same both.2]
        exact assigned.trans (queued.registers a r)

theorem install_queued (clean : Unscripted bus) (attached : ∀ t ∈ entries, hasDevice t.addr bus = true) :
    Queued bus entries (after bus (install entries)) := by
  induction entries using List.reverseRecOn with
  | nil => exact ⟨clean.free,clean.start,rfl,fun _ => rfl,fun _ _ => rfl⟩
  | append_singleton entries t ih =>
    have before := ih fun u member => attached u (List.mem_append_left _ member)
    rw [install,List.map_append,after,Histories.after_append]
    exact queue_step before (attached t (by simp))

def performed (entries : List Transaction) (k : Nat) (t : Transaction) : Transaction :=
  match t.op with
  | .read => {t with value := (supplied entries k t.addr t.reg).getD 0}
  | .write => t

structure Driven (start : MockI2CBus) (entries done : List Transaction) (bus : MockI2CBus) : Prop where
  expectations : bus.expectations = entries
  cursor : bus.expectCursor = done.length
  log : bus.log = start.log ++ done.mapIdx (performed entries)
  attached : ∀ addr, hasDevice addr bus = hasDevice addr start
  registers : ∀ addr reg, hasDevice addr start = true → registerAt bus addr reg =
    (latest .write done addr reg).or ((latest .read entries addr reg).or (registerAt start addr reg))

theorem performed_transaction (driven : Driven start entries done bus) (split : entries = done ++ t :: rest)
    (attached : hasDevice t.addr start = true) (present : bus.devices t.addr = some registers) :
    t.request.transaction registers = performed entries done.length t := by
  have member : t ∈ entries := by rw [split]; simp
  have prior : entries.take done.length = done := by rw [split,List.take_left]
  rcases t with ⟨op,addr,reg,value⟩
  cases op with
  | write => rfl
  | read =>
    have held := driven.registers addr reg attached
    have seeded := latest_present member
    simp only [registerAt,present,Option.bind_some] at held
    simp only [Transaction.request,Request.transaction,performed,supplied,prior,held]
    cases written : latest .write done addr reg with
    | some v => rfl
    | none =>
      obtain ⟨v,seed⟩ := Option.isSome_iff_exists.mp seeded
      simp only [seed,Option.none_or,Option.some_or]

theorem commit_fields (bus : MockI2CBus) (t : Transaction) (scripted : bus.expectations ≠ []) :
    (bus.commit t).expectations = bus.expectations ∧ (bus.commit t).expectCursor = bus.expectCursor+1 ∧
      (bus.commit t).log = bus.log ++ [t] ∧
      (bus.commit t).devices = match t.op with
        | .read => bus.devices
        | .write => (bus.assign t.addr t.reg t.value).devices := by
  rcases t with ⟨op,addr,reg,value⟩
  cases op <;> simp [MockI2CBus.commit,MockI2CBus.record,MockI2CBus.assign,MockI2CBus.advance,scripted]

theorem drive_step (driven : Driven start entries done bus) (split : entries = done ++ t :: rest)
    (attached : hasDevice t.addr start = true) :
    (step bus t.request.call).1 = (performed entries done.length t).reply ∧
      Driven start entries (done ++ [t]) (step bus t.request.call).2 := by
  have here : hasDevice t.addr bus = true := (driven.attached t.addr).trans attached
  obtain ⟨registers,present⟩ := Option.isSome_iff_exists.mp here
  have target : t.request.addr = t.addr := by rcases t with ⟨op,addr,reg,value⟩; cases op <;> rfl
  have scripted : bus.expectations ≠ [] := by rw [driven.expectations,split]; simp
  have admitted : bus.Admits (t.request.transaction registers) := by
    refine (admits_iff bus t.request registers).mpr (.inr ⟨t,?_,rfl⟩)
    rw [driven.expectations,driven.cursor,split]
    simp
  have carried := performed_transaction driven split attached present
  rw [step_accepted (target ▸ present) admitted,carried]
  obtain ⟨expectations,cursor,log,devices⟩ := commit_fields bus (performed entries done.length t) scripted
  refine ⟨rfl,⟨expectations.trans driven.expectations,?_,?_,?_,?_⟩⟩
  · rw [cursor,driven.cursor,List.length_append,List.length_singleton]
  · simp [log,driven.log,List.mapIdx_append]
  · intro addr
    rcases t with ⟨op,a,r,v⟩
    cases op with
    | read => exact (congrArg (fun d => (d addr).isSome) devices).trans (driven.attached addr)
    | write =>
      exact (congrArg (fun d => (d addr).isSome) devices).trans
        ((assign_attached bus a r v addr).trans (driven.attached addr))
  · intro addr reg on
    have held := driven.registers addr reg on
    rw [latest_snoc]
    rcases t with ⟨op,a,r,v⟩
    cases op with
    | read =>
      have same := congrArg (fun d => (d addr).bind fun registers => registers reg) devices
      rw [if_neg (by simp)]
      exact same.trans held
    | write =>
      have same := congrArg (fun d => (d addr).bind fun registers => registers reg) devices
      have assigned := assign_register (r := r) (v := v) here addr reg
      by_cases target : a = addr ∧ r = reg
      · rw [if_pos target] at assigned
        rw [if_pos ⟨rfl,target⟩]
        exact same.trans assigned
      · rw [if_neg target] at assigned
        rw [if_neg fun both => target both.2]
        exact (same.trans assigned).trans held

theorem drive_run (driven : Driven start entries done bus) (split : entries = done ++ rest)
    (attached : ∀ t ∈ entries, hasDevice t.addr start = true) :
    (seen bus (drive rest)).map Prod.snd =
        rest.mapIdx (fun k t => (performed entries (k+done.length) t).reply) ∧
      Driven start entries entries (after bus (drive rest)) := by
  induction rest generalizing done bus with
  | nil =>
    rw [List.append_nil] at split
    subst split
    exact ⟨rfl,driven⟩
  | cons t rest ih =>
    obtain ⟨reply,next⟩ := drive_step driven split (attached t (by rw [split]; simp))
    obtain ⟨replies,final⟩ := ih next (by rw [split]; simp)
    refine ⟨?_,final⟩
    simp only [drive,List.map_cons,Histories.seen,List.mapIdx_cons,reply,Nat.zero_add,List.cons.injEq,true_and]
    refine replies.trans ?_
    congr 1
    funext k u
    rw [List.length_append,List.length_singleton,Nat.add_assoc,Nat.add_comm done.length 1]

theorem script_run (fresh : Fresh bus) (attached : ∀ t ∈ entries, hasDevice t.addr bus = true) :
    (seen (after bus (install entries)) (drive entries)).map Prod.snd =
        entries.mapIdx (fun k t => (performed entries k t).reply) ∧
      (after bus (install entries ++ drive entries)).log = entries.mapIdx (performed entries) := by
  have queued := install_queued fresh.toUnscripted attached
  have start : Driven bus entries [] (after bus (install entries)) :=
    ⟨queued.expectations,queued.cursor,by simp [queued.log],queued.attached,fun addr reg _ => queued.registers addr reg⟩
  obtain ⟨replies,final⟩ := drive_run start rfl attached
  refine ⟨replies,?_⟩
  rw [after,Histories.after_append]
  simpa [fresh.silent] using final.log

theorem performed_kept (member : t ∈ entries) :
    performed entries k t = t ↔ (t.op = .read → supplied entries k t.addr t.reg = some t.value) := by
  have seeded := latest_present member
  rcases t with ⟨op,addr,reg,value⟩
  cases op with
  | write => simp [performed]
  | read =>
    have filled : (supplied entries k addr reg).isSome = true := by
      rw [supplied,Option.isSome_or,seeded,Bool.or_true]
    obtain ⟨v,holds⟩ := Option.isSome_iff_exists.mp filled
    simp [performed,holds]

theorem settled_performed (entries : List Transaction) :
    Settled entries ↔ entries.mapIdx (performed entries) = entries := by
  constructor
  · intro settled
    refine List.ext_getElem? fun k => ?_
    rw [List.getElem?_mapIdx]
    cases entry : entries[k]? with
    | none => rfl
    | some t =>
      exact congrArg some ((performed_kept (List.mem_of_getElem? entry)).mpr (settled k t entry))
  · intro same k t entry
    refine (performed_kept (List.mem_of_getElem? entry)).mp ?_
    have found : (entries.mapIdx (performed entries))[k]? = some t := by rw [same,entry]
    rw [List.getElem?_mapIdx,entry] at found
    exact Option.some.inj found

structure KeepsPromises (bus : MockI2CBus) (entries : List Transaction) : Prop where
  returned : ∀ (k : Nat) t, entries[k]? = some t → t.op = .read →
    ((seen (after bus (install entries)) (drive entries)).map Prod.snd)[k]? = some (.byte t.value)
  logged : (after bus (install entries ++ drive entries)).log = entries

theorem promises_settled (fresh : Fresh bus) (attached : ∀ t ∈ entries, hasDevice t.addr bus = true) :
    KeepsPromises bus entries ↔ Settled entries := by
  obtain ⟨replies,log⟩ := script_run fresh attached
  rw [settled_performed]
  constructor
  · intro kept
    exact log.symm.trans kept.logged
  · intro same
    refine ⟨?_,log.trans same⟩
    intro k t entry read
    have carried : performed entries k t = t := by
      have found : (entries.mapIdx (performed entries))[k]? = some t := by rw [same,entry]
      rw [List.getElem?_mapIdx,entry] at found
      exact Option.some.inj found
    rw [replies,List.getElem?_mapIdx,entry,Option.map_some,carried,Transaction.reply,read]

def sensorBus : MockI2CBus := after .new [.attachDevice 0x48 fun _ => none]

theorem sensorBus_fresh : Fresh sensorBus := ⟨⟨rfl,rfl⟩,rfl⟩

def oneShot : List Transaction := [⟨.read,0x48,0x01,0x60⟩,⟨.write,0x48,0x01,0xE1⟩]

theorem oneShot_promises : KeepsPromises sensorBus oneShot := by
  refine (promises_settled sensorBus_fresh (by decide)).mpr ?_
  intro k t entry read
  rcases k with _ | _ | k
  · cases entry; rfl
  · cases entry; cases read
  · simp [oneShot] at entry

-- Polling a status register: busy, then ready. The second seed replaces the first one
-- before the driver reads anything.
def polling : List Transaction := [⟨.read,0x48,0x01,0x00⟩,⟨.read,0x48,0x01,0x80⟩]

theorem polling_broken : Fresh sensorBus ∧ (∀ t ∈ polling, hasDevice t.addr sensorBus = true) ∧
    (seen (after sensorBus (install polling)) (drive polling)).map Prod.snd = [.byte 0x80,.byte 0x80] ∧
    ¬KeepsPromises sensorBus polling := by
  refine ⟨sensorBus_fresh,by decide,by decide,?_⟩
  intro kept
  have promised := kept.returned 0 ⟨.read,0x48,0x01,0x00⟩ rfl rfl
  exact absurd promised (by decide)

end Edtf.I2CPromises

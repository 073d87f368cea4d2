import Mathlib.Tactic
import Edtf.RegisterBank

namespace Edtf.Peripherals
open Histories RegisterBank

inductive Access where
  | read
  | write (value : UInt32)
  | peek
  | poke (value : UInt32)
  deriving DecidableEq, Repr

def Access.call (addr : UInt32) : Access → Call
  | .read => .read addr
  | .write value => .write addr value
  | .peek => .peek addr
  | .poke value => .poke addr value

theorem Access.addressed (addr : UInt32) (access : Access) : addressed (access.call addr) = some addr := by
  cases access <;> rfl

def accessed (bank : MockRegisterBank) (access : UInt32 × Access) : Reply × MockRegisterBank :=
  step bank (access.2.call access.1)

-- What hooks make of each register when they touch no other one: the value a read gives
-- and the one it leaves, and what a write stores.
structure Behaviour where
  gives : UInt32 → UInt32 → UInt32
  leaves : UInt32 → UInt32 → UInt32
  takes : UInt32 → UInt32 → UInt32 → UInt32

def Behaviour.plain : Behaviour := ⟨fun _ stored => stored,fun _ stored => stored,fun _ _ incoming => incoming⟩

structure Local (b : Behaviour) (readHook : Option ReadHook) (writeHook : Option WriteHook) : Prop where
  read : ∀ (addr : UInt32) regs stored, regs[addr.toNat]? = some stored →
    hooked (readHook.map fun hook => hook addr stored regs) stored regs =
      (.ok (b.gives addr stored),regs.set addr.toNat (b.leaves addr stored))
  write : ∀ (addr value : UInt32) regs current, regs[addr.toNat]? = some current →
    ∃ left, hooked (writeHook.map fun hook => hook addr current value regs) value regs =
      (.ok (b.takes addr current value),regs.set addr.toNat left)

def registerStep (b : Behaviour) (addr : UInt32) (stored : UInt32) : Access → Reply × UInt32
  | .read => (.word (b.gives addr stored),b.leaves addr stored)
  | .write value => (.done,b.takes addr stored value)
  | .peek => (.word stored,stored)
  | .poke value => (.done,value)

structure Hooked (size : Nat) (readHook : Option ReadHook) (writeHook : Option WriteHook) (bank : MockRegisterBank) : Prop where
  size : bank.regs.length = size
  readHook : bank.readHook = readHook
  writeHook : bank.writeHook = writeHook

section
variable {b : Behaviour} {readHook : Option ReadHook} {writeHook : Option WriteHook} {size : Nat}

structure Accesses (b : Behaviour) (bank : MockRegisterBank) (addr : UInt32) (access : Access) (done : Reply × MockRegisterBank) :
    Prop where
  reply : done.1 = (registerStep b addr (bank.at addr) access).1
  regs : done.2.regs = bank.regs.set addr.toNat (registerStep b addr (bank.at addr) access).2
  readHook : done.2.readHook = bank.readHook
  writeHook : done.2.writeHook = bank.writeHook

theorem set_at {bank : MockRegisterBank} (inside : addr.toNat < bank.regs.length) :
    bank.regs.set addr.toNat (bank.at addr) = bank.regs := by
  have here : bank.regs[addr.toNat] = bank.at addr := by
    rw [← Option.some.injEq,← List.getElem?_eq_getElem inside,at_inside inside]
  rw [← here,List.set_getElem_self]

theorem accesses_inside (only : Local b readHook writeHook) {bank : MockRegisterBank} (hooks : Hooked size readHook writeHook bank)
    (inside : addr.toNat < size) (access : Access) : Accesses b bank addr access (step bank (access.call addr)) := by
  rw [← hooks.size] at inside
  have here := at_inside inside
  cases access with
  | read =>
    have result : bank.readResult addr = (.ok (b.gives addr (bank.at addr)),bank.regs.set addr.toNat (b.leaves addr (bank.at addr))) := by
      rw [MockRegisterBank.readResult,hooks.readHook]
      exact only.read addr _ _ here
    rw [Access.call,step_read_ok inside result]
    exact ⟨rfl,rfl,rfl,rfl⟩
  | write value =>
    obtain ⟨left,taken⟩ := only.write addr value _ _ here
    have result : bank.writeResult addr value = (.ok (b.takes addr (bank.at addr) value),bank.regs.set addr.toNat left) := by
      rw [MockRegisterBank.writeResult,hooks.writeHook]
      exact taken
    rw [Access.call,step_write_ok inside result]
    exact ⟨rfl,List.set_set _,rfl,rfl⟩
  | peek =>
    rw [Access.call,step_peek inside]
    exact ⟨rfl,(set_at inside).symm,rfl,rfl⟩
  | poke value =>
    rw [Access.call,step_poke inside]
    exact ⟨rfl,rfl,rfl,rfl⟩

theorem accessed_hooked (only : Local b readHook writeHook) {bank : MockRegisterBank} (hooks : Hooked size readHook writeHook bank)
    (access : UInt32 × Access) : Hooked size readHook writeHook (accessed bank access).2 := by
  by_cases inside : access.1.toNat < size
  · have done := accesses_inside only hooks inside access.2
    refine ⟨?_,done.readHook.trans hooks.readHook,done.writeHook.trans hooks.writeHook⟩
    rw [accessed,done.regs,List.length_set,hooks.size]
  · rw [accessed,step_outside (access.2.addressed access.1) (by rw [hooks.size]; omega)]
    exact hooks

theorem at_set {bank next : MockRegisterBank} (stored : next.regs = bank.regs.set addr.toNat value) (other : UInt32) :
    next.at other = if other = addr ∧ addr.toNat < bank.regs.length then value else bank.at other := by
  simp only [MockRegisterBank.at,List.getD_eq_getElem?_getD,stored,List.getElem?_set]
  by_cases same : other = addr
  · rw [same]
    by_cases inside : addr.toNat < bank.regs.length
    · simp only [inside,and_self,↓reduceIte,Option.getD_some]
    · simp only [inside,and_false,↓reduceIte,List.getElem?_eq_none (Nat.le_of_not_lt inside)]
  · have apart : addr.toNat ≠ other.toNat := fun equal => same (UInt32.toNat_inj.mp equal.symm)
    simp only [same,false_and,↓reduceIte,if_neg apart]

def shareOf (addr : UInt32) (access : UInt32 × Access) : Option Access := if access.1 = addr then some access.2 else none

theorem share_alone (only : Local b readHook writeHook) {bank : MockRegisterBank} (hooks : Hooked size readHook writeHook bank)
    (inside : addr.toNat < size) (accesses : List (UInt32 × Access)) :
    (seen accessed bank accesses).filterMap (fun event => (shareOf addr event.1).map fun access => (access,event.2)) =
        seen (registerStep b addr) (bank.at addr) (accesses.filterMap (shareOf addr)) ∧
      (after accessed bank accesses).at addr =
        after (registerStep b addr) (bank.at addr) (accesses.filterMap (shareOf addr)) := by
  have kept : ∀ now access, Hooked size readHook writeHook now → Hooked size readHook writeHook (accessed now access).2 :=
    fun _ access hooks => accessed_hooked only hooks access
  refine history_projected accessed (fun bank => bank.at addr) (shareOf addr) kept ?_ ?_ hooks accesses
  · intro now access mine hooks asked
    obtain ⟨same,found⟩ := Option.ite_none_right_eq_some.mp asked
    cases found
    have done := accesses_inside only hooks inside access.2
    rw [accessed,same]
    refine ⟨done.reply,?_⟩
    rw [at_set done.regs addr,if_pos ⟨rfl,by rw [hooks.size]; exact inside⟩]
  · intro now access hooks asked
    have other : addr ≠ access.1 := fun same => by rw [shareOf,if_pos same.symm] at asked; cases asked
    by_cases within : access.1.toNat < size
    · have done := accesses_inside only hooks within access.2
      rw [accessed,at_set done.regs addr,if_neg fun both => other both.1]
    · rw [accessed,step_outside (access.2.addressed access.1) (by rw [hooks.size]; omega)]

end

def bankWith (size : UInt32) (readHook : Option ReadHook) (writeHook : Option WriteHook) : MockRegisterBank :=
  {MockRegisterBank.new size with readHook := readHook,writeHook := writeHook}

theorem bankWith_hooked (size : UInt32) (readHook : Option ReadHook) (writeHook : Option WriteHook) :
    Hooked size.toNat readHook writeHook (bankWith size readHook writeHook) := ⟨List.length_replicate,rfl,rfl⟩

theorem bankWith_at (inside : addr.toNat < size.toNat) (readHook : Option ReadHook) (writeHook : Option WriteHook) :
    (bankWith size readHook writeHook).at addr = 0 := by
  rw [MockRegisterBank.at,bankWith,MockRegisterBank.new,List.getD_eq_getElem?_getD,List.getElem?_replicate,if_pos inside,
    Option.getD_some]

theorem seen_constant (reply : R) (calls : List C) : seen (fun (_ : Unit) (_ : C) => (reply,())) () calls = calls.map (·,reply) := by
  induction calls with
  | nil => rfl
  | cons c rest ih => rw [seen,ih,List.map_cons]

theorem share_outside (only : Local b readHook writeHook) {bank : MockRegisterBank} (hooks : Hooked size readHook writeHook bank)
    (outside : size ≤ addr.toNat) (accesses : List (UInt32 × Access)) :
    (seen accessed bank accesses).filterMap (fun event => (shareOf addr event.1).map fun access => (access,event.2)) =
      (accesses.filterMap (shareOf addr)).map (·,.rejected (outOfRange addr)) := by
  have kept : ∀ now access, Hooked size readHook writeHook now → Hooked size readHook writeHook (accessed now access).2 :=
    fun _ access hooks => accessed_hooked only hooks access
  rw [← seen_constant (Reply.rejected (outOfRange addr))]
  refine (history_projected accessed (fun _ => ()) (shareOf addr) kept ?_ (fun _ _ _ _ => rfl) hooks accesses).1
  intro now access mine hooks asked
  obtain ⟨same,_⟩ := Option.ite_none_right_eq_some.mp asked
  rw [accessed,step_outside (access.2.addressed access.1) (by rw [hooks.size,same]; exact outside),same]
  exact ⟨rfl,rfl⟩

-- A bank whose hooks stay with the register they are called for is nothing but its
-- registers: what is answered about one does not depend on any access to another.
theorem registers_apart (b : Behaviour) (readHook : Option ReadHook) (writeHook : Option WriteHook)
    (only : Local b readHook writeHook) (size addr : UInt32) (accesses : List (UInt32 × Access)) :
    (seen accessed (bankWith size readHook writeHook) accesses).filterMap
        (fun event => (shareOf addr event.1).map fun access => (access,event.2)) =
      if addr.toNat < size.toNat then seen (registerStep b addr) 0 (accesses.filterMap (shareOf addr))
      else (accesses.filterMap (shareOf addr)).map (·,.rejected (outOfRange addr)) := by
  have hooks := bankWith_hooked size readHook writeHook
  by_cases inside : addr.toNat < size.toNat
  · rw [if_pos inside,(share_alone only hooks inside accesses).1,bankWith_at inside]
  · rw [if_neg inside,share_outside only hooks (Nat.le_of_not_lt inside)]

theorem set_same {regs : List UInt32} (found : regs[k]? = some stored) : regs.set k stored = regs := by
  obtain ⟨inside,here⟩ := List.getElem?_eq_some_iff.mp found
  rw [← here,List.set_getElem_self]

theorem unhooked_read (found : regs[k]? = some stored) : hooked none stored regs = (.ok stored,regs.set k stored) := by
  rw [set_same found]
  rfl

theorem unpoked_write (found : regs[k]? = some current) (value : UInt32) :
    ∃ left, hooked (some ⟨[],.ok value⟩) plain regs = (.ok value,regs.set k left) :=
  ⟨current,by rw [set_same found]; rfl⟩

def readClears (status : UInt32) : ReadHook := fun addr stored _ => ⟨if addr = status then [⟨status,0,false⟩] else [],.ok stored⟩

def clearing (status : UInt32) : Behaviour :=
  {Behaviour.plain with leaves := fun addr stored => if addr = status then 0 else stored}

theorem readClears_local (status : UInt32) : Local (clearing status) (some (readClears status)) none where
  read addr regs stored found := by
    obtain ⟨inside,_⟩ := List.getElem?_eq_some_iff.mp found
    by_cases same : addr = status
    · rw [← same]
      simp only [hooked,Option.map_some,readClears,clearing,HookRun.result,poked,↓reduceIte,if_pos inside]
      rfl
    · simp only [hooked,Option.map_some,readClears,clearing,HookRun.result,poked,if_neg same,set_same found]
      rfl
  write _ _ _ current found := ⟨current,by rw [set_same found]; rfl⟩

def latches : WriteHook := fun addr current incoming _ => ⟨[⟨addr,incoming,false⟩],.ok (current ||| incoming)⟩

def latching (status : UInt32) : Behaviour := {clearing status with takes := fun _ current incoming => current ||| incoming}

theorem latches_local (status : UInt32) : Local (latching status) (some (readClears status)) (some latches) where
  read := (readClears_local status).read
  write addr value regs current found := by
    obtain ⟨inside,_⟩ := List.getElem?_eq_some_iff.mp found
    refine ⟨value,?_⟩
    simp only [hooked,Option.map_some,latches,HookRun.result,poked,if_pos inside]
    rfl

theorem latches_apart : (seen accessed (bankWith 4 (some (readClears 2)) (some latches))
      [(2,.write 1),(1,.write 7),(2,.write 4),(9,.read),(2,.read),(2,.read)]).filterMap
    (fun event => (shareOf 2 event.1).map fun access => (access,event.2)) =
      [(.write 1,.done),(.write 4,.done),(.read,.word 5),(.read,.word 0)] :=
  registers_apart (latching 2) (some (readClears 2)) (some latches) (latches_local 2) 4 2
    [(2,.write 1),(1,.write 7),(2,.write 4),(9,.read),(2,.read),(2,.read)]

def refreshes (clears : Bool) : Access → Option UInt32
  | .read => if clears then some 0 else none
  | .write value => some value
  | .peek => none
  | .poke value => some value

theorem clearing_refreshes (status addr stored : UInt32) (access : Access) :
    (registerStep (clearing status) addr stored access).2 = (refreshes (addr = status) access).getD stored := by
  cases access with
  | read =>
    by_cases same : addr = status
    · simp only [registerStep,clearing,refreshes,same,decide_true,↓reduceIte,Option.getD_some]
    · simp only [registerStep,clearing,refreshes,same,decide_false,Bool.false_eq_true,↓reduceIte,Option.getD_none]
  | _ => rfl

theorem answered_alone (only : Local b readHook writeHook) (inside : addr.toNat < size.toNat)
    (accesses : List (UInt32 × Access)) (access : Access) :
    (accessed (after accessed (bankWith size readHook writeHook) accesses) (addr,access)).1 =
      (registerStep b addr (after (registerStep b addr) 0 (accesses.filterMap (shareOf addr))) access).1 := by
  have start := bankWith_hooked size readHook writeHook
  have hooks := state_invariant accessed (Hooked size.toNat readHook writeHook) start
    (fun _ access hooks => accessed_hooked only hooks access) accesses
  have stored := (share_alone only start inside accesses).2
  rw [bankWith_at inside] at stored
  rw [← stored]
  exact (accesses_inside only hooks inside access).reply

-- A read of the status register tells the last value stored there since it was read last,
-- and 0 if there is none, so that nothing is reported twice.
theorem status_reported (size status addr : UInt32) (inside : addr.toNat < size.toNat) (accesses : List (UInt32 × Access)) :
    (accessed (after accessed (bankWith size (some (readClears status)) none) accesses) (addr,.read)).1 =
      .word (((accesses.filterMap (shareOf addr)).filterMap (refreshes (addr = status))).getLast?.getD 0) := by
  have stored := last_set (registerStep (clearing status) addr) id (refreshes (addr = status))
    (fun stored access => clearing_refreshes status addr stored access) 0 (accesses.filterMap (shareOf addr))
  rw [answered_alone (readClears_local status) inside accesses .read]
  exact congrArg Reply.word stored

theorem latched_reported : (accessed (after accessed (bankWith 8 (some (readClears 2)) none)
    [(2,.poke 1),(2,.write 6),(5,.write 9),(2,.read),(5,.read),(2,.peek)]) (2,.read)).1 = .word 0 :=
  status_reported 8 2 2 (by decide) [(2,.poke 1),(2,.write 6),(5,.write 9),(2,.read),(5,.read),(2,.peek)]

def writeOneClears : WriteHook := fun _ current incoming _ => ⟨[],.ok (current &&& ~~~incoming)⟩

def acknowledging : Behaviour := {Behaviour.plain with takes := fun _ current incoming => current &&& ~~~incoming}

theorem writeOneClears_local : Local acknowledging none (some writeOneClears) where
  read _ _ _ found := unhooked_read found
  write _ _ _ _ found := unpoked_write found _

def bit (value : UInt32) (i : Nat) : Bool := value.toBitVec.getLsbD i

def settles (i : Nat) : Access → Option Bool
  | .read => none
  | .write value => if bit value i then some false else none
  | .peek => none
  | .poke value => some (bit value i)

theorem acknowledging_settles (addr stored : UInt32) (small : i < 32) (access : Access) :
    bit (registerStep acknowledging addr stored access).2 i = (settles i access).getD (bit stored i) := by
  cases access with
  | write value =>
    have cleared : bit (stored &&& ~~~value) i = (bit stored i && !bit value i) := by
      simp only [bit,UInt32.toBitVec_and,UInt32.toBitVec_not,BitVec.getLsbD_and,BitVec.getLsbD_not,small,decide_true,
        Bool.true_and]
    rw [settles]
    cases acknowledged : bit value i with
    | true =>
      rw [acknowledged,Bool.not_true,Bool.and_false] at cleared
      exact cleared
    | false =>
      rw [acknowledged,Bool.not_false,Bool.and_true] at cleared
      exact cleared
  | _ => rfl

theorem flags_acknowledged (size addr : UInt32) (inside : addr.toNat < size.toNat) (accesses : List (UInt32 × Access)) :
    ∃ value, (accessed (after accessed (bankWith size none (some writeOneClears)) accesses) (addr,.read)).1 = .word value ∧
      ∀ i < 32, bit value i = ((accesses.filterMap (shareOf addr)).filterMap (settles i)).getLast?.getD false := by
  refine ⟨_,answered_alone writeOneClears_local inside accesses .read,?_⟩
  intro i small
  have settled := last_set (registerStep acknowledging addr) (bit · i) (settles i)
    (fun stored access => acknowledging_settles addr stored small access) 0 (accesses.filterMap (shareOf addr))
  have clear : bit 0 i = false := by simp only [bit,UInt32.toBitVec_zero,BitVec.getLsbD_zero]
  rw [clear] at settled
  exact settled

theorem partly_acknowledged :
    ∃ value, (accessed (after accessed (bankWith 4 none (some writeOneClears)) [(1,.poke 3),(1,.write 1),(2,.write 2)]) (1,.read)).1 =
      .word value ∧ ∀ i < 32, bit value i = (([(1,.poke 3),(1,.write 1),(2,.write 2)].filterMap (shareOf 1)).filterMap
        (settles i)).getLast?.getD false :=
  flags_acknowledged 4 1 (by decide) [(1,.poke 3),(1,.write 1),(2,.write 2)]

end Edtf.Peripherals

import Mathlib.Tactic
import Edtf.ByteText
import Edtf.Histories

namespace Edtf.SerialPort
open ByteText Histories

-- The read position never passes the end of the received bytes; every member function
-- has to show that it keeps this.
structure MockSerialPort where
  tx : List UInt8
  rx : List UInt8
  rxPos : Nat
  within : rxPos ≤ rx.length

def MockSerialPort.new : MockSerialPort := ⟨[],[],0,Nat.le_refl _⟩

def write (bytes : List UInt8) (port : MockSerialPort) : MockSerialPort := {port with tx := port.tx ++ bytes}
def writeByte (b : UInt8) (port : MockSerialPort) : MockSerialPort := {port with tx := port.tx ++ [b]}

def MockSerialPort.advance (port : MockSerialPort) (more : port.rxPos < port.rx.length) : MockSerialPort :=
  {port with rxPos := port.rxPos+1,within := more}

-- The copy loop with `left` rounds to go until n reaches max.
def readLoop : Nat → Nat → List UInt8 → MockSerialPort → Nat × List UInt8 × MockSerialPort
  | 0,n,out,port => (n,out,port)
  | left+1,n,out,port =>
    if more : port.rxPos < port.rx.length then
      readLoop left (n+1) (out ++ [port.rx[port.rxPos]]) (port.advance more)
    else (n,out,port)

def read (out : List UInt8) (max : Nat) (port : MockSerialPort) : Nat × List UInt8 × MockSerialPort :=
  readLoop max 0 out port

def readByte (port : MockSerialPort) : Int × MockSerialPort :=
  if empty : port.rxPos ≥ port.rx.length then (-1,port)
  else (port.rx[port.rxPos].toNat,port.advance (Nat.lt_of_not_le empty))

def injectRx (bytes : List UInt8) (port : MockSerialPort) : MockSerialPort :=
  {port with rx := port.rx ++ bytes,within := Nat.le_trans port.within (List.length_append ▸ Nat.le_add_right _ _)}

def injectRxString (s : Str) (port : MockSerialPort) : MockSerialPort := injectRx s port

def txData (port : MockSerialPort) : List UInt8 := port.tx
def txString (port : MockSerialPort) : Str := port.tx

-- A size_t difference: below zero it would wrap.
def rxRemaining (port : MockSerialPort) : Int := port.rx.length - port.rxPos

def clear (_ : MockSerialPort) : MockSerialPort := ⟨[],[],0,Nat.le_refl _⟩

inductive Call where
  | write (bytes : List UInt8)
  | writeByte (b : UInt8)
  | read (out : List UInt8) (max : Nat)
  | readByte
  | injectRx (bytes : List UInt8)
  | injectRxString (s : Str)
  | txData
  | txString
  | rxRemaining
  | clear
  deriving DecidableEq, Repr

inductive Reply where
  | done
  | copied (n : Nat) (out : List UInt8)
  | int (value : Int)
  | bytes (value : List UInt8)
  deriving DecidableEq, Repr

def perform (port : MockSerialPort) : Call → Reply × MockSerialPort
  | .write bytes => (.done,write bytes port)
  | .writeByte b => (.done,writeByte b port)
  | .read out max => (.copied (read out max port).1 (read out max port).2.1,(read out max port).2.2)
  | .readByte => (.int (readByte port).1,(readByte port).2)
  | .injectRx bytes => (.done,injectRx bytes port)
  | .injectRxString s => (.done,injectRxString s port)
  | .txData => (.bytes (txData port),port)
  | .txString => (.bytes (txString port),port)
  | .rxRemaining => (.int (rxRemaining port),port)
  | .clear => (.done,clear port)

-- What the port is for: a log of sent bytes and a queue of received ones.
structure Queues where
  sent : List UInt8
  pending : List UInt8
  deriving DecidableEq, Repr

def Queues.perform (q : Queues) : Call → Reply × Queues
  | .write bytes => (.done,{q with sent := q.sent ++ bytes})
  | .writeByte b => (.done,{q with sent := q.sent ++ [b]})
  | .read out max => (.copied (min max q.pending.length) (out ++ q.pending.take max),{q with pending := q.pending.drop max})
  | .readByte =>
    match q.pending with
    | [] => (.int (-1),q)
    | b :: rest => (.int b.toNat,{q with pending := rest})
  | .injectRx bytes => (.done,{q with pending := q.pending ++ bytes})
  | .injectRxString s => (.done,{q with pending := q.pending ++ s})
  | .txData => (.bytes q.sent,q)
  | .txString => (.bytes q.sent,q)
  | .rxRemaining => (.int q.pending.length,q)
  | .clear => (.done,⟨[],[]⟩)

def MockSerialPort.queues (port : MockSerialPort) : Queues := ⟨port.tx,port.rx.drop port.rxPos⟩

theorem queues_more (port : MockSerialPort) (more : port.rxPos < port.rx.length) :
    port.queues = ⟨port.tx,port.rx[port.rxPos] :: (port.advance more).queues.pending⟩ := by
  simp only [MockSerialPort.queues,MockSerialPort.advance]
  rw [List.drop_eq_getElem_cons more]

theorem queues_drained (port : MockSerialPort) (drained : ¬port.rxPos < port.rx.length) :
    port.queues = ⟨port.tx,[]⟩ := by
  rw [MockSerialPort.queues,List.drop_eq_nil_of_le (Nat.le_of_not_lt drained)]

theorem readLoop_run (left n : Nat) (out : List UInt8) (port : MockSerialPort) :
    (readLoop left n out port).1 = n + min left port.queues.pending.length ∧
      (readLoop left n out port).2.1 = out ++ port.queues.pending.take left ∧
      (readLoop left n out port).2.2.queues = ⟨port.tx,port.queues.pending.drop left⟩ := by
  induction left generalizing n out port with
  | zero => simp [readLoop,MockSerialPort.queues]
  | succ left ih =>
    rw [readLoop]
    split
    · rename_i more
      obtain ⟨count,copied,rest⟩ := ih (n+1) (out ++ [port.rx[port.rxPos]]) (port.advance more)
      rw [count,copied,rest,queues_more port more]
      refine ⟨?_,?_,?_⟩
      · rw [List.length_cons]
        omega
      · rw [List.take_succ_cons,List.append_assoc,List.singleton_append]
      · rw [List.drop_succ_cons]
        rfl
    · rename_i drained
      simp [queues_drained port drained]

theorem readByte_more (port : MockSerialPort) (more : port.rxPos < port.rx.length) :
    readByte port = ((port.rx[port.rxPos].toNat : Int),port.advance more) := by
  rw [readByte,dif_neg (Nat.not_le_of_lt more)]

theorem readByte_drained (port : MockSerialPort) (drained : ¬port.rxPos < port.rx.length) : readByte port = (-1,port) := by
  rw [readByte,dif_pos (Nat.le_of_not_lt drained)]

theorem perform_simulates (port : MockSerialPort) (call : Call) :
    (perform port call).1 = (port.queues.perform call).1 ∧ (perform port call).2.queues = (port.queues.perform call).2 := by
  cases call with
  | write bytes => exact ⟨rfl,rfl⟩
  | writeByte b => exact ⟨rfl,rfl⟩
  | txData => exact ⟨rfl,rfl⟩
  | txString => exact ⟨rfl,rfl⟩
  | clear => exact ⟨rfl,rfl⟩
  | read out max =>
    obtain ⟨count,copied,rest⟩ := readLoop_run max 0 out port
    refine ⟨?_,rest⟩
    rw [Nat.zero_add] at count
    exact congrArg₂ Reply.copied count copied
  | readByte =>
    by_cases more : port.rxPos < port.rx.length
    · rw [perform,readByte_more port more,queues_more port more]
      exact ⟨rfl,rfl⟩
    · have empty := queues_drained port more
      rw [perform,readByte_drained port more]
      exact ⟨by rw [empty]; rfl,by rw [empty]; rfl⟩
  | injectRx bytes =>
    refine ⟨rfl,?_⟩
    simp only [perform,injectRx,MockSerialPort.queues,Queues.perform]
    rw [List.drop_append_of_le_length port.within]
  | injectRxString s =>
    refine ⟨rfl,?_⟩
    simp only [perform,injectRxString,injectRx,MockSerialPort.queues,Queues.perform]
    rw [List.drop_append_of_le_length port.within]
  | rxRemaining =>
    have within := port.within
    simp only [perform,rxRemaining,MockSerialPort.queues,Queues.perform,List.length_drop]
    exact ⟨congrArg Reply.int (by omega),trivial⟩

def clears (event : Call × Reply) : Bool := event.1 = .clear

def sends : Call × Reply → List UInt8
  | (.write bytes,_) => bytes
  | (.writeByte b,_) => [b]
  | _ => []

def injects : Call × Reply → List UInt8
  | (.injectRx bytes,_) => bytes
  | (.injectRxString s,_) => s
  | _ => []

def hands : Call × Reply → List UInt8
  | (.read out _,.copied _ copied) => copied.drop out.length
  | (.readByte,.int value) => if value < 0 then [] else [UInt8.ofNat value.toNat]
  | _ => []

def total (part : Call × Reply → List UInt8) (history : List (Call × Reply)) : List UInt8 :=
  (since clears history).flatMap part

theorem total_snoc (part : Call × Reply → List UInt8) (history : List (Call × Reply)) (event : Call × Reply) :
    total part (history ++ [event]) = if clears event then [] else total part history ++ part event := by
  rw [total,since_snoc,total]
  split
  · rfl
  · simp

structure Balanced (history : List (Call × Reply)) (q : Queues) : Prop where
  sent : q.sent = total sends history
  received : total hands history ++ q.pending = total injects history

theorem balanced_kept (held : Balanced history q) (kept : clears event = false)
    (sent : next.sent = q.sent ++ sends event) (received : hands event ++ next.pending = q.pending ++ injects event) :
    Balanced (history ++ [event]) next := by
  have grown : ∀ part, total part (history ++ [event]) = total part history ++ part event := by
    intro part
    rw [total_snoc,kept]
    rfl
  refine ⟨?_,?_⟩
  · rw [sent,held.sent,grown]
  · rw [grown,grown,List.append_assoc,received,← List.append_assoc,held.received]

theorem hands_byte (b : UInt8) : hands (.readByte,.int b.toNat) = [b] := by
  rw [hands,if_neg (by omega),Int.toNat_natCast,UInt8.ofNat_toNat]

theorem perform_balanced (held : Balanced history q) (call : Call) :
    Balanced (history ++ [(call,(q.perform call).1)]) (q.perform call).2 := by
  cases call with
  | clear =>
    have emptied : ∀ part, total part (history ++ [(.clear,.done)]) = [] := fun part => by rw [total_snoc]; rfl
    exact ⟨(emptied sends).symm,by rw [Queues.perform,emptied,emptied]; rfl⟩
  | write bytes => exact balanced_kept held rfl rfl (List.append_nil _).symm
  | writeByte b => exact balanced_kept held rfl rfl (List.append_nil _).symm
  | txData => exact balanced_kept held rfl (List.append_nil _).symm (List.append_nil _).symm
  | txString => exact balanced_kept held rfl (List.append_nil _).symm (List.append_nil _).symm
  | rxRemaining => exact balanced_kept held rfl (List.append_nil _).symm (List.append_nil _).symm
  | injectRx bytes => exact balanced_kept held rfl (List.append_nil _).symm rfl
  | injectRxString s => exact balanced_kept held rfl (List.append_nil _).symm rfl
  | read out max =>
    refine balanced_kept held rfl (List.append_nil _).symm ?_
    simp only [Queues.perform,hands,injects,List.drop_left,List.take_append_drop,List.append_nil]
  | readByte =>
    rw [Queues.perform]
    split
    · exact balanced_kept held rfl (List.append_nil _).symm (List.append_nil _).symm
    · rename_i b rest pending
      refine balanced_kept held rfl (List.append_nil _).symm ?_
      rw [hands_byte,pending]
      exact (List.append_nil _).symm

def touchesTx : Call → Bool
  | .write _ => true
  | .writeByte _ => true
  | .clear => true
  | _ => false

def touchesRx : Call → Bool
  | .read _ _ => true
  | .readByte => true
  | .injectRx _ => true
  | .injectRxString _ => true
  | .clear => true
  | _ => false

structure PortLaw (history : List (Call × Reply)) (port : MockSerialPort) : Prop where
  sent : txData port = total sends history ∧ txString port = total sends history
  received : total hands history ++ port.queues.pending = total injects history
  remaining : rxRemaining port = port.queues.pending.length
  read : ∀ out max, (perform port (.read out max)).1 =
    .copied (min max port.queues.pending.length) (out ++ port.queues.pending.take max)
  drained : (perform port .readByte).1 = .int (-1) ↔ port.queues.pending = []
  next : ∀ b rest, port.queues.pending = b :: rest → (perform port .readByte).1 = .int b.toNat ∧ b.toNat ≤ 255
  txAlone : ∀ call, touchesTx call = false → txData (perform port call).2 = txData port
  rxAlone : ∀ call, touchesRx call = false → (perform port call).2.queues.pending = port.queues.pending

theorem model_txAlone (q : Queues) {call : Call} (alone : touchesTx call = false) : (q.perform call).2.sent = q.sent := by
  cases call with
  | readByte =>
    rw [Queues.perform]
    split <;> rfl
  | write bytes => cases alone
  | writeByte b => cases alone
  | clear => cases alone
  | _ => rfl

theorem model_rxAlone (q : Queues) {call : Call} (alone : touchesRx call = false) :
    (q.perform call).2.pending = q.pending := by
  cases call <;> first | rfl | cases alone

theorem history_balanced (calls : List Call) :
    Balanced (seen perform .new calls) (after perform .new calls).queues := by
  obtain ⟨replies,last⟩ := history_simulated perform MockSerialPort.queues perform_simulates .new calls
  rw [replies,last]
  exact history_invariant Queues.perform Balanced ⟨rfl,rfl⟩ (fun _ q call held => perform_balanced held call) calls

theorem port_law (calls : List Call) : PortLaw (seen perform .new calls) (after perform .new calls) := by
  have held := history_balanced calls
  generalize after perform .new calls = port at held
  have reads := (perform_simulates port .readByte).1
  refine ⟨⟨held.sent,held.sent⟩,held.received,?_,fun out max => (perform_simulates port (.read out max)).1,?_,?_,?_,?_⟩
  · have within := port.within
    rw [rxRemaining,MockSerialPort.queues,List.length_drop]
    omega
  · rw [reads,Queues.perform]
    split
    · rename_i empty
      exact iff_of_true rfl empty
    · rename_i b rest filled
      refine iff_of_false ?_ (by rw [filled]; exact List.cons_ne_nil _ _)
      intro same
      have value := Reply.int.inj same
      omega
  · intro b rest filled
    rw [reads,Queues.perform,filled]
    exact ⟨rfl,Nat.le_of_lt_succ b.toNat_lt⟩
  · intro call alone
    have kept := model_txAlone port.queues alone
    rw [← (perform_simulates port call).2] at kept
    exact kept
  · intro call alone
    rw [(perform_simulates port call).2]
    exact model_rxAlone port.queues alone

theorem port_refines (calls : List Call) :
    seen perform .new calls = seen Queues.perform ⟨[],[]⟩ calls ∧
      PortLaw (seen perform .new calls) (after perform .new calls) ∧
      ∀ others, total injects (seen perform .new others) = total injects (seen perform .new calls) →
        (total hands (seen perform .new others)).length = (total hands (seen perform .new calls)).length →
        total hands (seen perform .new others) = total hands (seen perform .new calls) := by
  refine ⟨(history_simulated perform MockSerialPort.queues perform_simulates .new calls).1,port_law calls,?_⟩
  intro others same length
  have one := (history_balanced others).received
  have two := (history_balanced calls).received
  rw [same,← two] at one
  exact (List.append_inj one length).1

end Edtf.SerialPort

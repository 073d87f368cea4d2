import Mathlib.Tactic
import Mathlib.Data.List.TakeWhile
import Edtf.I2CBus

namespace Edtf.I2CScript
open ByteText I2CBus

-- What one call does to the script and its cursor, in terms of the event it leaves:
-- every other fact about scripts below is derived from this one case analysis.
structure Effect (bus : MockI2CBus) (event : Call × Reply) (next : MockI2CBus) : Prop where
  expectations : next.expectations = bus.expectations ++ (queued event).toList
  cursor : next.expectCursor = bus.expectCursor + if bus.expectations = [] then 0 else (driven event).toList.length
  admitted : ∀ t, driven event = some t → bus.Admits t

theorem effect_none (queue : queued event = none) (drive : driven event = none)
    (expectations : next.expectations = bus.expectations) (cursor : next.expectCursor = bus.expectCursor) :
    Effect bus event next := by
  refine ⟨by simp [queue,expectations],by simp [drive,cursor],?_⟩
  intro t driven
  rw [drive] at driven
  cases driven

theorem commit_script (bus : MockI2CBus) (t : Transaction) :
    (bus.commit t).expectations = bus.expectations ∧
      (bus.commit t).expectCursor = bus.expectCursor + if bus.expectations = [] then 0 else 1 := by
  rcases t with ⟨op,addr,reg,value⟩
  by_cases free : bus.expectations = []
  · cases op <;> simp [MockI2CBus.commit,MockI2CBus.record,MockI2CBus.assign,MockI2CBus.advance,free]
  · cases op <;> simp [MockI2CBus.commit,MockI2CBus.record,MockI2CBus.assign,MockI2CBus.advance,free]

theorem request_effect (bus : MockI2CBus) (r : Request) :
    Effect bus (r.call,(step bus r.call).1) (step bus r.call).2 := by
  by_cases accepts : bus.Accepts r
  · obtain ⟨registers,present,admitted⟩ := accepts
    rw [step_accepted present admitted]
    have drive := driven_reply r registers
    have script := commit_script bus (r.transaction registers)
    refine ⟨by simpa [queued_request] using script.1,by simpa [drive] using script.2,?_⟩
    intro t driven
    rw [drive] at driven
    cases driven
    exact admitted
  · obtain ⟨error,refused⟩ := step_refused accepts
    rw [refused]
    exact effect_none (queued_request _ _) (driven_rejected _ _) rfl rfl

theorem step_effect (bus : MockI2CBus) (call : Call) :
    Effect bus (call,(step bus call).1) (step bus call).2 := by
  cases call with
  | readRegister addr reg => exact request_effect bus (.read addr reg)
  | writeRegister addr reg value => exact request_effect bus (.write addr reg value)
  | attachDevice addr initial => rw [step_attachDevice]; exact effect_none rfl rfl rfl rfl
  | hasDevice addr => rw [step_hasDevice]; exact effect_none rfl rfl rfl rfl
  | verify => rw [step_verify]; exact effect_none rfl rfl rfl rfl
  | clearLog => rw [step_clearLog]; exact effect_none rfl rfl rfl rfl
  | expectWrite addr reg value => exact ⟨rfl,by simp [step_expectWrite,driven],fun t driven => by cases driven⟩
  | setRegister addr reg value =>
    cases present : bus.devices addr with
    | none => rw [step_setRegister_absent present]; exact effect_none rfl rfl rfl rfl
    | some registers => rw [step_setRegister_present present]; exact effect_none rfl rfl rfl rfl
  | getRegister addr reg =>
    cases present : bus.devices addr with
    | none => rw [step_getRegister_absent present]; exact effect_none rfl rfl rfl rfl
    | some registers => rw [step_getRegister_present present]; exact effect_none rfl rfl rfl rfl
  | expectRead addr reg returns =>
    cases present : bus.devices addr with
    | none => rw [step_expectRead_absent present]; exact effect_none rfl rfl rfl rfl
    | some registers =>
      rw [step_expectRead_present present]
      exact ⟨rfl,by simp [driven,MockI2CBus.assign],fun t driven => by cases driven⟩

-- E and A of a history: the expectations accepted so far, and the driver transactions
-- that returned normally since the first of them was accepted.
def script (history : List (Call × Reply)) : List Transaction := history.filterMap queued
def traffic (history : List (Call × Reply)) : List Transaction :=
  (history.dropWhile fun event => (queued event).isNone).filterMap driven

theorem script_snoc (history : List (Call × Reply)) (event : Call × Reply) :
    script (history ++ [event]) = script history ++ (queued event).toList := by
  rw [script,List.filterMap_append,script]
  cases found : queued event <;> simp [found]

theorem unscripted_iff (history : List (Call × Reply)) :
    script history = [] ↔ history.dropWhile (fun event => (queued event).isNone) = [] := by
  rw [script,List.filterMap_eq_nil_iff,List.dropWhile_eq_nil_iff]
  simp only [Option.isNone_iff_eq_none]

theorem queued_not_driven (some : queued event = some e) : driven event = none := by
  rcases event with ⟨call,reply⟩
  cases call <;> first | rfl | cases some

theorem traffic_unscripted (free : script history = []) : traffic history = [] := by
  rw [traffic,(unscripted_iff history).mp free]
  rfl

theorem traffic_snoc_unscripted (free : script history = []) (event : Call × Reply) :
    traffic (history ++ [event]) = [] := by
  have none := (unscripted_iff history).mp free
  rw [traffic,List.dropWhile_append,none]
  cases found : queued event with
  | none => simp [found]
  | some e => simp [found,queued_not_driven found]

theorem traffic_snoc_scripted (scripted : script history ≠ []) (event : Call × Reply) :
    traffic (history ++ [event]) = traffic history ++ (driven event).toList := by
  have some : history.dropWhile (fun event => (queued event).isNone) ≠ [] :=
    fun none => scripted ((unscripted_iff history).mpr none)
  rw [traffic,List.dropWhile_append,if_neg (by simpa [List.isEmpty_iff] using some),List.filterMap_append,traffic]
  cases found : driven event <;> simp [found]

structure Conforms (history : List (Call × Reply)) (bus : MockI2CBus) : Prop where
  queue : bus.expectations = script history
  cursor : bus.expectCursor = (traffic history).length
  within : (traffic history).length ≤ (script history).length
  agrees : ∀ (k : Nat) t, (traffic history)[k]? = some t → ∃ e, (script history)[k]? = some e ∧ e.Fits t

theorem conforms_new : Conforms [] .new := ⟨rfl,rfl,Nat.le_refl _,fun k t found => by simp [traffic] at found⟩

theorem conforms_kept (held : Conforms history bus) (effect : Effect bus event next) :
    Conforms (history ++ [event]) next := by
  have queue : next.expectations = script (history ++ [event]) := by
    rw [effect.expectations,held.queue,script_snoc]
  by_cases free : script history = []
  · -- no script before the call, so the call adds nothing to the traffic under one
    have empty := traffic_snoc_unscripted free event
    refine ⟨queue,?_,by simp [empty],by simp [empty]⟩
    rw [effect.cursor,held.queue,if_pos free,held.cursor,traffic_unscripted free,empty]
    rfl
  · have grown := traffic_snoc_scripted free event
    have cursor : next.expectCursor = (traffic (history ++ [event])).length := by
      rw [effect.cursor,held.queue,if_neg free,held.cursor,grown,List.length_append]
    cases drive : driven event with
    | none =>
      rw [drive] at grown
      simp only [Option.toList_none,List.append_nil] at grown
      refine ⟨queue,cursor,?_,?_⟩
      · rw [grown,script_snoc,List.length_append]
        exact Nat.le_add_right_of_le held.within
      · intro k t found
        rw [grown] at found
        obtain ⟨e,entry,fits⟩ := held.agrees k t found
        refine ⟨e,?_,fits⟩
        rw [script_snoc,List.getElem?_append_left (List.getElem?_eq_some_iff.mp entry).1]
        exact entry
    | some t =>
      -- a driver transaction: the script check let it through, so it fits the next entry
      have unqueued : queued event = none := by
        cases found : queued event with
        | none => rfl
        | some e => rw [queued_not_driven found] at drive; cases drive
      have same : script (history ++ [event]) = script history := by rw [script_snoc,unqueued]; simp
      rw [drive] at grown
      simp only [Option.toList_some] at grown
      rcases effect.admitted t drive with none | ⟨e,entry,fits⟩
      · exact absurd (held.queue ▸ none) free
      · rw [held.queue,held.cursor] at entry
        have room := (List.getElem?_eq_some_iff.mp entry).1
        refine ⟨queue,cursor,?_,?_⟩
        · rw [grown,same,List.length_append]
          exact room
        · intro k u found
          rw [same]
          rw [grown] at found
          by_cases old : k < (traffic history).length
          · rw [List.getElem?_append_left old] at found
            exact held.agrees k u found
          · have last : k = (traffic history).length := by
              have bound := (List.getElem?_eq_some_iff.mp found).1
              simp only [List.length_append,List.length_singleton] at bound
              omega
            subst last
            simp only [List.getElem?_concat_length,Option.some.injEq] at found
            subst u
            exact ⟨e,entry,fits⟩

theorem history_conforms (calls : List Call) : Conforms (seen .new calls) (after .new calls) :=
  Histories.history_invariant step Conforms conforms_new
    (fun _ bus call held => conforms_kept held (step_effect bus call)) calls

theorem verify_pending (room : bus.expectCursor < bus.expectations.length) :
    verify bus = natText (bus.expectations.length - bus.expectCursor) ++
      text " expected transaction(s) never occurred (next expected: " ++
      describe bus.expectations[bus.expectCursor] ++ text ")" := by
  have scripted : bus.expectations ≠ [] := List.ne_nil_of_length_pos (Nat.zero_lt_of_lt room)
  rw [verify,dif_pos ⟨scripted,room⟩]

theorem verify_consumed (consumed : bus.expectations.length ≤ bus.expectCursor) : verify bus = [] := by
  rw [verify,dif_neg]
  rintro ⟨_,room⟩
  omega

theorem verify_empty_iff (bus : MockI2CBus) : verify bus = [] ↔ bus.expectations.length ≤ bus.expectCursor := by
  refine ⟨?_,verify_consumed⟩
  intro empty
  by_contra short
  rw [verify_pending (by omega)] at empty
  simp only [List.append_eq_nil_iff] at empty
  exact natText_nonempty _ empty.1.1.1

theorem admits_iff (bus : MockI2CBus) (r : Request) (registers : RegisterMap) :
    bus.Admits (r.transaction registers) ↔
      bus.expectations = [] ∨ ∃ e, bus.expectations[bus.expectCursor]? = some e ∧ e.request = r := by
  simp only [MockI2CBus.Admits,fits_request,request_transaction]

theorem reply_normal (t : Transaction) : t.reply.normal = true := by
  rcases t with ⟨op,addr,reg,value⟩
  cases op <;> rfl

theorem step_normal_iff {r : Request} (attached : hasDevice r.addr bus = true) :
    (step bus r.call).1.normal = true ↔
      bus.expectations = [] ∨ ∃ e, bus.expectations[bus.expectCursor]? = some e ∧ e.request = r := by
  obtain ⟨registers,present⟩ := Option.isSome_iff_exists.mp attached
  rw [← admits_iff bus r registers]
  by_cases admitted : bus.Admits (r.transaction registers)
  · rw [step_accepted present admitted]
    exact iff_of_true (reply_normal _) admitted
  · obtain ⟨error,refused⟩ := step_denied present admitted
    rw [refused]
    exact iff_of_false (by simp [Reply.normal]) admitted

theorem expectations_grow (bus : MockI2CBus) (later : List Call) :
    bus.expectations <+: (after bus later).expectations :=
  Histories.state_invariant step (fun now => bus.expectations <+: now.expectations) (List.prefix_refl _)
    (fun now call held => held.trans ⟨_,(step_effect now call).expectations.symm⟩) later

structure Contract (E A : List Transaction) (bus : MockI2CBus) : Prop where
  queue : bus.expectations = E
  cursor : A.length = bus.expectCursor
  within : A.length ≤ E.length
  agrees : ∀ (k : Nat) t, A[k]? = some t → ∃ e, E[k]? = some e ∧
    e.op = t.op ∧ e.addr = t.addr ∧ e.reg = t.reg ∧ (t.op = .write → e.value = t.value)
  certified : verify bus = [] ↔ A.length = E.length
  missing : A.length ≠ E.length → ∃ e, E[A.length]? = some e ∧
    verify bus = natText (E.length - A.length) ++
      text " expected transaction(s) never occurred (next expected: " ++ describe e ++ text ")"
  complete : ∀ r : Request, hasDevice r.addr bus = true →
    ((step bus r.call).1.normal = true ↔ E = [] ∨ ∃ e, E[A.length]? = some e ∧ e.request = r)
  scripted : E ≠ [] → ∀ later, (after bus later).expectations ≠ []

def Attached (history : List (Call × Reply)) (addr : UInt8) : Prop :=
  ∃ event ∈ history, event.1.attaches addr = true

theorem history_attached (calls : List Call) (addr : UInt8) :
    hasDevice addr (after .new calls) = true ↔ Attached (seen .new calls) addr := by
  refine Histories.history_invariant step (fun history bus => hasDevice addr bus = true ↔ Attached history addr) ?_ ?_ calls
  · exact iff_of_false Bool.false_ne_true fun ⟨_,absent,_⟩ => by cases absent
  · intro past now call held
    rw [step_attached,Bool.or_eq_true,held]
    constructor
    · rintro (attaches | ⟨event,member,attaches⟩)
      · exact ⟨_,List.mem_append_right _ (List.mem_singleton.mpr rfl),attaches⟩
      · exact ⟨event,List.mem_append_left _ member,attaches⟩
    · rintro ⟨event,member,attaches⟩
      rcases List.mem_append.mp member with old | new
      · exact .inr ⟨event,old,attaches⟩
      · obtain rfl := List.mem_singleton.mp new
        exact .inl attaches

end Edtf.I2CScript

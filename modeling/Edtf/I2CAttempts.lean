import Mathlib.Tactic
import Edtf.GreedyMatching
import Edtf.I2CPromises

namespace Edtf.I2CAttempts
open ByteText I2CBus I2CScript I2CPromises GreedyMatching

def pending (bus : MockI2CBus) : List Request := (bus.expectations.drop bus.expectCursor).map (·.request)

-- A driver that catches what its attempts throw and goes on with the next one.
def attempt (requests : List Request) : List Call := requests.map (·.call)

structure Playable (bus : MockI2CBus) : Prop where
  within : bus.expectCursor ≤ bus.expectations.length
  attached : ∀ e ∈ bus.expectations, hasDevice e.addr bus = true

theorem request_addr (t : Transaction) : t.request.addr = t.addr := by
  rcases t with ⟨op,addr,reg,value⟩
  cases op <;> rfl

theorem attempt_step (playable : Playable bus) (r : Request) :
    Playable (step bus r.call).2 ∧ pending (step bus r.call).2 = waiting (pending bus) [r] := by
  by_cases accepts : bus.Accepts r
  · obtain ⟨registers,present,admitted⟩ := accepts
    have script := commit_script bus (r.transaction registers)
    have next := (admits_iff bus r registers).mp admitted
    rw [step_accepted present admitted]
    dsimp only
    rcases next with free | ⟨e,entry,same⟩
    · -- free-running: there is no script to consume
      rw [free,if_pos rfl] at script
      refine ⟨⟨?_,?_⟩,?_⟩
      · rw [script.1,script.2,← free]
        exact playable.within
      · simp [script.1]
      · simp [pending,script.1,free,waiting]
    · obtain ⟨room,found⟩ := List.getElem?_eq_some_iff.mp entry
      have scripted : bus.expectations ≠ [] := List.ne_nil_of_length_pos (Nat.zero_lt_of_lt room)
      rw [if_neg scripted] at script
      refine ⟨⟨?_,?_⟩,?_⟩
      · rw [script.1,script.2]
        exact room
      · intro u member
        rw [script.1] at member
        exact (commit_attached bus _ u.addr).trans (playable.attached u member)
      · rw [pending,script.1,script.2,pending,List.drop_eq_getElem_cons room,found,List.map_cons,same,
          waiting_taken,waiting_nil]
  · obtain ⟨error,refused⟩ := step_refused accepts
    rw [refused]
    refine ⟨playable,?_⟩
    have other : (pending bus).head? ≠ some r := by
      intro head
      rw [pending,List.head?_map,List.head?_drop] at head
      obtain ⟨e,entry,same⟩ := Option.map_eq_some_iff.mp head
      have here := playable.attached e (List.mem_of_getElem? entry)
      rw [← request_addr,same] at here
      obtain ⟨registers,present⟩ := Option.isSome_iff_exists.mp here
      exact accepts ⟨registers,present,(admits_iff bus r registers).mpr (.inr ⟨e,entry,same⟩)⟩
    rw [waiting_ignored _ _ other,waiting_nil]

theorem attempts_run (playable : Playable bus) (requests : List Request) :
    Playable (after bus (attempt requests)) ∧
      pending (after bus (attempt requests)) = waiting (pending bus) requests := by
  induction requests generalizing bus with
  | nil => exact ⟨playable,(waiting_nil _).symm⟩
  | cons r requests ih =>
    obtain ⟨next,taken⟩ := attempt_step playable r
    obtain ⟨final,rest⟩ := ih next
    refine ⟨final,rest.trans ?_⟩
    rw [taken,← waiting_append]
    rfl

theorem verify_pending_nil (playable : Playable bus) : verify bus = [] ↔ pending bus = [] := by
  have within := playable.within
  rw [verify_empty_iff,pending,List.map_eq_nil_iff,List.drop_eq_nil_iff]

theorem verify_subsequence (clean : Unscripted bus) (attached : ∀ t ∈ entries, hasDevice t.addr bus = true)
    (requests : List Request) :
    verify (after bus (install entries ++ attempt requests)) = [] ↔
      (entries.map (·.request)).Sublist requests := by
  have queued := install_queued clean attached
  have playable : Playable (after bus (install entries)) := by
    refine ⟨by simp [queued.cursor],?_⟩
    intro e member
    rw [queued.expectations] at member
    exact (queued.attached e.addr).trans (attached e member)
  obtain ⟨final,rest⟩ := attempts_run playable requests
  rw [after,Histories.after_append]
  rw [verify_pending_nil final,rest,waiting_done,pending,queued.expectations,queued.cursor,List.drop_zero]

-- A verdict on exactly the attempts is only wrong about attempts that contain the whole
-- script and something more: nothing that was refused on the way is remembered.
theorem verify_exact (clean : Unscripted bus) (attached : ∀ t ∈ entries, hasDevice t.addr bus = true)
    (requests : List Request) :
    (verify (after bus (install entries ++ attempt requests)) = [] ↔ requests = entries.map (·.request)) ↔
      ((entries.map (·.request)).Sublist requests → requests.length ≤ entries.length) := by
  rw [verify_subsequence clean attached requests]
  constructor
  · intro exact contained
    rw [exact.mp contained,List.length_map]
  · intro bounded
    constructor
    · intro contained
      have short : requests.length ≤ (entries.map (·.request)).length := by
        rw [List.length_map]
        exact bounded contained
      exact (contained.eq_of_length_le short).symm
    · intro same
      rw [same]

theorem oneShot_exact :
    verify (after sensorBus (install oneShot ++ attempt [.read 0x48 0x01,.write 0x48 0x01 0xE1])) = [] ↔
      [Request.read 0x48 0x01,.write 0x48 0x01 0xE1] = oneShot.map (·.request) :=
  (verify_exact sensorBus_fresh.toUnscripted (by decide) [.read 0x48 0x01,.write 0x48 0x01 0xE1]).mpr
    fun _ => by decide

def retrying : List Request := [.write 0x48 0x01 0xE0,.read 0x48 0x01,.write 0x48 0x01 0xE1]

theorem retrying_unnoticed : Unscripted sensorBus ∧ (∀ t ∈ oneShot, hasDevice t.addr sensorBus = true) ∧
    ((seen (after sensorBus (install oneShot)) (attempt retrying)).map fun event => event.2.normal) =
      [false,true,true] ∧
    verify (after sensorBus (install oneShot ++ attempt retrying)) = [] ∧
    retrying ≠ oneShot.map (·.request) :=
  ⟨sensorBus_fresh.toUnscripted,by decide,by decide,by decide,by decide⟩

end Edtf.I2CAttempts

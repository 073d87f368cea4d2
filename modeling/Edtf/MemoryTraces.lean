import Mathlib.Tactic

namespace Edtf.MemoryTraces

-- Reads and writes of a memory, with the values that were read. Nothing here knows what
-- the keys address.
inductive Access (K V : Type) where
  | read (key : K) (value : V)
  | write (key : K) (value : V)

section
variable {K V : Type} [DecidableEq K]

def Access.reads? (key : K) : Access K V → Option V
  | .read other value => if other = key then some value else none
  | .write _ _ => none

def Access.writes? (key : K) : Access K V → Option V
  | .read _ _ => none
  | .write other value => if other = key then some value else none

def lastRead (trace : List (Access K V)) (key : K) : Option V := (trace.filterMap (Access.reads? key)).getLast?
def lastWritten (trace : List (Access K V)) (key : K) : Option V := (trace.filterMap (Access.writes? key)).getLast?

def Legal (memory : K → V) : List (Access K V) → Prop
  | [] => True
  | .read key value :: rest => value = memory key ∧ Legal memory rest
  | .write key value :: rest => Legal (Function.update memory key value) rest

theorem lastWritten_write (key : K) (value : V) (rest : List (Access K V)) (other : K) (memory : K → V) :
    (lastWritten (.write key value :: rest) other).getD (memory other) =
      (lastWritten rest other).getD (Function.update memory key value other) := by
  rw [lastWritten,lastWritten,List.filterMap_cons,Access.writes?]
  by_cases same : key = other
  · subst same
    rw [if_pos rfl,Function.update_self,List.getLast?_cons]
    rfl
  · rw [if_neg same,Function.update_of_ne (Ne.symm same)]

-- A trace is legal if every read gives the value written last before it, or the first
-- contents. Induction on the trace, for every memory.
theorem legal_iff (memory : K → V) (trace : List (Access K V)) :
    Legal memory trace ↔ ∀ before key value later, trace = before ++ .read key value :: later →
      value = (lastWritten before key).getD (memory key) := by
  induction trace generalizing memory with
  | nil =>
    refine iff_of_true trivial fun before key value later split => ?_
    cases before <;> cases split
  | cons first rest ih =>
    cases first with
    | read key value =>
      rw [Legal,ih]
      constructor
      · rintro ⟨now,later⟩ before other seen after split
        cases before with
        | nil => cases split; exact now
        | cons _ before => cases split; exact later before other seen after rfl
      · intro every
        exact ⟨every [] key value rest rfl,fun before other seen after split => by
          rw [split] at every
          exact every (.read key value :: before) other seen after rfl⟩
    | write key value =>
      rw [Legal,ih]
      constructor
      · intro later before other seen after split
        cases before with
        | nil => cases split
        | cons _ before =>
          cases split
          rw [lastWritten_write]
          exact later before other seen after rfl
      · intro every before other seen after split
        rw [split] at every
        have here := every (.write key value :: before) other seen after rfl
        rw [lastWritten_write] at here
        exact here

def overlay (memory : K → V) (trace : List (Access K V)) (key : K) : V := (lastRead trace key).getD (memory key)

-- A key that is read before it is written gives the same value up to its last read.
def Steady (trace : List (Access K V)) : Prop :=
  ∀ before key value later, trace = before ++ .read key value :: later → lastWritten before key = none →
    lastRead trace key = some value

theorem lastRead_present (before later : List (Access K V)) (key : K) (value : V) :
    (lastRead (before ++ .read key value :: later) key).isSome = true := by
  rw [lastRead,List.getLast?_isSome]
  apply List.ne_nil_of_mem
  exact List.mem_filterMap.mpr ⟨.read key value,List.mem_append_right _ List.mem_cons_self,if_pos rfl⟩

theorem overlay_legal {memory : K → V} {trace : List (Access K V)} (legal : Legal memory trace) :
    Legal (overlay memory trace) trace ↔ Steady trace := by
  have original := (legal_iff memory trace).mp legal
  rw [legal_iff]
  constructor
  · intro again before key value later split unwritten
    have here := again before key value later split
    obtain ⟨last,found⟩ := Option.isSome_iff_exists.mp (lastRead_present before later key value)
    rw [← split] at found
    rw [unwritten,Option.getD_none,overlay,found,Option.getD_some] at here
    rw [found,here]
  · intro steady before key value later split
    have here := original before key value later split
    cases written : lastWritten before key with
    | some last =>
      rw [written] at here
      exact here
    | none => rw [Option.getD_none,overlay,steady before key value later split written,Option.getD_some]

def final (memory : K → V) (trace : List (Access K V)) (key : K) : V := (lastWritten trace key).getD (memory key)

theorem lastRead_split {trace : List (Access K V)} (found : lastRead trace key = some value) :
    ∃ before later, trace = before ++ .read key value :: later := by
  rw [lastRead] at found
  obtain ⟨access,member,told⟩ := List.mem_filterMap.mp (List.mem_of_getLast? found)
  cases access with
  | write _ _ => cases told
  | read other seen =>
    rw [Access.reads?,Option.ite_none_right_eq_some] at told
    obtain ⟨rfl,same⟩ := told
    cases same
    exact List.mem_iff_append.mp member

theorem overlay_final {memory : K → V} {trace : List (Access K V)} (legal : Legal memory trace) :
    final (overlay memory trace) trace = final memory trace := by
  funext key
  rw [final,final]
  cases written : lastWritten trace key with
  | some value => rfl
  | none =>
    rw [Option.getD_none,Option.getD_none,overlay]
    cases found : lastRead trace key with
    | none => rfl
    | some value =>
      obtain ⟨before,later,split⟩ := lastRead_split found
      have unwritten : lastWritten before key = none := by
        rw [lastWritten,split,List.filterMap_append,List.getLast?_append] at written
        exact (Option.or_eq_none_iff.mp written).2
      rw [(legal_iff memory trace).mp legal before key value later split,unwritten]
      rfl

theorem legal_front {memory : K → V} {first second : List (Access K V)} (legal : Legal memory (first ++ second)) : Legal memory first := by
  rw [legal_iff] at legal ⊢
  intro before key value later split
  apply legal before key value (later ++ second)
  rw [split,List.append_assoc,List.cons_append]

end

end Edtf.MemoryTraces

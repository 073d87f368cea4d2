import Mathlib.Tactic
import Mathlib.Data.List.DropRight

namespace Edtf.Histories

-- A deterministic component driven by calls: every call gives one reply and one
-- next state, also when it is refused. Nothing here knows which component it is.
section
variable {S C R : Type} (step : S → C → R × S)

def after (s : S) : List C → S
  | [] => s
  | c :: rest => after (step s c).2 rest

def seen (s : S) : List C → List (C × R)
  | [] => []
  | c :: rest => (c,(step s c).1) :: seen (step s c).2 rest

theorem after_append (s : S) (first second : List C) :
    after step s (first ++ second) = after step (after step s first) second := by
  induction first generalizing s with
  | nil => rfl
  | cons c rest ih => exact ih (step s c).2

theorem seen_append (s : S) (first second : List C) :
    seen step s (first ++ second) = seen step s first ++ seen step (after step s first) second := by
  induction first generalizing s with
  | nil => rfl
  | cons c rest ih => simp only [List.cons_append,seen,after,ih]

-- The one induction over histories: what a call does to the replies and the state
-- together is what a whole history does.
theorem history_invariant (holds : List (C × R) → S → Prop) {s : S} (start : holds [] s)
    (kept : ∀ past now c, holds past now → holds (past ++ [(c,(step now c).1)]) (step now c).2)
    (calls : List C) : holds (seen step s calls) (after step s calls) := by
  suffices general : ∀ past now, holds past now → holds (past ++ seen step now calls) (after step now calls) from by
    simpa using general [] s start
  induction calls with
  | nil => intro past now held; simpa [seen,after] using held
  | cons c rest ih =>
    intro past now held
    have next := ih _ _ (kept past now c held)
    simpa only [seen,after,List.append_assoc,List.singleton_append] using next

theorem state_invariant (holds : S → Prop) {s : S} (start : holds s)
    (kept : ∀ now c, holds now → holds (step now c).2) (calls : List C) : holds (after step s calls) :=
  history_invariant step (fun _ now => holds now) start (fun _ now c held => kept now c held) calls

theorem seen_filterMap {A : Type} {holds : S → Prop} {told : C × R → Option A} {asked : C → Option A}
    (each : ∀ now c, holds now → told (c,(step now c).1) = asked c ∧ holds (step now c).2) {s : S} (start : holds s)
    (calls : List C) : (seen step s calls).filterMap told = calls.filterMap asked := by
  induction calls generalizing s with
  | nil => rfl
  | cons c rest ih =>
    obtain ⟨same,next⟩ := each s c start
    rw [seen,List.filterMap_cons,List.filterMap_cons,same,ih next]

theorem history_simulated {T : Type} {model : T → C → R × T} (view : S → T)
    (each : ∀ now c, (step now c).1 = (model (view now) c).1 ∧ view (step now c).2 = (model (view now) c).2)
    (s : S) (calls : List C) :
    seen step s calls = seen model (view s) calls ∧ view (after step s calls) = after model (view s) calls := by
  induction calls generalizing s with
  | nil => exact ⟨rfl,rfl⟩
  | cons c rest ih =>
    obtain ⟨reply,next⟩ := each s c
    obtain ⟨replies,last⟩ := ih (step s c).2
    rw [next] at replies last
    exact ⟨by rw [seen,seen,reply,replies],last⟩

theorem history_refined {T A : Type} {model : T → C → A × T} (view : S → T) (render : A → R) {holds : S → Prop}
    (each : ∀ now c, holds now → (step now c).1 = render (model (view now) c).1 ∧
      view (step now c).2 = (model (view now) c).2 ∧ holds (step now c).2) {s : S} (start : holds s) (calls : List C) :
    seen step s calls = (seen model (view s) calls).map (fun event => (event.1,render event.2)) ∧
      view (after step s calls) = after model (view s) calls := by
  induction calls generalizing s with
  | nil => exact ⟨rfl,rfl⟩
  | cons c rest ih =>
    obtain ⟨reply,next,kept⟩ := each s c start
    obtain ⟨replies,last⟩ := ih kept
    rw [next] at replies last
    exact ⟨by rw [seen,seen,reply,replies,List.map_cons],last⟩

-- A part of a component that takes some of the calls and sees nothing of the others: its
-- share of the history is the history it would have alone.
theorem history_projected {T A : Type} {model : T → A → R × T} (view : S → T) (asks : C → Option A) {holds : S → Prop}
    (kept : ∀ now c, holds now → holds (step now c).2)
    (taken : ∀ now c a, holds now → asks c = some a →
      (step now c).1 = (model (view now) a).1 ∧ view (step now c).2 = (model (view now) a).2)
    (passed : ∀ now c, holds now → asks c = none → view (step now c).2 = view now) {s : S} (start : holds s)
    (calls : List C) :
    (seen step s calls).filterMap (fun event => (asks event.1).map fun a => (a,event.2)) =
        seen model (view s) (calls.filterMap asks) ∧
      view (after step s calls) = after model (view s) (calls.filterMap asks) := by
  induction calls generalizing s with
  | nil => exact ⟨rfl,rfl⟩
  | cons c rest ih =>
    obtain ⟨replies,last⟩ := ih (kept s c start)
    rw [seen,after,List.filterMap_cons,List.filterMap_cons]
    cases asked : asks c with
    | none =>
      rw [passed s c start asked] at replies last
      exact ⟨replies,last⟩
    | some a =>
      obtain ⟨reply,next⟩ := taken s c a start asked
      rw [next] at replies last
      exact ⟨by rw [seen,← replies,← reply]; rfl,last⟩

theorem last_set {A : Type} (quantity : S → A) (sets : C → Option A)
    (each : ∀ now c, quantity (step now c).2 = (sets c).getD (quantity now)) (s : S) (calls : List C) :
    quantity (after step s calls) = (calls.filterMap sets).getLast?.getD (quantity s) := by
  induction calls generalizing s with
  | nil => rfl
  | cons c rest ih =>
    rw [after,ih,each,List.filterMap_cons]
    cases sets c with
    | none => rfl
    | some a => rw [List.getLast?_cons,Option.getD_some,Option.getD_some]

end

theorem last_snoc {E A : Type} (told : E → Option A) (history : List E) (event : E) :
    ((history ++ [event]).filterMap told).getLast? = (told event).or (history.filterMap told).getLast? := by
  rw [List.filterMap_append]
  cases found : told event <;> simp [found]

section
variable {C : Type} {holds : List C → Prop} {meets : List C → C → Prop}

theorem prefixes_hold (start : holds []) (kept : ∀ made c, holds made → meets made c → holds (made ++ [c]))
    {calls : List C} (all : ∀ made c later, calls = made ++ c :: later → holds made → meets made c) :
    ∀ made later, calls = made ++ later → holds made := by
  intro made
  induction made using List.reverseRecOn with
  | nil => exact fun _ _ => start
  | append_singleton made c ih =>
    intro later split
    rw [List.append_assoc] at split
    have before := ih _ split
    exact kept made c before (all made c later split before)

theorem steps_iff {agrees : List C → C → Prop} (start : holds [])
    (kept : ∀ made c, holds made → meets made c → holds (made ++ [c]))
    (each : ∀ made c, holds made → (meets made c ↔ agrees made c)) (calls : List C) :
    (∀ made c later, calls = made ++ c :: later → meets made c) ↔
      ∀ made c later, calls = made ++ c :: later → agrees made c := by
  constructor
  · intro met made c later split
    have held := prefixes_hold start kept (fun made c later split _ => met made c later split) made _ split
    exact (each made c held).mp (met made c later split)
  · intro agreed made c later split
    have held := prefixes_hold start kept
      (fun made c later split held => (each made c held).mpr (agreed made c later split)) made _ split
    exact (each made c held).mpr (agreed made c later split)

end

def since {C R : Type} (resets : C × R → Bool) (history : List (C × R)) : List (C × R) :=
  history.rtakeWhile fun event => !resets event

theorem since_snoc {C R : Type} (resets : C × R → Bool) (history : List (C × R)) (event : C × R) :
    since resets (history ++ [event]) = if resets event then [] else since resets history ++ [event] := by
  rw [since,List.rtakeWhile_concat,since]
  cases resets event <;> rfl

end Edtf.Histories

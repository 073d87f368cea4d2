import Mathlib.Tactic
import Edtf.Interleaving

namespace Edtf.RunnerProgress
open ByteText Registry Results RunOne Interleaving

def stageOf : Runner → Nat
  | .idle => 0
  | .waiting _ => 1
  | .joining _ => 2

def rank (s : State L) : Nat := 3*s.pos + stageOf s.runner

-- A path with the number of steps that the runner itself took on it.
inductive Counted (opts : RunOptions) (tests : List (TestCase (Program L))) : Nat → State L → State L → Prop where
  | refl : Counted opts tests 0 s s
  | worker (path : Counted opts tests n s t) (step : Step opts tests t u) (same : u.runner = t.runner) :
      Counted opts tests n s u
  | runner (path : Counted opts tests n s t) (step : Step opts tests t u) (moved : u.runner ≠ t.runner) :
      Counted opts tests (n+1) s u

section
variable {opts : RunOptions} {tests : List (TestCase (Program L))} {s : State L}

theorem path_counted (path : Path opts tests s t) : ∃ n, Counted opts tests n s t := by
  induction path with
  | refl => exact ⟨0,.refl⟩
  | @tail middle next _ step ih =>
    obtain ⟨n,counted⟩ := ih
    by_cases same : next.runner = middle.runner
    · exact ⟨n,.worker counted step same⟩
    · exact ⟨n+1,.runner counted step same⟩

theorem step_rank (step : Step opts tests s next) :
    (next.runner = s.runner ∧ next.pos = s.pos) ∨ (next.runner ≠ s.runner ∧ rank s < rank next) := by
  cases step with
  | work known work => exact .inl ⟨rfl,rfl⟩
  | start idle next =>
    refine .inr ⟨?_,?_⟩
    · rw [idle]
      exact Runner.noConfusion
    · simp only [rank,idle,stageOf]
      omega
  | observe waiting done =>
    refine .inr ⟨?_,?_⟩
    · rw [waiting]
      exact Runner.noConfusion
    · simp only [rank,waiting,stageOf]
      omega
  | join joining current elapsed =>
    refine .inr ⟨?_,?_⟩
    · rw [joining]
      exact Runner.noConfusion
    · simp only [rank,joining,State.report,stageOf]
      omega
  | expire waiting current limited late elapsed =>
    refine .inr ⟨?_,?_⟩
    · rw [waiting]
      exact Runner.noConfusion
    · simp only [rank,waiting,State.report,stageOf]
      omega

theorem counted_rank (counted : Counted opts tests n s t) : rank s + n ≤ rank t := by
  induction counted with
  | refl => exact Nat.le_refl _
  | worker path step same ih =>
    rcases step_rank step with ⟨runner,pos⟩ | ⟨moved,_⟩
    · rw [rank,rank,runner,pos] at *
      exact ih
    · exact absurd same moved
  | runner path step moved ih =>
    rcases step_rank step with ⟨runner,_⟩ | ⟨_,grown⟩
    · exact absurd runner moved
    · omega

theorem pos_within (valid : Invariant opts tests s) : s.pos ≤ tests.length := by
  by_contra beyond
  have last : s.pos-1 < s.results.length := by
    rw [valid.pos]
    omega
  obtain ⟨tc,_,position,_⟩ := valid.results (s.pos-1) _ (List.getElem?_eq_getElem last)
  have bound := (List.getElem?_eq_some_iff.mp position).1
  omega

theorem current_within (current : Current tests s w) : s.pos < tests.length := by
  obtain ⟨_,tc,position,_⟩ := current
  exact (List.getElem?_eq_some_iff.mp position).1

theorem rank_within (valid : Invariant opts tests s) : rank s ≤ 3*tests.length := by
  have bound := pos_within valid
  unfold rank
  cases stage : s.runner with
  | idle =>
    simp only [stageOf]
    omega
  | waiting w =>
    have inside := current_within (valid.waiting w stage)
    simp only [stageOf]
    omega
  | joining w =>
    have inside := current_within (valid.joining w stage).1
    simp only [stageOf]
    omega

def CanMove (opts : RunOptions) (tests : List (TestCase (Program L))) (s : State L) : Prop :=
  ∃ next, Step opts tests s next ∧ next.runner ≠ s.runner

theorem can_move (valid : Invariant opts tests s) : CanMove opts tests s ↔
    s.pos < tests.length ∧ ∀ w tc, s.runner = .waiting w → tests[s.pos]? = some tc →
      (s.heap w).done = true ∨ 0 < deadlineOf opts tc := by
  constructor
  · rintro ⟨next,step,moved⟩
    cases step with
    | work known work => exact absurd rfl moved
    | start idle position =>
      refine ⟨(List.getElem?_eq_some_iff.mp position).1,fun w tc waiting => ?_⟩
      rw [idle] at waiting
      cases waiting
    | observe waiting done =>
      refine ⟨current_within (valid.waiting _ waiting),fun w tc same _ => .inl ?_⟩
      rw [waiting] at same
      cases same
      exact done
    | join joining current elapsed =>
      refine ⟨(List.getElem?_eq_some_iff.mp current).1,fun w tc waiting => ?_⟩
      rw [joining] at waiting
      cases waiting
    | expire waiting current limited late elapsed =>
      refine ⟨(List.getElem?_eq_some_iff.mp current).1,fun w tc _ position => .inr ?_⟩
      obtain rfl := Option.some.inj (current.symm.trans position)
      exact limited
  · rintro ⟨within,released⟩
    have position := List.getElem?_eq_getElem within
    cases stage : s.runner with
    | idle => exact ⟨_,.start stage position,by rw [stage]; exact Runner.noConfusion⟩
    | joining w => exact ⟨_,.join stage position 0,by rw [stage]; exact Runner.noConfusion⟩
    | waiting w =>
      by_cases done : (s.heap w).done = true
      · exact ⟨_,.observe stage done,by rw [stage]; exact Runner.noConfusion⟩
      · have limited := (released w _ stage position).resolve_left done
        have late : (s.heap w).done = false := by simpa using done
        exact ⟨_,.expire stage position limited late 0,by rw [stage]; exact Runner.noConfusion⟩

theorem at_end (valid : Invariant opts tests s) (whole : s.pos = tests.length) : s.runner = .idle := by
  cases stage : s.runner with
  | idle => rfl
  | waiting w =>
    have inside := current_within (valid.waiting w stage)
    omega
  | joining w =>
    have inside := current_within (valid.joining w stage).1
    omega

-- Under deadlines the runner gets to the end without any help of its workers.
theorem end_reached (limited : ∀ tc ∈ tests, 0 < deadlineOf opts tc) (valid : Invariant opts tests s) :
    ∃ t, Path opts tests s t ∧ t.runner = .idle ∧ t.pos = tests.length := by
  obtain ⟨left,measure⟩ : ∃ left, left = 3*tests.length - rank s := ⟨_,rfl⟩
  induction left using Nat.strong_induction_on generalizing s with
  | _ left ih =>
    by_cases whole : s.pos = tests.length
    · exact ⟨s,.refl,at_end valid whole,whole⟩
    · have within : s.pos < tests.length := Nat.lt_of_le_of_ne (pos_within valid) whole
      have released : ∀ w tc, s.runner = .waiting w → tests[s.pos]? = some tc →
          (s.heap w).done = true ∨ 0 < deadlineOf opts tc :=
        fun _ tc _ position => .inr (limited tc (List.mem_of_getElem? position))
      obtain ⟨next,step,moved⟩ := (can_move valid).mpr ⟨within,released⟩
      have valid' := step_invariant valid step
      have bound := rank_within valid'
      have grown : rank s < rank next := by
        rcases step_rank step with ⟨runner,_⟩ | ⟨_,grown⟩
        · exact absurd runner moved
        · exact grown
      obtain ⟨t,path,final⟩ := ih (3*tests.length - rank next) (by omega) valid' rfl
      exact ⟨t,.head step path,final⟩

-- Each test gets one worker, which bears its number and runs its body; no test gets two,
-- and none is passed over.
def busy : Runner → Nat
  | .idle => 0
  | _ => 1

structure Once (tests : List (TestCase (Program L))) (s : State L) : Prop where
  started : s.started = s.pos + busy s.runner
  bodies : ∀ w, w < s.started → ∃ tc, tests[w]? = some tc ∧ (s.thread w).body = tc.body
  waiting : ∀ w, s.runner = .waiting w → w = s.pos
  joining : ∀ w, s.runner = .joining w → w = s.pos

theorem work_body (work : Work t heap next later) : next.body = t.body := by
  cases work <;> rfl

theorem once_report (once : Once tests s) (one : busy s.runner = 1) (r : TestResult) : Once tests (s.report r) := by
  refine ⟨?_,once.bodies,nofun,nofun⟩
  have started := once.started
  simp only [State.report,busy]
  omega

theorem once_work (once : Once tests s) (work : Work (s.thread w) s.heap t heap) :
    Once tests {s with heap := heap,thread := Function.update s.thread w t} := by
  refine ⟨once.started,fun v old => ?_,once.waiting,once.joining⟩
  obtain ⟨tc,position,body⟩ := once.bodies v old
  refine ⟨tc,position,?_⟩
  by_cases same : v = w
  · subst same
    simp only [Function.update_self]
    rw [work_body work,body]
  · simp only [Function.update_of_ne same]
    exact body

theorem once_start (once : Once tests s) (idle : s.runner = .idle) (next : tests[s.pos]? = some tc) :
    Once tests {s with heap := Function.update s.heap s.started .new,
                       thread := Function.update s.thread s.started ⟨tc.body,s.started,none,.created⟩,
                       started := s.started+1,runner := .waiting s.started} := by
  have count : s.started = s.pos := by
    rw [once.started,idle]
    rfl
  refine ⟨?_,fun v known => ?_,fun w same => ?_,nofun⟩
  · simp only [busy,count]
  · by_cases new : v = s.started
    · subst new
      exact ⟨tc,by rw [count]; exact next,by simp only [Function.update_self]⟩
    · obtain ⟨tc,position,body⟩ := once.bodies v (by simp only at known; omega)
      refine ⟨tc,position,?_⟩
      simp only [Function.update_of_ne new]
      exact body
  · cases same
    exact count

theorem once_step (once : Once tests s) (step : Step opts tests s next) : Once tests next := by
  cases step with
  | work known work => exact once_work once work
  | start idle next => exact once_start once idle next
  | observe waiting done =>
    refine ⟨?_,once.bodies,nofun,fun w same => ?_⟩
    · rw [once.started,waiting]
      rfl
    · cases same
      exact once.waiting _ waiting
  | join joining current elapsed => exact once_report once (by rw [joining]; rfl) _
  | expire waiting current limited late elapsed => exact once_report once (by rw [waiting]; rfl) _

theorem once_path (initial : Initial tests start) (path : Path opts tests start s) : Once tests s := by
  induction path with
  | refl =>
    refine ⟨?_,fun w known => ?_,fun w same => ?_,fun w same => ?_⟩
    · rw [initial.started,initial.pos,initial.runner]
      rfl
    · rw [initial.started] at known
      omega
    · rw [initial.runner] at same
      cases same
    · rw [initial.runner] at same
      cases same
  | tail _ step ih => exact once_step ih step

structure Progress (opts : RunOptions) (tests : List (TestCase (Program L))) (start s : State L) : Prop where
  counted : ∃ n, Counted opts tests n start s
  bounded : ∀ n, Counted opts tests n start s → n ≤ 3*tests.length
  moves : CanMove opts tests s ↔ s.pos < tests.length ∧ ∀ w tc, s.runner = .waiting w → tests[s.pos]? = some tc →
    (s.heap w).done = true ∨ 0 < deadlineOf opts tc
  ends : (∀ tc ∈ tests, 0 < deadlineOf opts tc) →
    ∃ t, Path opts tests s t ∧ t.runner = .idle ∧ t.pos = tests.length
  once : Once tests s

theorem runner_progress (opts : RunOptions) (tests : List (TestCase (Program L))) (start s : State L)
    (initial : Initial tests start) (path : Path opts tests start s) : Progress opts tests start s := by
  have valid := path_invariant (initial_invariant initial) path
  refine ⟨path_counted path,fun n counted => ?_,can_move valid,fun limited => end_reached limited valid,
    once_path initial path⟩
  have ranked := counted_rank counted
  have bound := rank_within valid
  omega

end

def limited : RunOptions := {RunOptions.new with defaultTimeout := 100}

theorem race_progress : ∃ s, Path limited race raceStart s ∧ s.runner = .waiting 1 ∧ s.results.length = 1 ∧
    (∀ tc ∈ race, 0 < deadlineOf limited tc) ∧ Progress limited race raceStart s := by
  have begun : Path limited race raceStart raceStart := .refl
  have first := ((begun.tail (.start rfl rfl)).tail (.work (w := 0) (by decide) (.bind rfl))).tail
    (.work (w := 0) (by decide) (.check rfl rfl rfl))
  have path := ((first.tail (.expire rfl rfl (by decide) rfl 31)).tail (.start rfl rfl)).tail
    (.work (w := 0) (by decide) (.check rfl rfl rfl))
  refine ⟨_,path,rfl,rfl,fun tc present => ?_,runner_progress limited race raceStart _ ⟨rfl,rfl,rfl,rfl,rfl⟩ path⟩
  rcases List.mem_cons.mp present with rfl | rest
  · decide
  · rw [List.mem_singleton.mp rest]
    decide

end Edtf.RunnerProgress

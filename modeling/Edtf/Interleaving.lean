import Mathlib.Tactic
import Mathlib.Logic.Relation
import Mathlib.Logic.Function.Basic
import Edtf.Verdicts

namespace Edtf.Interleaving
open ByteText Assertions BodyTraces Registry Results RunOne Verdicts

-- A test body as its thread runs it, step by step over local states of its own. It may
-- be nondeterministic and it may never leave.
inductive Move (L : Type) where
  | compute (next : L)
  | check (event : Event) (next : L)
  | leave (escaped : Option Thrown)

structure Program (L : Type) where
  start : L
  moves : L → Move L → Prop

inductive Alone (body : Program L) : L → CheckSink → Prop where
  | start : Alone body body.start .new
  | compute : Alone body l sink → body.moves l (.compute next) → Alone body next sink
  | check : Alone body l sink → body.moves l (.check event next) → Alone body next (record sink event)

def Complete (body : Program L) (escaped : Option Thrown) (sink : CheckSink) : Prop :=
  ∃ l, Alone body l sink ∧ body.moves l (.leave escaped)

inductive Evaluates (body : Program L) : List Event → L → Prop where
  | start : Evaluates body [] body.start
  | compute : Evaluates body trace l → body.moves l (.compute next) → Evaluates body trace next
  | check : Evaluates body trace l → body.moves l (.check event next) → Evaluates body (trace ++ [event]) next

def Executes (body : Program L) (trace : List Event) (escaped : Option Thrown) : Prop :=
  ∃ l, Evaluates body trace l ∧ body.moves l (.leave escaped)

theorem alone_evaluates (alone : Alone body l sink) : ∃ trace, Evaluates body trace l ∧ sink = replay .new trace := by
  induction alone with
  | start => exact ⟨[],.start,rfl⟩
  | compute prior moves ih =>
    obtain ⟨trace,evaluates,same⟩ := ih
    exact ⟨trace,.compute evaluates moves,same⟩
  | @check l sink event next prior moves ih =>
    obtain ⟨trace,evaluates,same⟩ := ih
    refine ⟨trace ++ [event],.check evaluates moves,?_⟩
    rw [replay,List.foldl_append,same]
    rfl

theorem complete_executes (complete : Complete body escaped sink) :
    ∃ trace, Executes body trace escaped ∧ sink = replay .new trace := by
  obtain ⟨l,alone,moves⟩ := complete
  obtain ⟨trace,evaluates,same⟩ := alone_evaluates alone
  exact ⟨trace,⟨l,evaluates,moves⟩,same⟩

-- A program that does what a registered case does.
def Follows (body : Program L) (c : CaseBody σ) (s : σ) : Prop :=
  ∀ trace escaped, Executes body trace escaped →
    trace = events (runCase c .new s).trace ∧ escaped = (runCase c .new s).escaped

def caseProgram (c : CaseBody σ) (s : σ) : Program (List Event) where
  start := events (runCase c .new s).trace
  moves l move := match l with
    | event :: rest => move = .check event rest
    | [] => move = .leave (runCase c .new s).escaped

theorem case_evaluates (evaluates : Evaluates (caseProgram c s) trace rest) :
    trace ++ rest = events (runCase c .new s).trace := by
  induction evaluates with
  | start => rfl
  | @compute trace l next prior moves ih => cases l <;> cases moves
  | @check trace l event next prior moves ih =>
    cases l with
    | nil => cases moves
    | cons first later =>
      cases moves
      rw [List.append_assoc]
      exact ih

theorem caseProgram_follows (c : CaseBody σ) (s : σ) : Follows (caseProgram c s) c s := by
  rintro trace escaped ⟨rest,evaluates,moves⟩
  cases rest with
  | cons event rest => cases moves
  | nil =>
    cases moves
    have whole := case_evaluates evaluates
    rw [List.append_nil] at whole
    exact ⟨whole,rfl⟩

inductive Stage (L : Type) where
  | created
  | running (l : L)
  | left (escaped : Option Thrown)
  | judged
  | unbound
  | finished

-- `block` is the captured shared pointer, `active` the thread's own active_sink(): the
-- block whose sink the macros of this thread write to.
structure Thread (L : Type) where
  body : Program L
  block : Nat
  active : Option Nat
  stage : Stage L

abbrev Heap := Nat → Shared

inductive Work : Thread L → Heap → Thread L → Heap → Prop where
  | bind (created : t.stage = .created) :
      Work t heap {t with active := some t.block,stage := .running t.body.start} heap
  | compute (running : t.stage = .running l) (moves : t.body.moves l (.compute next)) :
      Work t heap {t with stage := .running next} heap
  | check (running : t.stage = .running l) (moves : t.body.moves l (.check event next)) (bound : t.active = some a) :
      Work t heap {t with stage := .running next}
        (Function.update heap a {heap a with sink := record (heap a).sink event})
  | leave (running : t.stage = .running l) (moves : t.body.moves l (.leave escaped)) :
      Work t heap {t with stage := .left escaped} heap
  | judge (left : t.stage = .left escaped) :
      Work t heap {t with stage := .judged} (Function.update heap t.block ((heap t.block).caught escaped))
  | unbind (judged : t.stage = .judged) : Work t heap {t with active := none,stage := .unbound} heap
  | finish (unbound : t.stage = .unbound) :
      Work t heap {t with stage := .finished} (Function.update heap t.block {heap t.block with done := true})

inductive Runner where
  | idle
  | waiting (worker : Nat)
  | joining (worker : Nat)

-- Blocks and threads get the next unused number when a test starts, and `pos` is the
-- position of the loop in the selected tests.
structure State (L : Type) where
  heap : Heap
  thread : Nat → Thread L
  started : Nat
  runner : Runner
  pos : Nat
  results : List TestResult
  summary : RunSummary

def State.report (s : State L) (r : TestResult) : State L :=
  {s with runner := .idle,pos := s.pos+1,results := s.results ++ [r],summary := s.summary.count r.outcome}

section
variable (opts : RunOptions) (tests : List (TestCase (Program L)))

inductive Step : State L → State L → Prop where
  | work (known : w < s.started) (work : Work (s.thread w) s.heap t heap) :
      Step s {s with heap := heap,thread := Function.update s.thread w t}
  | start (idle : s.runner = .idle) (next : tests[s.pos]? = some tc) :
      Step s {s with heap := Function.update s.heap s.started .new,
                     thread := Function.update s.thread s.started ⟨tc.body,s.started,none,.created⟩,
                     started := s.started+1,runner := .waiting s.started}
  | observe (waiting : s.runner = .waiting w) (done : (s.heap w).done = true) :
      Step s {s with runner := .joining w}
  | join (joining : s.runner = .joining w) (current : tests[s.pos]? = some tc) (elapsed : Nat) :
      Step s (s.report (collect tc (s.heap w) elapsed))
  | expire (waiting : s.runner = .waiting w) (current : tests[s.pos]? = some tc)
      (limited : 0 < deadlineOf opts tc) (late : (s.heap w).done = false) (elapsed : Nat) :
      Step s (s.report (expired tc (deadlineOf opts tc) elapsed))

structure Initial (s : State L) : Prop where
  started : s.started = 0
  runner : s.runner = .idle
  pos : s.pos = 0
  results : s.results = []
  summary : s.summary = {RunSummary.new with total := Int.bmod tests.length (2^32)}

end

-- What the block of a worker holds at each stage of it: always what its body did alone.
def Settled (body : Program L) (reads : Ending → Shared) (shared : Shared) : Prop :=
  ∃ ending : Ending, shared = reads ending ∧ Complete body ending.escaped ending.sink

def Holds (t : Thread L) (shared : Shared) : Prop :=
  match t.stage with
  | .created => shared = .new
  | .running l => t.active = some t.block ∧ ∃ sink, shared = {Shared.new with sink := sink} ∧ Alone t.body l sink
  | .left escaped =>
    t.active = some t.block ∧ ∃ sink, shared = {Shared.new with sink := sink} ∧ Complete t.body escaped sink
  | .judged => Settled t.body (fun e => ({Shared.new with sink := e.sink}).caught e.escaped) shared
  | .unbound => Settled t.body (fun e => ({Shared.new with sink := e.sink}).caught e.escaped) shared
  | .finished => Settled t.body Ending.shared shared

theorem caught_done (shared : Shared) (escaped : Option Thrown) : (shared.caught escaped).done = shared.done := by
  cases escaped with
  | none => rfl
  | some thrown => cases thrown <;> rfl

theorem holds_done (holds : Holds t shared) (done : shared.done = true) : Settled t.body Ending.shared shared := by
  unfold Holds at holds
  cases stage : t.stage with
  | created =>
    rw [stage] at holds
    subst holds
    cases done
  | running l =>
    simp only [stage] at holds
    obtain ⟨_,sink,rfl,_⟩ := holds
    cases done
  | left escaped =>
    simp only [stage] at holds
    obtain ⟨_,sink,rfl,_⟩ := holds
    cases done
  | judged =>
    simp only [stage] at holds
    obtain ⟨ending,rfl,_⟩ := holds
    rw [caught_done] at done
    cases done
  | unbound =>
    simp only [stage] at holds
    obtain ⟨ending,rfl,_⟩ := holds
    rw [caught_done] at done
    cases done
  | finished =>
    simp only [stage] at holds
    exact holds

structure Kept (t next : Thread L) (heap later : Heap) : Prop where
  body : next.body = t.body
  block : next.block = t.block
  holds : Holds next (later t.block)
  others : ∀ a, a ≠ t.block → later a = heap a
  live : ¬(heap t.block).done = true

theorem work_keeps (holds : Holds t (heap t.block)) (work : Work t heap next later) : Kept t next heap later := by
  cases work with
  | bind created =>
    simp only [Holds,created] at holds
    refine ⟨rfl,rfl,⟨rfl,.new,holds,.start⟩,fun _ _ => rfl,by rw [holds]; exact Bool.false_ne_true⟩
  | compute running moves =>
    simp only [Holds,running] at holds
    obtain ⟨bound,sink,shape,alone⟩ := holds
    exact ⟨rfl,rfl,⟨bound,sink,shape,.compute alone moves⟩,fun _ _ => rfl,by rw [shape]; exact Bool.false_ne_true⟩
  | check running moves pointed =>
    simp only [Holds,running] at holds
    obtain ⟨bound,sink,shape,alone⟩ := holds
    obtain rfl := Option.some.inj (pointed.symm.trans bound)
    refine ⟨rfl,rfl,⟨bound,_,?_,.check alone moves⟩,fun a other => ?_,by rw [shape]; exact Bool.false_ne_true⟩
    · rw [Function.update_self,shape]
    · exact Function.update_of_ne other _ _
  | leave running moves =>
    simp only [Holds,running] at holds
    obtain ⟨bound,sink,shape,alone⟩ := holds
    exact ⟨rfl,rfl,⟨bound,sink,shape,_,alone,moves⟩,fun _ _ => rfl,by rw [shape]; exact Bool.false_ne_true⟩
  | judge left =>
    simp only [Holds,left] at holds
    obtain ⟨_,sink,shape,complete⟩ := holds
    refine ⟨rfl,rfl,⟨⟨0,_,sink⟩,?_,complete⟩,fun a other => ?_,by rw [shape]; exact Bool.false_ne_true⟩
    · rw [Function.update_self,shape]
    · exact Function.update_of_ne other _ _
  | unbind judged =>
    simp only [Holds,judged] at holds
    obtain ⟨ending,shape,complete⟩ := holds
    exact ⟨rfl,rfl,⟨ending,shape,complete⟩,fun _ _ => rfl,by rw [shape,caught_done]; exact Bool.false_ne_true⟩
  | finish unbound =>
    simp only [Holds,unbound] at holds
    obtain ⟨ending,shape,complete⟩ := holds
    refine ⟨rfl,rfl,⟨ending,?_,complete⟩,fun a other => ?_,by rw [shape,caught_done]; exact Bool.false_ne_true⟩
    · rw [Function.update_self,shape]
      rfl
    · exact Function.update_of_ne other _ _

def Explained (opts : RunOptions) (tests : List (TestCase (Program L))) (k : Nat) (r : TestResult) : Prop :=
  ∃ tc elapsed, tests[k]? = some tc ∧
    ((0 < deadlineOf opts tc ∧ r = expired tc (deadlineOf opts tc) elapsed) ∨
      ∃ ending : Ending, Complete tc.body ending.escaped ending.sink ∧ r = collect tc ending.shared elapsed)

section
variable {opts : RunOptions} {tests : List (TestCase (Program L))}

def Current (tests : List (TestCase (Program L))) (s : State L) (w : Nat) : Prop :=
  w < s.started ∧ ∃ tc, tests[s.pos]? = some tc ∧ (s.thread w).body = tc.body

structure Invariant (opts : RunOptions) (tests : List (TestCase (Program L))) (s : State L) : Prop where
  block : ∀ w, w < s.started → (s.thread w).block = w
  holds : ∀ w, w < s.started → Holds (s.thread w) (s.heap w)
  waiting : ∀ w, s.runner = .waiting w → Current tests s w
  joining : ∀ w, s.runner = .joining w → Current tests s w ∧ (s.heap w).done = true
  pos : s.results.length = s.pos
  results : ∀ k r, s.results[k]? = some r → Explained opts tests k r
  tally : ∀ o, s.summary.of o = tally o s.results

theorem initial_invariant (initial : Initial tests s) : Invariant opts tests s := by
  refine ⟨?_,?_,?_,?_,?_,?_,?_⟩
  · intro w known; rw [initial.started] at known; omega
  · intro w known; rw [initial.started] at known; omega
  · intro w waiting; rw [initial.runner] at waiting; cases waiting
  · intro w joining; rw [initial.runner] at joining; cases joining
  · rw [initial.results,initial.pos]; rfl
  · intro k r present; rw [initial.results] at present; cases present
  · intro o
    rw [initial.results,initial.summary]
    cases o <;> rfl

theorem report_invariant (valid : Invariant opts tests s) (explained : Explained opts tests s.pos r) :
    Invariant opts tests (s.report r) := by
  refine ⟨valid.block,valid.holds,?_,?_,?_,?_,?_⟩
  · intro w waiting; cases waiting
  · intro w joining; cases joining
  · simp [State.report,valid.pos]
  · intro k other present
    have bound := (List.getElem?_eq_some_iff.mp present).1
    simp only [State.report,List.length_append,List.length_singleton] at bound present
    by_cases old : k < s.results.length
    · rw [List.getElem?_append_left old] at present
      exact valid.results k other present
    · obtain rfl : k = s.results.length := by omega
      rw [List.getElem?_append_right (Nat.le_refl _),Nat.sub_self] at present
      obtain rfl := Option.some.inj present
      rw [valid.pos]
      exact explained
  · intro o
    simp only [State.report,count_of,tally_snoc,valid.tally]
    split <;> simp

theorem work_invariant (valid : Invariant opts tests s) (known : w < s.started)
    (work : Work (s.thread w) s.heap t heap) :
    Invariant opts tests {s with heap := heap,thread := Function.update s.thread w t} := by
  have own := valid.block w known
  have holds : Holds (s.thread w) (s.heap (s.thread w).block) := by rw [own]; exact valid.holds w known
  have kept := work_keeps holds work
  have bodies : ∀ v, (Function.update s.thread w t v).body = (s.thread v).body := by
    intro v
    by_cases same : v = w
    · rw [same,Function.update_self,kept.body]
    · rw [Function.update_of_ne same]
  have current : ∀ v, Current tests s v →
      Current tests {s with heap := heap,thread := Function.update s.thread w t} v := by
    rintro v ⟨old,tc,position,body⟩
    exact ⟨old,tc,position,(bodies v).trans body⟩
  refine ⟨?_,?_,?_,?_,valid.pos,valid.results,valid.tally⟩
  · intro v old
    by_cases same : v = w
    · simp only [same,Function.update_self,kept.block,own]
    · simp only [Function.update_of_ne same,valid.block v old]
  · intro v old
    by_cases same : v = w
    · simp only [same,Function.update_self]
      rw [← own]
      exact kept.holds
    · simp only [Function.update_of_ne same]
      rw [kept.others v (by rw [own]; exact same)]
      exact valid.holds v old
  · intro v waiting
    exact current v (valid.waiting v waiting)
  · intro v joining
    obtain ⟨old,done⟩ := valid.joining v joining
    have other : v ≠ w := by
      rintro rfl
      rw [← own] at done
      exact kept.live done
    refine ⟨current v old,?_⟩
    simp only
    rw [kept.others v (by rw [own]; exact other)]
    exact done

theorem start_invariant (valid : Invariant opts tests s) (next : tests[s.pos]? = some tc) :
    Invariant opts tests {s with heap := Function.update s.heap s.started .new,
                                 thread := Function.update s.thread s.started ⟨tc.body,s.started,none,.created⟩,
                                 started := s.started+1,runner := .waiting s.started} := by
  refine ⟨?_,?_,?_,?_,valid.pos,valid.results,valid.tally⟩
  · intro v known
    by_cases new : v = s.started
    · simp only [new,Function.update_self]
    · simp only [Function.update_of_ne new]
      exact valid.block v (by simp only at known; omega)
  · intro v known
    by_cases new : v = s.started
    · simp only [new,Function.update_self]
      rfl
    · simp only [Function.update_of_ne new]
      exact valid.holds v (by simp only at known; omega)
  · intro v waiting
    cases waiting
    exact ⟨Nat.lt_succ_self _,tc,next,by simp only [Function.update_self]⟩
  · intro v joining
    cases joining

theorem step_invariant (valid : Invariant opts tests s) (step : Step opts tests s next) :
    Invariant opts tests next := by
  cases step with
  | work known work => exact work_invariant valid known work
  | start idle next => exact start_invariant valid next
  | observe waiting done =>
    refine ⟨valid.block,valid.holds,?_,?_,valid.pos,valid.results,valid.tally⟩
    · intro w other; cases other
    · intro w joining
      cases joining
      exact ⟨valid.waiting _ waiting,done⟩
  | join joining current elapsed =>
    obtain ⟨⟨known,tc,position,body⟩,done⟩ := valid.joining _ joining
    obtain ⟨ending,shape,complete⟩ := holds_done (valid.holds _ known) done
    obtain rfl := Option.some.inj (current.symm.trans position)
    rw [body] at complete
    exact report_invariant valid ⟨_,elapsed,current,.inr ⟨ending,complete,by rw [shape]⟩⟩
  | expire waiting current limited late elapsed =>
    exact report_invariant valid ⟨_,elapsed,current,.inl ⟨limited,rfl⟩⟩

abbrev Path (opts : RunOptions) (tests : List (TestCase (Program L))) : State L → State L → Prop :=
  Relation.ReflTransGen (Step opts tests)

theorem path_invariant (valid : Invariant opts tests s) (path : Path opts tests s next) :
    Invariant opts tests next := by
  induction path with
  | refl => exact valid
  | tail _ step ih => exact step_invariant ih step

def Preserved (s next : State L) : Prop :=
  s.results <+: next.results ∧ (next.results.length = s.results.length → next.summary = s.summary)

theorem step_preserved (step : Step opts tests s next) : Preserved s next := by
  have grown : ∀ r, Preserved s (s.report r) := by
    intro r
    refine ⟨List.prefix_append _ _,fun same => ?_⟩
    simp [State.report] at same
  cases step with
  | work known work => exact ⟨List.prefix_rfl,fun _ => rfl⟩
  | start idle next => exact ⟨List.prefix_rfl,fun _ => rfl⟩
  | observe waiting done => exact ⟨List.prefix_rfl,fun _ => rfl⟩
  | join joining current elapsed => exact grown _
  | expire waiting current limited late elapsed => exact grown _

theorem path_preserved (path : Path opts tests s next) : Preserved s next := by
  induction path with
  | refl => exact ⟨List.prefix_rfl,fun _ => rfl⟩
  | @tail middle next path step ih =>
    obtain ⟨early,sameEarly⟩ := ih
    obtain ⟨late,sameLate⟩ := step_preserved step
    refine ⟨early.trans late,fun same => ?_⟩
    have low := early.length_le
    have high := late.length_le
    exact (sameLate (by omega)).trans (sameEarly (by omega))

structure TimedOut (opts : RunOptions) (tc : TestCase β) (r : TestResult) : Prop where
  limited : 0 < deadlineOf opts tc
  outcome : r.outcome = .timeout
  passes : r.assertionsPassed = 0
  failures : r.assertionsFailed = 0
  detail : r.detail = text "exceeded deadline of " ++ intText (deadlineOf opts tc) ++ text " ms"

structure Sole (trace : List Event) (escaped : Option Thrown) (r : TestResult) : Prop where
  passes : r.assertionsPassed = passes trace
  failures : r.assertionsFailed = (failureMessages trace).length
  error : ∀ e, escaped = some (.user e) → r.outcome = .error ∧ r.detail = exceptionText e
  failed : (∀ e, escaped ≠ some (.user e)) → failureMessages trace ≠ [] →
    r.outcome = .failed ∧ r.detail = joined (failureMessages trace)
  passed : (∀ e, escaped ≠ some (.user e)) → failureMessages trace = [] → r.outcome = .passed ∧ r.detail = []

theorem collect_sole (tc : TestCase β) (ending : Ending) (elapsed : Nat) (same : ending.sink = replay .new trace) :
    Sole trace ending.escaped (collect tc ending.shared elapsed) := by
  have passed : ending.sink.passed = passes trace := by rw [same,replay_passed]; exact Nat.zero_add _
  have failed : ending.sink.failed = (failureMessages trace).length := by rw [same,replay_failed]; exact Nat.zero_add _
  by_cases escapes : ∃ e, ending.escaped = some (.user e)
  · obtain ⟨e,left⟩ := escapes
    rw [collect_error tc ending elapsed left]
    refine ⟨passed,failed,fun other escaped => ?_,fun quiet => absurd left (quiet e),fun quiet => absurd left (quiet e)⟩
    rw [left] at escaped
    cases escaped
    exact ⟨rfl,caught_text e⟩
  · have quiet : ∀ e, ending.escaped ≠ some (.user e) := fun e left => escapes ⟨e,left⟩
    rw [collect_judged tc ending elapsed quiet]
    by_cases silent : failureMessages trace = []
    · rw [silent,List.length_nil] at failed
      rw [if_neg (by rw [failed]; exact Nat.lt_irrefl 0)]
      exact ⟨passed,by rw [failed,silent]; rfl,fun e left => absurd left (quiet e),fun _ some => absurd silent some,
        fun _ _ => ⟨rfl,rfl⟩⟩
    · have positive : 0 < ending.sink.failed := by rw [failed]; exact List.length_pos_iff.mpr silent
      rw [if_pos positive]
      exact ⟨passed,failed,fun e left => absurd left (quiet e),fun _ _ => ⟨rfl,by rw [same,replay_joined]⟩,
        fun _ none => absurd none silent⟩

-- The result of a test: given up, or one whole execution of its own body and nothing else;
-- if the body does what a case does, the verdict of that case.
structure Accounted (opts : RunOptions) (tc : TestCase (Program L)) (r : TestResult) : Prop where
  suite : r.suite = tc.suite
  name : r.name = tc.name
  verdict : TimedOut opts tc r ∨ ∃ trace escaped, Executes tc.body trace escaped ∧ Sole trace escaped r
  judged : r.outcome ≠ .timeout → ∀ (σ : Type) (c : CaseBody σ) (s : σ), Follows tc.body c s → Judged (runCase c .new s) r

theorem collect_named (tc : TestCase β) (shared : Shared) (elapsed : Nat) :
    (collect tc shared elapsed).suite = tc.suite ∧ (collect tc shared elapsed).name = tc.name := by
  unfold collect
  dsimp only
  split
  · exact ⟨rfl,rfl⟩
  · split <;> exact ⟨rfl,rfl⟩

theorem explained_accounted (explained : Explained opts tests k r) : ∃ tc, tests[k]? = some tc ∧ Accounted opts tc r := by
  obtain ⟨tc,elapsed,position,⟨limited,rfl⟩ | ⟨ending,complete,rfl⟩⟩ := explained
  · refine ⟨tc,position,rfl,rfl,.inl ⟨limited,rfl,rfl,rfl,rfl⟩,fun other => absurd rfl other⟩
  · obtain ⟨trace,executes,same⟩ := complete_executes complete
    obtain ⟨suite,name⟩ := collect_named tc ending.shared elapsed
    refine ⟨tc,position,suite,name,.inr ⟨trace,_,executes,collect_sole tc ending elapsed same⟩,fun _ σ c s follows => ?_⟩
    obtain ⟨rfl,escaped⟩ := follows trace ending.escaped executes
    rw [← runCase_sink] at same
    have whole : ending = ended c s ending.finish := by rw [ended,← escaped,← same]
    rw [whole]
    exact ended_judged tc c s ending.finish elapsed

theorem results_isolated (opts : RunOptions) (tests : List (TestCase (Program L))) (start s : State L)
    (initial : Initial tests start) (path : Path opts tests start s) :
    (∀ (k : Nat) r, s.results[k]? = some r → ∃ tc, tests[k]? = some tc ∧ Accounted opts tc r) ∧
      (∀ o, s.summary.of o = tally o s.results) ∧
      ∀ later, Path opts tests s later → Preserved s later := by
  have valid := path_invariant (initial_invariant initial) path
  exact ⟨fun k r recorded => explained_accounted (valid.results k r recorded),valid.tally,
    fun _ further => path_preserved further⟩

end

def polling : Program (List Event) := ⟨[],fun _ move => move = .check (.failed false (text "no reply")) []⟩
def resetting : CaseBody Nat := .free (expectTrue probeSite (fun n => n == 0) (text "reset"))

def race : List (TestCase (Program (List Event))) :=
  [⟨text "Probe",text "polls",.empty,30,polling⟩,⟨text "Probe",text "resets",.empty,0,caseProgram resetting 0⟩]

def raceStart : State (List Event) :=
  { heap := fun _ => .new
    thread := fun _ => ⟨polling,0,none,.created⟩
    started := 0
    runner := .idle
    pos := 0
    results := []
    summary := {RunSummary.new with total := Int.bmod 2 (2^32)} }

-- The first test expires, and its worker goes on recording failures while the second
-- test runs to its end.
theorem race_isolated : ∃ s, Path .new race raceStart s ∧
    s.results = [expired ⟨text "Probe",text "polls",.empty,30,polling⟩ 30 31,
      ⟨text "Probe",text "resets",.passed,1,0,2,[]⟩] ∧
    (∀ (k : Nat) r, s.results[k]? = some r → ∃ tc, race[k]? = some tc ∧ Accounted .new tc r) ∧
    (∀ o, s.summary.of o = tally o s.results) ∧
    (∀ later, Path .new race s later → Preserved s later) ∧
    Judged (runCase resetting .new 0) ⟨text "Probe",text "resets",.passed,1,0,2,[]⟩ := by
  have begun : Path .new race raceStart raceStart := .refl
  have first := ((begun.tail (.start rfl rfl)).tail (.work (w := 0) (by decide) (.bind rfl))).tail
    (.work (w := 0) (by decide) (.check rfl rfl rfl))
  have second := ((first.tail (.expire rfl rfl (by decide) rfl 31)).tail (.start rfl rfl)).tail
    (.work (w := 1) (by decide) (.bind rfl))
  have mixed := ((second.tail (.work (w := 0) (by decide) (.check rfl rfl rfl))).tail
    (.work (w := 1) (by decide) (.check rfl rfl rfl))).tail (.work (w := 0) (by decide) (.check rfl rfl rfl))
  have ending := (((mixed.tail (.work (w := 1) (by decide) (.leave rfl rfl))).tail
    (.work (w := 1) (by decide) (.judge rfl))).tail (.work (w := 1) (by decide) (.unbind rfl))).tail
    (.work (w := 1) (by decide) (.finish rfl))
  have path := (ending.tail (.observe rfl rfl)).tail (.join rfl rfl 2)
  have isolated := results_isolated .new race raceStart _ ⟨rfl,rfl,rfl,rfl,rfl⟩ path
  obtain ⟨tc,position,accounted⟩ := isolated.1 1 ⟨text "Probe",text "resets",.passed,1,0,2,[]⟩ rfl
  cases position
  exact ⟨_,path,rfl,isolated.1,isolated.2.1,isolated.2.2,
    accounted.judged Outcome.noConfusion Nat resetting 0 (caseProgram_follows resetting 0)⟩

end Edtf.Interleaving

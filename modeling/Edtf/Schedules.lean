import Mathlib.Tactic
import Edtf.Interleaving
import Edtf.Runs

namespace Edtf.Schedules
open ByteText Assertions BodyTraces Registry Results RunOne Interleaving
open Runs (resultsOf)

-- The executions that a body can show run_one: it may never end, and when it ends it has
-- run to its end on its own sink.
def Realizable (body : Program L) (e : Execution) : Prop :=
  ∀ ending, e.ending = some ending → Complete body ending.escaped ending.sink

section
variable {opts : RunOptions} {tests : List (TestCase (Program L))} {s : State L}

structure Frame (s next : State L) : Prop where
  started : next.started = s.started
  runner : next.runner = s.runner
  pos : next.pos = s.pos
  results : next.results = s.results

theorem frame_refl (s : State L) : Frame s s := ⟨rfl,rfl,rfl,rfl⟩

theorem frame_trans (first : Frame s t) (second : Frame t u) : Frame s u :=
  ⟨second.started.trans first.started,second.runner.trans first.runner,second.pos.trans first.pos,
    second.results.trans first.results⟩

structure At (w : Nat) (body : Program L) (active : Option Nat) (stage : Stage L) (shared : Shared) (s : State L) : Prop where
  known : w < s.started
  thread : s.thread w = ⟨body,w,active,stage⟩
  block : s.heap w = shared

def Reaches (opts : RunOptions) (tests : List (TestCase (Program L))) (s : State L) (holds : State L → Prop) : Prop :=
  ∃ next, Path opts tests s next ∧ Frame s next ∧ holds next

theorem reaches_refl {holds : State L → Prop} (here : holds s) : Reaches opts tests s holds := ⟨s,.refl,frame_refl s,here⟩

theorem reaches_work {holds then_ : State L → Prop} (reaches : Reaches opts tests s holds)
    (each : ∀ t, holds t → ∃ w thread heap, w < t.started ∧ Work (t.thread w) t.heap thread heap ∧
      then_ {t with heap := heap,thread := Function.update t.thread w thread}) : Reaches opts tests s then_ := by
  obtain ⟨t,path,frame,held⟩ := reaches
  obtain ⟨w,thread,heap,known,work,after⟩ := each t held
  exact ⟨_,path.tail (.work known work),frame_trans frame ⟨rfl,rfl,rfl,rfl⟩,after⟩

-- A worker gets as far as its body can get alone. Induction on the lonely execution.
theorem alone_reached (created : At w body none .created .new s) (alone : Alone body l sink) :
    Reaches opts tests s (At w body (some w) (.running l) {Shared.new with sink := sink}) := by
  induction alone with
  | start =>
    apply reaches_work (reaches_refl created)
    rintro t ⟨known,thread,block⟩
    refine ⟨w,_,_,known,.bind (by rw [thread]),known,?_,block⟩
    simp only [Function.update_self,thread]
  | compute prior moves ih =>
    apply reaches_work ih
    rintro t ⟨known,thread,block⟩
    refine ⟨w,_,_,known,.compute (by rw [thread]) (by rw [thread]; exact moves),known,?_,block⟩
    simp only [Function.update_self,thread]
  | check prior moves ih =>
    apply reaches_work ih
    rintro t ⟨known,thread,block⟩
    refine ⟨w,_,_,known,.check (by rw [thread]) (by rw [thread]; exact moves) (by rw [thread]),known,?_,?_⟩
    · simp only [Function.update_self,thread]
    · simp only [Function.update_self,block]

theorem worker_finishes (created : At w body none .created .new s) (complete : Complete body escaped sink) (time : Nat) :
    Reaches opts tests s fun t => (t.heap w) = Ending.shared ⟨time,escaped,sink⟩ := by
  obtain ⟨l,alone,moves⟩ := complete
  have left : Reaches opts tests s (At w body (some w) (.left escaped) {Shared.new with sink := sink}) := by
    apply reaches_work (alone_reached created alone)
    rintro t ⟨known,thread,block⟩
    refine ⟨w,_,_,known,.leave (by rw [thread]) (by rw [thread]; exact moves),known,?_,block⟩
    simp only [Function.update_self,thread]
  have judged : Reaches opts tests s (At w body (some w) .judged (({Shared.new with sink := sink} : Shared).caught escaped)) := by
    apply reaches_work left
    rintro t ⟨known,thread,block⟩
    refine ⟨w,_,_,known,.judge (by rw [thread]),known,?_,?_⟩
    · simp only [Function.update_self,thread]
    · simp only [thread,Function.update_self,block]
  have unbound : Reaches opts tests s (At w body none .unbound (({Shared.new with sink := sink} : Shared).caught escaped)) := by
    apply reaches_work judged
    rintro t ⟨known,thread,block⟩
    refine ⟨w,_,_,known,.unbind (by rw [thread]),known,?_,block⟩
    simp only [Function.update_self,thread]
  apply reaches_work unbound
  rintro t ⟨known,thread,block⟩
  refine ⟨w,_,_,known,.finish (by rw [thread]),?_⟩
  simp only [thread,Function.update_self,block]
  rfl

theorem await_expired {finish : Option Nat} (waited : await deadline finish = some ⟨true,n⟩) : 0 < deadline := by
  by_contra unlimited
  unfold await at waited
  rw [if_neg unlimited] at waited
  obtain ⟨_,_,same⟩ := Option.map_eq_some_iff.mp waited
  cases same

theorem test_reached {tc : TestCase (Program L)} (idle : s.runner = .idle) (next : tests[s.pos]? = some tc)
    (realizable : Realizable tc.body e) (returned : runOne opts tc e = some r) :
    ∃ t, Path opts tests s t ∧ t.runner = .idle ∧ t.pos = s.pos+1 ∧ t.results = s.results ++ [r] := by
  let begun : State L := {s with heap := Function.update s.heap s.started .new,
                                 thread := Function.update s.thread s.started ⟨tc.body,s.started,none,.created⟩,
                                 started := s.started+1,runner := .waiting s.started}
  have starts : Path opts tests s begun := .single (.start idle next)
  simp only [runOne] at returned
  split at returned
  · cases returned
  · rename_i waited
    cases returned
    have late : (begun.heap s.started).done = false := by
      simp only [begun,Function.update_self]
      rfl
    have expiry : Step opts tests begun (begun.report (expired tc (deadlineOf opts tc) e.elapsed)) :=
      Step.expire (s := begun) rfl next (await_expired waited) late e.elapsed
    exact ⟨_,starts.tail expiry,rfl,rfl,rfl⟩
  · obtain ⟨ending,ends,rfl⟩ := Option.map_eq_some_iff.mp returned
    have created : At s.started tc.body none .created .new begun :=
      ⟨Nat.lt_succ_self _,by simp only [begun,Function.update_self],by simp only [begun,Function.update_self]⟩
    have finishes : Reaches opts tests begun _ := worker_finishes created (realizable ending ends) ending.finish
    obtain ⟨t,works,frame,block⟩ := finishes
    have waiting : t.runner = .waiting s.started := frame.runner
    have current : tests[t.pos]? = some tc := by rw [frame.pos]; exact next
    let finished : State L := {t with runner := .joining s.started}
    have observed : Step opts tests t finished := .observe waiting (by rw [block]; rfl)
    have joined : Step opts tests finished (finished.report (collect tc (t.heap s.started) e.elapsed)) :=
      Step.join (s := finished) rfl current e.elapsed
    refine ⟨_,((starts.trans works).tail observed).tail joined,rfl,congrArg (· + 1) frame.pos,?_⟩
    have kept : finished.results = s.results := frame.results
    simp only [State.report,kept,block]

theorem run_reached (realizable : ∀ k tc, tests[k]? = some tc → Realizable tc.body (env k)) (idle : s.runner = .idle)
    (rest : tests.drop s.pos = later) (returned : resultsOf opts env s.pos later = some results) :
    ∃ t, Path opts tests s t ∧ t.runner = .idle ∧ t.pos = s.pos + later.length ∧ t.results = s.results ++ results := by
  induction later generalizing s results with
  | nil =>
    cases returned
    exact ⟨s,.refl,idle,rfl,(List.append_nil _).symm⟩
  | cons tc later ih =>
    obtain ⟨r,others,one,two,rfl⟩ := Runs.resultsOf_cons returned
    have next : tests[s.pos]? = some tc := by
      have head := congrArg List.head? rest
      rwa [List.head?_drop] at head
    obtain ⟨t,path,ready,pos,grown⟩ := test_reached idle next (realizable _ tc next) one
    have dropped : tests.drop t.pos = later := by
      rw [pos,← List.tail_drop,rest,List.tail_cons]
    obtain ⟨u,further,final,reached,all⟩ := ih ready dropped (by rw [pos]; exact two)
    refine ⟨u,path.trans further,final,?_,?_⟩
    · rw [reached,pos,List.length_cons]
      omega
    · rw [all,grown,List.append_assoc,List.singleton_append]

theorem explained_returned (explained : Explained opts tests k r) :
    ∃ e, ∀ tc, tests[k]? = some tc → Realizable tc.body e ∧ runOne opts tc e = some r := by
  obtain ⟨tc,elapsed,position,expiry | ⟨ending,complete,rfl⟩⟩ := explained
  · obtain ⟨limited,rfl⟩ := expiry
    refine ⟨⟨none,elapsed⟩,fun other same => ?_⟩
    obtain rfl := Option.some.inj (position.symm.trans same)
    refine ⟨fun ending ends => (nomatch ends),?_⟩
    simp only [runOne,await,if_pos limited,Option.map_none]
  · refine ⟨⟨some ⟨0,ending.escaped,ending.sink⟩,elapsed⟩,fun other same => ?_⟩
    obtain rfl := Option.some.inj (position.symm.trans same)
    refine ⟨fun known ends => ?_,?_⟩
    · cases ends
      exact complete
    · exact runOne_inTime fun limited => Int.le_of_lt limited

theorem resultsOf_returned (each : ∀ j tc, tests[j]? = some tc → ∃ r, results[j]? = some r ∧ runOne opts tc (env (k+j)) = some r)
    (same : results.length = tests.length) : resultsOf opts env k tests = some results := by
  induction tests generalizing k results with
  | nil =>
    cases List.length_eq_zero_iff.mp same
    rfl
  | cons tc rest ih =>
    cases results with
    | nil => cases same
    | cons r later =>
      obtain ⟨first,found,one⟩ := each 0 tc rfl
      cases found
      have two : resultsOf opts env (k+1) rest = some later := by
        apply ih
        · intro j tc present
          have next := each (j+1) tc present
          rwa [show k+(j+1) = k+1+j by omega] at next
        · exact Nat.succ.inj same
      have head : runOne opts tc (env k) = some r := one
      rw [resultsOf,head,Option.bind_some,two,Option.map_some]

-- The results that the interleavings of the runner with its workers can record, abandoned
-- workers among them, are exactly those of one test after the other.
theorem schedules_sequential (opts : RunOptions) (tests : List (TestCase (Program L))) (start : State L)
    (initial : Initial tests start) (results : List TestResult) :
    (∃ s, Path opts tests start s ∧ s.runner = .idle ∧ s.pos = tests.length ∧ s.results = results) ↔
      ∃ env, (∀ k tc, tests[k]? = some tc → Realizable tc.body (env k)) ∧ resultsOf opts env 0 tests = some results := by
  constructor
  · rintro ⟨s,path,_,whole,rfl⟩
    have valid := path_invariant (initial_invariant initial) path
    have each : ∀ k : Nat, ∃ e, ∀ tc, tests[k]? = some tc → Realizable tc.body e ∧ ∀ r, s.results[k]? = some r →
        runOne opts tc e = some r := by
      intro k
      cases recorded : s.results[k]? with
      | none => exact ⟨⟨none,0⟩,fun tc _ => ⟨fun _ ends => (nomatch ends),nofun⟩⟩
      | some r =>
        obtain ⟨e,plays⟩ := explained_returned (valid.results k r recorded)
        refine ⟨e,fun tc position => ⟨(plays tc position).1,fun other same => ?_⟩⟩
        obtain rfl := Option.some.inj same
        exact (plays tc position).2
    choose env plays using each
    refine ⟨env,fun k tc position => (plays k tc position).1,resultsOf_returned (fun j tc position => ?_) ?_⟩
    · have bound : j < s.results.length := by
        rw [valid.pos,whole]
        exact (List.getElem?_eq_some_iff.mp position).1
      rw [Nat.zero_add]
      exact ⟨_,List.getElem?_eq_getElem bound,(plays j tc position).2 _ (List.getElem?_eq_getElem bound)⟩
    · rw [valid.pos,whole]
  · rintro ⟨env,realizable,returned⟩
    have rest : tests.drop start.pos = tests := by rw [initial.pos,List.drop_zero]
    rw [← initial.pos] at returned
    obtain ⟨s,path,idle,pos,recorded⟩ := run_reached realizable initial.runner rest returned
    refine ⟨s,path,idle,?_,?_⟩
    · rw [pos,initial.pos,Nat.zero_add]
    · rw [recorded,initial.results,List.nil_append]

end

theorem race_sequential :
    (∃ s, Path .new race raceStart s ∧ s.runner = .idle ∧ s.pos = race.length ∧
      s.results = [expired ⟨text "Probe",text "polls",.empty,30,polling⟩ 30 31,
        ⟨text "Probe",text "resets",.passed,1,0,2,[]⟩]) ↔
      ∃ env, (∀ k tc, race[k]? = some tc → Realizable tc.body (env k)) ∧
        resultsOf .new env 0 race = some [expired ⟨text "Probe",text "polls",.empty,30,polling⟩ 30 31,
          ⟨text "Probe",text "resets",.passed,1,0,2,[]⟩] :=
  schedules_sequential .new race raceStart ⟨rfl,rfl,rfl,rfl,rfl⟩ _

end Edtf.Schedules

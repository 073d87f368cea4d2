import Mathlib.Tactic
import Edtf.Clients

namespace Edtf.SharedServers
open Clients

variable {S Q E R V ι : Type} {A : Q → Type}

structure Session (Q : Type) (A : Q → Type) (E R : Type) where
  rest : Except E (Client Q A R)
  traffic : List (Exchange Q A)

def begun (E : Type) (client : Client Q A R) : Session Q A E R := ⟨.ok client,[]⟩

section
variable (serve : Server S Q A E)

def turn (session : Session Q A E R) (s : S) : Session Q A E R × S :=
  match session.rest with
  | .ok (.ask question next) =>
    match serve s question with
    | (.ok answer,t) => (⟨.ok (next answer),session.traffic ++ [⟨question,answer⟩]⟩,t)
    | (.error error,t) => (⟨.error error,session.traffic⟩,t)
  | _ => (session,s)

def alone (session : Session Q A E R) (s : S) : Nat → Session Q A E R × S
  | 0 => (session,s)
  | n+1 => alone (turn serve session s).1 (turn serve session s).2 n

def shared [DecidableEq ι] (sessions : ι → Session Q A E R) (s : S) : List ι → (ι → Session Q A E R) × S
  | [] => (sessions,s)
  | i :: schedule => shared (Function.update sessions i (turn serve (sessions i) s).1) (turn serve (sessions i) s).2 schedule

end

def Allowed (allowed : Q → Prop) : Client Q A R → Prop
  | .done _ => True
  | .ask question next => allowed question ∧ ∀ answer, Allowed allowed (next answer)

def Session.Allowed (allowed : Q → Prop) (session : Session Q A E R) : Prop :=
  ∀ client, session.rest = .ok client → SharedServers.Allowed allowed client

-- Each client has a view of the server that its own questions are answered from, and that
-- no other client's question changes.
structure Apart (serve : Server S Q A E) (holds : S → Prop) (owns : ι → Q → Prop) (view : ι → S → V) : Prop where
  kept : ∀ s question, holds s → holds (serve s question).2
  own : ∀ i s t question, holds s → holds t → owns i question → view i s = view i t →
    (serve s question).1 = (serve t question).1 ∧ view i (serve s question).2 = view i (serve t question).2
  other : ∀ i j s question, holds s → owns i question → j ≠ i → view j (serve s question).2 = view j s

section
variable {serve : Server S Q A E} {holds : S → Prop} {owns : ι → Q → Prop} {view : ι → S → V}

theorem turn_cases (session : Session Q A E R) :
    (∃ question next, session.rest = .ok (.ask question next)) ∨ ∀ s, turn serve session s = (session,s) := by
  rcases session with ⟨error | ⟨result⟩ | ⟨question,next⟩,traffic⟩
  · exact .inr fun _ => rfl
  · exact .inr fun _ => rfl
  · exact .inl ⟨question,next,rfl⟩

theorem turn_answered {session : Session Q A E R} (rest : session.rest = .ok (.ask question next))
    (reply : serve s question = (.ok answer,t)) :
    turn serve session s = (⟨.ok (next answer),session.traffic ++ [⟨question,answer⟩]⟩,t) := by
  simp only [turn,rest,reply]

theorem turn_refused {session : Session Q A E R} (rest : session.rest = .ok (.ask question next))
    (reply : serve s question = (.error error,t)) : turn serve session s = (⟨.error error,session.traffic⟩,t) := by
  simp only [turn,rest,reply]

theorem turn_holds (apart : Apart serve holds owns view) (session : Session Q A E R) (held : holds s) :
    holds (turn serve session s).2 := by
  rcases turn_cases session with ⟨question,next,rest⟩ | idle
  · have kept := apart.kept s question held
    cases reply : serve s question with
    | mk answer t =>
      rw [reply] at kept
      cases answer with
      | error error => rw [turn_refused rest reply]; exact kept
      | ok answer => rw [turn_answered rest reply]; exact kept
  · rw [idle]
    exact held

theorem turn_allowed {allowed : Q → Prop} {session : Session Q A E R} (owned : session.Allowed allowed) (s : S) :
    (turn serve session s).1.Allowed allowed := by
  rcases turn_cases session with ⟨question,next,rest⟩ | idle
  · have later := (owned _ rest).2
    cases reply : serve s question with
    | mk answer t =>
      cases answer with
      | error error =>
        rw [turn_refused rest reply]
        exact fun client left => nomatch left
      | ok answer =>
        rw [turn_answered rest reply]
        intro client left
        cases left
        exact later answer
  · rw [idle]
    exact owned

theorem turn_own (apart : Apart serve holds owns view) {session : Session Q A E R} (owned : session.Allowed (owns i))
    (first : holds s) (second : holds t) (same : view i s = view i t) :
    (turn serve session s).1 = (turn serve session t).1 ∧
      view i (turn serve session s).2 = view i (turn serve session t).2 := by
  rcases turn_cases session with ⟨question,next,rest⟩ | idle
  · obtain ⟨answers,views⟩ := apart.own i s t question first second (owned _ rest).1 same
    cases one : serve s question with
    | mk answer s' =>
      cases other : serve t question with
      | mk answer' t' =>
        rw [one,other] at answers views
        cases answers
        cases answer with
        | error error => rw [turn_refused rest one,turn_refused rest other]; exact ⟨rfl,views⟩
        | ok answer => rw [turn_answered rest one,turn_answered rest other]; exact ⟨rfl,views⟩
  · rw [idle,idle]
    exact ⟨rfl,same⟩

theorem turn_other (apart : Apart serve holds owns view) {session : Session Q A E R} (owned : session.Allowed (owns i))
    (held : holds s) (different : j ≠ i) : view j (turn serve session s).2 = view j s := by
  rcases turn_cases session with ⟨question,next,rest⟩ | idle
  · have untouched := apart.other i j s question held (owned _ rest).1 different
    cases reply : serve s question with
    | mk answer t =>
      rw [reply] at untouched
      cases answer with
      | error error => rw [turn_refused rest reply]; exact untouched
      | ok answer => rw [turn_answered rest reply]; exact untouched
  · rw [idle]

-- However the turns are dealt out, each client gets as far as it would alone in its own
-- turns, and sees the server as it would then. Induction on the schedule.
theorem shared_alone [DecidableEq ι] (apart : Apart serve holds owns view) {sessions : ι → Session Q A E R}
    (owned : ∀ i, (sessions i).Allowed (owns i)) (first : holds s) (second : holds t) (same : view i s = view i t)
    (schedule : List ι) :
    (shared serve sessions s schedule).1 i = (alone serve (sessions i) t (schedule.count i)).1 ∧
      view i (shared serve sessions s schedule).2 = view i (alone serve (sessions i) t (schedule.count i)).2 := by
  induction schedule generalizing sessions s t with
  | nil => exact ⟨rfl,same⟩
  | cons k schedule ih =>
    have after : ∀ j, (Function.update sessions k (turn serve (sessions k) s).1 j).Allowed (owns j) := by
      intro j
      by_cases here : j = k
      · subst here
        rw [Function.update_self]
        exact turn_allowed (owned j) s
      · rw [Function.update_of_ne here]
        exact owned j
    have kept := turn_holds apart (sessions k) first
    by_cases mine : k = i
    · subst mine
      obtain ⟨sessionSame,viewSame⟩ := turn_own apart (owned k) first second same
      obtain ⟨session,seen⟩ := ih after kept (turn_holds apart (sessions k) second) viewSame
      rw [Function.update_self,sessionSame] at session seen
      rw [List.count_cons_self,shared,alone,sessionSame]
      exact ⟨session,seen⟩
    · have untouched := turn_other apart (owned k) first (Ne.symm mine)
      obtain ⟨session,seen⟩ := ih after kept second (untouched.trans same)
      rw [Function.update_of_ne (Ne.symm mine)] at session seen
      rw [List.count_cons_of_ne mine,shared]
      exact ⟨session,seen⟩

end

theorem alone_idle {serve : Server S Q A E} {session : Session Q A E R} (idle : ∀ s, turn serve session s = (session,s))
    (s : S) (n : Nat) : alone serve session s n = (session,s) := by
  induction n with
  | zero => rfl
  | succ n ih => rw [alone,idle,ih]

theorem alone_run (serve : Server S Q A E) (client : Client Q A R) (before : List (Exchange Q A)) (s : S)
    (enough : (run serve client s).traffic.length < n) :
    alone serve ⟨.ok client,before⟩ s n =
      (⟨(run serve client s).result.map .done,before ++ (run serve client s).traffic⟩,(run serve client s).state) := by
  induction client generalizing s n before with
  | done result =>
    rw [alone_idle (fun _ => rfl),run,List.append_nil]
    rfl
  | ask question next ih =>
    cases n with
    | zero => cases enough
    | succ n =>
      cases reply : serve s question with
      | mk answer t =>
        cases answer with
        | error error =>
          rw [run_refused serve reply,alone,turn_refused rfl reply,alone_idle (fun _ => rfl),List.append_nil]
          rfl
        | ok answer =>
          rw [run_answered serve reply] at enough ⊢
          simp only [Served.after,List.length_append,List.length_singleton] at enough
          rw [alone,turn_answered rfl reply,ih answer _ t (by omega)]
          simp [Served.after]

end Edtf.SharedServers

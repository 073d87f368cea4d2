import Mathlib.Tactic

namespace Edtf.Clients

-- A client puts finitely many questions to a server and chooses what to ask next by the
-- answers it gets; it is ended by the first refusal. Nothing here knows what is asked.
inductive Client (Q : Type) (A : Q → Type) (R : Type) where
  | done (result : R)
  | ask (question : Q) (next : A question → Client Q A R)

def Client.bind : Client Q A R → (R → Client Q A T) → Client Q A T
  | .done result,rest => rest result
  | .ask question next,rest => .ask question fun answer => (next answer).bind rest

abbrev Exchange (Q : Type) (A : Q → Type) := (question : Q) × A question

def asked {A : Q → Type} (traffic : List (Exchange Q A)) : List Q := traffic.map Sigma.fst

structure Served (S Q : Type) (A : Q → Type) (E R : Type) where
  result : Except E R
  traffic : List (Exchange Q A)
  state : S

def Served.after {A : Q → Type} (traffic : List (Exchange Q A)) (served : Served S Q A E R) : Served S Q A E R :=
  {served with traffic := traffic ++ served.traffic}

theorem after_after {A : Q → Type} (first second : List (Exchange Q A)) (served : Served S Q A E R) :
    (served.after second).after first = served.after (first ++ second) := by
  simp [Served.after]

-- A server answers a question or refuses it, and has a next state either way.
abbrev Server (S Q : Type) (A : Q → Type) (E : Type) := S → (question : Q) → Except E (A question) × S

section
variable {S Q E R T : Type} {A : Q → Type} (serve : Server S Q A E)

def run : Client Q A R → S → Served S Q A E R
  | .done result,s => ⟨.ok result,[],s⟩
  | .ask question next,s =>
    match serve s question with
    | (.ok answer,t) => (run (next answer) t).after [⟨question,answer⟩]
    | (.error error,t) => ⟨.error error,[],t⟩

theorem run_answered {next : A question → Client Q A R} (answered : serve s question = (.ok answer,t)) :
    run serve (.ask question next) s = (run serve (next answer) t).after [⟨question,answer⟩] := by
  simp only [run,answered]

theorem run_refused {next : A question → Client Q A R} (refused : serve s question = (.error error,t)) :
    run serve (.ask question next) s = ⟨.error error,[],t⟩ := by
  simp only [run,refused]

theorem run_bind_ok {client : Client Q A R} {rest : R → Client Q A T}
    (finished : (run serve client s).result = .ok result) :
    run serve (client.bind rest) s =
      (run serve (rest result) (run serve client s).state).after (run serve client s).traffic := by
  induction client generalizing s with
  | done value =>
    cases finished
    rfl
  | ask question next ih =>
    cases reply : serve s question with
    | mk answer t =>
      cases answer with
      | error error => rw [run_refused serve reply] at finished; cases finished
      | ok answer =>
        rw [run_answered serve reply] at finished ⊢
        rw [Client.bind,run_answered serve reply,ih answer finished,after_after]
        rfl

theorem run_bind_error {client : Client Q A R} {rest : R → Client Q A T}
    (stopped : (run serve client s).result = .error error) :
    run serve (client.bind rest) s = ⟨.error error,(run serve client s).traffic,(run serve client s).state⟩ := by
  induction client generalizing s with
  | done value => cases stopped
  | ask question next ih =>
    cases reply : serve s question with
    | mk answer t =>
      cases answer with
      | error refusal =>
        rw [run_refused serve reply] at stopped ⊢
        rw [Client.bind,run_refused serve reply,Except.error.inj stopped]
      | ok answer =>
        rw [run_answered serve reply] at stopped ⊢
        rw [Client.bind,run_answered serve reply,ih answer stopped]
        rfl

theorem run_invariant {holds : S → Prop} (kept : ∀ s question, holds s → holds (serve s question).2) (start : holds s)
    (client : Client Q A R) : holds (run serve client s).state := by
  induction client generalizing s with
  | done value => exact start
  | ask question next ih =>
    have held := kept s question start
    cases reply : serve s question with
    | mk answer t =>
      rw [reply] at held
      cases answer with
      | error refusal => rw [run_refused serve reply]; exact held
      | ok answer =>
        rw [run_answered serve reply]
        exact ih answer held

def Client.Ends (holds : R → Prop) : Client Q A R → Prop
  | .done result => holds result
  | .ask _ next => ∀ answer, (next answer).Ends holds

theorem run_ends {holds : R → Prop} {client : Client Q A R} (ends : client.Ends holds)
    (finished : (run serve client s).result = .ok result) : holds result := by
  induction client generalizing s with
  | done value =>
    cases finished
    exact ends
  | ask question next ih =>
    cases reply : serve s question with
    | mk answer t =>
      cases answer with
      | error refusal => rw [run_refused serve reply] at finished; cases finished
      | ok answer =>
        rw [run_answered serve reply] at finished
        exact ih answer (ends answer) finished

def stateAfter (s : S) (questions : List Q) : S := questions.foldl (fun now question => (serve now question).2) s

end

-- Two servers that answer alike on related states, and lead to related states, cannot be
-- told apart by any client.
section
variable {S S' Q E R : Type} {A : Q → Type} {serve : Server S Q A E} {model : Server S' Q A E}

structure Alike (related : S → S' → Prop) (one : Served S Q A E R) (other : Served S' Q A E R) : Prop where
  result : one.result = other.result
  traffic : one.traffic = other.traffic
  state : related one.state other.state

theorem run_related {related : S → S' → Prop}
    (each : ∀ s t question, related s t →
      (serve s question).1 = (model t question).1 ∧ related (serve s question).2 (model t question).2)
    (start : related s t) (client : Client Q A R) : Alike related (run serve client s) (run model client t) := by
  induction client generalizing s t with
  | done value => exact ⟨rfl,rfl,start⟩
  | ask question next ih =>
    obtain ⟨same,kept⟩ := each s t question start
    cases first : serve s question with
    | mk answer s' =>
      cases second : model t question with
      | mk answer' t' =>
        rw [first,second] at same kept
        cases same
        cases answer with
        | error refusal =>
          rw [run_refused serve first,run_refused model second]
          exact ⟨rfl,rfl,kept⟩
        | ok answer =>
          obtain ⟨result,traffic,state⟩ := ih answer kept
          rw [run_answered serve first,run_answered model second]
          exact ⟨result,congrArg _ traffic,state⟩

end

theorem first_difference [DecidableEq Q] (names : X → Q) (questions : List Q) (script : List X) :
    questions <+: script.map names ∨ ∃ expected question later unmet,
      questions = expected.map names ++ question :: later ∧ script = expected ++ unmet ∧
        (unmet.head?.map names) ≠ some question := by
  induction questions generalizing script with
  | nil => exact .inl List.nil_prefix
  | cons question later ih =>
    by_cases same : script.head?.map names = some question
    · obtain ⟨first,head,named⟩ := Option.map_eq_some_iff.mp same
      obtain ⟨rest,rfl⟩ := List.head?_eq_some_iff.mp head
      subst named
      rcases ih rest with within | ⟨expected,astray,after,unmet,rfl,rfl,differs⟩
      · exact .inl (List.cons_prefix_cons.mpr ⟨rfl,within⟩)
      · exact .inr ⟨first :: expected,astray,after,unmet,rfl,rfl,differs⟩
    · exact .inr ⟨[],question,later,script,rfl,rfl,same⟩

-- A server behind a script, whose entries name the questions to come. What the server
-- itself refuses is refused before the script is looked at.
section
variable {S Q E R X : Type} {A : Q → Type} [DecidableEq Q] (serve : Server S Q A E) (names : X → Q)
  (refusal : List X → Exchange Q A → E)

def scripted : Server (S × List X) Q A E := fun state question =>
  match serve state.1 question with
  | (.error error,t) => (.error error,(t,state.2))
  | (.ok answer,t) =>
    if state.2.head?.map names = some question then (.ok answer,(t,state.2.tail))
    else (.error (refusal state.2 ⟨question,answer⟩),state)

theorem scripted_within {client : Client Q A R} (within : asked (run serve client s).traffic <+: script.map names) :
    run (scripted serve names refusal) client (s,script) =
      ⟨(run serve client s).result,(run serve client s).traffic,
        ((run serve client s).state,script.drop (run serve client s).traffic.length)⟩ := by
  induction client generalizing s script with
  | done value => rfl
  | ask question next ih =>
    cases reply : serve s question with
    | mk answer t =>
      cases answer with
      | error error =>
        have gate : scripted serve names refusal (s,script) question = (.error error,(t,script)) := by
          simp only [scripted,reply]
        rw [run_refused serve reply,run_refused _ gate]
        rfl
      | ok answer =>
        rw [run_answered serve reply] at within ⊢
        cases script with
        | nil => exact absurd (List.prefix_nil.mp within) (by simp [Served.after,asked])
        | cons entry rest =>
          obtain ⟨named,later⟩ := List.cons_prefix_cons.mp within
          have gate : scripted serve names refusal (s,entry :: rest) question = (.ok answer,(t,rest)) := by
            simp only [scripted,reply,List.head?_cons,Option.map_some,← named,if_true,List.tail_cons]
          rw [run_answered _ gate,ih answer later]
          rfl

theorem scripted_astray {client : Client Q A R} (split : (run serve client s).traffic = met ++ ⟨question,answer⟩ :: later)
    (agreed : asked met = expected.map names) (differs : unmet.head?.map names ≠ some question) :
    run (scripted serve names refusal) client (s,expected ++ unmet) =
      ⟨.error (refusal unmet ⟨question,answer⟩),met,(stateAfter serve s (asked met),unmet)⟩ := by
  induction client generalizing s met expected with
  | done value => exact absurd split (by simp [run])
  | ask first next ih =>
    cases reply : serve s first with
    | mk given t =>
      cases given with
      | error error => rw [run_refused serve reply] at split; exact absurd split (by simp)
      | ok given =>
        rw [run_answered serve reply] at split
        cases met with
        | nil =>
          obtain ⟨same,_⟩ := List.cons.inj split
          cases same
          obtain rfl : expected = [] := List.map_eq_nil_iff.mp agreed.symm
          have gate : scripted serve names refusal (s,[] ++ unmet) question =
              (.error (refusal unmet ⟨question,answer⟩),(s,unmet)) := by
            simp only [scripted,reply,List.nil_append,if_neg differs]
          exact run_refused _ gate
        | cons exchange met =>
          obtain ⟨same,rest⟩ := List.cons.inj split
          subst same
          cases expected with
          | nil => cases agreed
          | cons entry expected =>
            obtain ⟨named,agree⟩ := List.cons.inj agreed
            have gate : scripted serve names refusal (s,entry :: expected ++ unmet) first =
                (.ok given,(t,expected ++ unmet)) := by
              have next : (entry :: (expected ++ unmet)).head?.map names = some first := congrArg some named.symm
              simp only [scripted,reply,List.cons_append,next,if_true,List.tail_cons]
            rw [run_answered _ gate,ih given rest agree]
            simp [Served.after,stateAfter,asked,reply]

end

end Edtf.Clients

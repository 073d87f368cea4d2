import Mathlib.Tactic
import Edtf.Histories

namespace Edtf.Observations
open Histories

-- A component driven by calls, with a part that can also be looked at between the calls.
section
variable {S C R O : Type} (step : S → C → R × S) (shown : S → O)

structure Indistinct (s t : S) : Prop where
  replies : ∀ calls, seen step s calls = seen step t calls
  looks : ∀ calls, shown (after step s calls) = shown (after step t calls)

variable {step shown} {s t : S}

theorem Indistinct.refl (s : S) : Indistinct step shown s s := ⟨fun _ => rfl,fun _ => rfl⟩

theorem Indistinct.symm (same : Indistinct step shown s t) : Indistinct step shown t s :=
  ⟨fun calls => (same.replies calls).symm,fun calls => (same.looks calls).symm⟩

theorem Indistinct.reply (same : Indistinct step shown s t) (c : C) : (step s c).1 = (step t c).1 := by
  have replies := same.replies [c]
  simp only [seen,List.cons.injEq,Prod.mk.injEq,true_and,and_true] at replies
  exact replies

theorem Indistinct.next (same : Indistinct step shown s t) (c : C) : Indistinct step shown (step s c).2 (step t c).2 := by
  refine ⟨fun calls => ?_,fun calls => same.looks (c :: calls)⟩
  have replies := same.replies (c :: calls)
  simp only [seen,List.cons.injEq] at replies
  exact replies.2

theorem indistinct_model {T A : Type} {model : T → C → A × T} {view : S → T} {render : A → R} {look : T → O} {holds : S → Prop}
    (each : ∀ now c, holds now → (step now c).1 = render (model (view now) c).1 ∧
      view (step now c).2 = (model (view now) c).2 ∧ holds (step now c).2)
    (faithful : Function.Injective render) (visible : ∀ now, holds now → shown now = look (view now))
    (here : holds s) (there : holds t) :
    Indistinct step shown s t ↔ Indistinct model look (view s) (view t) := by
  have kept : ∀ s, holds s → ∀ calls, holds (after step s calls) := fun s start calls =>
    state_invariant step holds start (fun now c held => (each now c held).2.2) calls
  have refined : ∀ s, holds s → ∀ calls, seen step s calls =
      (seen model (view s) calls).map (fun event => (event.1,render event.2)) ∧
        shown (after step s calls) = look (after model (view s) calls) := by
    intro s start calls
    obtain ⟨replies,last⟩ := history_refined step view render each start calls
    exact ⟨replies,by rw [visible _ (kept s start calls),last]⟩
  have rendered : Function.Injective fun event : C × A => (event.1,render event.2) := by
    rintro ⟨c,a⟩ ⟨d,b⟩ same
    obtain ⟨calls,texts⟩ := Prod.mk.inj same
    exact congrArg₂ Prod.mk calls (faithful texts)
  constructor
  · intro same
    refine ⟨fun calls => rendered.list_map ?_,fun calls => ?_⟩
    · exact (refined s here calls).1.symm.trans ((same.replies calls).trans (refined t there calls).1)
    · exact (refined s here calls).2.symm.trans ((same.looks calls).trans (refined t there calls).2)
  · intro same
    refine ⟨fun calls => ?_,fun calls => ?_⟩
    · rw [(refined s here calls).1,(refined t there calls).1,same.replies]
    · rw [(refined s here calls).2,(refined t there calls).2,same.looks]

end

end Edtf.Observations

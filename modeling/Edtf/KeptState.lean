import Mathlib.Tactic

namespace Edtf.KeptState

-- Computations over a state that may throw, where a throw keeps the state reached
-- so far. The laws run one bind at a time, so that callers never unfold the monad.
variable {ε σ α β : Type} {s t : σ} {e : ε} {a : α} {m : EStateM ε σ α} {f : α → EStateM ε σ β}

theorem bind_ok (ran : m s = .ok a t) : (m >>= f) s = f a t := by
  simp only [bind,EStateM.bind,ran]

theorem bind_error (ran : m s = .error e t) : (m >>= f) s = .error e t := by
  simp only [bind,EStateM.bind,ran]

theorem pure_run (a : α) (s : σ) : (pure a : EStateM ε σ α) s = .ok a s := rfl

theorem get_run (s : σ) : (get : EStateM ε σ σ) s = .ok s s := rfl

theorem set_run (s t : σ) : (set t : EStateM ε σ PUnit) s = .ok ⟨⟩ t := rfl

theorem modify_run (change : σ → σ) (s : σ) : (modify change : EStateM ε σ PUnit) s = .ok ⟨⟩ (change s) := rfl

theorem throw_run (e : ε) (s : σ) : (throw e : EStateM ε σ α) s = .error e s := rfl

variable {ε' : Type} {wrap : ε → ε'}

theorem adapt_ok (ran : m s = .ok a t) : EStateM.adaptExcept wrap m s = .ok a t := by
  simp only [EStateM.adaptExcept,ran]

end Edtf.KeptState

import Mathlib.Tactic

namespace Edtf.GreedyMatching

-- A reader that waits for the entries of a list in order. An offer equal to the
-- entry it waits for is taken, every other offer leaves it as it was.
variable {α : Type} [DecidableEq α]

def waiting : List α → List α → List α
  | [],_ => []
  | wanted,[] => wanted
  | entry :: wanted,offer :: offers =>
    if offer = entry then waiting wanted offers else waiting (entry :: wanted) offers

@[simp] theorem waiting_nil (wanted : List α) : waiting wanted [] = wanted := by
  cases wanted <;> rfl

theorem waiting_taken (entry : α) (wanted offers : List α) :
    waiting (entry :: wanted) (entry :: offers) = waiting wanted offers := by
  rw [waiting,if_pos rfl]

theorem waiting_ignored {offer : α} (wanted offers : List α) (other : wanted.head? ≠ some offer) :
    waiting wanted (offer :: offers) = waiting wanted offers := by
  cases wanted with
  | nil => simp [waiting]
  | cons entry wanted =>
    have different : offer ≠ entry := by
      intro same
      exact other (by simp [same])
    rw [waiting,if_neg different]

theorem waiting_append (wanted first second : List α) :
    waiting wanted (first ++ second) = waiting (waiting wanted first) second := by
  induction first generalizing wanted with
  | nil => rw [List.nil_append,waiting_nil]
  | cons offer first ih =>
    cases wanted with
    | nil => simp [waiting]
    | cons entry wanted =>
      by_cases same : offer = entry
      · subst offer
        rw [List.cons_append,waiting_taken,waiting_taken,ih]
      · rw [List.cons_append,waiting,waiting,if_neg same,if_neg same,ih]

theorem waiting_done (wanted offers : List α) : waiting wanted offers = [] ↔ wanted.Sublist offers := by
  induction offers generalizing wanted with
  | nil => simp
  | cons offer offers ih =>
    cases wanted with
    | nil => simp [waiting]
    | cons entry wanted =>
      by_cases same : offer = entry
      · subst offer
        rw [waiting_taken,ih,List.cons_sublist_cons]
      · rw [waiting,if_neg same,ih]
        constructor
        · exact fun taken => taken.cons offer
        · intro taken
          cases taken with
          | cons _ later => exact later
          | cons_cons _ later => exact absurd rfl same

end Edtf.GreedyMatching

import Mathlib.Tactic

namespace Edtf.SortedSets
open Std

-- An ordered set with iteration in ascending order, as a strictly ascending list: no
-- duplicate and no other order of iteration can be built.
variable {α : Type} [LT α] [DecidableLT α] [DecidableEq α]

structure SortedSet (α : Type) [LT α] where
  items : List α
  ascending : items.Pairwise (· < ·)

def insertItem (x : α) : List α → List α
  | [] => [x]
  | y :: rest => if x = y then y :: rest else if x < y then x :: y :: rest else y :: insertItem x rest

theorem mem_insertItem (x y : α) (items : List α) : y ∈ insertItem x items ↔ y = x ∨ y ∈ items := by
  induction items with
  | nil => simp [insertItem]
  | cons z rest ih =>
    rw [insertItem]
    split
    · rename_i same
      simp [same]
    · split
      · simp
      · rw [List.mem_cons,ih,List.mem_cons]
        exact or_left_comm

theorem insertItem_ascending [LE α] [IsLinearOrder α] [LawfulOrderLT α] (x : α) {items : List α}
    (ascending : items.Pairwise (· < ·)) : (insertItem x items).Pairwise (· < ·) := by
  induction items with
  | nil => simp [insertItem]
  | cons y rest ih =>
    have above := (List.pairwise_cons.mp ascending).1
    have tail := (List.pairwise_cons.mp ascending).2
    rw [insertItem]
    split
    · exact ascending
    · rename_i different
      split
      · rename_i below
        refine List.pairwise_cons.mpr ⟨?_,ascending⟩
        intro z present
        rcases List.mem_cons.mp present with rfl | later
        · exact below
        · exact Std.lt_trans below (above z later)
      · rename_i notBelow
        refine List.pairwise_cons.mpr ⟨?_,ih tail⟩
        intro z present
        rcases (mem_insertItem x z rest).mp present with rfl | later
        · exact Std.lt_of_le_of_ne (Std.not_lt.mp notBelow) (Ne.symm different)
        · exact above z later

def SortedSet.empty : SortedSet α := ⟨[],.nil⟩

def SortedSet.insert [LE α] [IsLinearOrder α] [LawfulOrderLT α] (set : SortedSet α) (x : α) : SortedSet α :=
  ⟨insertItem x set.items,insertItem_ascending x set.ascending⟩

theorem SortedSet.mem_insert [LE α] [IsLinearOrder α] [LawfulOrderLT α] (set : SortedSet α) (x y : α) :
    y ∈ (set.insert x).items ↔ y = x ∨ y ∈ set.items := mem_insertItem x y set.items

omit [DecidableLT α] [DecidableEq α] in
theorem SortedSet.same (one two : SortedSet α) (items : one.items = two.items) : one = two := by
  cases one
  cases two
  cases items
  rfl

omit [DecidableLT α] [DecidableEq α] in
theorem SortedSet.same_members [LE α] [IsLinearOrder α] [LawfulOrderLT α] (one two : SortedSet α)
    (members : ∀ x, x ∈ one.items ↔ x ∈ two.items) : one = two :=
  SortedSet.same one two (List.Pairwise.eq_of_mem_iff one.ascending two.ascending fun x => members x)

end Edtf.SortedSets

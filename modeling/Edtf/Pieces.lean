import Mathlib.Tactic

namespace Edtf.Pieces

-- Splitting a sequence at the elements with a property. Nothing here knows what the
-- elements are or how the splitting is computed.
section
variable {α : Type} (sep : α → Prop)

def Clean (t : List α) : Prop := ∀ c ∈ t, ¬sep c

def Piece (s t : List α) : Prop :=
  ∃ before after, s = before ++ t ++ after ∧ t ≠ [] ∧ Clean sep t ∧
    ∀ left right, left <:+ before → right <+: after → Clean sep (left ++ t ++ right) → left = [] ∧ right = []

-- A maximal part seen from its neighbours: the two elements around it are separators.
structure Enclosed (before t after : List α) : Prop where
  filled : t ≠ []
  clean : Clean sep t
  left : ∀ c ∈ before.getLast?, sep c
  right : ∀ c ∈ after.head?, sep c

variable {sep}

theorem clean_append : Clean sep (one ++ two) ↔ Clean sep one ∧ Clean sep two := List.forall_mem_append

theorem enclosed_maximal (enclosed : Enclosed sep before t after) (fromLeft : left <:+ before) (toRight : right <+: after)
    (clean : Clean sep (left ++ t ++ right)) : left = [] ∧ right = [] := by
  obtain ⟨⟨cleanLeft,_⟩,cleanRight⟩ := (clean_append.mp clean).imp_left clean_append.mp
  constructor
  · by_contra filled
    obtain ⟨front,rfl⟩ := fromLeft
    have last := List.getLast?_eq_some_getLast filled
    have neighbour : left.getLast filled ∈ (front ++ left).getLast? := by rw [List.getLast?_append,last]; rfl
    exact cleanLeft _ (List.getLast_mem filled) (enclosed.left _ neighbour)
  · by_contra filled
    obtain ⟨back,rfl⟩ := toRight
    have first := List.head?_eq_some_head filled
    have neighbour : right.head filled ∈ (right ++ back).head? := by rw [List.head?_append,first]; rfl
    exact cleanRight _ (List.head_mem filled) (enclosed.right _ neighbour)

theorem maximal_enclosed (filled : t ≠ []) (clean : Clean sep t)
    (maximal : ∀ left right, left <:+ before → right <+: after → Clean sep (left ++ t ++ right) → left = [] ∧ right = []) :
    Enclosed sep before t after := by
  refine ⟨filled,clean,?_,?_⟩
  · intro c neighbour
    by_contra plain
    obtain ⟨front,rfl⟩ := List.getLast?_eq_some_iff.mp neighbour
    have longer : Clean sep ([c] ++ t ++ []) := by
      rw [List.append_nil]
      exact clean_append.mpr ⟨by simpa [Clean] using plain,clean⟩
    cases (maximal [c] [] ⟨front,rfl⟩ (List.nil_prefix) longer).1
  · intro c neighbour
    by_contra plain
    obtain ⟨back,rfl⟩ := List.head?_eq_some_iff.mp neighbour
    have longer : Clean sep ([] ++ t ++ [c]) := by
      rw [List.nil_append]
      exact clean_append.mpr ⟨clean,by simpa [Clean] using plain⟩
    cases (maximal [] [c] (List.nil_suffix) ⟨back,rfl⟩ longer).2

theorem piece_enclosed (s t : List α) :
    Piece sep s t ↔ ∃ before after, s = before ++ (t ++ after) ∧ Enclosed sep before t after := by
  constructor
  · rintro ⟨before,after,shape,filled,clean,maximal⟩
    exact ⟨before,after,by rw [shape,List.append_assoc],maximal_enclosed filled clean maximal⟩
  · rintro ⟨before,after,shape,enclosed⟩
    exact ⟨before,after,by rw [shape,List.append_assoc],enclosed.filled,enclosed.clean,
      fun _ _ fromLeft toRight clean => enclosed_maximal enclosed fromLeft toRight clean⟩

theorem piece_filled (piece : Piece sep s t) : t ≠ [] ∧ Clean sep t := by
  obtain ⟨_,_,_,enclosed⟩ := (piece_enclosed s t).mp piece
  exact ⟨enclosed.filled,enclosed.clean⟩

theorem piece_sides (here : sep c) (a b : List α) (piece : Piece sep (a ++ c :: b) t) : Piece sep a t ∨ Piece sep b t := by
  obtain ⟨before,after,shape,filled,clean,left,right⟩ := (piece_enclosed _ t).mp piece
  have outside : c ∉ t := fun inside => clean c inside here
  rcases List.append_eq_append_iff.mp shape with ⟨gap,front,back⟩ | ⟨gap,front,back⟩
  · cases gap with
    | nil =>
      obtain ⟨d,rest,rfl⟩ := List.exists_cons_of_ne_nil filled
      cases back
      exact absurd List.mem_cons_self outside
    | cons d gap =>
      cases back
      refine .inr ((piece_enclosed _ t).mpr ⟨gap,after,rfl,filled,clean,?_,right⟩)
      intro e last
      refine left e ?_
      rw [front,List.getLast?_append,List.getLast?_cons,last]
      rfl
  · rcases List.append_eq_append_iff.mp back with ⟨more,inside,rest⟩ | ⟨more,inside,rest⟩
    · refine .inl ((piece_enclosed a t).mpr ⟨before,more,by rw [front,inside],filled,clean,left,?_⟩)
      intro e first
      refine right e ?_
      rw [rest,List.head?_append,first]
      rfl
    · cases more with
      | nil =>
        rw [List.append_nil] at inside
        exact .inl ((piece_enclosed a t).mpr ⟨before,[],by rw [front,inside,List.append_nil],filled,clean,left,by simp⟩)
      | cons d more =>
        cases rest
        exact absurd (by rw [inside]; simp) outside

theorem piece_front (here : sep c) (b : List α) (piece : Piece sep a t) : Piece sep (a ++ c :: b) t := by
  obtain ⟨before,after,rfl,filled,clean,left,right⟩ := (piece_enclosed a t).mp piece
  refine (piece_enclosed _ t).mpr ⟨before,after ++ c :: b,by simp only [List.append_assoc],filled,clean,left,?_⟩
  intro e first
  cases after with
  | nil =>
    cases first
    exact here
  | cons d after => exact right e first

theorem piece_back (here : sep c) (a : List α) (piece : Piece sep b t) : Piece sep (a ++ c :: b) t := by
  obtain ⟨before,after,rfl,filled,clean,left,right⟩ := (piece_enclosed b t).mp piece
  refine (piece_enclosed _ t).mpr ⟨a ++ c :: before,after,by simp,filled,clean,?_,right⟩
  intro e last
  cases before with
  | nil =>
    simp only [List.getLast?_append,List.getLast?_singleton,Option.some_or,Option.mem_some_iff] at last
    exact last ▸ here
  | cons d before =>
    refine left e ?_
    rw [List.getLast?_append,List.getLast?_cons_cons] at last
    simpa using last

theorem piece_split (here : sep c) (a b t : List α) : Piece sep (a ++ c :: b) t ↔ Piece sep a t ∨ Piece sep b t :=
  ⟨piece_sides here a b,fun either => either.elim (piece_front here b) (piece_back here a)⟩

theorem piece_clean (clean : Clean sep s) (t : List α) : Piece sep s t ↔ t = s ∧ s ≠ [] := by
  constructor
  · rintro ⟨before,after,rfl,filled,_,maximal⟩
    obtain ⟨rfl,rfl⟩ := maximal before after (List.suffix_refl before) (List.prefix_refl after) clean
    simpa using filled
  · rintro ⟨rfl,filled⟩
    exact (piece_enclosed t t).mpr ⟨[],[],by simp,filled,clean,by simp,by simp⟩

theorem piece_nil (t : List α) : ¬Piece sep [] t :=
  fun piece => ((piece_clean (s := []) (List.forall_mem_nil _) t).mp piece).2 rfl

theorem piece_gap (blank : ∀ c ∈ gap, sep c) (s t : List α) : Piece sep (gap ++ s) t ↔ Piece sep s t := by
  induction gap with
  | nil => exact Iff.rfl
  | cons c gap ih =>
    have split := piece_split (blank c (by simp)) [] (gap ++ s) t
    rw [List.nil_append] at split
    rw [List.cons_append,split,ih fun d present => blank d (by simp [present])]
    exact or_iff_right (piece_nil t)

-- Texts that show the given pieces in this order: separators anywhere, as many as one
-- likes, and at least one between two pieces.
inductive Joins (sep : α → Prop) : List (List α) → List α → Prop where
  | done {gap} : (∀ c ∈ gap, sep c) → Joins sep [] gap
  | piece {gap t rest later} : (∀ c ∈ gap, sep c) → t ≠ [] → Clean sep t → (∀ c ∈ rest.head?, sep c) →
      Joins sep later rest → Joins sep (t :: later) (gap ++ (t ++ rest))

theorem joins_gap (blank : ∀ c ∈ front, sep c) (joined : Joins sep pieces s) : Joins sep pieces (front ++ s) := by
  cases joined with
  | done gap => exact .done (List.forall_mem_append.mpr ⟨blank,gap⟩)
  | piece gap filled clean next later =>
    rw [← List.append_assoc]
    exact .piece (List.forall_mem_append.mpr ⟨blank,gap⟩) filled clean next later

theorem joins_front (filled : t ≠ []) (clean : Clean sep t) (next : ∀ c ∈ s.head?, sep c) (joined : Joins sep pieces s) :
    Joins sep (t :: pieces) (t ++ s) := by
  have whole := Joins.piece (List.forall_mem_nil sep) filled clean next joined
  rwa [List.nil_append] at whole

theorem joins_pieces (joined : Joins sep pieces s) (t : List α) : Piece sep s t ↔ t ∈ pieces := by
  induction joined with
  | done blank =>
    have alone := piece_gap blank [] t
    rw [List.append_nil] at alone
    rw [alone]
    exact iff_of_false (piece_nil t) List.not_mem_nil
  | @piece gap u rest later blank filled clean next _ ih =>
    rw [piece_gap blank,List.mem_cons,← ih]
    cases rest with
    | nil =>
      rw [List.append_nil,piece_clean clean]
      simp [filled,piece_nil t]
    | cons c rest =>
      have here : sep c := next c rfl
      rw [piece_split here,piece_clean clean]
      have split := piece_split here [] rest t
      rw [List.nil_append] at split
      rw [split]
      simp [filled,piece_nil t]

end

end Edtf.Pieces

import Mathlib.Tactic
import Edtf.Listing
import Edtf.Selection

namespace Edtf.TagSpecs
open ByteText Pieces SortedSets Registry RunOne Runs Listing CommandLine Selection

theorem piece_test (spec t : Str) : (parseTags spec).items.contains t = true ↔ Piece Separator spec t :=
  List.contains_iff_mem.trans (mem_parseTags spec t)

instance (spec t : Str) : Decidable (Piece Separator spec t) := decidable_of_iff _ (piece_test spec t)

theorem parseTags_append (here : Separator c) (a b t : Str) :
    t ∈ (parseTags (a ++ c :: b)).items ↔ t ∈ (parseTags a).items ∨ t ∈ (parseTags b).items := by
  simp only [mem_parseTags]
  exact piece_split here a b t

theorem parseTags_joins (set : TagSet) (ordered : order.Perm set.items) (joined : Joins Separator order spec) :
    parseTags spec = set :=
  SortedSet.same_members _ _ fun t => (mem_parseTags spec t).trans ((joins_pieces joined t).trans ordered.mem_iff)

theorem wants_tag (long : Bool) (t : Str) (tc : TestCase β) : Wants [.tag long t] tc ↔ t ∈ tc.tags.items := by
  have first := wants_first_tag [] long t tc rfl
  rw [List.nil_append] at first
  rw [first]
  refine and_iff_right ⟨⟨?_,?_⟩,?_⟩
  · exact List.nil_infix
  · exact fun u absent => absurd absent List.not_mem_nil
  · exact fun nonempty => absurd rfl nonempty

theorem tag_selects (long : Bool) (t : Str) (registrations : List (Registration β)) :
    selectedCases ([.tag long t].foldl Group.apply .new) (registered registrations) =
      (registrations.filter fun r => Piece Separator r.tagSpec t).map Registration.testCase := by
  rw [selectedCases_wants [.tag long t] _ (fun tc => t ∈ tc.tags.items) fun tc => by rw [wants_tag,decide_eq_true_eq],
    registered_map,List.filter_map]
  refine congrArg (List.map Registration.testCase) (List.filter_congr fun r _ => ?_)
  exact decide_eq_decide.mpr (mem_parseTags r.tagSpec t)

-- parse_tags is exact: its tags are the pieces of the specification, for a joined list of
-- tags it gives the list back, and `-t` on its own finds the cases with such a piece.
theorem tags_exact (prog : Str) :
    (∀ spec t, t ∈ (parseTags spec).items ↔ Piece Separator spec t) ∧
    (∀ a c b, Separator c → ∀ t, t ∈ (parseTags (a ++ c :: b)).items ↔ t ∈ (parseTags a).items ∨ t ∈ (parseTags b).items) ∧
    (∀ (set : TagSet) order spec, order.Perm set.items → Joins Separator order spec → parseTags spec = set) ∧
    ∀ long t, ∃ opts, accepted prog (Group.tag long t).words = some opts ∧ ∀ registrations : List (Registration β),
      selectedCases opts (registered registrations) =
        (registrations.filter fun r => Piece Separator r.tagSpec t).map Registration.testCase ∧
      (t = [] ∨ (∃ c ∈ t, Separator c) → selectedCases opts (registered registrations) = []) := by
  refine ⟨mem_parseTags,fun a c b here t => parseTags_append here a b t,fun set order spec => parseTags_joins set,?_⟩
  intro long t
  refine ⟨_,accepted_snoc prog [] (.tag long t),fun registrations => ⟨tag_selects long t registrations,fun unfit => ?_⟩⟩
  refine (tag_selects long t registrations).trans (List.map_eq_nil_iff.mpr (List.filter_eq_nil_iff.mpr fun r _ => ?_))
  rw [decide_eq_true_eq]
  intro piece
  obtain ⟨filled,clean⟩ := piece_filled piece
  rcases unfit with empty | ⟨c,inside,here⟩
  · exact filled empty
  · exact clean c inside here

end Edtf.TagSpecs

import Mathlib.Tactic
import Edtf.CommandLine

namespace Edtf.Selection
open ByteText SortedSets Registry RunOne Runs CommandLine

theorem contains_infix (haystack needle : Str) : contains haystack needle = true ↔ needle <:+: haystack := by
  unfold contains
  by_cases empty : needle = []
  · rw [if_pos empty,empty]
    exact iff_of_true rfl (List.nil_infix)
  · rw [if_neg empty,List.any_eq_true,List.infix_iff_prefix_suffix]
    simp only [List.mem_tails,List.isPrefixOf_iff_prefix,and_comm]

theorem anyTagIn_mem (tags wanted : TagSet) : anyTagIn tags wanted = true ↔ ∃ t ∈ wanted.items, t ∈ tags.items := by
  simp only [anyTagIn,List.any_eq_true,decide_eq_true_eq]

def Passes (groups : List Group) (tc : TestCase β) : Prop :=
  lastGiven Group.filter? groups [] <:+: tc.fullName ∧ ∀ t ∈ given Group.excludeTag? groups, t ∉ tc.tags.items

theorem passes_test (groups : List Group) (tc : TestCase β) :
    (contains tc.fullName (lastGiven Group.filter? groups []) &&
      (given Group.excludeTag? groups).all fun t => !tc.tags.items.contains t) = true ↔ Passes groups tc := by
  rw [Bool.and_eq_true, contains_infix,List.all_eq_true,Passes]
  simp only [Bool.not_eq_true',List.contains_eq_mem,decide_eq_false_iff_not]

instance (groups : List Group) (tc : TestCase β) : Decidable (Passes groups tc) :=
  decidable_of_iff _ (passes_test groups tc)

structure Wants (groups : List Group) (tc : TestCase β) : Prop where
  passes : Passes groups tc
  included : given Group.tag? groups ≠ [] → ∃ t ∈ given Group.tag? groups, t ∈ tc.tags.items

theorem nonempty_members {one two : List α} (members : ∀ x, x ∈ one ↔ x ∈ two) : one ≠ [] ↔ two ≠ [] := by
  rw [ne_eq,ne_eq,List.eq_nil_iff_forall_not_mem,List.eq_nil_iff_forall_not_mem]
  simp only [members]

-- The three guards of selected. The last one tests for excluded tags that are not there.
theorem selected_guards (opts : RunOptions) (tc : TestCase β) :
    selected opts tc = true ↔ contains tc.fullName opts.nameFilter = true ∧
      (opts.includeTags.items ≠ [] → anyTagIn tc.tags opts.includeTags = true) ∧
      anyTagIn tc.tags opts.excludeTags = false := by
  have nothing : opts.excludeTags.items = [] → anyTagIn tc.tags opts.excludeTags = false := by
    intro empty
    rw [anyTagIn,empty]
    rfl
  unfold selected
  cases name : contains tc.fullName opts.nameFilter with
  | false => simp
  | true =>
    cases included : anyTagIn tc.tags opts.includeTags <;> cases excluded : anyTagIn tc.tags opts.excludeTags <;>
      simp_all

theorem selected_wants (chosen : Selects groups opts) (tc : TestCase β) : selected opts tc = true ↔ Wants groups tc := by
  have named := contains_infix tc.fullName opts.nameFilter
  have wanted := anyTagIn_mem tc.tags opts.includeTags
  have barred := anyTagIn_mem tc.tags opts.excludeTags
  simp only [chosen.includes] at wanted
  simp only [chosen.excludes] at barred
  rw [chosen.filter] at named
  have allowed : anyTagIn tc.tags opts.excludeTags = false ↔ ∀ t ∈ given Group.excludeTag? groups, t ∉ tc.tags.items := by
    rw [← Bool.not_eq_true,barred]
    simp only [not_exists,not_and]
  rw [selected_guards,chosen.filter,named,wanted,nonempty_members chosen.includes,allowed]
  constructor
  · rintro ⟨name,included,free⟩
    exact ⟨⟨name,free⟩,included⟩
  · rintro ⟨⟨name,free⟩,included⟩
    exact ⟨name,included,free⟩

def accepted (prog : Str) (args : List Str) : Option RunOptions :=
  (parseArgs (prog :: args)).bind fun parsed => if parsed.shouldExit then none else some parsed.opts

theorem accepted_groups (prog : Str) (groups : List Group) :
    accepted prog (groupWords groups) = some (groups.foldl Group.apply .new) := by
  rw [accepted,parse_groups]
  rfl

theorem accepted_grouped (taken : accepted prog args = some opts) : Grouped args := by
  have read := parseArgs_rest (prog :: args)
  rw [List.headD_cons,List.tail_cons] at read
  rw [accepted,read,Option.bind_some] at taken
  rcases parseRest_cases prog args .new with grouped | asked | ⟨exits,_⟩
  · exact grouped
  · obtain ⟨last,parsed⟩ := asksHelp_parsed asked prog .new
    rw [parsed] at taken
    cases taken
  · rw [if_pos exits] at taken
    cases taken

theorem selectedCases_wants (groups : List Group) (cases : List (TestCase β)) (keep : TestCase β → Bool)
    (same : ∀ tc, Wants groups tc ↔ keep tc = true) :
    selectedCases (groups.foldl Group.apply .new) cases = cases.filter keep :=
  List.filter_congr fun tc _ => Bool.eq_iff_iff.mpr ((selected_wants (groups_select groups) tc).trans (same tc))

theorem given_snoc (f : Group → Option α) (groups : List Group) (g : Group) :
    given f (groups ++ [g]) = given f groups ++ (f g).toList := by
  rw [given,List.filterMap_append,given]
  cases gives : f g <;> simp [gives]

theorem lastGiven_snoc (f : Group → Option α) (groups : List Group) (g : Group) (default : α) :
    lastGiven f (groups ++ [g]) default = (f g).getD (lastGiven f groups default) := by
  rw [lastGiven,given_snoc,lastGiven]
  cases f g <;> simp

theorem wants_parts (groups : List Group) (tc : TestCase β) :
    Wants groups tc ↔ Passes groups tc ∧ (given Group.tag? groups ≠ [] → ∃ t ∈ given Group.tag? groups, t ∈ tc.tags.items) :=
  ⟨fun wants => ⟨wants.passes,wants.included⟩,fun parts => ⟨parts.1,parts.2⟩⟩

section
variable (groups : List Group) (long : Bool) (t : Str) (tc : TestCase β)

theorem passes_tag : Passes (groups ++ [.tag long t]) tc ↔ Passes groups tc := by
  simp only [Passes,given_snoc,lastGiven_snoc,Group.filter?,Group.excludeTag?,Option.toList_none,List.append_nil,
    Option.getD_none]

theorem wants_excluding : Wants (groups ++ [.excludeTag long t]) tc ↔ Wants groups tc ∧ t ∉ tc.tags.items := by
  simp only [wants_parts,Passes,given_snoc,lastGiven_snoc,Group.filter?,Group.tag?,Group.excludeTag?,Option.toList_none,
    Option.toList_some,List.append_nil,Option.getD_none,List.forall_mem_append,List.forall_mem_singleton]
  constructor
  · rintro ⟨⟨name,free,absent⟩,included⟩
    exact ⟨⟨⟨name,free⟩,included⟩,absent⟩
  · rintro ⟨⟨⟨name,free⟩,included⟩,absent⟩
    exact ⟨⟨name,free,absent⟩,included⟩

-- The first included tag narrows, every later one widens.
theorem wants_first_tag (untagged : given Group.tag? groups = []) :
    Wants (groups ++ [.tag long t]) tc ↔ Wants groups tc ∧ t ∈ tc.tags.items := by
  rw [wants_parts,wants_parts,passes_tag,given_snoc,untagged]
  simp [Group.tag?]

theorem wants_later_tag (tagged : given Group.tag? groups ≠ []) :
    Wants (groups ++ [.tag long t]) tc ↔ Wants groups tc ∨ Passes groups tc ∧ t ∈ tc.tags.items := by
  have more : given Group.tag? groups ++ [t] ≠ [] := List.append_ne_nil_of_left_ne_nil tagged [t]
  rw [wants_parts,wants_parts,passes_tag,given_snoc]
  simp only [Group.tag?,Option.toList_some,ne_eq,tagged,more,not_false_eq_true,forall_const,List.mem_append,
    List.mem_singleton]
  constructor
  · rintro ⟨passes,u,old | rfl,carried⟩
    · exact .inl ⟨passes,u,old,carried⟩
    · exact .inr ⟨passes,carried⟩
  · rintro (⟨passes,u,old,carried⟩ | ⟨passes,carried⟩)
    · exact ⟨passes,u,.inl old,carried⟩
    · exact ⟨passes,t,.inr rfl,carried⟩

theorem wants_filter (part : lastGiven Group.filter? groups [] <:+: t) (wants : Wants (groups ++ [.filter long t]) tc) :
    Wants groups tc := by
  obtain ⟨⟨name,free⟩,included⟩ := wants
  simp only [given_snoc,lastGiven_snoc,Group.filter?,Group.tag?,Group.excludeTag?,Option.toList_none,List.append_nil,
    Option.getD_some] at name free included
  exact ⟨⟨part.trans name,free⟩,included⟩

end

def TagGroup (g : Group) : Prop := ∃ long t, g = .tag long t ∨ g = .excludeTag long t

theorem given_swapped (f : Group → Option α) (before after : List Group) (one two : Group) :
    (given f (before ++ one :: two :: after)).Perm (given f (before ++ two :: one :: after)) :=
  (List.Perm.append_left before (List.Perm.swap two one after)).filterMap f

theorem filter_swapped (one : TagGroup first) (two : TagGroup second) (before after : List Group) :
    lastGiven Group.filter? (before ++ first :: second :: after) [] =
      lastGiven Group.filter? (before ++ second :: first :: after) [] := by
  obtain ⟨_,_,rfl | rfl⟩ := one <;> obtain ⟨_,_,rfl | rfl⟩ := two <;>
    simp only [lastGiven,given,List.filterMap_append,List.filterMap_cons,Group.filter?]

theorem wants_swapped (one : TagGroup first) (two : TagGroup second) (before after : List Group) (tc : TestCase β) :
    Wants (before ++ first :: second :: after) tc ↔ Wants (before ++ second :: first :: after) tc := by
  have tags := given_swapped Group.tag? before after first second
  have excluded := given_swapped Group.excludeTag? before after first second
  have anything := nonempty_members fun _ => tags.mem_iff
  rw [wants_parts,wants_parts,Passes,Passes,filter_swapped one two,anything]
  simp only [excluded.mem_iff,tags.mem_iff]

-- How the selection answers to changes of the arguments. `opts` are what the groups parse to.
structure Responds (prog : Str) (groups : List Group) (opts : RunOptions) (cases : List (TestCase β)) : Prop where
  excluding : ∀ long t, ∃ next, accepted prog (groupWords groups ++ (Group.excludeTag long t).words) = some next ∧
    selectedCases next cases = (selectedCases opts cases).filter fun tc => t ∉ tc.tags.items
  firstTag : given Group.tag? groups = [] → ∀ long t, ∃ next,
    accepted prog (groupWords groups ++ (Group.tag long t).words) = some next ∧
      selectedCases next cases = (selectedCases opts cases).filter fun tc => t ∈ tc.tags.items
  laterTag : given Group.tag? groups ≠ [] → ∀ long t, ∃ next,
    accepted prog (groupWords groups ++ (Group.tag long t).words) = some next ∧
      selectedCases next cases = cases.filter fun tc => selected opts tc ∨ Passes groups tc ∧ t ∈ tc.tags.items
  filtering : ∀ long s, lastGiven Group.filter? groups [] <:+: s → ∃ next,
    accepted prog (groupWords groups ++ (Group.filter long s).words) = some next ∧
      (selectedCases next cases).Sublist (selectedCases opts cases)
  barring : ∀ t ∈ given Group.excludeTag? groups, ∀ tc ∈ selectedCases opts cases, t ∉ tc.tags.items
  swapping : ∀ before one two after, groups = before ++ one :: two :: after → TagGroup one → TagGroup two →
    ∃ next, accepted prog (groupWords (before ++ two :: one :: after)) = some next ∧
      selectedCases next cases = selectedCases opts cases

theorem accepted_snoc (prog : Str) (groups : List Group) (g : Group) :
    accepted prog (groupWords groups ++ g.words) = some ((groups ++ [g]).foldl Group.apply .new) := by
  have words : groupWords groups ++ g.words = groupWords (groups ++ [g]) := by simp [groupWords]
  rw [words,accepted_groups]

theorem selected_keep (groups : List Group) (tc : TestCase β) :
    Wants groups tc ↔ selected (groups.foldl Group.apply .new) tc = true :=
  (selected_wants (groups_select groups) tc).symm

theorem selectedCases_filtered (groups more : List Group) (cases : List (TestCase β)) (keep : TestCase β → Bool)
    (narrows : ∀ tc, Wants more tc ↔ Wants groups tc ∧ keep tc = true) :
    selectedCases (more.foldl Group.apply .new) cases =
      (selectedCases (groups.foldl Group.apply .new) cases).filter keep := by
  have filtered : (selectedCases (groups.foldl Group.apply .new) cases).filter keep =
      cases.filter fun tc => keep tc && selected (groups.foldl Group.apply .new) tc := List.filter_filter
  rw [filtered]
  refine selectedCases_wants more cases _ fun tc => ?_
  rw [narrows,selected_keep,Bool.and_eq_true]
  exact and_comm

theorem groups_respond (prog : Str) (groups : List Group) (cases : List (TestCase β)) :
    Responds prog groups (groups.foldl Group.apply .new) cases := by
  refine ⟨?_,?_,?_,?_,?_,?_⟩
  · intro long t
    refine ⟨_,accepted_snoc prog groups _,selectedCases_filtered groups _ cases _ fun tc => ?_⟩
    rw [wants_excluding,decide_eq_true_eq]
  · intro untagged long t
    refine ⟨_,accepted_snoc prog groups _,selectedCases_filtered groups _ cases _ fun tc => ?_⟩
    rw [wants_first_tag groups long t tc untagged,decide_eq_true_eq]
  · intro tagged long t
    refine ⟨_,accepted_snoc prog groups _,selectedCases_wants _ cases _ fun tc => ?_⟩
    rw [wants_later_tag groups long t tc tagged,selected_keep,decide_eq_true_eq]
  · intro long s part
    refine ⟨_,accepted_snoc prog groups _,List.monotone_filter_right cases fun tc kept => ?_⟩
    rw [← selected_keep] at kept ⊢
    exact wants_filter groups long s tc part kept
  · intro t excluded tc chosen
    have wants := (selected_keep groups tc).mpr (List.mem_filter.mp chosen).2
    exact wants.passes.2 t excluded
  · rintro before first second after rfl one two
    refine ⟨_,accepted_groups prog _,selectedCases_wants _ cases _ fun tc => ?_⟩
    rw [← wants_swapped one two,selected_keep]

theorem selection_responds (prog : Str) (args : List Str) (cases : List (TestCase β)) :
    ((accepted prog args).isSome = true ↔ Grouped args) ∧
      ∀ groups opts, args = groupWords groups → accepted prog args = some opts → Responds prog groups opts cases := by
  refine ⟨⟨?_,?_⟩,?_⟩
  · intro taken
    obtain ⟨opts,taken⟩ := Option.isSome_iff_exists.mp taken
    exact accepted_grouped taken
  · rintro ⟨groups,rfl⟩
    rw [accepted_groups]
    rfl
  · rintro groups opts rfl taken
    rw [accepted_groups] at taken
    cases taken
    exact groups_respond prog groups cases

end Edtf.Selection

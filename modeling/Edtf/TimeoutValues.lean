import Mathlib.Tactic
import Edtf.Selection

namespace Edtf.TimeoutValues
open ByteText RunOne CommandLine Selection

def spelled : Str → Option Int
  | [] => none
  | c :: rest =>
    if c = byteOf '-' then (readNat rest).map fun n : Nat => -(n : Int)
    else if c = byteOf '+' then (readNat rest).map fun n : Nat => (n : Int)
    else (readNat (c :: rest)).map fun n : Nat => (n : Int)

instance (t : Int) : Decidable (InRange t) := by
  unfold InRange
  infer_instance

-- The value of a well-formed timeout: a complete integer that fits into 64 bits.
def timeoutValue (v : Str) : Option Int := (spelled v).filter fun t => InRange t

theorem digitsValue_read (read : readNat s = some n) : digitsValue s = n ∧ s ≠ [] ∧ ∀ b ∈ s, isDigit b = true := by
  unfold readNat at read
  split at read
  · rename_i digits
    have every := List.all_eq_true.mp digits.2
    refine ⟨?_,digits.1,every⟩
    rw [digitsValue,List.takeWhile_eq_self_iff.mpr every]
    exact Option.some.inj read
  · cases read

theorem signedValue_spelled (spelt : spelled v = some t) : signedValue (v.dropWhile isSpace) = t := by
  cases v with
  | nil => cases spelt
  | cons c rest =>
    rw [spelled] at spelt
    split at spelt
    · rename_i minus
      obtain ⟨n,read,rfl⟩ := Option.map_eq_some_iff.mp spelt
      have blank : ¬isSpace c = true := by rw [minus]; decide
      rw [List.dropWhile_cons_of_neg blank,signedValue,if_pos minus,(digitsValue_read read).1]
    · rename_i notMinus
      split at spelt
      · rename_i plus
        obtain ⟨n,read,rfl⟩ := Option.map_eq_some_iff.mp spelt
        have blank : ¬isSpace c = true := by rw [plus]; decide
        rw [List.dropWhile_cons_of_neg blank,signedValue,if_neg notMinus,if_pos plus,(digitsValue_read read).1]
      · rename_i notPlus
        obtain ⟨n,read,rfl⟩ := Option.map_eq_some_iff.mp spelt
        obtain ⟨value,_,digits⟩ := digitsValue_read read
        obtain ⟨blank,_,_⟩ := digit_signless (digits c (by simp))
        rw [List.dropWhile_cons_of_neg (by simp [blank]),signedValue,if_neg notMinus,if_neg notPlus,value]

theorem atoll_value (spelt : timeoutValue v = some t) : atoll v = t := by
  obtain ⟨spelt,inside⟩ := Option.filter_eq_some_iff.mp spelt
  have fits : InRange t := of_decide_eq_true inside
  have low := fits.1
  have high := fits.2
  rw [atoll,signedValue_spelled spelt]
  omega

-- What the timeouts of an argument list ought to come to: if parse_args accepts it, all of
-- them are well formed and the last one counts; the first one that is not is refused.
structure TimeoutsChecked (prog : Str) (args : List Str) : Prop where
  taken : ∀ opts, accepted prog args = some opts → ∃ groups, ∃ values : List Int, args = groupWords groups ∧
    (given Group.timeout? groups).map timeoutValue = values.map some ∧ opts.defaultTimeout = values.getLastD 0
  refused : ∀ groups v rest, args = groupWords groups ++ text "--timeout" :: v :: rest →
    (∀ w ∈ given Group.timeout? groups, timeoutValue w ≠ none) → timeoutValue v = none →
    ∃ parsed, parseArgs (prog :: args) = some parsed ∧ parsed.shouldExit = true ∧ parsed.exitCode = 2

-- No malformed timeout stands behind a sequence of groups, in arguments that are such a
-- sequence or ask for help after one.
def TimeoutsSpelled (args : List Str) : Prop :=
  Grouped args ∨ AsksHelp args → ∀ groups v rest, args = groupWords groups ++ text "--timeout" :: v :: rest →
    timeoutValue v ≠ none

theorem groupWords_append (one two : List Group) : groupWords (one ++ two) = groupWords one ++ groupWords two :=
  List.flatMap_append

theorem timeout_inside (present : v ∈ given Group.timeout? groups) :
    ∃ before after, groupWords groups = groupWords before ++ text "--timeout" :: v :: groupWords after := by
  obtain ⟨g,member,gives⟩ := List.mem_filterMap.mp present
  obtain ⟨before,after,rfl⟩ := List.append_of_mem member
  cases g with
  | timeout w =>
    cases gives
    exact ⟨before,after,groupWords_append before _⟩
  | _ => cases gives

theorem first_malformed (groups : List Group) (v : Str) (rest : List Str) (malformed : timeoutValue v = none) :
    ∃ front w later, groupWords groups ++ text "--timeout" :: v :: rest = groupWords front ++ text "--timeout" :: w :: later ∧
      timeoutValue w = none ∧ ∀ u ∈ given Group.timeout? front, timeoutValue u ≠ none := by
  induction groups with
  | nil => exact ⟨[],v,rest,rfl,malformed,fun _ absent => absurd absent List.not_mem_nil⟩
  | cons g groups ih =>
    obtain ⟨front,w,later,shape,bad,good⟩ := ih
    by_cases first : ∃ u, g = .timeout u ∧ timeoutValue u = none
    · obtain ⟨u,rfl,wrong⟩ := first
      exact ⟨[],u,groupWords groups ++ text "--timeout" :: v :: rest,rfl,wrong,fun _ absent => absurd absent List.not_mem_nil⟩
    · refine ⟨g :: front,w,later,?_,bad,?_⟩
      · have words : ∀ more, groupWords (g :: more) = g.words ++ groupWords more := fun _ => List.flatMap_cons
        rw [words,words,List.append_assoc,shape,List.append_assoc]
      · intro u present
        obtain ⟨g',member,gives⟩ := List.mem_filterMap.mp present
        rcases List.mem_cons.mp member with rfl | behind
        · intro wrong
          cases g' with
          | timeout x =>
            cases gives
            exact first ⟨_,rfl,wrong⟩
          | _ => cases gives
        · exact good u (List.mem_filterMap.mpr ⟨g',behind,gives⟩)

theorem grouped_code (prog : Str) (known : Grouped args ∨ AsksHelp args) :
    ∃ parsed, parseArgs (prog :: args) = some parsed ∧ parsed.exitCode = 0 := by
  rcases known with ⟨groups,rfl⟩ | asked
  · exact ⟨_,parse_groups prog groups,rfl⟩
  · obtain ⟨last,parsed⟩ := asksHelp_parsed asked prog .new
    have read := parseArgs_rest (prog :: args)
    rw [List.headD_cons,List.tail_cons,parsed] at read
    exact ⟨_,read,rfl⟩

theorem unknown_code (prog : Str) (grouped : ¬Grouped args) (asks : ¬AsksHelp args) :
    ∃ parsed, parseArgs (prog :: args) = some parsed ∧ parsed.shouldExit = true ∧ parsed.exitCode = 2 := by
  have read := parseArgs_rest (prog :: args)
  rw [List.headD_cons,List.tail_cons] at read
  rcases parseRest_cases prog args .new with known | asked | refused
  · exact absurd known grouped
  · exact absurd asked asks
  · exact ⟨_,read,refused⟩

theorem spelled_values (groups : List Group) (good : ∀ v ∈ given Group.timeout? groups, timeoutValue v ≠ none) :
    (given Group.timeout? groups).map timeoutValue = ((given Group.timeout? groups).map atoll).map some := by
  rw [List.map_map]
  refine List.map_congr_left fun v present => ?_
  obtain ⟨t,value⟩ := Option.ne_none_iff_exists'.mp (good v present)
  rw [value,Function.comp_apply,atoll_value value]

theorem default_timeout (groups : List Group) :
    (groups.foldl Group.apply .new).defaultTimeout = ((given Group.timeout? groups).map atoll).getLastD 0 := by
  have all : given (fun g => g.timeout?.map atoll) groups = (given Group.timeout? groups).map atoll := by
    rw [given,given,List.map_filterMap]
  rw [(groups_select groups).timeout,lastGiven,all,List.getLastD_eq_getLast?]

theorem timeouts_checked (prog : Str) (args : List Str) : TimeoutsChecked prog args ↔ TimeoutsSpelled args := by
  constructor
  · intro checked known groups v rest shape malformed
    obtain ⟨front,w,later,first,bad,good⟩ := first_malformed groups v rest malformed
    obtain ⟨parsed,read,_,refused⟩ := checked.refused front w later (shape.trans first) good bad
    obtain ⟨parsed',read',accepts⟩ := grouped_code prog known
    cases Option.some.inj (read.symm.trans read')
    rw [accepts] at refused
    cases refused
  · intro spelt
    refine ⟨?_,?_⟩
    · intro opts taken
      obtain ⟨groups,rfl⟩ := accepted_grouped taken
      rw [accepted_groups] at taken
      cases taken
      refine ⟨groups,_,rfl,spelled_values groups fun v present => ?_,default_timeout groups⟩
      obtain ⟨before,after,shape⟩ := timeout_inside present
      exact spelt (.inl ⟨groups,rfl⟩) before v _ shape
    · intro groups v rest shape _ malformed
      refine unknown_code prog (fun grouped => ?_) fun asks => ?_
      · exact spelt (.inl grouped) groups v rest shape malformed
      · exact spelt (.inr asks) groups v rest shape malformed

theorem malformed_unchecked (prog v : Str) (malformed : timeoutValue v = none) :
    ¬TimeoutsChecked prog [text "--timeout",v] := by
  intro checked
  obtain ⟨parsed,read,exits,_⟩ := checked.refused [] v [] rfl (fun _ absent => absurd absent List.not_mem_nil) malformed
  cases Option.some.inj (read.symm.trans (parse_groups prog [.timeout v]))
  cases exits

theorem suffix_unchecked : ¬TimeoutsChecked (text "prog") [text "--timeout",text "5s"] ∧
    ¬TimeoutsChecked (text "prog") [text "--timeout",text "soon"] ∧ atoll (text "5s") = 5 ∧ atoll (text "soon") = 0 :=
  ⟨malformed_unchecked _ _ (by decide),malformed_unchecked _ _ (by decide),by decide,by decide⟩

end Edtf.TimeoutValues

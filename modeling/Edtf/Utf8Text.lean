import Mathlib.Tactic

namespace Edtf.Utf8Text

def Encodes (allowed : Char → Prop) (s : List UInt8) : Prop :=
  ∃ chars : List Char, (∀ c ∈ chars, allowed c) ∧ s = chars.flatMap String.utf8EncodeChar

def asciiChar (b : UInt8) : Char := Char.ofNat b.toNat

theorem high_byte (n base : Nat) (least : 128 ≤ base) (bound : n + base < 256) : 128 ≤ (UInt8.ofNat (n+base)).toNat := by
  rw [UInt8.toNat_ofNat']
  omega

-- An ASCII byte is the whole encoding of the character that it occurs in.
theorem encode_ascii {c : Char} {b : UInt8} (present : b ∈ String.utf8EncodeChar c) (ascii : b.toNat < 128) :
    String.utf8EncodeChar c = [b] ∧ c = asciiChar b := by
  have high (n m base : Nat) (positive : 0 < m) (least : 128 ≤ base) (bound : m + base ≤ 256)
      (same : b = UInt8.ofNat (n%m+base)) : False := by
    have low := Nat.mod_lt n positive
    have far := high_byte (n%m) base least (by omega)
    rw [same] at ascii
    omega
  unfold String.utf8EncodeChar at present ⊢
  simp only at present ⊢
  split_ifs at present ⊢ with one two three
  · have small : c.val.toNat < 256 := by omega
    have same := List.mem_singleton.mp present
    rw [same,asciiChar,UInt8.toNat_ofNat',Nat.mod_eq_of_lt small]
    exact ⟨rfl,(Char.ofNat_toNat c).symm⟩
  · simp only [List.mem_cons,List.not_mem_nil,or_false] at present
    rcases present with same | same
    · exact (high _ _ _ (by decide) (by decide) (by decide) same).elim
    · exact (high _ _ _ (by decide) (by decide) (by decide) same).elim
  · simp only [List.mem_cons,List.not_mem_nil,or_false] at present
    rcases present with same | same | same
    · exact (high _ _ _ (by decide) (by decide) (by decide) same).elim
    · exact (high _ _ _ (by decide) (by decide) (by decide) same).elim
    · exact (high _ _ _ (by decide) (by decide) (by decide) same).elim
  · simp only [List.mem_cons,List.not_mem_nil,or_false] at present
    rcases present with same | same | same | same
    · exact (high _ _ _ (by decide) (by decide) (by decide) same).elim
    · exact (high _ _ _ (by decide) (by decide) (by decide) same).elim
    · exact (high _ _ _ (by decide) (by decide) (by decide) same).elim
    · exact (high _ _ _ (by decide) (by decide) (by decide) same).elim

theorem encode_single {c : Char} {b : UInt8} (single : String.utf8EncodeChar c = [b]) : b.toNat < 128 := by
  unfold String.utf8EncodeChar at single
  simp only at single
  split_ifs at single with one two three
  · have same := (List.cons.inj single).1
    rw [← same,UInt8.toNat_ofNat']
    omega
  · cases (List.cons.inj single).2
  · cases (List.cons.inj single).2
  · cases (List.cons.inj single).2

theorem asciiChar_value (b : UInt8) : (asciiChar b).toNat = b.toNat := by
  have small := b.toNat_lt
  have valid : b.toNat.isValidChar := Or.inl (by omega)
  rw [asciiChar,Char.ofNat,dif_pos valid]
  rfl

theorem encode_asciiChar {b : UInt8} (ascii : b.toNat < 128) : String.utf8EncodeChar (asciiChar b) = [b] := by
  have value : (asciiChar b).val.toNat = b.toNat := asciiChar_value b
  unfold String.utf8EncodeChar
  simp only [value]
  rw [if_pos (by omega),UInt8.ofNat_toNat]

section
variable {allowed : Char → Prop}

theorem encodes_nil : Encodes allowed [] := ⟨[],by simp,rfl⟩

theorem encodes_append (one : Encodes allowed a) (two : Encodes allowed b) : Encodes allowed (a ++ b) := by
  obtain ⟨front,first,rfl⟩ := one
  obtain ⟨back,second,rfl⟩ := two
  refine ⟨front ++ back,?_,List.flatMap_append.symm⟩
  intro c present
  exact (List.mem_append.mp present).elim (first c) (second c)

theorem encodes_ascii {b : UInt8} (ascii : b.toNat < 128) (fits : allowed (asciiChar b)) : Encodes allowed [b] := by
  refine ⟨[asciiChar b],?_,?_⟩
  · intro c present
    rw [List.mem_singleton.mp present]
    exact fits
  · rw [List.flatMap_singleton,encode_asciiChar ascii]

-- Text can be cut at an ASCII byte: no character spans it. Induction on the characters.
theorem cut_chars {b : UInt8} (ascii : b.toNat < 128) (chars : List Char) (fits : ∀ c ∈ chars, allowed c)
    (before rest : List UInt8) (same : chars.flatMap String.utf8EncodeChar = before ++ b :: rest) :
    Encodes allowed before ∧ allowed (asciiChar b) ∧ Encodes allowed rest := by
  induction chars generalizing before with
  | nil =>
    rw [List.flatMap_nil] at same
    cases before <;> cases same
  | cons c chars ih =>
    rw [List.flatMap_cons] at same
    have tailFits : ∀ other ∈ chars, allowed other := fun other present => fits other (by simp [present])
    have first : Encodes allowed (String.utf8EncodeChar c) := ⟨[c],by simpa using fits c (by simp),by simp⟩
    rcases List.append_eq_append_iff.mp same with ⟨middle,front,tail⟩ | ⟨middle,front,tail⟩
    · obtain ⟨left,here,right⟩ := ih tailFits middle tail
      rw [front]
      exact ⟨encodes_append first left,here,right⟩
    · cases middle with
      | nil =>
        rw [List.append_nil] at front
        obtain ⟨_,here,right⟩ := ih tailFits [] tail.symm
        exact ⟨front ▸ first,here,right⟩
      | cons d middle =>
        obtain ⟨rfl,rfl⟩ := List.cons.inj tail
        obtain ⟨single,char⟩ := encode_ascii (by rw [front]; simp) ascii
        have length := congrArg List.length (front.symm.trans single)
        simp only [List.length_append,List.length_cons,List.length_nil] at length
        have beforeEmpty : before = [] := List.length_eq_zero_iff.mp (by omega)
        have middleEmpty : middle = [] := List.length_eq_zero_iff.mp (by omega)
        rw [beforeEmpty,middleEmpty]
        exact ⟨encodes_nil,char ▸ fits c (by simp),⟨chars,tailFits,rfl⟩⟩

theorem encodes_cut {b : UInt8} (ascii : b.toNat < 128) (before rest : List UInt8) :
    Encodes allowed (before ++ b :: rest) ↔ Encodes allowed before ∧ allowed (asciiChar b) ∧ Encodes allowed rest := by
  constructor
  · rintro ⟨chars,fits,same⟩
    exact cut_chars ascii chars fits before rest same.symm
  · rintro ⟨left,here,right⟩
    have joined := encodes_append left (encodes_append (encodes_ascii ascii here) right)
    rw [List.singleton_append] at joined
    exact joined

def Plain (allowed : Char → Prop) (s : List UInt8) : Prop := ∀ b ∈ s, b.toNat < 128 ∧ allowed (asciiChar b)

theorem encodes_after (plain : Plain allowed a) (rest : List UInt8) : Encodes allowed (a ++ rest) ↔ Encodes allowed rest := by
  induction a with
  | nil => exact Iff.rfl
  | cons b a ih =>
    have tail := ih fun c present => plain c (by simp [present])
    obtain ⟨ascii,fits⟩ := plain b (by simp)
    have cut := @encodes_cut allowed b ascii [] (a ++ rest)
    rw [List.nil_append,tail] at cut
    rw [List.cons_append,cut]
    exact ⟨fun all => all.2.2,fun last => ⟨encodes_nil,fits,last⟩⟩

theorem plain_encodes (plain : Plain allowed a) : Encodes allowed a := by
  have whole := (encodes_after plain []).mpr encodes_nil
  rwa [List.append_nil] at whole

theorem encodes_between (plain : Plain allowed a) (filled : a ≠ []) (before rest : List UInt8) :
    Encodes allowed (before ++ (a ++ rest)) ↔ Encodes allowed before ∧ Encodes allowed rest := by
  obtain ⟨b,tail,rfl⟩ := List.exists_cons_of_ne_nil filled
  obtain ⟨ascii,fits⟩ := plain b (by simp)
  rw [List.cons_append,encodes_cut ascii,encodes_after fun c present => plain c (by simp [present])]
  exact ⟨fun all => ⟨all.1,all.2.2⟩,fun both => ⟨both.1,fits,both.2⟩⟩

theorem encodes_before (plain : Plain allowed a) (before : List UInt8) : Encodes allowed (before ++ a) ↔ Encodes allowed before := by
  by_cases empty : a = []
  · rw [empty,List.append_nil]
  · have cut := encodes_between plain empty before []
    rw [List.append_nil] at cut
    rw [cut]
    exact ⟨And.left,fun left => ⟨left,encodes_nil⟩⟩

theorem encodes_replaced (replace : UInt8 → List UInt8)
    (each : ∀ b, replace b = [b] ∨ (b.toNat < 128 ∧ allowed (asciiChar b)) ∧ replace b ≠ [] ∧ Plain allowed (replace b))
    (before s : List UInt8) : Encodes allowed (before ++ s.flatMap replace) ↔ Encodes allowed (before ++ s) := by
  induction s generalizing before with
  | nil => exact Iff.rfl
  | cons b s ih =>
    rw [List.flatMap_cons]
    rcases each b with kept | ⟨⟨ascii,fits⟩,filled,plain⟩
    · have next := ih (before ++ [b])
      rw [List.append_assoc,List.append_assoc,List.singleton_append] at next
      rw [kept]
      exact next
    · have tail := ih []
      rw [List.nil_append,List.nil_append] at tail
      rw [encodes_between plain filled,encodes_cut ascii,tail]
      exact ⟨fun both => ⟨both.1,fits,both.2⟩,fun all => ⟨all.1,all.2.2⟩⟩

theorem encodes_member (encodes : Encodes allowed s) (present : b ∈ s) (ascii : b.toNat < 128) : allowed (asciiChar b) := by
  obtain ⟨before,rest,rfl⟩ := List.append_of_mem present
  exact ((encodes_cut ascii before rest).mp encodes).2.1

theorem encodes_byte {b : UInt8} (encodes : Encodes allowed [b]) : b.toNat < 128 ∧ allowed (asciiChar b) := by
  have ascii : b.toNat < 128 := by
    obtain ⟨chars,_,same⟩ := encodes
    cases chars with
    | nil => cases same
    | cons c chars =>
      rw [List.flatMap_cons] at same
      rcases List.append_eq_singleton_iff.mp same.symm with ⟨none,_⟩ | ⟨single,_⟩
      · exact absurd none String.utf8EncodeChar_ne_nil
      · exact encode_single single
  exact ⟨ascii,encodes_member encodes (List.mem_singleton_self b) ascii⟩

end

end Edtf.Utf8Text

import HttpCascade.Unicode.Word

/-!
# White space and words

White space is no part of a word (`not_isWord_of_isSpace`): outside ASCII no range of the table of
word characters meets one of white space, and in ASCII the characters are compared one by one.
-/

namespace HttpCascade.Unicode

/-- The white space outside ASCII. -/
def spaceRanges : List CodeRange :=
  [⟨0x85, 0x85⟩, ⟨0xA0, 0xA0⟩, ⟨0x1680, 0x1680⟩, ⟨0x2000, 0x200A⟩, ⟨0x2028, 0x2029⟩,
    ⟨0x202F, 0x202F⟩, ⟨0x205F, 0x205F⟩, ⟨0x3000, 0x3000⟩]

/-- The first range ends before the second or starts after it. -/
def CodeRange.isApart (r s : CodeRange) : Bool := Nat.blt r.last s.first || Nat.blt s.last r.first

theorem CodeRange.not_contains {r s : CodeRange} {n : Nat} (apart : r.isApart s = true)
    (inside : s.contains n = true) : r.contains n = false := by
  simp only [isApart, contains, Bool.or_eq_true, Bool.and_eq_true, decide_eq_true_eq,
    Nat.blt_eq] at apart inside
  apply Bool.eq_false_iff.mpr
  simp only [contains, Bool.and_eq_true, decide_eq_true_eq, ne_eq, not_and]
  omega

/-- A property of the characters of a string, stated of their list. -/
theorem of_characters (property : List Char → Prop) (characters : List Char)
    (holds : property characters) : property (String.ofList characters).toList := by
  rw [String.toList_ofList]
  exact holds

set_option maxRecDepth 100000 in
theorem wordRanges_apart :
    wordRanges.all (fun word => spaceRanges.all fun space => word.isApart space) = true := by
  unfold wordRanges rangesOf
  -- The characters of the table are spelled out for the kernel, which then reads it.
  refine of_characters (fun t => ((Text.words t).map CodeRange.ofText).all
    (fun word => spaceRanges.all fun space => word.isApart space) = true) _ ?_
  decide +kernel

theorem isSpace_cases {c : Char} (space : isSpace c = true) :
    c ∈ ['\t', '\n', '\x0b', '\x0c', '\r', ' '] ∨
      0x80 ≤ c.toNat ∧ ∃ range ∈ spaceRanges, range.contains c.toNat = true := by
  simp only [isSpace, Bool.or_eq_true, Bool.and_eq_true, decide_eq_true_eq, beq_iff_eq] at space
  by_cases small : c.toNat < 0x80
  · have code : c.toNat = 9 ∨ c.toNat = 10 ∨ c.toNat = 11 ∨ c.toNat = 12 ∨ c.toNat = 13 ∨
        c.toNat = 32 := by omega
    rw [← Char.ofNat_toNat c]
    rcases code with code | code | code | code | code | code <;> rw [code] <;> decide
  · refine .inr ⟨by omega, ?_⟩
    simp only [spaceRanges, List.mem_cons, List.not_mem_nil, or_false, exists_eq_or_imp,
      exists_eq_left, CodeRange.contains, Bool.and_eq_true, decide_eq_true_eq]
    omega

theorem not_isWord_of_isSpace {c : Char} (space : isSpace c = true) : isWord c = false := by
  rcases isSpace_cases space with ascii | ⟨large, range, member, inside⟩
  · simp only [List.mem_cons, List.not_mem_nil, or_false] at ascii
    rcases ascii with rfl | rfl | rfl | rfl | rfl | rfl <;> decide
  · unfold isWord
    rw [if_neg (Nat.not_lt.mpr large)]
    apply Bool.eq_false_iff.mpr
    intro isWord
    obtain ⟨word, isRange, contains⟩ := List.any_eq_true.mp isWord
    have apart := List.all_eq_true.mp (List.all_eq_true.mp wordRanges_apart word isRange) range member
    rw [CodeRange.not_contains apart inside] at contains
    cases contains

end HttpCascade.Unicode

import HttpCascade.Text.Basic
import Mathlib.Data.List.DropRight

/-!
# Trimmed texts and words

A text is trimmed if neither its first nor its last character is white space
(`trim_eq_self_iff`); trimming gives such a text (`trim_trim`). Words are not empty and hold no
white space (`solid_of_mem_words`), and a text that is built of two words gives them back
(`words_pair`); it has these words exactly if it is built of them (`words_eq_pair_iff`).
-/

namespace HttpCascade.Text

/-! ### Blank texts -/

theorem isBlank_iff {t : Text} : t.isBlank = true ↔ ∀ c ∈ t, isSpace c = true :=
  List.all_eq_true

theorem isBlank_cons_iff {c : Char} {t : Text} :
    isBlank (c :: t) = true ↔ isSpace c = true ∧ t.isBlank = true := by
  rw [isBlank_iff, isBlank_iff, List.forall_mem_cons]

theorem not_isBlank_of_mem {t : Text} {c : Char} (member : c ∈ t) (ink : isSpace c = false) :
    t.isBlank = false := by
  apply Bool.eq_false_iff.mpr
  intro blank
  simp [isBlank_iff.mp blank c member] at ink

/-! ### Trimming -/

/-- The recursion from the end is the library's `rdropWhile`. -/
theorem trimEnd_eq_rdropWhile (t : Text) : t.trimEnd = t.rdropWhile isSpace := by
  induction t with
  | nil => rfl
  | cons c rest ih =>
    have split : (c :: rest).rdropWhile isSpace =
        if rest.rdropWhile isSpace = [] then (if isSpace c then [] else [c])
        else c :: rest.rdropWhile isSpace := by
      simp only [List.rdropWhile, List.reverse_cons, List.dropWhile_append, List.isEmpty_iff,
        List.reverse_eq_nil_iff]
      split
      · cases space : isSpace c <;> simp [List.dropWhile, space]
      · simp
    rw [split, trimEnd, ih]
    cases rest.rdropWhile isSpace <;> simp

theorem mem_of_mem_trim {t : Text} {c : Char} (member : c ∈ t.trim) : c ∈ t := by
  rw [trim, trimEnd_eq_rdropWhile] at member
  have kept := (List.rdropWhile_prefix _ _).mem member
  exact (List.dropWhile_suffix _).mem kept

/-- A text that trimming leaves alone starts and ends with ink. -/
theorem trim_eq_self_iff {t : Text} :
    t.trim = t ↔ (∀ c ∈ t.head?, isSpace c = false) ∧ (∀ c ∈ t.getLast?, isSpace c = false) := by
  have front : t.trimStart = t ↔ ∀ c ∈ t.head?, isSpace c = false := by
    cases t with
    | nil => simp [trimStart]
    | cons c rest =>
      rw [trimStart, List.dropWhile_eq_self_iff]
      simp
  have back : t.rdropWhile isSpace = t ↔ ∀ c ∈ t.getLast?, isSpace c = false := by
    rw [List.rdropWhile_eq_self_iff]
    cases t using List.reverseRecOn <;> simp
  rw [← front, ← back, trim, trimEnd_eq_rdropWhile]
  constructor
  · intro same
    -- Neither end can lose anything, for the other end gives nothing back.
    have kept : t.trimStart = t := by
      apply (List.dropWhile_suffix _).eq_of_length_le
      calc t.length = (t.trimStart.rdropWhile isSpace).length := by rw [same]
        _ ≤ t.trimStart.length := (List.rdropWhile_prefix _ _).length_le
    exact ⟨kept, by rw [kept] at same; exact same⟩
  · rintro ⟨kept, same⟩
    rw [kept, same]

theorem trim_trim (t : Text) : t.trim.trim = t.trim := by
  apply trim_eq_self_iff.mpr
  rw [trim, trimEnd_eq_rdropWhile]
  constructor
  · intro c first
    have kept : t.trimStart ≠ [] := by
      intro empty
      simp [empty] at first
    have same : t.trimStart.head? = some c := by
      obtain ⟨dropped, eq⟩ := List.rdropWhile_prefix isSpace t.trimStart
      rw [← eq, List.head?_append, first]
      rfl
    have ink := List.head_dropWhile_not isSpace kept
    rw [List.head?_eq_some_head kept] at same
    exact (Option.some.inj same) ▸ ink
  · intro c last
    have kept : t.trimStart.rdropWhile isSpace ≠ [] := by
      intro empty
      simp [empty] at last
    have ink := List.rdropWhile_last_not isSpace t.trimStart kept
    rw [List.getLast?_eq_some_getLast kept] at last
    simpa [Option.some.inj last] using ink

theorem trim_cons_space {c : Char} (t : Text) (space : isSpace c = true) :
    trim (c :: t) = trim t := by
  rw [trim, trim, trimStart, List.dropWhile_cons_of_pos space, trimStart]

theorem trim_append_space {c : Char} (t : Text) (space : isSpace c = true) :
    trim (t ++ [c]) = trim t := by
  rw [trim, trim, trimEnd_eq_rdropWhile, trimEnd_eq_rdropWhile, trimStart, trimStart,
    List.dropWhile_append]
  split
  next empty => simp [List.isEmpty_iff.mp empty, space]
  next => rw [List.rdropWhile_concat_pos _ _ _ space]

/-- Nothing is left of a blank text, and of no other. -/
theorem trim_eq_nil_iff {t : Text} : t.trim = [] ↔ t.isBlank = true := by
  rw [trim, trimEnd_eq_rdropWhile, List.rdropWhile_eq_nil_iff, isBlank_iff]
  constructor
  · intro spaces c member
    rw [← List.takeWhile_append_dropWhile (p := isSpace) (l := t)] at member
    rcases List.mem_append.mp member with front | back
    · exact List.mem_takeWhile_imp front
    · exact spaces c back
  · intro spaces c member
    exact spaces c ((List.dropWhile_suffix _).mem member)

/-- Every text is a trimmed one with white space put at its ends. -/
@[elab_as_elim]
theorem trimInduction {motive : Text → Prop} (trimmed : ∀ t, t.trim = t → motive t)
    (front : ∀ s t, isSpace s = true → motive t → motive (s :: t))
    (back : ∀ t s, isSpace s = true → motive t → motive (t ++ [s])) (t : Text) : motive t := by
  induction size : t.length using Nat.strongRecOn generalizing t with
  | ind n ih =>
    by_cases ends : (∀ c ∈ t.head?, isSpace c = false) ∧ (∀ c ∈ t.getLast?, isSpace c = false)
    · exact trimmed t (trim_eq_self_iff.mpr ends)
    rcases not_and_or.mp ends with atFront | atBack
    · obtain ⟨c, first, space⟩ : ∃ c ∈ t.head?, isSpace c = true := by simpa using atFront
      obtain ⟨rest, rfl⟩ := List.head?_eq_some_iff.mp first
      exact front c rest space (ih rest.length (by simp [← size]) rest rfl)
    · obtain ⟨c, last, space⟩ : ∃ c ∈ t.getLast?, isSpace c = true := by simpa using atBack
      obtain ⟨rest, rfl⟩ := List.getLast?_eq_some_iff.mp last
      exact back rest c space (ih rest.length (by simp [← size]) rest rfl)

/-! ### Words -/

/-- A text without white space. -/
def IsSolid (t : Text) : Prop := ∀ c ∈ t, isSpace c = false

-- The characters of the text are looked at, not all that there are.
instance (t : Text) : Decidable t.IsSolid := List.decidableBAll (isSpace · = false) t

theorem words_cons_space {c : Char} (t : Text) (space : isSpace c = true) :
    words (c :: t) = words t := by
  cases t with
  | nil => simp [words, space]
  | cons d rest => simp [words, space]

/-- A word ends at white space. -/
theorem words_append_space {w t : Text} {s : Char} (nonempty : w ≠ []) (solid : IsSolid w)
    (space : isSpace s = true) : words (w ++ s :: t) = w :: words t := by
  induction w with
  | nil => exact absurd rfl nonempty
  | cons c rest ih =>
    have ink : isSpace c = false := solid c List.mem_cons_self
    cases rest with
    | nil =>
      show words (c :: s :: t) = _
      rw [words, if_neg (by simp [ink]), if_pos space, words_cons_space t space]
    | cons d more =>
      have solidRest : IsSolid (d :: more) := fun x member =>
        solid x (List.mem_cons_of_mem _ member)
      have inkNext : isSpace d = false := solidRest d List.mem_cons_self
      have tail := ih (by simp) solidRest
      rw [List.cons_append] at tail
      show words (c :: d :: (more ++ s :: t)) = _
      rw [words, if_neg (by simp [ink]), if_neg (by simp [inkNext]), tail, consFirst]

/-- A text without white space is one word. -/
theorem words_of_isSolid {w : Text} (nonempty : w ≠ []) (solid : IsSolid w) : words w = [w] := by
  induction w with
  | nil => exact absurd rfl nonempty
  | cons c rest ih =>
    have ink : isSpace c = false := solid c List.mem_cons_self
    cases rest with
    | nil => simp [words, ink]
    | cons d more =>
      have solidRest : IsSolid (d :: more) := fun x member =>
        solid x (List.mem_cons_of_mem _ member)
      have inkNext : isSpace d = false := solidRest d List.mem_cons_self
      rw [words, if_neg (by simp [ink]), if_neg (by simp [inkNext]), ih (by simp) solidRest,
        consFirst]

theorem words_pair {v w : Text} {s : Char} (nonempty : v ≠ [] ∧ w ≠ [])
    (solid : IsSolid v ∧ IsSolid w) (space : isSpace s = true) :
    words (v ++ s :: w) = [v, w] := by
  rw [words_append_space nonempty.1 solid.1 space, words_of_isSolid nonempty.2 solid.2]

theorem solid_of_mem_words {t w : Text} (member : w ∈ words t) : w ≠ [] ∧ IsSolid w := by
  fun_induction words t generalizing w with
  | case1 => simp at member
  | case2 c space => simp at member
  | case3 c ink =>
    obtain rfl := List.mem_singleton.mp member
    exact ⟨by simp, fun x hx => by simp_all⟩
  | case4 c d rest space ih => exact ih member
  | case5 c d rest ink space ih =>
    rcases List.mem_cons.mp member with rfl | later
    · exact ⟨by simp, fun x hx => by simp_all⟩
    · exact ih later
  | case6 c d rest ink inkNext ih =>
    cases found : words (d :: rest) with
    | nil =>
      rw [found, consFirst] at member
      obtain rfl := List.mem_singleton.mp member
      exact ⟨by simp, fun x hx => by simp_all⟩
    | cons first others =>
      rw [found] at ih
      rw [found, consFirst] at member
      rcases List.mem_cons.mp member with rfl | later
      · have solid := (ih List.mem_cons_self).2
        refine ⟨by simp, fun x hx => ?_⟩
        rcases List.mem_cons.mp hx with rfl | inside
        · simpa using ink
        · exact solid x inside
      · exact ih (List.mem_cons_of_mem _ later)

/-! ### Texts of two words -/

/-- Two words with white space between them, and no more than white space around them. -/
structure IsPair (t v w : Text) : Prop where
  first : v ≠ [] ∧ IsSolid v
  second : w ≠ [] ∧ IsSolid w
  parts : ∃ before between after, t = before ++ v ++ between ++ w ++ after ∧
    before.isBlank = true ∧ between.isBlank = true ∧ after.isBlank = true ∧ between ≠ []

theorem IsPair.second_infix {t v w : Text} (pair : IsPair t v w) : w <:+: t := by
  obtain ⟨before, between, after, rfl, _⟩ := pair.parts
  exact ⟨before ++ v ++ between, after, by simp⟩

theorem words_append_of_blank {blank : Text} (t : Text) (isBlank : blank.isBlank = true) :
    words (blank ++ t) = words t := by
  induction blank with
  | nil => rfl
  | cons c rest ih =>
    obtain ⟨space, blankRest⟩ := isBlank_cons_iff.mp isBlank
    rw [List.cons_append, words_cons_space _ space, ih blankRest]

theorem words_append_last_space {s : Char} (t : Text) (space : isSpace s = true) :
    words (t ++ [s]) = words t := by
  fun_induction words t with
  | case1 => simp [words, space]
  | case2 c isSpaceHere => simp [words, space, isSpaceHere]
  | case3 c ink => simp [words, space, ink]
  | case4 c d rest isSpaceHere ih => simpa [words, isSpaceHere] using ih
  | case5 c d rest ink isSpaceNext ih => simpa [words, ink, isSpaceNext] using ih
  | case6 c d rest ink inkNext ih =>
    rw [List.cons_append, List.cons_append, words, if_neg ink, if_neg inkNext]
    exact congrArg (consFirst c) ih

theorem words_eq_nil_iff {t : Text} : words t = [] ↔ t.isBlank = true := by
  have joined (c : Char) (pieces : List Text) : consFirst c pieces ≠ [] := by
    cases pieces <;> simp [consFirst]
  fun_induction words t with
  | case1 => simp [isBlank]
  | case2 c space => simp [isBlank, space]
  | case3 c ink => simp [isBlank, ink]
  | case4 c d rest space ih =>
    rw [isBlank_cons_iff, and_iff_right space]
    exact ih
  | case5 c d rest ink space ih => simp [isBlank, ink]
  | case6 c d rest ink inkNext ih => simp [isBlank, ink, joined]

/-- The first word has only white space before it, and white space or nothing after it. -/
theorem exists_of_words_eq_cons {t w : Text} {others : List Text} (found : words t = w :: others) :
    ∃ blank rest, t = blank ++ w ++ rest ∧ blank.isBlank = true ∧ words rest = others ∧
      ∀ c ∈ rest.head?, isSpace c = true := by
  fun_induction words t generalizing w others with
  | case1 => cases found
  | case2 c space => cases found
  | case3 c ink =>
    cases found
    exact ⟨[], [], rfl, rfl, rfl, by simp⟩
  | case4 c d rest space ih =>
    obtain ⟨blank, after, eq, isBlank, more, ends⟩ := ih found
    exact ⟨c :: blank, after, by rw [eq]; rfl, isBlank_cons_iff.mpr ⟨space, isBlank⟩, more, ends⟩
  | case5 c d rest ink space ih =>
    cases found
    exact ⟨[], d :: rest, rfl, rfl, rfl, by simpa using space⟩
  | case6 c d rest ink inkNext ih =>
    cases next : words (d :: rest) with
    | nil => simp [words_eq_nil_iff, isBlank, inkNext] at next
    | cons first more =>
      rw [next, consFirst] at found
      cases found
      obtain ⟨blank, after, eq, isBlank, more, ends⟩ := ih next
      -- The rest starts with ink, so no white space comes before its first word.
      cases blank with
      | nil => exact ⟨[], after, by rw [eq]; rfl, rfl, more, ends⟩
      | cons e blank =>
        obtain ⟨rfl, _⟩ := List.cons.inj eq
        exact absurd (isBlank_cons_iff.mp isBlank).1 inkNext

/-- The words of a text are two exactly if it is made of these and of white space. -/
theorem words_eq_pair_iff {t v w : Text} : words t = [v, w] ↔ IsPair t v w := by
  constructor
  · intro found
    have first : v ≠ [] ∧ IsSolid v := solid_of_mem_words (t := t) (by simp [found])
    have second : w ≠ [] ∧ IsSolid w := solid_of_mem_words (t := t) (by simp [found])
    obtain ⟨before, rest, rfl, blankBefore, foundRest, ends⟩ := exists_of_words_eq_cons found
    obtain ⟨between, after, rfl, blankBetween, nothing, _⟩ := exists_of_words_eq_cons foundRest
    refine ⟨first, second, before, between, after, by simp, blankBefore, blankBetween,
      words_eq_nil_iff.mp nothing, ?_⟩
    -- Without white space between them the second word would belong to the first.
    rintro rfl
    obtain ⟨c, more, eq⟩ := List.exists_cons_of_ne_nil second.1
    have space := ends c (by simp [eq])
    have ink := second.2 c (by simp [eq])
    simp [space] at ink
  · rintro ⟨first, second, parts⟩
    obtain ⟨before, between, after, rfl, blankBefore, blankBetween, blankAfter, apart⟩ := parts
    obtain ⟨s, more, rfl⟩ := List.exists_cons_of_ne_nil apart
    obtain ⟨space, blankMore⟩ := isBlank_cons_iff.mp blankBetween
    have last : words (w ++ after) = [w] := by
      cases after with
      | nil => rw [List.append_nil, words_of_isSolid second.1 second.2]
      | cons c rest =>
        obtain ⟨spaceAfter, blankRest⟩ := isBlank_cons_iff.mp blankAfter
        rw [words_append_space second.1 second.2 spaceAfter, words_eq_nil_iff.mpr blankRest]
    simp only [List.append_assoc, List.cons_append]
    rw [words_append_of_blank _ blankBefore, words_append_space first.1 first.2 space,
      words_append_of_blank _ blankMore, last]

theorem IsPair.not_isBlank {t v w : Text} (pair : IsPair t v w) : t.isBlank = false := by
  apply Bool.eq_false_iff.mpr
  intro blank
  have none := words_eq_nil_iff.mpr blank
  rw [words_eq_pair_iff.mpr pair] at none
  cases none

end HttpCascade.Text

import HttpCascade.Json.Reader
import HttpCascade.Proofs.Json.Grammar
import Mathlib.Data.List.Basic

/-!
# Reading scalars

A reader that stands in front of a text of its value, white space aside, reads this value and comes
to the end of the text (`Reads`), whatever follows. Where it stands counts for its errors alone, so
only the text from there on is spoken of.

## Main results

`stringBody_spellsText`: a string is read as the text that it spells, whatever characters it has.
`number_ofNat`: a whole number is read as itself, up to the largest one of 64 bits.
-/

namespace HttpCascade.Json

variable {α β : Type}

namespace Cursor

theorem rest_advance (c : Cursor) (count : Nat) : (c.advance count).rest = c.rest.drop count := rfl

theorem rest_advance_one {c : Cursor} {first : Char} {others : Text}
    (here : c.rest = first :: others) : (c.advance 1).rest = others := by
  rw [rest_advance, here, List.drop_one, List.tail_cons]

theorem rest_skipSpaceFrom (p : Position) (t : Text) :
    (skipSpaceFrom p t).rest = t.dropWhile isSpace := by
  induction t generalizing p with
  | nil => rfl
  | cons c rest ih =>
    rw [skipSpaceFrom, List.dropWhile_cons]
    split
    · exact ih _
    · rfl

theorem rest_skipSpace (c : Cursor) : c.skipSpace.rest = c.rest.dropWhile isSpace :=
  rest_skipSpaceFrom c.position c.rest

end Cursor

/-- What follows a value does not go on with a number. -/
def Stops (rest : Text) : Prop :=
  ∀ c ∈ rest.head?, Cursor.isSpace c = true ∨ c = ',' ∨ c = '}' ∨ c = ']'

/-- The value was read up to `rest`. -/
def Yields (result : Result α) (value : α) (rest : Text) : Prop :=
  ∃ after : Cursor, result = .ok (value, after) ∧ after.rest = rest

/-- What was there was passed over up to `rest`. -/
def ComesTo (result : Except JsonError Cursor) (rest : Text) : Prop :=
  ∃ after : Cursor, result = .ok after ∧ after.rest = rest

/-- From any place before `written`, at most white space away, `value` is read up to its end. -/
def Reads (read : Cursor → Result α) (value : α) (written : Text) : Prop :=
  ∀ (c : Cursor) (gap rest : Text), IsGap gap → Stops rest → c.rest = gap ++ (written ++ rest) →
    Yields (read c) value rest

/-- From any place before `written`, at most white space away, it is passed over. -/
def Passes (pass : Cursor → Except JsonError Cursor) (written : Text) : Prop :=
  ∀ (c : Cursor) (gap rest : Text), IsGap gap → Stops rest → c.rest = gap ++ (written ++ rest) →
    ComesTo (pass c) rest

theorem Yields.map {result : Result α} {value : α} {rest : Text} (f : α → β)
    (yields : Yields result value rest) :
    Yields (result.map fun read => (f read.1, read.2)) (f value) rest := by
  obtain ⟨after, rfl, rfl⟩ := yields
  exact ⟨after, rfl, rfl⟩

theorem Reads.map {read : Cursor → Result α} {value : α} {written : Text} (f : α → β)
    (reads : Reads read value written) :
    Reads (fun c => (read c).map fun read => (f read.1, read.2)) (f value) written :=
  fun c gap rest isGap stops here => (reads c gap rest isGap stops here).map f

/-- The character after some white space is found. -/
theorem skipSpace_gap {c : Cursor} {gap others : Text} {first : Char} (isGap : IsGap gap)
    (solid : Cursor.isSpace first = false) (here : c.rest = gap ++ first :: others) :
    c.skipSpace.rest = first :: others := by
  rw [Cursor.rest_skipSpace, here, List.dropWhile_append_of_pos isGap,
    List.dropWhile_cons_of_neg (by simp [solid])]

theorem valueStart_eq {c : Cursor} {gap others : Text} {first : Char} (isGap : IsGap gap)
    (solid : Cursor.isSpace first = false) (here : c.rest = gap ++ first :: others) :
    valueStart c = .ok (first, c.skipSpace) ∧ c.skipSpace.rest = first :: others := by
  have skipped := skipSpace_gap isGap solid here
  exact ⟨by simp only [valueStart, skipped], skipped⟩

/-! ### Strings -/

theorem simpleEscape?_of_mem {letter c : Char} (isLetter : (letter, c) ∈ escapeLetters) :
    simpleEscape? letter = some c := by
  have known : ∀ pair ∈ escapeLetters, simpleEscape? pair.1 = some pair.2 := by decide
  exact known (letter, c) isLetter

theorem hexEscape_append {n : Nat} {digits : Text} (isNumber : IsHexadecimal n digits)
    (p : Position) (rest : Text) : hexEscape p (digits ++ rest) = .ok n := by
  obtain ⟨four, areDigits, rfl⟩ := isNumber
  have taken : (digits ++ rest).take 4 = digits := List.take_left' four
  obtain ⟨a, b, c, d, rfl⟩ := List.length_eq_four.mp four
  simp only [List.mem_cons, List.not_mem_nil, or_false, forall_eq_or_imp, forall_eq,
    Option.isSome_iff_exists] at areDigits
  obtain ⟨⟨a', ha⟩, ⟨b', hb⟩, ⟨c', hc⟩, ⟨d', hd⟩⟩ := areDigits
  have value : ((a' * 16 + b') * 16 + c') * 16 + d' = Unicode.hexNumber [a, b, c, d] := by
    simp only [Unicode.hexNumber, List.foldl_cons, List.foldl_nil, ha, hb, hc, hd,
      Option.getD_some]
    omega
  simp only [hexEscape, taken, fourDigits?, ha, hb, hc, hd, value]

theorem lowerHalf_append {low : Nat} (fits : low < 0x400) {lower : Text}
    (isLower : IsHexadecimal (0xDC00 + low) lower) (high : Nat) (p : Position) (rest : Text) :
    lowerHalf (0xD800 + high) p ('\\' :: 'u' :: (lower ++ rest)) =
      .ok (Char.ofNat (high * 0x400 + low + 0x10000)) := by
  have notBelow : ¬ 0xDC00 + low < 0xDC00 := by omega
  have notAbove : ¬ 0xDC00 + low > 0xDFFF := by omega
  simp only [lowerHalf, ne_eq, not_true_eq_false, if_false, hexEscape_append isLower, notBelow,
    notAbove, decide_false, Bool.or_false, Bool.false_eq_true, Nat.add_sub_cancel_left]

/-- After a backslash the character that is spelled is found, and how far its spelling goes. -/
theorem escape_of_spells {c : Char} {others : Text} (spells : Spells c ('\\' :: others))
    (p : Position) (rest : Text) : escape p (others ++ rest) = .ok (c, others.length) := by
  have unknown : simpleEscape? 'u' = none := by decide
  cases spells with
  | plain isPlain => exact absurd rfl isPlain.notBackslash
  | letter isLetter => simp only [List.cons_append, escape, simpleEscape?_of_mem isLetter]; rfl
  | @number _ digits isNumber =>
    -- The number of a character is none of those that only count in pairs.
    have valid : c.toNat < 0xD800 ∨ 0xDFFF < c.toNat := c.valid.imp_right And.left
    have notLower : (decide (0xDC00 ≤ c.toNat) && decide (c.toNat ≤ 0xDFFF)) = false := by
      simp only [Bool.and_eq_false_iff, decide_eq_false_iff_not]
      omega
    have notUpper : (decide (0xD800 ≤ c.toNat) && decide (c.toNat ≤ 0xDBFF)) = false := by
      simp only [Bool.and_eq_false_iff, decide_eq_false_iff_not]
      omega
    simp only [List.cons_append, escape, unknown, ne_eq, not_true_eq_false, if_false,
      hexEscape_append isNumber, notLower, notUpper, Bool.false_eq_true, Char.ofNat_toNat,
      List.length_cons, isNumber.four]
  | @halves _ high low upper lower highFits lowFits isValue isUpper isLower =>
    have notLower : (decide (0xDC00 ≤ 0xD800 + high) && decide (0xD800 + high ≤ 0xDFFF)) = false := by
      simp only [Bool.and_eq_false_iff, decide_eq_false_iff_not]
      omega
    have isHigh : (decide (0xD800 ≤ 0xD800 + high) && decide (0xD800 + high ≤ 0xDBFF)) = true := by
      simp only [Bool.and_eq_true, decide_eq_true_iff]
      omega
    have left : (upper ++ ('\\' :: 'u' :: (lower ++ rest))).drop 4 = '\\' :: 'u' :: (lower ++ rest) :=
      List.drop_left' isUpper.four
    have value : Char.ofNat (high * 0x400 + low + 0x10000) = c := by
      rw [show high * 0x400 + low + 0x10000 = c.toNat by omega, Char.ofNat_toNat]
    simp only [List.cons_append, List.append_assoc, escape, unknown, ne_eq, not_true_eq_false,
      if_false, hexEscape_append isUpper, notLower, isHigh, Bool.false_eq_true, if_true, left,
      lowerHalf_append lowFits isLower, value, List.length_cons, List.length_append, isUpper.four,
      isLower.four]

theorem stringRest_passed (passed rest : Text) (p : Position) :
    stringRest passed.length p (passed ++ rest) =
      stringRest 0 (passed.foldl Position.after p) rest := by
  induction passed generalizing p with
  | nil => rfl
  | cons c passed ih => exact ih (p.after c)

theorem stringRest_escaped {c : Char} {others : Text} (spells : Spells c ('\\' :: others))
    (p : Position) (rest : Text) :
    stringRest 0 p ('\\' :: others ++ rest) =
      (stringRest 0 (('\\' :: others).foldl Position.after p) rest).map fun read =>
        (c :: read.1, read.2) := by
  rw [List.cons_append, stringRest]
  simp only [Char.reduceEq, if_false, if_true, escape_of_spells spells, stringRest_passed,
    List.foldl_cons]
  cases stringRest 0 _ rest <;> rfl

/-- Each character is read from whatever it is spelled as. -/
theorem stringRest_spells {c : Char} {spelled : Text} (spells : Spells c spelled) (p : Position)
    (rest : Text) :
    stringRest 0 p (spelled ++ rest) =
      (stringRest 0 (spelled.foldl Position.after p) rest).map fun read =>
        (c :: read.1, read.2) := by
  cases spells with
  | plain isPlain =>
    obtain ⟨notQuote, notBackslash, notControl⟩ := isPlain
    rw [List.singleton_append, stringRest]
    simp only [notQuote, notBackslash, notControl, if_false, List.foldl_cons, List.foldl_nil]
    cases stringRest 0 (p.after c) rest <;> rfl
  | letter isLetter => exact stringRest_escaped (.letter isLetter) p rest
  | number isNumber => exact stringRest_escaped (.number isNumber) p rest
  | halves highFits lowFits isValue isUpper isLower =>
    exact stringRest_escaped (.halves highFits lowFits isValue isUpper isLower) p rest

theorem stringRest_spellsText {t inside : Text} (spells : SpellsText t inside) (p : Position)
    (rest : Text) : Yields (stringRest 0 p (inside ++ '"' :: rest)) t rest := by
  induction spells generalizing p with
  | nil => exact ⟨_, by simp [stringRest]; rfl, rfl⟩
  | cons spells _ ih =>
    rw [List.append_assoc, stringRest_spells spells]
    exact (ih _).map _

/-- The text between the quotes is read, however it is spelled. -/
theorem stringBody_spellsText {t inside rest : Text} {c : Cursor} (spells : SpellsText t inside)
    (here : c.rest = inside ++ '"' :: rest) : Yields (stringBody c) t rest := by
  rw [stringBody, here]
  exact stringRest_spellsText spells c.position rest

theorem reads_text {t written : Text} (writes : Writes (.text t) written) (expected : String) :
    Reads (fun c => readText c expected) t written := by
  cases writes with
  | @text _ inside spells =>
    intro c gap rest isGap stops here
    have quoted : c.rest = gap ++ '"' :: (inside ++ '"' :: rest) := by simpa using here
    obtain ⟨start, skipped⟩ := valueStart_eq isGap rfl quoted
    simp only [readText, start, if_true]
    exact stringBody_spellsText spells (Cursor.rest_advance_one skipped)

/-! ### Literals -/

theorem literalRest_append (word rest : Text) (p : Position) :
    literalRest p word (word ++ rest) = .ok ⟨word.foldl Position.after p, rest⟩ := by
  induction word generalizing p with
  | nil => rfl
  | cons c word ih =>
    rw [List.cons_append, literalRest, if_pos rfl, ih]
    rfl

theorem literal_comesTo {c : Cursor} {first : Char} {word rest : Text}
    (here : c.rest = first :: (word ++ rest)) : ComesTo (literal (c.advance 1) word) rest := by
  rw [literal, Cursor.rest_advance_one here, literalRest_append]
  exact ⟨_, rfl, rfl⟩

theorem literal_append {c : Cursor} {first : Char} {word rest : Text}
    (here : c.rest = first :: (word ++ rest)) (value : α) :
    Yields ((literal (c.advance 1) word).map fun after => (value, after)) value rest := by
  obtain ⟨after, reads, left⟩ := literal_comesTo here
  exact ⟨after, by rw [reads]; rfl, left⟩

theorem reads_boolean {b : Bool} {written : Text} (writes : Writes (.boolean b) written) :
    Reads readBool b written := by
  intro c gap rest isGap stops here
  cases writes with
  | yes =>
    obtain ⟨start, skipped⟩ := valueStart_eq isGap rfl here
    simp only [readBool, start]
    exact literal_append skipped true
  | no =>
    obtain ⟨start, skipped⟩ := valueStart_eq isGap rfl here
    simp only [readBool, start]
    exact literal_append skipped false

/-! ### Whole numbers -/

theorem le_ofDigitChars (digits : Text) (n : Nat) : n ≤ Nat.ofDigitChars 10 digits n := by
  induction digits generalizing n with
  | nil => exact Nat.le_refl n
  | cons d rest ih =>
    rw [Nat.ofDigitChars_cons]
    exact Nat.le_trans (by omega) (ih _)

/-- No digit is left over as long as the whole number fits. -/
theorem absorb_eq {digits : Text} {n : Nat}
    (fits : Nat.ofDigitChars 10 digits n ≤ 0xFFFFFFFFFFFFFFFF) :
    absorb n digits = (Nat.ofDigitChars 10 digits n, digits.length) := by
  induction digits generalizing n with
  | nil => rfl
  | cons d rest ih =>
    have next : n * 10 + (d.toNat - 0x30) = 10 * n + (d.toNat - '0'.toNat) := by
      rw [Nat.mul_comm]
      rfl
    rw [Nat.ofDigitChars_cons] at fits ⊢
    have nextFits := Nat.le_trans (le_ofDigitChars rest _) fits
    simp only [absorb, next, nextFits, if_true, ih fits, List.length_cons]

theorem toDigits_head {n : Nat} (positive : 0 < n) : (Nat.toDigits 10 n).head? ≠ some '0' := by
  induction n using Nat.strongRecOn with
  | ind n ih =>
    rw [Nat.toDigits_eq_if (by decide)]
    split
    next small =>
      have single : ∀ digit < 10, 0 < digit → [Nat.digitChar digit].head? ≠ some '0' := by decide
      exact single n small positive
    next large =>
      have front := ih (n / 10) (by omega) (by omega)
      obtain ⟨first, others, digits⟩ := List.exists_cons_of_ne_nil (l := Nat.toDigits 10 (n / 10))
        Nat.toDigits_ne_nil
      rw [digits] at front ⊢
      exact front

theorem isWhole_ofNat (n : Nat) : IsWhole (Text.ofNat n) where
  notNil := Nat.toDigits_ne_nil
  areDigits _ member := Nat.isDigit_of_mem_toDigits (by decide) (by decide) member
  zero := by
    intro front
    rcases Nat.eq_zero_or_pos n with rfl | positive
    · exact Nat.toDigits_zero 10
    · exact absurd front (toDigits_head positive)

theorem Stops.not_number {rest : Text} (stops : Stops rest) {c : Char} (first : c ∈ rest.head?) :
    c.isDigit = false ∧ c ≠ '.' ∧ isExponentMark (some c) = false := by
  have kinds := stops c first
  simp only [Cursor.isSpace, Bool.or_eq_true, beq_iff_eq] at kinds
  rcases kinds with (((rfl | rfl) | rfl) | rfl) | rfl | rfl | rfl <;> decide

/-- Digits are taken up to the first character that is none. -/
theorem IsDigits.taken {c : Cursor} {digits rest : Text} (isDigits : IsDigits digits)
    (noDigit : ∀ d ∈ rest.head?, d.isDigit = false) (here : c.rest = digits ++ rest) :
    ∃ after, c.takeDigits = (digits, after) ∧ after.rest = rest := by
  have none : rest.takeWhile Char.isDigit = [] := by
    cases rest with
    | nil => rfl
    | cons first others => simp [noDigit first rfl]
  have taken : c.rest.takeWhile Char.isDigit = digits := by
    rw [here, List.takeWhile_append_of_pos isDigits.areDigits, none, List.append_nil]
  refine ⟨c.advance digits.length, by simp only [Cursor.takeDigits, taken], ?_⟩
  rw [Cursor.rest_advance, here, List.drop_left]

/-- The first digit is no zero that another digit follows. -/
theorem IsWhole.front {whole rest : Text} (isWhole : IsWhole whole)
    (noDigit : ∀ d ∈ rest.head?, d.isDigit = false) :
    ∃ first others, whole = first :: others ∧ first.isDigit = true ∧
      (first = '0' && ((others ++ rest).head?.map Char.isDigit).getD false) = false := by
  obtain ⟨first, others, rfl⟩ := List.exists_cons_of_ne_nil isWhole.notNil
  refine ⟨first, others, rfl, isWhole.areDigits first List.mem_cons_self, ?_⟩
  by_cases zero : first = '0'
  · subst zero
    obtain rfl : others = [] := (List.cons.inj (isWhole.zero rfl)).2
    cases next : rest.head? with
    | none => simp [next]
    | some d => simp [next, noDigit d next]
  · simp [zero]

/-- A number is read as itself if it fits in 64 bits. -/
theorem number_ofNat {c : Cursor} {n : Nat} {rest : Text} (fits : n ≤ 0xFFFFFFFFFFFFFFFF)
    (stops : Stops rest) (here : c.rest = Text.ofNat n ++ rest) :
    Yields (number c true) (.natural n) rest := by
  have value : Nat.ofDigitChars 10 (Text.ofNat n) 0 = n :=
    Nat.ofDigitChars_toDigits (by decide) (by decide)
  have absorbed : absorb 0 (Text.ofNat n) = (n, (Text.ofNat n).length) := by
    rw [absorb_eq (by rw [value]; exact fits), value]
  have noDigit : ∀ d ∈ rest.head?, d.isDigit = false := fun _ next => (stops.not_number next).1
  obtain ⟨after, taken, left⟩ := (isWhole_ofNat n).toIsDigits.taken noDigit here
  obtain ⟨first, others, digits, isDigit, single⟩ := (isWhole_ofNat n).front noDigit
  refine ⟨after, ?_, left⟩
  rw [digits, List.cons_append] at here
  simp only [number, here, isDigit, Bool.not_true, Bool.false_eq_true, if_false, single, taken,
    absorbed, left]
  split
  next point => exact absurd rfl (stops.not_number point).2.1
  next =>
    have noExponent : isExponentMark rest.head? = false := by
      cases ends : rest.head? with
      | none => rfl
      | some d => exact (stops.not_number ends).2.2
    simp only [noExponent, Bool.false_eq_true, if_false, Nat.lt_irrefl, if_true]

theorem ne_of_isDigit {d mark : Char} (isDigit : d.isDigit = true)
    (noDigit : mark.isDigit = false) : d ≠ mark := by
  rintro rfl
  exact absurd isDigit (by simp [noDigit])

theorem not_isSpace_of_isDigit {c : Char} (isDigit : c.isDigit = true) :
    Cursor.isSpace c = false := by
  apply Bool.eq_false_iff.mpr
  intro space
  simp only [Cursor.isSpace, Bool.or_eq_true, beq_iff_eq] at space
  rcases space with ((rfl | rfl) | rfl) | rfl <;> cases isDigit

theorem reads_uint64 {n : UInt64} {written : Text} (writes : Writes (.number n.toNat) written) :
    Reads readUInt64 n written := by
  cases writes
  intro c gap rest isGap stops here
  have noDigit : ∀ d ∈ rest.head?, d.isDigit = false := fun _ next => (stops.not_number next).1
  obtain ⟨first, others, digits, isDigit, -⟩ := (isWhole_ofNat n.toNat).front noDigit
  have unsigned : first ≠ '-' := ne_of_isDigit isDigit rfl
  rw [digits, List.cons_append] at here
  obtain ⟨start, skipped⟩ := valueStart_eq isGap (not_isSpace_of_isDigit isDigit) here
  rw [← List.cons_append, ← digits] at skipped
  have fits : n.toNat ≤ 0xFFFFFFFFFFFFFFFF := Nat.le_of_lt_succ n.toNat_lt
  obtain ⟨after, read, left⟩ := number_ofNat fits stops skipped
  refine ⟨after, ?_, left⟩
  simp only [readUInt64, start, isDigit, Bool.or_true, if_true, unsigned, if_false, read]
  rw [Nat.toUInt64, UInt64.ofNat_toNat]

end HttpCascade.Json

import HttpCascade.Proofs.Json.Objects

/-!
# Passing over values

A value that nobody asked for is passed over, whatever value it is: `IsValue` holds of every
well-formed text, with lists and objects of any depth, any numbers, and strings whose numbers need
not make characters.

## Main result

`IsValue.passes`: every well-formed value is passed over up to its end. The steps that this takes are
bounded by the length of its text, since every step inwards or onwards reads a character.
-/

namespace HttpCascade.Json

/-! ### Well-formed texts -/

/-- A part of a string: a character, or a letter or a number after a backslash. -/
inductive IsPart : Text → Prop
  | plain {c : Char} (isPlain : IsPlain c) : IsPart [c]
  | letter {letter c : Char} (isLetter : (letter, c) ∈ escapeLetters) : IsPart ['\\', letter]
  | number {n : Nat} {digits : Text} (isNumber : IsHexadecimal n digits) :
      IsPart ('\\' :: 'u' :: digits)

/-- What may stand between the quotes of a string. -/
inductive IsInside : Text → Prop
  | nil : IsInside []
  | cons {part inside : Text} (isPart : IsPart part) (isInside : IsInside inside) :
      IsInside (part ++ inside)

/-- What may follow a whole number: a point and digits. -/
inductive IsFraction : Text → Prop
  | none : IsFraction []
  | some {digits : Text} (isDigits : IsDigits digits) : IsFraction ('.' :: digits)

/-- What may follow the digits of a number: an `e`, perhaps a sign, and digits. -/
inductive IsExponent : Text → Prop
  | none : IsExponent []
  | some {mark : Char} {sign digits : Text} (isMark : mark = 'e' ∨ mark = 'E')
      (isSign : sign ∈ [[], ['+'], ['-']]) (isDigits : IsDigits digits) :
      IsExponent (mark :: (sign ++ digits))

mutual

/-- The well-formed texts of values, from the first character to the last. -/
inductive IsValue : Text → Prop
  | null : IsValue "null"
  | yes : IsValue "true"
  | no : IsValue "false"
  | number {whole fraction exponent : Text} (isWhole : IsWhole whole)
      (isFraction : IsFraction fraction) (isExponent : IsExponent exponent) :
      IsValue (whole ++ (fraction ++ exponent))
  | minus {whole fraction exponent : Text} (isWhole : IsWhole whole)
      (isFraction : IsFraction fraction) (isExponent : IsExponent exponent) :
      IsValue ('-' :: (whole ++ (fraction ++ exponent)))
  | text {inside : Text} (isInside : IsInside inside) : IsValue ('"' :: (inside ++ ['"']))
  | emptyList {gap : Text} (isGap : IsGap gap) : IsValue ('[' :: (gap ++ [']']))
  | list {gap elements : Text} (isGap : IsGap gap) (areElements : IsElements elements) :
      IsValue ('[' :: (gap ++ elements))
  | emptyObject {gap : Text} (isGap : IsGap gap) : IsValue ('{' :: (gap ++ ['}']))
  | object {gap members : Text} (isGap : IsGap gap) (areMembers : IsMembers members) :
      IsValue ('{' :: (gap ++ members))

/-- The elements of a list, of which there is at least one, up to the end of the list. -/
inductive IsElements : Text → Prop
  | last {value gap : Text} (isValue : IsValue value) (isGap : IsGap gap) :
      IsElements (value ++ (gap ++ [']']))
  | more {value before after elements : Text} (isValue : IsValue value) (isBefore : IsGap before)
      (isAfter : IsGap after) (areElements : IsElements elements) :
      IsElements (value ++ (before ++ ',' :: (after ++ elements)))

/-- The members of an object, of which there is at least one, up to the end of the object. -/
inductive IsMembers : Text → Prop
  | last {key before after value gap : Text} (isKey : IsInside key) (isBefore : IsGap before)
      (isAfter : IsGap after) (isValue : IsValue value) (isGap : IsGap gap) :
      IsMembers ('"' :: (key ++ '"' :: (before ++ ':' :: (after ++ (value ++ (gap ++ ['}']))))))
  | more {key before after value front back members : Text} (isKey : IsInside key)
      (isBefore : IsGap before) (isAfter : IsGap after) (isValue : IsValue value)
      (isFront : IsGap front) (isBack : IsGap back) (areMembers : IsMembers members) :
      IsMembers ('"' :: (key ++ '"' :: (before ++ ':' :: (after ++ (value ++
        (front ++ ',' :: (back ++ members)))))))

end

/-! ### Strings -/

theorem skipStringRest_passed (passed rest : Text) (p : Position) :
    skipStringRest passed.length p (passed ++ rest) =
      skipStringRest 0 (passed.foldl Position.after p) rest := by
  induction passed generalizing p with
  | nil => rfl
  | cons c passed ih => exact ih (p.after c)

theorem skipStringRest_part {part : Text} (isPart : IsPart part) (p : Position) (rest : Text) :
    skipStringRest 0 p (part ++ rest) =
      skipStringRest 0 (part.foldl Position.after p) rest := by
  cases isPart with
  | plain isPlain =>
    obtain ⟨notQuote, notBackslash, notControl⟩ := isPlain
    rw [List.singleton_append, skipStringRest.eq_def]
    simp only [notQuote, notBackslash, notControl, if_false, List.foldl_cons, List.foldl_nil]
  | @letter letter _ isLetter =>
    have passed := skipStringRest_passed [letter] rest (p.after '\\')
    rw [List.cons_append, skipStringRest.eq_def]
    simp only [Char.reduceEq, if_false, if_true, List.singleton_append,
      simpleEscape?_of_mem isLetter, Option.isSome_some]
    exact passed
  | @number _ digits isNumber =>
    have unknown : simpleEscape? 'u' = none := by decide
    have passed := skipStringRest_passed ('u' :: digits) rest (p.after '\\')
    rw [List.length_cons, isNumber.four] at passed
    rw [List.cons_append, skipStringRest.eq_def]
    simp only [Char.reduceEq, if_false, if_true, List.cons_append, unknown, Option.isSome_none,
      Bool.false_eq_true, ne_eq, not_true_eq_false, hexEscape_append isNumber]
    exact passed

/-- A string is passed over up to its closing quote. -/
theorem skipString_comesTo {c : Cursor} {inside rest : Text} (isInside : IsInside inside)
    (here : c.rest = inside ++ '"' :: rest) : ComesTo (skipString c) rest := by
  rw [skipString, here]
  generalize c.position = p
  clear here
  induction isInside generalizing p with
  | nil => exact ⟨_, by rw [List.nil_append, skipStringRest.eq_def]; rfl, rfl⟩
  | cons isPart _ ih =>
    rw [List.append_assoc, skipStringRest_part isPart]
    exact ih _

/-! ### Numbers -/

theorem skipExponent_comesTo {c : Cursor} {sign digits rest : Text}
    (isSign : sign ∈ [[], ['+'], ['-']]) (isDigits : IsDigits digits) (stops : Stops rest)
    (here : c.rest = sign ++ (digits ++ rest)) : ComesTo (skipNumber.skipExponent c) rest := by
  have noDigit : ∀ d ∈ rest.head?, d.isDigit = false := fun _ next => (stops.not_number next).1
  simp only [List.mem_cons, List.not_mem_nil, or_false] at isSign
  rcases isSign with rfl | rfl | rfl
  · obtain ⟨after, taken, left⟩ := isDigits.taken noDigit here
    obtain ⟨d, others, rfl⟩ := List.exists_cons_of_ne_nil isDigits.notNil
    have isDigit : d.isDigit = true := isDigits.areDigits d List.mem_cons_self
    have plus : d ≠ '+' := ne_of_isDigit isDigit rfl
    have minus : d ≠ '-' := ne_of_isDigit isDigit rfl
    have first : c.rest = d :: (others ++ rest) := by simpa using here
    refine ⟨after, ?_, left⟩
    simp [skipNumber.skipExponent, first, plus, minus, taken]
  all_goals
    rw [List.singleton_append] at here
    obtain ⟨after, taken, left⟩ := isDigits.taken noDigit (Cursor.rest_advance_one here)
    simp only [skipNumber.skipExponent, here, taken, isDigits.notNil, if_false]
    exact ⟨after, rfl, left⟩

/-- Before an exponent, or where there is none, a whole number or a fraction has come to its end. -/
theorem IsExponent.stops {exponent rest : Text} (isExponent : IsExponent exponent)
    (stops : Stops rest) : ∀ d ∈ (exponent ++ rest).head?, d.isDigit = false ∧ d ≠ '.' := by
  intro d next
  cases isExponent with
  | none => exact ⟨(stops.not_number next).1, (stops.not_number next).2.1⟩
  | some isMark =>
    cases next
    rcases isMark with rfl | rfl <;> decide

/-- After the digits of a number its exponent is passed over, if it has one. -/
theorem exponent_comesTo {c : Cursor} {exponent rest : Text} (isExponent : IsExponent exponent)
    (stops : Stops rest) (here : c.rest = exponent ++ rest) :
    ComesTo (if isExponentMark c.rest.head? then skipNumber.skipExponent (c.advance 1) else .ok c)
      rest := by
  cases isExponent with
  | none =>
    have noMark : isExponentMark c.rest.head? = false := by
      rw [here]
      cases ends : rest.head? with
      | none => simp [ends]; rfl
      | some d => simp [ends, (stops.not_number ends).2.2]
    rw [noMark]
    exact ⟨c, rfl, here⟩
  | @some mark sign digits isMark isSign isDigits =>
    have first : c.rest = mark :: (sign ++ (digits ++ rest)) := by simpa using here
    have isExponent : isExponentMark c.rest.head? = true := by
      rw [first]
      rcases isMark with rfl | rfl <;> rfl
    rw [isExponent, if_pos rfl]
    exact skipExponent_comesTo isSign isDigits stops (Cursor.rest_advance_one first)

theorem skipNumber_comesTo {c : Cursor} {whole fraction exponent rest : Text}
    (isWhole : IsWhole whole) (isFraction : IsFraction fraction) (isExponent : IsExponent exponent)
    (stops : Stops rest) (here : c.rest = whole ++ (fraction ++ (exponent ++ rest))) :
    ComesTo (skipNumber c) rest := by
  have noDigit : ∀ d ∈ (fraction ++ (exponent ++ rest)).head?, d.isDigit = false := by
    intro d next
    cases isFraction with
    | none => exact (isExponent.stops stops d next).1
    | some _ => cases next; rfl
  obtain ⟨after, taken, left⟩ := isWhole.toIsDigits.taken noDigit here
  obtain ⟨first, others, rfl, isDigit, single⟩ := isWhole.front noDigit
  rw [List.cons_append] at here
  simp only [skipNumber, here, isDigit, Bool.not_true, Bool.false_eq_true, if_false, single, taken]
  cases isFraction with
  | none =>
    -- No point follows the digits, for which the number would go on.
    split
    next point =>
      rw [left] at point
      exact absurd rfl (isExponent.stops stops '.' point).2
    next => exact exponent_comesTo isExponent stops left
  | some isDigits =>
    obtain ⟨last, taken, atExponent⟩ := isDigits.taken
      (fun d next => (isExponent.stops stops d next).1) (Cursor.rest_advance_one left)
    simp only [left, List.cons_append, List.head?_cons, taken, isDigits.notNil, if_false]
    exact exponent_comesTo isExponent stops atExponent

/-! ### Values -/

/-- A value begins with a character that is no space and ends no list. -/
theorem IsValue.head {t : Text} (isValue : IsValue t) :
    ∃ first others, t = first :: others ∧ Cursor.isSpace first = false ∧ first ≠ ']' := by
  cases isValue with
  | number isWhole _ _ =>
    obtain ⟨first, others, rfl⟩ := List.exists_cons_of_ne_nil isWhole.notNil
    have isDigit : first.isDigit = true := isWhole.areDigits first List.mem_cons_self
    exact ⟨first, _, rfl, not_isSpace_of_isDigit isDigit, ne_of_isDigit isDigit rfl⟩
  | _ => exact ⟨_, _, rfl, rfl, by decide⟩

theorem IsElements.head {t : Text} (areElements : IsElements t) :
    ∃ first others, t = first :: others ∧ Cursor.isSpace first = false ∧ first ≠ ']' := by
  cases areElements with
  | last isValue _ | more isValue _ _ _ =>
    obtain ⟨first, others, rfl, solid, noEnd⟩ := isValue.head
    exact ⟨first, _, rfl, solid, noEnd⟩

/-- The key of a member that nobody asked for is passed over up to the colon after it. -/
theorem skipKey_comesTo {c : Cursor} {key before rest : Text} (isKey : IsInside key)
    (isBefore : IsGap before)
    (here : c.rest = '"' :: (key ++ '"' :: (before ++ ':' :: rest))) :
    ∃ after colon, skipString (c.advance 1) = .ok after ∧ readColon after = .ok colon ∧
      colon.rest = rest := by
  obtain ⟨after, passesKey, afterKey⟩ := skipString_comesTo isKey (Cursor.rest_advance_one here)
  obtain ⟨colon, readsColon, left⟩ := readColon_eq isBefore afterKey
  exact ⟨after, colon, passesKey, readsColon, left⟩

/-- What stands in a list or an object is found after the bracket that opens it. -/
theorem bracket_start {c : Cursor} {lead gap others : Text} {bracket first : Char}
    (isLead : IsGap lead) (isBracket : Cursor.isSpace bracket = false) (isGap : IsGap gap)
    (solid : Cursor.isSpace first = false)
    (here : c.rest = lead ++ bracket :: (gap ++ first :: others)) :
    valueStart c = .ok (bracket, c.skipSpace) ∧
      (c.skipSpace.advance 1).skipSpace.rest = first :: others := by
  obtain ⟨start, skipped⟩ := valueStart_eq isLead isBracket here
  exact ⟨start, skipSpace_gap isGap solid (Cursor.rest_advance_one skipped)⟩

section Steps

variable {steps : Nat} {gap before after key value elements members : Text}

theorem passes_literal {word : Text}
    (isLiteral : word ∈ (["null", "true", "false"] : List Text)) :
    Passes (skipValue (steps + 1)) word := by
  intro c lead rest isLead stops here
  simp only [List.mem_cons, List.not_mem_nil, or_false] at isLiteral
  rcases isLiteral with rfl | rfl | rfl <;>
    obtain ⟨start, skipped⟩ := valueStart_eq isLead rfl here <;>
    simp only [skipValue, start] <;> exact literal_comesTo skipped

theorem passes_number {whole fraction exponent : Text} (isWhole : IsWhole whole)
    (isFraction : IsFraction fraction) (isExponent : IsExponent exponent) :
    Passes (skipValue (steps + 1)) (whole ++ (fraction ++ exponent)) := by
  intro c lead rest isLead stops here
  obtain ⟨first, others, rfl⟩ := List.exists_cons_of_ne_nil isWhole.notNil
  have isDigit : first.isDigit = true := isWhole.areDigits first List.mem_cons_self
  have noMark : ∀ mark : Char, mark.isDigit = false → first ≠ mark :=
    fun _ => ne_of_isDigit isDigit
  obtain ⟨start, skipped⟩ := valueStart_eq isLead (not_isSpace_of_isDigit isDigit) here
  simp only [skipValue, start, noMark 'n' rfl, noMark 't' rfl, noMark 'f' rfl, noMark '-' rfl,
    isDigit, if_false, if_true]
  exact skipNumber_comesTo isWhole isFraction isExponent stops (by simpa using skipped)

theorem passes_minus {whole fraction exponent : Text} (isWhole : IsWhole whole)
    (isFraction : IsFraction fraction) (isExponent : IsExponent exponent) :
    Passes (skipValue (steps + 1)) ('-' :: (whole ++ (fraction ++ exponent))) := by
  intro c lead rest isLead stops here
  obtain ⟨start, skipped⟩ := valueStart_eq isLead (rfl : Cursor.isSpace '-' = false) here
  simp only [skipValue, start, Char.reduceEq, if_false, if_true]
  exact skipNumber_comesTo isWhole isFraction isExponent stops
    (by simpa using Cursor.rest_advance_one skipped)

theorem passes_text {inside : Text} (isInside : IsInside inside) :
    Passes (skipValue (steps + 1)) ('"' :: (inside ++ ['"'])) := by
  intro c lead rest isLead stops here
  obtain ⟨start, skipped⟩ := valueStart_eq isLead (rfl : Cursor.isSpace '"' = false) here
  simp only [skipValue, start, Char.reduceEq, Char.reduceIsDigit, Bool.false_eq_true, if_false,
    if_true]
  exact skipString_comesTo isInside (by simpa using Cursor.rest_advance_one skipped)

theorem passes_emptyList (isGap : IsGap gap) :
    Passes (skipValue (steps + 1)) ('[' :: (gap ++ [']'])) := by
  intro c lead rest isLead stops here
  have opened : c.rest = lead ++ '[' :: (gap ++ ']' :: rest) := by simpa using here
  obtain ⟨start, ends⟩ := bracket_start isLead rfl isGap rfl opened
  simp only [skipValue, start, Char.reduceEq, Char.reduceIsDigit, Bool.false_eq_true, if_false,
    if_true, ends]
  exact ⟨_, rfl, Cursor.rest_advance_one ends⟩

theorem passes_list (isGap : IsGap gap) (areElements : IsElements elements)
    (passes : Passes (skipElements steps) elements) :
    Passes (skipValue (steps + 1)) ('[' :: (gap ++ elements)) := by
  intro c lead rest isLead stops here
  obtain ⟨first, others, rfl, solid, noEnd⟩ := areElements.head
  have opened : c.rest = lead ++ '[' :: (gap ++ first :: (others ++ rest)) := by simpa using here
  obtain ⟨start, inside⟩ := bracket_start isLead rfl isGap solid opened
  simp only [skipValue, start, Char.reduceEq, Char.reduceIsDigit, Bool.false_eq_true, if_false,
    if_true, inside]
  split
  next ends => cases ends
  next ends => cases ends; exact absurd rfl noEnd
  next => exact passes (c.skipSpace.advance 1).skipSpace [] rest isGap_nil stops inside

theorem passes_lastElement (passes : Passes (skipValue steps) value) (isGap : IsGap gap) :
    Passes (skipElements (steps + 1)) (value ++ (gap ++ [']'])) := by
  intro c lead rest isLead stops here
  obtain ⟨last, passesValue, left⟩ := passes c lead (gap ++ ']' :: rest) isLead
    (stops_gap isGap (.inr (.inr rfl)) rest) (by simpa using here)
  have ends := skipSpace_gap isGap rfl left
  simp only [skipElements, passesValue, ends]
  exact ⟨_, rfl, Cursor.rest_advance_one ends⟩

theorem passes_nextElement (passes : Passes (skipValue steps) value) (isBefore : IsGap before)
    (isAfter : IsGap after) (others : Passes (skipElements steps) elements) :
    Passes (skipElements (steps + 1)) (value ++ (before ++ ',' :: (after ++ elements))) := by
  intro c lead rest isLead stops here
  obtain ⟨last, passesValue, left⟩ := passes c lead (before ++ ',' :: (after ++ elements ++ rest))
    isLead (stops_gap isBefore (.inl rfl) _) (by simpa using here)
  have comma := skipSpace_gap isBefore rfl left
  simp only [skipElements, passesValue, comma]
  exact others _ after rest isAfter stops (by simpa using Cursor.rest_advance_one comma)

theorem passes_emptyObject (isGap : IsGap gap) :
    Passes (skipValue (steps + 1)) ('{' :: (gap ++ ['}'])) := by
  intro c lead rest isLead stops here
  have opened : c.rest = lead ++ '{' :: (gap ++ '}' :: rest) := by simpa using here
  obtain ⟨start, ends⟩ := bracket_start isLead rfl isGap rfl opened
  simp only [skipValue, start, Char.reduceEq, Char.reduceIsDigit, Bool.false_eq_true, if_false,
    if_true, ends]
  exact ⟨_, rfl, Cursor.rest_advance_one ends⟩

theorem passes_object (isGap : IsGap gap) (areMembers : IsMembers members)
    (passes : Passes (skipMembers steps) members) :
    Passes (skipValue (steps + 1)) ('{' :: (gap ++ members)) := by
  intro c lead rest isLead stops here
  obtain ⟨others, rfl⟩ : ∃ others, members = '"' :: others := by
    cases areMembers <;> exact ⟨_, rfl⟩
  have opened : c.rest = lead ++ '{' :: (gap ++ '"' :: (others ++ rest)) := by simpa using here
  obtain ⟨start, inside⟩ := bracket_start isLead rfl isGap rfl opened
  simp only [skipValue, start, Char.reduceEq, Char.reduceIsDigit, Bool.false_eq_true, if_false,
    if_true, inside]
  exact passes (c.skipSpace.advance 1).skipSpace [] rest isGap_nil stops inside

theorem passes_lastMember (isKey : IsInside key) (isBefore : IsGap before) (isAfter : IsGap after)
    (passes : Passes (skipValue steps) value) (isGap : IsGap gap) :
    Passes (skipMembers (steps + 1))
      ('"' :: (key ++ '"' :: (before ++ ':' :: (after ++ (value ++ (gap ++ ['}'])))))) := by
  intro c lead rest isLead stops here
  have quote := skipSpace_gap isLead (rfl : Cursor.isSpace '"' = false) here
  have atKey : c.skipSpace.rest =
      '"' :: (key ++ '"' :: (before ++ ':' :: (after ++ (value ++ (gap ++ '}' :: rest))))) := by
    simpa using quote
  obtain ⟨name, colon, passesKey, readsColon, atValue⟩ := skipKey_comesTo isKey isBefore atKey
  obtain ⟨last, passesValue, left⟩ := passes colon after (gap ++ '}' :: rest) isAfter
    (stops_gap isGap (.inr (.inl rfl)) rest) atValue
  have ends := skipSpace_gap isGap rfl left
  simp only [skipMembers, quote, passesKey, readsColon, passesValue, ends]
  exact ⟨_, rfl, Cursor.rest_advance_one ends⟩

theorem passes_nextMember {front back : Text} (isKey : IsInside key) (isBefore : IsGap before)
    (isAfter : IsGap after) (passes : Passes (skipValue steps) value) (isFront : IsGap front)
    (isBack : IsGap back) (others : Passes (skipMembers steps) members) :
    Passes (skipMembers (steps + 1))
      ('"' :: (key ++ '"' :: (before ++ ':' :: (after ++ (value ++
        (front ++ ',' :: (back ++ members))))))) := by
  intro c lead rest isLead stops here
  have quote := skipSpace_gap isLead (rfl : Cursor.isSpace '"' = false) here
  have atKey : c.skipSpace.rest = '"' :: (key ++ '"' :: (before ++ ':' :: (after ++ (value ++
      (front ++ ',' :: (back ++ members ++ rest)))))) := by
    simpa using quote
  obtain ⟨name, colon, passesKey, readsColon, atValue⟩ := skipKey_comesTo isKey isBefore atKey
  obtain ⟨last, passesValue, left⟩ := passes colon after _ isAfter
    (stops_gap isFront (.inl rfl) _) atValue
  have comma := skipSpace_gap isFront rfl left
  simp only [skipMembers, quote, passesKey, readsColon, passesValue, comma]
  exact others _ back rest isBack stops (by simpa using Cursor.rest_advance_one comma)

end Steps

-- Along the grammar: what is inside a list or an object is shorter than it by its bracket, and what
-- comes after an element or a member is shorter by the comma, so one step fewer is enough for it.
mutual

theorem IsValue.passes_steps {t : Text} : IsValue t → ∀ {steps : Nat}, t.length < steps →
    Passes (skipValue steps) t
  | .null, _ + 1, _ => passes_literal (by simp)
  | .yes, _ + 1, _ => passes_literal (by simp)
  | .no, _ + 1, _ => passes_literal (by simp)
  | .number isWhole isFraction isExponent, _ + 1, _ => passes_number isWhole isFraction isExponent
  | .minus isWhole isFraction isExponent, _ + 1, _ => passes_minus isWhole isFraction isExponent
  | .text isInside, _ + 1, _ => passes_text isInside
  | .emptyList isGap, _ + 1, _ => passes_emptyList isGap
  | @IsValue.list _ elements isGap areElements, steps + 1, enough => by
    have fewer : elements.length < steps := by
      simp only [List.length_cons, List.length_append] at enough
      omega
    exact passes_list isGap areElements (areElements.passes_steps fewer)
  | .emptyObject isGap, _ + 1, _ => passes_emptyObject isGap
  | @IsValue.object _ members isGap areMembers, steps + 1, enough => by
    have fewer : members.length < steps := by
      simp only [List.length_cons, List.length_append] at enough
      omega
    exact passes_object isGap areMembers (areMembers.passes_steps fewer)
  | _, 0, enough => absurd enough (Nat.not_lt_zero _)

theorem IsElements.passes_steps {t : Text} : IsElements t → ∀ {steps : Nat}, t.length < steps →
    Passes (skipElements steps) t
  | @IsElements.last value _ isValue isGap, steps + 1, enough => by
    have fewer : value.length < steps := by
      simp only [List.length_cons, List.length_append] at enough
      omega
    exact passes_lastElement (isValue.passes_steps fewer) isGap
  | @IsElements.more value _ _ elements isValue isBefore isAfter areElements, steps + 1,
      enough => by
    have fewer : value.length < steps ∧ elements.length < steps := by
      simp only [List.length_cons, List.length_append] at enough
      omega
    exact passes_nextElement (isValue.passes_steps fewer.1) isBefore isAfter
      (areElements.passes_steps fewer.2)
  | _, 0, enough => absurd enough (Nat.not_lt_zero _)

theorem IsMembers.passes_steps {t : Text} : IsMembers t → ∀ {steps : Nat}, t.length < steps →
    Passes (skipMembers steps) t
  | @IsMembers.last _ _ _ value _ isKey isBefore isAfter isValue isGap, steps + 1, enough => by
    have fewer : value.length < steps := by
      simp only [List.length_cons, List.length_append] at enough
      omega
    exact passes_lastMember isKey isBefore isAfter (isValue.passes_steps fewer) isGap
  | @IsMembers.more _ _ _ value _ _ members isKey isBefore isAfter isValue isFront isBack
      areMembers, steps + 1, enough => by
    have fewer : value.length < steps ∧ members.length < steps := by
      simp only [List.length_cons, List.length_append] at enough
      omega
    exact passes_nextMember isKey isBefore isAfter (isValue.passes_steps fewer.1) isFront isBack
      (areMembers.passes_steps fewer.2)
  | _, 0, enough => absurd enough (Nat.not_lt_zero _)

end

/-- Every well-formed value is passed over, however deep it is. -/
theorem IsValue.passes {t : Text} (isValue : IsValue t) : Passes skip t := by
  intro c gap rest isGap stops here
  have enough : t.length < 2 * c.rest.length + 2 := by
    rw [here, List.length_append, List.length_append]
    omega
  exact isValue.passes_steps enough c gap rest isGap stops here

end HttpCascade.Json

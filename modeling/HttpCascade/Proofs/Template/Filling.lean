import HttpCascade.Proofs.Template.Occurrences

/-!
# What filling replaces

What filling makes of a character is told by the placeholders around its own place (`Becomes`), and
the filled text is that of all characters, one after another (`IsFilling`). There is one such text
for every text, and it is the one that the pieces are filled to (`isFilling_iff`).

## Main result

`expand_replaces_occurrences`: filling a text replaces exactly the placeholders that have a value,
wherever they stand, and tells which have none.
-/

namespace HttpCascade.Template

variable {t rest : Text} {values : Variables} {name : Text}

/-! ### Characters and what becomes of them -/

/-- What filling makes of the character at a place: where a placeholder with a value starts, that
value; nothing in the rest of such a placeholder; the character itself anywhere else. -/
inductive Becomes (values : Variables) (t : Text) (place : Nat) (c : Char) : Text → Prop
  | value {name value : Text} (here : OccursAt t place name)
      (found : values.get? name = some value) : Becomes values t place c value
  | covered {start : Nat} {name : Text} (earlier : OccursAt t start name)
      (known : values.contains name = true) (after : start < place)
      (before : place < start + (Piece.written (.hole name)).length) : Becomes values t place c []
  | kept (outside : ∀ start name, OccursAt t start name → values.contains name = true →
      start ≤ place → start + (Piece.written (.hole name)).length ≤ place) :
      Becomes values t place c [c]

/-- The filled text is what becomes of the characters of the text, one after another. -/
def IsFilling (values : Variables) (t filled : Text) : Prop :=
  ∃ parts : List Text, parts.length = t.length ∧ parts.flatten = filled ∧
    ∀ (place : Nat) (c : Char) (part : Text), t[place]? = some c → parts[place]? = some part →
      Becomes values t place c part

theorem Becomes.unique {place : Nat} {c : Char} {part part' : Text}
    (becomes : Becomes values t place c part) (also : Becomes values t place c part') :
    part = part' := by
  cases becomes with
  | value here found =>
    cases also with
    | value here' found' =>
      cases here.unique here'
      exact Option.some.inj (found.symm.trans found')
    | covered earlier _ after before =>
      have ended := earlier.apart here after
      omega
    | kept outside =>
      have ended := outside _ _ here (NameMap.contains_of_get? found) (Nat.le_refl _)
      rw [length_written_hole] at ended
      omega
  | covered earlier has after before =>
    cases also with
    | value here _ =>
      have ended := earlier.apart here after
      omega
    | covered => rfl
    | kept outside =>
      have ended := outside _ _ earlier has (Nat.le_of_lt after)
      omega
  | kept outside =>
    cases also with
    | value here found =>
      have ended := outside _ _ here (NameMap.contains_of_get? found) (Nat.le_refl _)
      rw [length_written_hole] at ended
      omega
    | covered earlier has after before =>
      have ended := outside _ _ earlier has (Nat.le_of_lt after)
      omega
    | kept => rfl

theorem IsFilling.unique {filled filled' : Text} (filling : IsFilling values t filled)
    (also : IsFilling values t filled') : filled = filled' := by
  obtain ⟨parts, length, rfl, each⟩ := filling
  obtain ⟨parts', length', rfl, each'⟩ := also
  have same : parts = parts' := by
    refine List.ext_getElem (length.trans length'.symm) fun place inside inside' => ?_
    have inText : place < t.length := length ▸ inside
    have here := List.getElem?_eq_getElem inText
    exact (each place _ _ here (List.getElem?_eq_getElem inside)).unique
      (each' place _ _ here (List.getElem?_eq_getElem inside'))
  rw [same]

/-- No placeholder starts in the first text and ends in the second. -/
def EndsPiece (front rest : Text) : Prop :=
  ∀ i name, OccursAt (front ++ rest) i name → i < front.length →
    i + (Piece.written (.hole name)).length ≤ front.length

theorem Becomes.after {front part : Text} {place : Nat} {c : Char} (ends : EndsPiece front rest)
    (becomes : Becomes values rest place c part) :
    Becomes values (front ++ rest) (front.length + place) c part := by
  cases becomes with
  | value here found => exact .value (occursAt_append_iff.mpr here) found
  | covered earlier known after before =>
    exact .covered (occursAt_append_iff.mpr earlier) known (by omega) (by omega)
  | kept outside =>
    refine .kept fun start name there known starts => ?_
    by_cases inFront : start < front.length
    · have ended := ends start name there inFront
      omega
    · obtain ⟨k, rfl⟩ := Nat.exists_eq_add_of_le (Nat.le_of_not_lt inFront)
      have ended := outside k name (occursAt_append_iff.mp there) known (by omega)
      omega

theorem IsFilling.after {front filled : Text} {parts : List Text} (ends : EndsPiece front rest)
    (length : parts.length = front.length)
    (each : ∀ (place : Nat) (c : Char) (part : Text), front[place]? = some c →
      parts[place]? = some part → Becomes values (front ++ rest) place c part)
    (filling : IsFilling values rest filled) :
    IsFilling values (front ++ rest) (parts.flatten ++ filled) := by
  obtain ⟨others, lengthRest, rfl, eachRest⟩ := filling
  refine ⟨parts ++ others, by simp [length, lengthRest], by simp, fun place c part here is => ?_⟩
  by_cases inFront : place < front.length
  · rw [List.getElem?_append_left inFront] at here
    rw [List.getElem?_append_left (length ▸ inFront)] at is
    exact each place c part here is
  · obtain ⟨k, rfl⟩ := Nat.exists_eq_add_of_le (Nat.le_of_not_lt inFront)
    rw [List.getElem?_append_right (Nat.le_add_right _ _), Nat.add_sub_cancel_left] at here
    rw [← length, List.getElem?_append_right (Nat.le_add_right _ _), Nat.add_sub_cancel_left] at is
    exact (eachRest k c part here is).after ends

theorem endsPiece_char {c : Char} (none : nameAtStart? (c :: rest) = none) :
    EndsPiece [c] rest := by
  intro i name here inside
  obtain ⟨k, rfl, _⟩ := (occursAt_cons_iff none).mp here
  simp at inside

theorem endsPiece_hole (isName : IsName name) : EndsPiece (Piece.written (.hole name)) rest := by
  intro i other here inside
  rcases (occursAt_written_iff isName).mp here with ⟨rfl, rfl⟩ | ⟨k, rfl, _⟩
  · exact Nat.le_of_eq (Nat.zero_add _)
  · omega

theorem IsFilling.cons_char {c : Char} {filled : Text} (none : nameAtStart? (c :: rest) = none)
    (filling : IsFilling values rest filled) : IsFilling values (c :: rest) (c :: filled) := by
  show IsFilling values ([c] ++ rest) ([[c]].flatten ++ filled)
  refine IsFilling.after (endsPiece_char none) rfl ?_ filling
  rintro place d part here is
  obtain rfl : place = 0 := by
    have inside := (List.getElem?_eq_some_iff.mp here).1
    simpa using inside
  cases here
  cases is
  refine .kept fun start name there _ starts => ?_
  obtain ⟨k, rfl, _⟩ := (occursAt_cons_iff none).mp there
  omega

/-- All of a placeholder's value stands for its first character. -/
theorem IsFilling.append_value {value filled : Text} (isName : IsName name)
    (found : values.get? name = some value) (filling : IsFilling values rest filled) :
    IsFilling values (Piece.written (.hole name) ++ rest) (value ++ filled) := by
  have atStart : OccursAt (Piece.written (.hole name) ++ rest) 0 name := ⟨isName, rest, rfl⟩
  have parts : value ++ filled =
      (value :: List.replicate (name.length + 3) []).flatten ++ filled := by simp
  rw [parts]
  refine IsFilling.after (endsPiece_hole isName) (by simp [Piece.written]) ?_ filling
  rintro (_ | place) c part here is
  · cases is
    exact .value atStart found
  · have inside := (List.getElem?_eq_some_iff.mp here).1
    rw [List.getElem?_cons_succ, List.getElem?_replicate] at is
    split at is
    · cases is
      exact .covered atStart (NameMap.contains_of_get? found) (Nat.succ_pos _)
        (by rwa [Nat.zero_add])
    · cases is

theorem IsFilling.append_missing {filled : Text} (isName : IsName name)
    (lacking : values.get? name = none) (filling : IsFilling values rest filled) :
    IsFilling values (Piece.written (.hole name) ++ rest)
      (Piece.written (.hole name) ++ filled) := by
  have parts : Piece.written (.hole name) ++ filled =
      ((Piece.written (.hole name)).map ([·])).flatten ++ filled := by
    rw [← List.flatMap_def, List.flatMap_singleton']
  rw [parts]
  refine IsFilling.after (endsPiece_hole isName) (by simp) ?_ filling
  rintro place c part here is
  rw [List.getElem?_map, here] at is
  cases is
  have inside := (List.getElem?_eq_some_iff.mp here).1
  -- The only placeholder that starts here has no value.
  refine .kept fun start other there known starts => ?_
  rcases (occursAt_written_iff isName).mp there with ⟨_, rfl⟩ | ⟨k, rfl, _⟩
  · rw [NameMap.contains, lacking] at known
    cases known
  · omega

theorem isFilling_fill (values : Variables) (t : Text) :
    IsFilling values t ((ofText t).fill values) := by
  induction t using cutInduction with
  | empty => exact ⟨[], rfl, rfl, fun _ _ _ here => by simp at here⟩
  | char c rest none ih =>
    rw [ofText_cons_of_none none]
    exact ih.cons_char none
  | hole name rest isName ih =>
    rw [ofText_written_append isName]
    cases found : values.get? name with
    | some value =>
      have filled : fill values (.hole name :: ofText rest) = value ++ (ofText rest).fill values := by
        simp [fill, Piece.fill, found]
      rw [filled]
      exact ih.append_value isName found
    | none =>
      have filled : fill values (.hole name :: ofText rest) =
          Piece.written (.hole name) ++ (ofText rest).fill values := by
        simp [fill, Piece.fill, found]
      rw [filled]
      exact ih.append_missing isName found

theorem isFilling_iff {filled : Text} :
    IsFilling values t filled ↔ (ofText t).fill values = filled := by
  constructor
  · exact (isFilling_fill values t).unique
  · rintro rfl
    exact isFilling_fill values t

/-! ### Results of filling -/

/-- The text that filling comes to, with or without all values. -/
def outputOf : Except ExpansionError Text → Text
  | .ok filled => filled
  | .error e => e.output

theorem outputOf_expand (t : Text) (values : Variables) :
    outputOf (expand t values) = (ofText t).fill values := by
  unfold expand
  cases lacking : (ofText t).missing values <;> simp [lacking, outputOf]

theorem missing_of_expand {e : ExpansionError} (failed : expand t values = .error e) :
    e.missing = (placeholderNames t).filter fun name => !values.contains name := by
  unfold expand at failed
  cases lacking : (ofText t).missing values with
  | nil => simp [lacking] at failed
  | cons name others =>
    simp only [lacking, Except.error.injEq] at failed
    rw [← failed, ← lacking, missing, placeholderNames]

theorem exists_expand_iff :
    (∃ filled, expand t values = .ok filled) ↔
      ∀ name ∈ placeholderNames t, values.contains name = true := by
  simp only [expand_eq_ok_iff, placeholderNames, mem_names_iff, exists_and_left, exists_eq',
    and_true]

theorem fill_of_no_hole {template : Template} (none : template.names = []) :
    template.fill values = template.written := by
  apply List.flatMap_congr
  intro piece member
  cases piece with
  | char c => rfl
  | hole name =>
    have listed := mem_names_iff.mpr member
    rw [none] at listed
    cases listed

/-- A text without placeholders is its own filling. -/
theorem expand_of_no_names (none : placeholderNames t = []) (values : Variables) :
    expand t values = .ok t := by
  refine expand_eq_ok_iff.mpr ⟨fun name member => ?_, ?_⟩
  · have listed := mem_names_iff.mpr member
    rw [← placeholderNames, none] at listed
    cases listed
  · rw [fill_of_no_hole none, written_ofText]

theorem occursIn_iff {part : Text} : Text.occursIn part t = true ↔ part <:+: t := by
  induction t with
  | nil => simp [Text.occursIn]
  | cons c rest ih =>
    rw [Text.occursIn, Bool.or_eq_true, ih, List.isPrefixOf_iff_prefix, List.infix_cons_iff]

theorem names_of_no_braces (none : Text.occursIn ['{', '{'] t = false) :
    placeholderNames t = [] := by
  apply List.eq_nil_iff_forall_not_mem.mpr
  intro name listed
  obtain ⟨i, here⟩ := hole_mem_ofText_iff.mp (mem_names_iff.mp listed)
  obtain ⟨c, after, opens, _⟩ := here.open_braces
  have braces : ['{', '{'] <:+: t :=
    ⟨t.take i, c :: after, by simp [← opens]⟩
  rw [occursIn_iff.mpr braces] at none
  cases none

/-- Filling a text replaces exactly its placeholders. They never overlap; what comes out is the text
with every placeholder that has a value replaced by it and all else kept in place, whether or not
there are others; it succeeds exactly if all names have values, and otherwise it lists those that
have none. Looking for two braces first changes nothing. -/
theorem expand_replaces_occurrences (t : Text) (values : Variables) :
    (∀ i j name other, OccursAt t i name → OccursAt t j other → i < j →
      i + (Piece.written (.hole name)).length ≤ j) ∧
    (∀ filled, outputOf (expand t values) = filled ↔ IsFilling values t filled) ∧
    ListsNames t (fun _ => True) (placeholderNames t) ∧
    ((∃ filled, expand t values = .ok filled) ↔
      ∀ name ∈ placeholderNames t, values.contains name = true) ∧
    (∀ e, expand t values = .error e →
      e.missing = (placeholderNames t).filter (fun name => !values.contains name) ∧
        ListsNames t (fun name => values.get? name = none) e.missing) ∧
    (if Text.occursIn ['{', '{'] t then expand t values else .ok t) = expand t values := by
  refine ⟨fun i j name other here there => here.apart there, fun filled => ?_, ?_,
    exists_expand_iff, fun e failed => ?_, ?_⟩
  · rw [outputOf_expand, isFilling_iff]
  · have all := listsNames_filter t fun _ => true
    rw [List.filter_true] at all
    exact ⟨fun name => by simpa using all.complete name, all.once, all.inOrder⟩
  · have lacking := missing_of_expand failed
    refine ⟨lacking, ?_⟩
    have listed := listsNames_filter t fun name => !values.contains name
    rw [← lacking] at listed
    exact ⟨fun name => by simpa [NameMap.contains] using listed.complete name, listed.once,
      listed.inOrder⟩
  · split
    · rfl
    next noBraces =>
      have none := names_of_no_braces (Bool.eq_false_iff.mpr noBraces)
      exact (expand_of_no_names none values).symm

/-- Of a run of braces those next to a name count. -/
example : expand "{{{a}}} {{{{a}}}} {{b}} {{}}" (.ofList [("a", "1")]) =
    .error ⟨["b".toList], "{1} {{1}} {{b}} {{}}"⟩ := by decide

end HttpCascade.Template

import HttpCascade.Proofs.Template.Filling

/-!
# Placeholders that filling leaves

Values are never read for placeholders again, so a text in which every placeholder was filled may
still hold some. Values without braces cannot bring one along, but braces of the text can close up
around them: `{{{{a}}}}` becomes a placeholder of whatever word stands for `a`.

## Main result

`expand_leaves_none_iff`: if all names have values and these are free of braces, then a placeholder
is left exactly if the braces of the text rebuild one (`Rebuilds`).
-/

namespace HttpCascade.Template

variable {t : Text} {template : Template} {values : Variables}

/-- Two opening and two closing braces, all outside of placeholders, with nothing but empty values
between the two of a pair, and with a name between the pairs once it is filled. -/
def Rebuilds (values : Variables) (template : Template) : Prop :=
  ∃ before opening inner closing after : Template,
    template = before ++ .char '{' :: (opening ++ .char '{' :: (inner ++ .char '}' ::
      (closing ++ .char '}' :: after))) ∧
    opening.fill values = [] ∧ IsName (inner.fill values) ∧ closing.fill values = []

/-- A character that no value brings along comes from the same character of the text. -/
theorem split_fill {c : Char} {front back : Text}
    (outside : ∀ name, .hole name ∈ template → c ∉ Piece.fill values (.hole name))
    (eq : template.fill values = front ++ c :: back) :
    ∃ before after : Template, template = before ++ .char c :: after ∧
      before.fill values = front ∧ after.fill values = back := by
  induction template generalizing front with
  | nil => simp [fill] at eq
  | cons piece rest ih =>
    have outsideRest : ∀ name, .hole name ∈ rest → c ∉ Piece.fill values (.hole name) :=
      fun name member => outside name (List.mem_cons_of_mem _ member)
    have cut : Piece.fill values piece ++ fill values rest = front ++ c :: back := eq
    rcases List.append_eq_append_iff.mp cut with ⟨more, rfl, found⟩ | ⟨more, filled, found⟩
    · -- The character comes after all that the piece is filled to.
      obtain ⟨before, after, rfl, rfl, rfl⟩ := ih outsideRest found
      exact ⟨piece :: before, after, rfl, rfl, rfl⟩
    · cases more with
      | nil =>
        rw [List.append_nil] at filled
        have first : fill values rest = [] ++ c :: back := found.symm
        obtain ⟨before, after, rfl, nothing, rfl⟩ := ih outsideRest first
        refine ⟨piece :: before, after, rfl, ?_, rfl⟩
        show Piece.fill values piece ++ fill values before = front
        rw [nothing, List.append_nil, filled]
      | cons d others =>
        -- The character is part of what the piece is filled to, so the piece is the character.
        obtain ⟨rfl, rfl⟩ := List.cons.inj found
        cases piece with
        | char d =>
          obtain ⟨rfl, single⟩ : front = [] ∧ [d] = c :: others := by
            cases front with
            | nil => exact ⟨rfl, filled⟩
            | cons first front => simp [Piece.fill] at filled
          cases single
          exact ⟨[], rest, rfl, rfl, rfl⟩
        | hole name =>
          have inside : c ∈ Piece.fill values (.hole name) := by simp [filled]
          exact absurd inside (outside name List.mem_cons_self)

theorem placeholderNames_eq_nil_iff :
    placeholderNames t = [] ↔ ∀ i name, ¬ OccursAt t i name := by
  rw [List.eq_nil_iff_forall_not_mem]
  simp only [placeholderNames, mem_names_iff, hole_mem_ofText_iff, not_exists]
  exact ⟨fun none i name => none name i, fun none name i => none i name⟩

theorem occursAt_fill_of_rebuilds (rebuilds : Rebuilds values template) :
    ∃ i name, OccursAt (template.fill values) i name := by
  obtain ⟨before, opening, inner, closing, after, rfl, opens, isName, closes⟩ := rebuilds
  refine ⟨(before.fill values).length, inner.fill values, isName, after.fill values, ?_⟩
  simp [fill_append, fill_cons_char, opens, closes, Piece.written]

theorem rebuilds_of_occursAt_fill {i : Nat} {name : Text}
    (noOpen : ∀ name, .hole name ∈ template → '{' ∉ Piece.fill values (.hole name))
    (noClose : ∀ name, .hole name ∈ template → '}' ∉ Piece.fill values (.hole name))
    (here : OccursAt (template.fill values) i name) : Rebuilds values template := by
  obtain ⟨isName, rest, eq⟩ := here
  have whole : template.fill values =
      (template.fill values).take i ++ '{' :: ([] ++ '{' :: (name ++ '}' :: ([] ++ '}' :: rest))) := by
    refine (List.take_append_drop i _).symm.trans ?_
    simp [← eq, Piece.written]
  -- Each of the four braces is a brace of the text, one after the other.
  obtain ⟨before, afterFirst, rfl, -, first⟩ := split_fill noOpen whole
  have insideFirst {hole : Piece} (member : hole ∈ afterFirst) :
      hole ∈ before ++ .char '{' :: afterFirst := by simp [member]
  obtain ⟨opening, afterSecond, rfl, opens, second⟩ :=
    split_fill (fun name member => noOpen name (insideFirst member)) first
  have insideSecond {hole : Piece} (member : hole ∈ afterSecond) :
      hole ∈ opening ++ .char '{' :: afterSecond := by simp [member]
  obtain ⟨inner, afterThird, rfl, rfl, third⟩ :=
    split_fill (fun name member => noClose name (insideFirst (insideSecond member))) second
  have insideThird {hole : Piece} (member : hole ∈ afterThird) :
      hole ∈ inner ++ .char '}' :: afterThird := by simp [member]
  obtain ⟨closing, after, rfl, closes, -⟩ :=
    split_fill (fun name member => noClose name (insideFirst (insideSecond (insideThird member))))
      third
  exact ⟨before, opening, inner, closing, after, rfl, opens, isName, closes⟩

/-- If all names have values and no value holds a brace, the text is filled, and a placeholder is
left in it exactly if braces of the text rebuild one. Filling once more, with whatever values, then
changes nothing exactly if none is left. -/
theorem expand_leaves_none_iff
    (defined : ∀ name ∈ placeholderNames t, values.contains name = true)
    (plain : ∀ name value, values.get? name = some value → '{' ∉ value ∧ '}' ∉ value) :
    ∃ filled, expand t values = .ok filled ∧
      (placeholderNames filled = [] ↔ ¬ Rebuilds values (ofText t)) ∧
      ((∀ others, expand filled others = .ok filled) ↔ placeholderNames filled = []) := by
  obtain ⟨filled, expands⟩ := exists_expand_iff.mpr defined
  refine ⟨filled, expands, ?_, ?_⟩
  · obtain ⟨known, rfl⟩ := expand_eq_ok_iff.mp expands
    have free : ∀ name, .hole name ∈ ofText t →
        '{' ∉ Piece.fill values (.hole name) ∧ '}' ∉ Piece.fill values (.hole name) := by
      intro name member
      obtain ⟨value, found⟩ := Option.isSome_iff_exists.mp (known name member)
      rw [Piece.fill, found, Option.getD_some]
      exact plain name value found
    rw [placeholderNames_eq_nil_iff]
    constructor
    · intro none rebuilds
      obtain ⟨i, name, here⟩ := occursAt_fill_of_rebuilds rebuilds
      exact none i name here
    · intro none i name here
      exact none (rebuilds_of_occursAt_fill (fun name member => (free name member).1)
        (fun name member => (free name member).2) here)
  · constructor
    · intro unchanged
      -- Without any values only a text without placeholders can be filled.
      have allKnown := exists_expand_iff.mp ⟨_, unchanged ∅⟩
      refine List.eq_nil_iff_forall_not_mem.mpr fun name listed => ?_
      have known := allKnown name listed
      cases known
    · intro none others
      exact expand_of_no_names none others

/-- Braces around a value that is no name, and around an empty one, make no placeholder. -/
theorem expand_leaves_none_two_words :
    let t : Text := "{{{{a}}}} {{{b}}{{b}}}"
    let values : Variables := .ofList [("a", "x y"), ("b", [])]
    (∀ name ∈ placeholderNames t, values.contains name = true) ∧
    (∀ name value, values.get? name = some value → '{' ∉ value ∧ '}' ∉ value) ∧
    ∃ filled, expand t values = .ok filled ∧
      (placeholderNames filled = [] ↔ ¬ Rebuilds values (ofText t)) ∧
      ((∀ others, expand filled others = .ok filled) ↔ placeholderNames filled = []) := by
  intro t values
  have defined : ∀ name ∈ placeholderNames t, values.contains name = true := by decide
  have plain : ∀ name value, values.get? name = some value → '{' ∉ value ∧ '}' ∉ value := by
    intro name value found
    have each : ∀ entry ∈ values.entries, '{' ∉ entry.2 ∧ '}' ∉ entry.2 := by decide
    exact each _ (NameMap.get?_eq_some_iff.mp found)
  exact ⟨defined, plain, expand_leaves_none_iff defined plain⟩

/-- Two pairs of braces around a placeholder make another one of its value. -/
theorem not_every_filled_text_is_free :
    ¬ ∀ (t : Text) (values : Variables),
      (∀ name ∈ placeholderNames t, values.contains name = true) →
      (∀ name value, values.get? name = some value → '{' ∉ value ∧ '}' ∉ value) →
      ∃ filled, expand t values = .ok filled ∧ placeholderNames filled = [] := by
  intro all
  let values : Variables := .ofList [("a", "x")]
  have plain : ∀ name value, values.get? name = some value → '{' ∉ value ∧ '}' ∉ value := by
    intro name value found
    have each : ∀ entry ∈ values.entries, '{' ∉ entry.2 ∧ '}' ∉ entry.2 := by decide
    exact each _ (NameMap.get?_eq_some_iff.mp found)
  obtain ⟨filled, expands, none⟩ := all "{{{{a}}}}" values (by decide) plain
  have fills : expand "{{{{a}}}}" values = .ok "{{x}}" := by decide
  cases expands.symm.trans fills
  revert none
  decide

end HttpCascade.Template

import HttpCascade.Proofs.Template.Layout

/-!
# Filling part by part

No placeholder holds a separator, and looking for placeholders starts anew behind one, whatever
braces stand before it. So a text that is cut at a separator is filled part by part: the filled
parts stand around the separator, and of the names of the second part those count that the first one
does not have.

## Main result

`expand_by_parts`: filling works line by line, and part by part at any other separator.
-/

namespace HttpCascade.Template

variable {values : Variables}

/-! ### Names of two parts -/

theorem distinct_append (names others : List Text) :
    distinct (names ++ others) = distinct names ++ (distinct others).filter (· ∉ names) := by
  induction names with
  | nil => simp [distinct]
  | cons name rest ih =>
    -- The first name is dropped from all that come later, in its own part and in the other.
    have later (other : Text) :
        (decide (other ≠ name) && decide (other ∉ rest)) = decide (other ∉ name :: rest) := by
      simp [not_or]
    rw [List.cons_append, distinct, ih, List.filter_append, List.filter_filter]
    simp only [later, distinct, List.cons_append]

theorem names_append (template others : Template) :
    names (template ++ others) =
      template.names ++ others.names.filter (· ∉ template.names) := by
  simp only [names, List.filterMap_append, distinct_append, mem_distinct]

theorem missing_cons_char (c : Char) (template : Template) :
    missing values (.char c :: template) = template.missing values := rfl

theorem missing_append (template others : Template) :
    missing values (template ++ others) =
      template.missing values ++ (others.missing values).filter (· ∉ template.missing values) := by
  rw [missing, names_append, List.filter_append, missing, missing, List.filter_filter,
    List.filter_filter]
  congr 1
  apply List.filter_congr
  intro name _
  -- A name with a value is not asked for, and one without is missing wherever it stands.
  cases known : values.contains name <;> simp [known]

/-! ### Results of two parts -/

/-- The names that filling found no value for. -/
def missingOf : Except ExpansionError Text → List Text
  | .ok _ => []
  | .error e => e.missing

theorem missingOf_expand (t : Text) (values : Variables) :
    missingOf (expand t values) = (ofText t).missing values := by
  unfold expand
  cases lacking : (ofText t).missing values <;> simp [lacking, missingOf]

/-- Filling works line by line, and part by part at every separator: the output is that of the two
parts around the separator, there is a filled text exactly if there is one of each part, and what is
missing is what the first part misses, followed by what the second one misses besides. The names of
the text are put together in the same way. -/
theorem expand_by_parts (a b : Text) (values : Variables) :
    IsSeparator '\n' ∧ ∀ c, IsSeparator c →
      outputOf (expand (a ++ c :: b) values) =
        outputOf (expand a values) ++ c :: outputOf (expand b values) ∧
      ((∃ filled, expand (a ++ c :: b) values = .ok filled) ↔
        (∃ filled, expand a values = .ok filled) ∧ ∃ filled, expand b values = .ok filled) ∧
      missingOf (expand (a ++ c :: b) values) =
        missingOf (expand a values) ++
          (missingOf (expand b values)).filter (· ∉ missingOf (expand a values)) ∧
      placeholderNames (a ++ c :: b) =
        placeholderNames a ++ (placeholderNames b).filter (· ∉ placeholderNames a) := by
  refine ⟨isSeparator_of_isSpace isSpace_lf, fun c separates => ⟨?_, ?_, ?_, ?_⟩⟩
  · simp only [outputOf_expand]
    exact filled_append_separator separates a b
  · simp only [expand_eq_ok_iff, exists_and_left, exists_eq', and_true,
      hole_mem_append_separator separates, or_imp, forall_and]
  · simp only [missingOf_expand, ofText_append_separator separates, missing_append,
      missing_cons_char]
  · exact (congrArg names (ofText_append_separator separates a b)).trans (names_append _ _)

/-- Braces that would meet across a line feed, and names in both lines. -/
theorem expand_by_parts_open_braces :
    let a : Text := "\x7b{{x}} \x7b\x7by"
    let b : Text := "\x7d\x7d {{z}} {{x}}{{w}}"
    let values : Variables := .ofList [("w", "\x7b\x7b")]
    IsSeparator '\n' ∧
    expand (a ++ '\n' :: b) values =
      .error ⟨["x".toList, "z".toList], "\x7b{{x}} \x7b\x7by\n\x7d\x7d {{z}} {{x}}\x7b\x7b"⟩ ∧
    outputOf (expand (a ++ '\n' :: b) values) =
      outputOf (expand a values) ++ '\n' :: outputOf (expand b values) ∧
    ((∃ filled, expand (a ++ '\n' :: b) values = .ok filled) ↔
      (∃ filled, expand a values = .ok filled) ∧ ∃ filled, expand b values = .ok filled) ∧
    missingOf (expand (a ++ '\n' :: b) values) =
      missingOf (expand a values) ++
        (missingOf (expand b values)).filter (· ∉ missingOf (expand a values)) ∧
    placeholderNames (a ++ '\n' :: b) =
      placeholderNames a ++ (placeholderNames b).filter (· ∉ placeholderNames a) := by
  intro a b values
  obtain ⟨separates, byParts⟩ := expand_by_parts a b values
  exact ⟨separates, by decide +kernel, byParts '\n' separates⟩

end HttpCascade.Template

import HttpCascade.Proofs.NameMap
import HttpCascade.Template

/-!
# Filled templates

Whether a text can be filled is told by its holes alone (`expand_eq_ok_iff`), so values for other
names change nothing (`expand_of_larger`).
-/

namespace HttpCascade

namespace Template

variable {t filled : Text} {template : Template} {values small large : Variables}

/-! ### Names -/

theorem mem_distinct {name : Text} {names : List Text} :
    name ∈ distinct names ↔ name ∈ names := by
  induction names with
  | nil => simp [distinct]
  | cons first rest ih =>
    simp only [distinct, List.mem_cons, List.mem_filter, ih]
    by_cases same : name = first <;> simp [same]

theorem mem_names_iff {name : Text} : name ∈ template.names ↔ .hole name ∈ template := by
  simp only [names, mem_distinct, List.mem_filterMap]
  constructor
  · rintro ⟨piece, member, isName⟩
    cases piece with
    | char c => cases isName
    | hole other =>
      cases isName
      exact member
  · exact fun member => ⟨.hole name, member, rfl⟩

theorem missing_eq_nil_iff :
    template.missing values = [] ↔ ∀ name, .hole name ∈ template → values.contains name = true := by
  simp only [missing, List.filter_eq_nil_iff, mem_names_iff, Bool.not_eq_true', Bool.not_eq_false]

theorem mem_of_char_mem_ofText {c : Char} (member : .char c ∈ ofText t) : c ∈ t := by
  rw [← written_ofText t]
  exact List.mem_flatMap.mpr ⟨.char c, member, List.mem_singleton_self c⟩

/-! ### Values -/

theorem fill_append (values : Variables) (template others : Template) :
    fill values (template ++ others) = template.fill values ++ others.fill values :=
  List.flatMap_append

theorem fill_cons_char (values : Variables) (c : Char) (template : Template) :
    fill values (.char c :: template) = c :: template.fill values := rfl

theorem expand_eq_ok_iff :
    expand t values = .ok filled ↔
      (∀ name, .hole name ∈ ofText t → values.contains name = true) ∧
        (ofText t).fill values = filled := by
  rw [← missing_eq_nil_iff]
  unfold expand
  cases lacking : (ofText t).missing values <;> simp [lacking]

/-- Only the values of the names that occur count. -/
theorem fill_congr
    (same : ∀ name, .hole name ∈ template → small.get? name = large.get? name) :
    template.fill small = template.fill large := by
  apply List.flatMap_congr
  intro piece member
  cases piece with
  | char c => rfl
  | hole name => rw [Piece.fill, Piece.fill, same name member]

/-- What can be filled from some values is filled alike from more. -/
theorem expand_of_larger (part : small.IsPartOf large) (filling : expand t small = .ok filled) :
    expand t large = .ok filled := by
  obtain ⟨present, rfl⟩ := expand_eq_ok_iff.mp filling
  -- A name that occurs has a value in the smaller map, and so it has the same in the larger one.
  have same : ∀ name, .hole name ∈ ofText t → small.get? name = large.get? name := by
    intro name member
    obtain ⟨value, found⟩ := Option.isSome_iff_exists.mp (present name member)
    rw [found, part name value found]
  refine expand_eq_ok_iff.mpr ⟨fun name member => ?_, (fill_congr same).symm⟩
  rw [NameMap.contains, ← same name member]
  exact present name member

/-! ### Separators -/

/-- A text starts with a placeholder exactly if it starts with the braces around some word. -/
theorem nameAtStart?_eq_some_iff {name : Text} :
    nameAtStart? t = some name ↔
      name ≠ [] ∧ (∀ c ∈ name, Unicode.isWord c = true) ∧
        ∃ rest, t = Piece.written (.hole name) ++ rest := by
  constructor
  · exact nameAtStart?_eq_some
  · rintro ⟨nonempty, areWord, rest, rfl⟩
    have text : Piece.written (.hole name) ++ rest = '{' :: '{' :: (name ++ '}' :: '}' :: rest) := by
      simp [Piece.written]
    have takes : (name ++ '}' :: '}' :: rest).takeWhile Unicode.isWord = name := by
      simp [List.takeWhile_append_of_pos areWord, Unicode.not_isWord_close]
    have drops : (name ++ '}' :: '}' :: rest).dropWhile Unicode.isWord = '}' :: '}' :: rest := by
      simp [List.dropWhile_append_of_pos areWord, Unicode.not_isWord_close]
    simp [text, nameAtStart?, takes, drops, nonempty]

/-- A character that no placeholder holds. -/
structure IsSeparator (c : Char) : Prop where
  notWord : Unicode.isWord c = false
  notOpen : c ≠ '{'
  notClose : c ≠ '}'

theorem IsSeparator.not_mem_written {c : Char} (separates : IsSeparator c) {name : Text}
    (areWord : ∀ d ∈ name, Unicode.isWord d = true) : c ∉ Piece.written (.hole name) := by
  have notInside : c ∉ name := fun inside => by
    have isWord := areWord c inside
    rw [separates.notWord] at isWord
    cases isWord
  simp [Piece.written, notInside, separates.notOpen, separates.notClose]

/-- A placeholder ends before a separator. -/
theorem nameAtStart?_append {c : Char} (separates : IsSeparator c) (t rest : Text) :
    nameAtStart? (t ++ c :: rest) = nameAtStart? t := by
  apply Option.ext
  intro name
  rw [nameAtStart?_eq_some_iff, nameAtStart?_eq_some_iff]
  refine and_congr_right fun _ => and_congr_right fun areWord => ?_
  have outside : c ∉ Piece.written (.hole name) := separates.not_mem_written areWord
  constructor
  · rintro ⟨after, eq⟩
    rcases List.append_eq_append_iff.mp eq with ⟨more, whole, parts⟩ | ⟨more, whole, _⟩
    · -- The braces cannot reach into the text after `t`, for that starts with the separator.
      cases more with
      | nil => exact ⟨[], by simpa using whole.symm⟩
      | cons d others =>
        injection parts with same _
        exact absurd (by simp [whole, same]) outside
    · exact ⟨more, whole⟩
  · rintro ⟨after, rfl⟩
    exact ⟨after ++ c :: rest, List.append_assoc _ _ _⟩

theorem ofText_cons (c : Char) (rest : Text) :
    ofText (c :: rest) =
      match nameAtStart? (c :: rest) with
      | some name => .hole name :: ofText (rest.drop (name.length + 3))
      | none => .char c :: ofText rest := by
  rw [ofText, piecesAfter]
  cases nameAtStart? (c :: rest) with
  | some name => simp only [piecesAfter_drop (name.length + 3), ofText]
  | none => rfl

/-- The pieces on the two sides of a separator are those of the two texts. -/
theorem ofText_append_separator {c : Char} (separates : IsSeparator c) (t rest : Text) :
    ofText (t ++ c :: rest) = ofText t ++ .char c :: ofText rest := by
  -- A hole takes several characters at once.
  induction size : t.length using Nat.strongRecOn generalizing t with
  | ind n ih =>
    cases t with
    | nil =>
      have noName : nameAtStart? (c :: rest) = none := nameAtStart?_append separates [] rest
      rw [List.nil_append, ofText_cons, noName]
      rfl
    | cons d more =>
      have sameName := nameAtStart?_append separates (d :: more) rest
      rw [List.cons_append] at sameName ⊢
      rw [ofText_cons, ofText_cons, sameName]
      cases found : nameAtStart? (d :: more) with
      | none =>
        have shorter : more.length < n := by rw [← size]; simp
        simp only [ih _ shorter more rfl, List.cons_append]
      | some name =>
        obtain ⟨_, _, after, whole⟩ := nameAtStart?_eq_some found
        have fits : name.length + 3 ≤ more.length := by
          have lengths := congrArg List.length whole
          simp [Piece.written] at lengths
          omega
        have shorter : (more.drop (name.length + 3)).length < n := by
          rw [← size, List.length_drop, List.length_cons]
          omega
        simp only [List.drop_append_of_le_length fits, ih _ shorter _ rfl, List.cons_append]

end Template

end HttpCascade

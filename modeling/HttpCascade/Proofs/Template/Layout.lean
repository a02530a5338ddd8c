import HttpCascade.Proofs.Template.Filling
import HttpCascade.Proofs.Text.Lines
import HttpCascade.Proofs.Text.Trim
import HttpCascade.Proofs.Unicode.Space

/-!
# Values that keep the layout

No placeholder holds white space or a colon, so a text may be cut at these before or after it is
filled. An inline value, which is not empty, holds no line feed and has ink at both ends, takes no
part in a cut either: a text that is filled with such values has the lines and the words of the text
as it was written, and the same white space around them (`lines_filled`, `isPair_filled`,
`trim_filled`).

## Proof strategy

A filled piece has the edges of the written one: white space at the same ends (`SameEdges`). What
trimming and line endings look at is white space at the ends, so they look the same before and after
filling, and the cuts themselves are made at separators.
-/

namespace HttpCascade

/-- A value that stands within a line: it is not empty, it holds no line feed, and there is no white
space at its ends. -/
structure Text.IsInline (value : Text) : Prop where
  nonempty : value ≠ []
  trimmed : value.trim = value
  onOneLine : '\n' ∉ value

theorem Text.IsInline.of_isSolid {value : Text} (nonempty : value ≠ []) (solid : value.IsSolid) :
    value.IsInline where
  nonempty := nonempty
  trimmed := Text.trim_eq_self_iff.mpr
    ⟨fun c first => solid c (List.mem_of_head? first),
      fun c last => solid c (List.mem_of_getLast? last)⟩
  onOneLine member := by
    have ink := solid _ member
    rw [isSpace_lf] at ink
    cases ink

namespace Template

variable {t rest : Text} {values : Variables} {template : Template} {name : Text}

/-- What a text is filled to; placeholders without a value stay. -/
def filled (values : Variables) (t : Text) : Text := (ofText t).fill values

/-- Every placeholder of the text has a value of this kind. -/
def FillsWith (kind : Text → Prop) (values : Variables) (t : Text) : Prop :=
  ∀ name, .hole name ∈ ofText t → ∃ value, values.get? name = some value ∧ kind value

/-- Every placeholder of the text has an inline value. -/
abbrev FillsInline (values : Variables) (t : Text) : Prop := FillsWith Text.IsInline values t

variable {kind kind' : Text → Prop}

theorem fillsWith_iff : FillsWith kind values t ↔
    ∀ name ∈ placeholderNames t, ∃ value, values.get? name = some value ∧ kind value := by
  simp only [FillsWith, placeholderNames, mem_names_iff]

theorem FillsWith.imp (fills : FillsWith kind values t) (weaker : ∀ value, kind value → kind' value) :
    FillsWith kind' values t := fun name member => by
  obtain ⟨value, found, isKind⟩ := fills name member
  exact ⟨value, found, weaker value isKind⟩

theorem FillsWith.expand_eq (fills : FillsWith kind values t) :
    expand t values = .ok (filled values t) := by
  refine expand_eq_ok_iff.mpr ⟨fun name member => ?_, rfl⟩
  obtain ⟨value, found, _⟩ := fills name member
  exact NameMap.contains_of_get? found

theorem filled_of_no_names (none : placeholderNames t = []) : filled values t = t := by
  rw [filled, fill_of_no_hole none, written_ofText]

/-- A placeholder of a part of the text is one of the text. -/
theorem FillsWith.of_infix {part : Text} (fills : FillsWith kind values t) (inside : part <:+: t) :
    FillsWith kind values part := by
  intro name member
  obtain ⟨i, isName, after, eq⟩ := hole_mem_ofText_iff.mp member
  obtain ⟨front, back, rfl⟩ := inside
  apply fills name
  refine hole_mem_ofText_iff.mpr ⟨front.length + i, isName, after ++ back, ?_⟩
  have fits : i ≤ part.length := by
    by_contra beyond
    rw [List.drop_eq_nil_of_le (by omega)] at eq
    simp [Piece.written] at eq
  rw [List.append_assoc, List.drop_length_add_append, List.drop_append_of_le_length fits, ← eq,
    List.append_assoc]

/-! ### Cuts at separators -/

theorem isSeparator_of_isSpace {c : Char} (space : isSpace c = true) : IsSeparator c where
  notWord := Unicode.not_isWord_of_isSpace space
  notOpen := by
    rintro rfl
    revert space
    decide
  notClose := by
    rintro rfl
    revert space
    decide

theorem isSeparator_colon : IsSeparator ':' := ⟨by decide, by decide, by decide⟩

section

variable {c : Char} (separates : IsSeparator c)
include separates

theorem ofText_cons_separator (t : Text) : ofText (c :: t) = .char c :: ofText t :=
  ofText_append_separator separates [] t

theorem filled_append_separator (t rest : Text) :
    filled values (t ++ c :: rest) = filled values t ++ c :: filled values rest := by
  rw [filled, ofText_append_separator separates, fill_append, fill_cons_char]
  rfl

theorem filled_cons_separator (t : Text) : filled values (c :: t) = c :: filled values t :=
  filled_append_separator separates [] t

theorem hole_mem_append_separator :
    .hole name ∈ ofText (t ++ c :: rest) ↔ .hole name ∈ ofText t ∨ .hole name ∈ ofText rest := by
  simp [ofText_append_separator separates]

theorem hole_mem_cons_separator : .hole name ∈ ofText (c :: t) ↔ .hole name ∈ ofText t := by
  simp [ofText_cons_separator separates]

theorem fillsWith_append_separator :
    FillsWith kind values (t ++ c :: rest) ↔
      FillsWith kind values t ∧ FillsWith kind values rest := by
  simp only [FillsWith, hole_mem_append_separator separates, or_imp, forall_and]

end

theorem filled_nil : filled values [] = [] := rfl

theorem filled_append_space {s : Char} (space : isSpace s = true) (t : Text) :
    filled values (t ++ [s]) = filled values t ++ [s] :=
  filled_append_separator (isSeparator_of_isSpace space) t []

theorem hole_mem_append_space {s : Char} (space : isSpace s = true) :
    .hole name ∈ ofText (t ++ [s]) ↔ .hole name ∈ ofText t := by
  rw [hole_mem_append_separator (isSeparator_of_isSpace space)]
  exact or_iff_left List.not_mem_nil

theorem filled_blank_append {blank : Text} (isBlank : blank.isBlank = true) (t : Text) :
    filled values (blank ++ t) = blank ++ filled values t := by
  induction blank with
  | nil => rfl
  | cons s rest ih =>
    obtain ⟨space, blankRest⟩ := Text.isBlank_cons_iff.mp isBlank
    rw [List.cons_append, filled_cons_separator (isSeparator_of_isSpace space), ih blankRest,
      List.cons_append]

/-- What stands before and after some white space is filled by itself. -/
theorem filled_append_blank {blank : Text} (isBlank : blank.isBlank = true) (some : blank ≠ [])
    (t rest : Text) :
    filled values (t ++ (blank ++ rest)) = filled values t ++ (blank ++ filled values rest) := by
  obtain ⟨s, more, rfl⟩ := List.exists_cons_of_ne_nil some
  obtain ⟨space, blankMore⟩ := Text.isBlank_cons_iff.mp isBlank
  rw [List.cons_append, filled_append_separator (isSeparator_of_isSpace space),
    filled_blank_append blankMore, List.cons_append]

theorem hole_mem_trim (t : Text) : .hole name ∈ ofText t.trim ↔ .hole name ∈ ofText t := by
  induction t using Text.trimInduction with
  | trimmed t kept => rw [kept]
  | front s t space ih =>
    rw [Text.trim_cons_space t space, hole_mem_cons_separator (isSeparator_of_isSpace space), ih]
  | back t s space ih =>
    rw [Text.trim_append_space t space, hole_mem_append_space space, ih]

theorem FillsWith.trim (fills : FillsWith kind values t) : FillsWith kind values t.trim :=
  fun name member => fills name ((hole_mem_trim t).mp member)

theorem names_trim_eq_nil_iff : placeholderNames t.trim = [] ↔ placeholderNames t = [] := by
  simp only [placeholderNames, List.eq_nil_iff_forall_not_mem, mem_names_iff, hole_mem_trim]

theorem hole_mem_dropCr (t : Text) : .hole name ∈ ofText t.dropCr ↔ .hole name ∈ ofText t := by
  rw [Text.dropCr]
  split
  next returned =>
    obtain ⟨front, rfl⟩ := List.getLast?_eq_some_iff.mp returned
    rw [List.dropLast_concat, hole_mem_append_space isSpace_cr]
  next => rfl

/-- The placeholders of a text are those of its lines. -/
theorem hole_mem_lines (t : Text) :
    .hole name ∈ ofText t ↔ ∃ line ∈ t.lines, .hole name ∈ ofText line := by
  induction t using Text.lineInduction with
  | last t free =>
    rw [Text.lines_of_lf_not_mem free]
    split
    next empty => simp [empty, ofText, piecesAfter]
    next => simp
  | line piece rest free ih =>
    rw [Text.lines_append_lf rest free, hole_mem_append_separator (isSeparator_of_isSpace isSpace_lf)]
    simp only [List.mem_cons, exists_eq_or_imp, hole_mem_dropCr, ih]

theorem FillsWith.lines (fills : FillsWith kind values t) :
    ∀ line ∈ t.lines, FillsWith kind values line :=
  fun line member name inside => fills name ((hole_mem_lines t).mpr ⟨line, member, inside⟩)

/-! ### Edges -/

/-- At the start of both texts is white space, or ink, or nothing, and so at their ends. -/
structure SameEdges (s t : Text) : Prop where
  front : s.head?.map isSpace = t.head?.map isSpace
  back : s.getLast?.map isSpace = t.getLast?.map isSpace

theorem SameEdges.append {s s' t t' : Text} (first : SameEdges s t) (second : SameEdges s' t') :
    SameEdges (s ++ s') (t ++ t') where
  front := by simp only [List.head?_append, Option.map_or, first.front, second.front]
  back := by simp only [List.getLast?_append, Option.map_or, first.back, second.back]

theorem SameEdges.eq_nil_iff {s t : Text} (same : SameEdges s t) : s = [] ↔ t = [] := by
  rw [← List.head?_eq_none_iff, ← Option.map_eq_none_iff (f := isSpace), same.front,
    Option.map_eq_none_iff, List.head?_eq_none_iff]

theorem SameEdges.trim_eq_self_iff {s t : Text} (same : SameEdges s t) :
    s.trim = s ↔ t.trim = t := by
  have ink (c? : Option Char) : (∀ c ∈ c?, isSpace c = false) ↔ c?.map isSpace ≠ some true := by
    cases c? <;> simp
  simp only [Text.trim_eq_self_iff, ink, same.front, same.back]

/-- The braces of a placeholder are ink, and so are the ends of an inline value. -/
theorem sameEdges_written {value : Text} (inline : value.IsInline) (name : Text) :
    SameEdges value (Piece.written (.hole name)) := by
  obtain ⟨front, back⟩ := Text.trim_eq_self_iff.mp inline.trimmed
  constructor
  · rw [List.head?_eq_some_head inline.nonempty, Option.map_some,
      front _ (List.head?_eq_some_head inline.nonempty)]
    rfl
  · have closing : Piece.written (.hole name) = ('{' :: '{' :: name ++ ['}']) ++ ['}'] := by
      simp [Piece.written]
    rw [List.getLast?_eq_some_getLast inline.nonempty, Option.map_some,
      back _ (List.getLast?_eq_some_getLast inline.nonempty), closing, List.getLast?_concat]
    rfl

theorem sameEdges_fill
    (inline : ∀ name, .hole name ∈ template → (Piece.fill values (.hole name)).IsInline) :
    SameEdges (template.fill values) template.written := by
  induction template with
  | nil => exact ⟨rfl, rfl⟩
  | cons piece rest ih =>
    have others := ih fun name member => inline name (List.mem_cons_of_mem _ member)
    refine SameEdges.append ?_ others
    cases piece with
    | char c => exact ⟨rfl, rfl⟩
    | hole name => exact sameEdges_written (inline name List.mem_cons_self) name

theorem FillsWith.sameEdges (inline : FillsInline values t) : SameEdges (filled values t) t := by
  have same : SameEdges ((ofText t).fill values) (ofText t).written :=
    sameEdges_fill fun name member => by
      obtain ⟨value, found, isInline⟩ := inline name member
      rwa [Piece.fill, found]
  rwa [written_ofText] at same

/-! ### Lines and words -/

theorem trim_filled (inline : FillsInline values t) :
    (filled values t).trim = filled values t.trim := by
  induction t using Text.trimInduction with
  | trimmed t kept => rw [kept, inline.sameEdges.trim_eq_self_iff.mpr kept]
  | front s t space ih =>
    have separates := isSeparator_of_isSpace space
    have inner : FillsInline values t := fun name member =>
      inline name ((hole_mem_cons_separator separates).mpr member)
    rw [Text.trim_cons_space t space, filled_cons_separator separates,
      Text.trim_cons_space _ space, ih inner]
  | back t s space ih =>
    have inner : FillsInline values t := fun name member =>
      inline name ((hole_mem_append_space space).mpr member)
    rw [Text.trim_append_space t space, filled_append_space space, Text.trim_append_space _ space,
      ih inner]

theorem isBlank_filled (inline : FillsInline values t) :
    (filled values t).isBlank = t.isBlank := by
  rw [Bool.eq_iff_iff, ← Text.trim_eq_nil_iff, ← Text.trim_eq_nil_iff, trim_filled inline]
  exact inline.trim.sameEdges.eq_nil_iff

theorem dropCr_filled (inline : FillsInline values t) :
    (filled values t).dropCr = filled values t.dropCr := by
  by_cases returned : t.getLast? = some '\r'
  · obtain ⟨front, rfl⟩ := List.getLast?_eq_some_iff.mp returned
    rw [filled_append_space isSpace_cr]
    simp [Text.dropCr]
  · rw [Text.dropCr_eq_self_iff.mpr returned, Text.dropCr_eq_self_iff]
    intro returnedFilled
    -- The carriage return would be white space at the end of the text, and such is kept.
    have back := inline.sameEdges.back
    rw [returnedFilled, Option.map_some, isSpace_cr] at back
    obtain ⟨c, last, space⟩ := Option.map_eq_some_iff.mp back.symm
    obtain ⟨front, rfl⟩ := List.getLast?_eq_some_iff.mp last
    rw [filled_append_space space, List.getLast?_concat] at returnedFilled
    exact returned (by rw [List.getLast?_concat, returnedFilled])

theorem lf_not_mem_filled (inline : FillsInline values t) (free : '\n' ∉ t) :
    '\n' ∉ filled values t := by
  intro member
  obtain ⟨piece, isPiece, inside⟩ := List.mem_flatMap.mp member
  cases piece with
  | char c =>
    obtain rfl := List.mem_singleton.mp inside
    exact free (mem_of_char_mem_ofText isPiece)
  | hole name =>
    obtain ⟨value, found, isInline⟩ := inline name isPiece
    rw [Piece.fill, found] at inside
    exact isInline.onOneLine inside

/-- The lines of the filled text are the lines of the text, each of them filled. -/
theorem lines_filled (inline : FillsInline values t) :
    (filled values t).lines = t.lines.map (filled values) := by
  have separates := isSeparator_of_isSpace isSpace_lf
  induction t using Text.lineInduction with
  | last t free =>
    rw [Text.lines_of_lf_not_mem free, Text.lines_of_lf_not_mem (lf_not_mem_filled inline free)]
    simp only [inline.sameEdges.eq_nil_iff]
    split <;> rfl
  | line piece rest free ih =>
    obtain ⟨inPiece, inRest⟩ := (fillsWith_append_separator separates).mp inline
    rw [filled_append_separator separates, Text.lines_append_lf _ (lf_not_mem_filled inPiece free),
      Text.lines_append_lf rest free, List.map_cons, dropCr_filled inPiece, ih inRest]

/-- Lines that are joined are filled one by one. -/
theorem filled_joinLines (ls : List Text) :
    filled values (Text.joinLines ls) = Text.joinLines (ls.map (filled values)) := by
  have separates := isSeparator_of_isSpace isSpace_lf
  simp only [Text.joinLines]
  induction ls with
  | nil => rfl
  | cons line rest ih =>
    cases rest with
    | nil => rfl
    | cons next more =>
      simp only [Text.join, List.map_cons, List.append_assoc, List.singleton_append] at ih ⊢
      rw [filled_append_separator separates, ih]

theorem hole_mem_joinLines {ls : List Text} :
    .hole name ∈ ofText (Text.joinLines ls) ↔ ∃ line ∈ ls, .hole name ∈ ofText line := by
  have separates := isSeparator_of_isSpace isSpace_lf
  simp only [Text.joinLines]
  induction ls with
  | nil => simp [Text.join, ofText, piecesAfter]
  | cons line rest ih =>
    cases rest with
    | nil => simp [Text.join]
    | cons next more =>
      simp only [Text.join, List.append_assoc, List.singleton_append]
      rw [hole_mem_append_separator separates, List.exists_mem_cons_iff]
      exact or_congr_right ih

theorem FillsWith.joinLines {ls : List Text} (fills : ∀ line ∈ ls, FillsWith kind values line) :
    FillsWith kind values (Text.joinLines ls) := by
  intro name member
  obtain ⟨line, isLine, inside⟩ := hole_mem_joinLines.mp member
  exact fills line isLine name inside

theorem isSolid_filled (fills : FillsWith Text.IsSolid values t) (solid : t.IsSolid) :
    (filled values t).IsSolid := by
  intro c member
  obtain ⟨piece, isPiece, inside⟩ := List.mem_flatMap.mp member
  cases piece with
  | char d =>
    obtain rfl := List.mem_singleton.mp inside
    exact solid c (mem_of_char_mem_ofText isPiece)
  | hole name =>
    obtain ⟨value, found, isSolid⟩ := fills name isPiece
    rw [Piece.fill, found] at inside
    exact isSolid c inside

/-- A text of two words stays one, with the same white space around them, if these stay words. -/
theorem isPair_filled {v w : Text} (pair : t.IsPair v w)
    (first : filled values v ≠ [] ∧ (filled values v).IsSolid)
    (second : filled values w ≠ [] ∧ (filled values w).IsSolid) :
    (filled values t).IsPair (filled values v) (filled values w) := by
  obtain ⟨_, _, before, between, after, rfl, blankBefore, blankBetween, blankAfter, apart⟩ := pair
  have last : filled values (w ++ after) = filled values w ++ after := by
    cases after with
    | nil => rw [List.append_nil, List.append_nil]
    | cons s more =>
      have cut : filled values (w ++ (s :: more ++ [])) =
          filled values w ++ (s :: more ++ filled values []) :=
        filled_append_blank blankAfter (List.cons_ne_nil s more) w []
      rwa [filled_nil, List.append_nil] at cut
  refine ⟨first, second, before, between, after, ?_, blankBefore, blankBetween, blankAfter, apart⟩
  simp only [List.append_assoc]
  rw [filled_blank_append blankBefore, filled_append_blank blankBetween apart, last]

end Template
end HttpCascade

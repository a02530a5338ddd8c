import HttpCascade.Cascade.Error
import HttpCascade.Proofs.Outcome
import HttpCascade.Proofs.Template.Expansion
import HttpCascade.Proofs.Text.Endings

/-!
# Readers and line endings

Request files and the output of scripts are cut into lines as they are, so their endings are gone
before anything is read. A headers file is filled first: its template has a carriage return more
before each line feed (`ofText_withCrLf`), but values keep their own line feeds as they are, so the
filled texts differ by stray carriage returns (`fill_withCrLf`). The header lines are read alike
nevertheless (`parseHeaders_of_returned`).
-/

namespace HttpCascade

variable {t t' : Text} {values : Variables}

/-! ### Texts that are cut into lines at once -/

theorem exports_of_sameButEndings (same : t.SameButEndings t') : exports t' = exports t := by
  rw [exports, exports, same.lines_eq]

theorem RequestText.parse_of_sameButEndings (same : t.SameButEndings t') :
    RequestText.parse t' = RequestText.parse t := by
  rw [parse, parse, same.lines_eq]

/-! ### Templates -/

/-- A line feed with a carriage return before it; any other piece as it is. -/
def Piece.withCrLf : Piece → Template
  | char c => if c = '\n' then [.char '\r', .char '\n'] else [.char c]
  | hole name => [.hole name]

namespace Template

theorem isSeparator_cr : IsSeparator '\r' := ⟨by decide +kernel, by decide, by decide⟩

theorem isSeparator_lf : IsSeparator '\n' := ⟨by decide +kernel, by decide, by decide⟩

theorem withCrLf_ofText_of_lf_not_mem (free : '\n' ∉ t) :
    (ofText t).flatMap Piece.withCrLf = ofText t := by
  -- A hole stays anyway, and a character of the text is not a line feed.
  have unchanged : ∀ piece ∈ ofText t, Piece.withCrLf piece = [piece] := by
    intro piece member
    cases piece with
    | char c =>
      have notLf : c ≠ '\n' := by
        rintro rfl
        exact free (mem_of_char_mem_ofText member)
      rw [Piece.withCrLf, if_neg notLf]
    | hole name => rfl
  rw [List.flatMap_congr unchanged, List.flatMap_singleton']

/-- No placeholder spans a line ending, so the pieces change one by one. -/
theorem ofText_withCrLf (t : Text) :
    ofText t.withCrLf = (ofText t).flatMap Piece.withCrLf := by
  induction t using Text.lineInduction with
  | last t free => rw [Text.withCrLf_of_lf_not_mem free, withCrLf_ofText_of_lf_not_mem free]
  | line front rest free ih =>
    have afterReturn : ofText ('\n' :: Text.withCrLf rest) = .char '\n' :: ofText rest.withCrLf :=
      ofText_append_separator isSeparator_lf [] _
    rw [Text.withCrLf_append_lf rest free, ofText_append_separator isSeparator_cr, afterReturn,
      ih, ofText_append_separator isSeparator_lf, List.flatMap_append, List.flatMap_cons,
      withCrLf_ofText_of_lf_not_mem free]
    rfl

theorem hole_mem_withCrLf_iff {template : Template} {name : Text} :
    .hole name ∈ template.flatMap Piece.withCrLf ↔ .hole name ∈ template := by
  rw [List.mem_flatMap]
  constructor
  · rintro ⟨piece, member, inside⟩
    cases piece with
    | char c =>
      rw [Piece.withCrLf] at inside
      split at inside <;> simp at inside
    | hole other =>
      rw [List.mem_singleton.mp inside]
      exact member
  · exact fun member => ⟨.hole name, member, List.mem_singleton_self _⟩

theorem fill_withCrLf (template : Template) :
    (template.fill values).Returned (Template.fill values (template.flatMap Piece.withCrLf)) := by
  induction template with
  | nil => exact .nil
  | cons piece rest ih =>
    rw [List.flatMap_cons, fill, fill, List.flatMap_cons, List.flatMap_append]
    rw [fill, fill] at ih
    cases piece with
    | char c =>
      rw [Piece.withCrLf]
      split
      next isLf =>
        subst isLf
        exact .added ih
      next => exact .same c ih
    | hole name =>
      simpa [Piece.withCrLf] using ih.append_left (Piece.fill values (.hole name))

end Template

/-- With other line endings the same placeholders have to be filled. -/
theorem expand_withCrLf (t : Text) (values : Variables) :
    (∃ filled filled', expand t values = .ok filled ∧ expand t.withCrLf values = .ok filled' ∧
      filled.Returned filled') ∨
    ∃ e e', expand t values = .error e ∧ expand t.withCrLf values = .error e' := by
  have sameHoles : (∀ name, .hole name ∈ Template.ofText t.withCrLf → values.contains name = true) ↔
      ∀ name, .hole name ∈ Template.ofText t → values.contains name = true := by
    simp only [Template.ofText_withCrLf, Template.hole_mem_withCrLf_iff]
  cases filling : expand t values with
  | ok filled =>
    obtain ⟨present, rfl⟩ := Template.expand_eq_ok_iff.mp filling
    have filling' := Template.expand_eq_ok_iff.mpr ⟨sameHoles.mpr present, rfl⟩
    rw [Template.ofText_withCrLf] at filling'
    exact .inl ⟨_, _, rfl, filling', Template.fill_withCrLf _⟩
  | error e =>
    cases filling' : expand t.withCrLf values with
    | ok filled' =>
      -- What is there for the one is there for the other.
      have present := sameHoles.mp (Template.expand_eq_ok_iff.mp filling').1
      have filled := Template.expand_eq_ok_iff.mpr ⟨present, rfl⟩
      cases filling.symm.trans filled
    | error e' => exact .inr ⟨e, e', rfl, rfl⟩

/-! ### Headers -/

namespace RequestText

theorem headerLine_of_mayReturn {l l' : Text} (mayReturn : l.MayReturn l') (number : Nat) :
    headerLine number l' = headerLine number l := by
  have trimmed := mayReturn.trim_eq
  rcases mayReturn with rfl | rfl
  · rfl
  · have differs : '\r' ≠ ':' := by decide
    -- The carriage return stands behind the colon, at the end of the value, which is trimmed.
    unfold headerLine
    rw [trimmed, Text.splitOnce_append differs]
    cases l.splitOnce ':' with
    | none => rfl
    | some parts => simp [Text.trim_append_space _ isSpace_cr]

theorem headerSection_cons (number : Nat) (line : Text) (rest : List Text) :
    headerSection number (line :: rest) =
      if line.isBlank then .ok ([], rest)
      else headerLine number line >>= fun header =>
        (headerSection (number + 1) rest).map fun later => (header :: later.1, later.2) := by
  rw [headerSection]
  split
  · rfl
  · cases headerLine number line with
    | error e => rfl
    | ok header => cases headerSection (number + 1) rest <;> rfl

/-- The headers alone, whatever lines are left after them. -/
theorem headers_cons (number : Nat) (line : Text) (rest : List Text) :
    (headerSection number (line :: rest)).map Prod.fst =
      if line.isBlank then .ok []
      else headerLine number line >>= fun header =>
        ((headerSection (number + 1) rest).map Prod.fst).map (header :: ·) := by
  rw [headerSection_cons]
  split
  · rfl
  · cases headerLine number line with
    | error e => rfl
    | ok header => cases headerSection (number + 1) rest <;> rfl

/-- Stray carriage returns change nothing about the headers; they may stay in what follows. -/
theorem headerSection_of_mayReturn {ls ls' : List Text}
    (related : List.Forall₂ Text.MayReturn ls ls') (number : Nat) :
    (headerSection number ls').map Prod.fst = (headerSection number ls).map Prod.fst := by
  induction related generalizing number with
  | nil => rfl
  | cons mayReturn _ ih =>
    rw [headers_cons, headers_cons, mayReturn.isBlank_eq, headerLine_of_mayReturn mayReturn, ih]

/-- The headers end at a blank line, if they have not ended before. -/
theorem headers_append_blank (front : List Text) {blank : Text} (isBlank : blank.isBlank = true)
    (rest : List Text) (number : Nat) :
    (headerSection number (front ++ blank :: rest)).map Prod.fst =
      (headerSection number front).map Prod.fst := by
  induction front generalizing number with
  | nil => rw [List.nil_append, headers_cons, if_pos isBlank]; rfl
  | cons line more ih => rw [List.cons_append, headers_cons, headers_cons, ih]

theorem parseHeaders_eq_map (t : Text) :
    parseHeaders t = ((headerSection 1 t.lines).map Prod.fst).map NameMap.ofList := by
  rw [parseHeaders]
  cases headerSection 1 t.lines <;> rfl

theorem parseHeaders_of_returned (returned : t.Returned t') : parseHeaders t' = parseHeaders t := by
  rw [parseHeaders_eq_map, parseHeaders_eq_map, headerSection_of_mayReturn returned.lines]

end RequestText

end HttpCascade

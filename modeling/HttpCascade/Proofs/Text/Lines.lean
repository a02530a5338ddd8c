import HttpCascade.Text.Lines

/-!
# Lines and their endings

A text is the join of its pieces between line feeds, and the lines of a text are its pieces without
the carriage returns that belong to a line ending (`lines_append_lf`). Cutting a text that a line
feed ends and joining the lines again gives the text back exactly if no piece of it ends with a
carriage return (`joinLines_lines_iff`). The lines of any text are told from its pieces
(`lines_eq_linesOfPieces`). A text that is cut before one of its lines, or given an empty line
there, has the lines that one expects (`lines_takeLines`, `lines_dropLines`, `lines_insertLine`).
-/

namespace HttpCascade.Text

/-! ### Pieces between separators -/

theorem splitAll_of_not_mem {separator : Char} {t : Text} (free : separator ∉ t) :
    splitAll separator t = [t] := by
  induction t with
  | nil => rfl
  | cons c rest ih =>
    have differs : c ≠ separator := fun same => free (by simp [same])
    have freeRest : separator ∉ rest := fun member => free (List.mem_cons_of_mem _ member)
    rw [splitAll, if_neg differs, ih freeRest, consFirst]

/-- A separator parts the pieces before it from those after it. -/
theorem splitAll_append_separator (separator : Char) (t rest : Text) :
    splitAll separator (t ++ separator :: rest) =
      splitAll separator t ++ splitAll separator rest := by
  induction t with
  | nil => simp [splitAll]
  | cons c more ih =>
    rw [List.cons_append, splitAll, splitAll, ih]
    split
    · rfl
    · cases pieces : splitAll separator more with
      | nil => exact absurd pieces (splitAll_ne_nil separator more)
      | cons piece others => rfl

theorem splitAll_append {separator : Char} {piece : Text} (rest : Text) (free : separator ∉ piece) :
    splitAll separator (piece ++ separator :: rest) = piece :: splitAll separator rest := by
  rw [splitAll_append_separator, splitAll_of_not_mem free, List.singleton_append]

/-- Pieces without a separator are found again in their join. -/
theorem splitAll_join {separator : Char} {pieces : List Text} (nonempty : pieces ≠ [])
    (free : ∀ piece ∈ pieces, separator ∉ piece) :
    splitAll separator (join [separator] pieces) = pieces := by
  induction pieces with
  | nil => exact absurd rfl nonempty
  | cons piece others ih =>
    have freePiece : separator ∉ piece := free piece List.mem_cons_self
    cases others with
    | nil => exact splitAll_of_not_mem freePiece
    | cons next more =>
      have tail := ih (by simp) fun p member => free p (List.mem_cons_of_mem _ member)
      simp only [join, List.append_assoc, List.singleton_append]
      rw [splitAll_append _ freePiece, tail]

theorem join_append_last {separator : Char} {pieces : List Text} (nonempty : pieces ≠ [])
    (last : Text) :
    join [separator] (pieces ++ [last]) = join [separator] pieces ++ separator :: last := by
  induction pieces with
  | nil => exact absurd rfl nonempty
  | cons piece others ih =>
    cases others with
    | nil => simp [join]
    | cons next more =>
      have tail := ih (by simp)
      simp only [List.cons_append] at tail
      simp [join, tail]

theorem not_mem_of_mem_splitAll {separator : Char} {t piece : Text}
    (member : piece ∈ splitAll separator t) : separator ∉ piece := by
  induction t generalizing piece with
  | nil => simp_all [splitAll]
  | cons c rest ih =>
    rw [splitAll] at member
    split at member
    · rcases List.mem_cons.mp member with rfl | later
      · simp
      · exact ih later
    next differs =>
      cases found : splitAll separator rest with
      | nil => exact absurd found (splitAll_ne_nil separator rest)
      | cons first others =>
        rw [found] at ih
        rw [found, consFirst] at member
        rcases List.mem_cons.mp member with rfl | later
        · intro inside
          rcases List.mem_cons.mp inside with same | inFirst
          · exact differs same.symm
          · exact ih List.mem_cons_self inFirst
        · exact ih (List.mem_cons_of_mem _ later)

/-! ### Line endings -/

/-- Texts line by line: a text has no line feed, or it is one line and a shorter text after it. -/
@[elab_as_elim]
theorem lineInduction {motive : Text → Prop} (last : ∀ t, '\n' ∉ t → motive t)
    (line : ∀ piece rest, '\n' ∉ piece → motive rest → motive (piece ++ '\n' :: rest)) (t : Text) :
    motive t := by
  induction size : t.length using Nat.strongRecOn generalizing t with
  | ind n ih =>
    by_cases ended : '\n' ∈ t
    · obtain ⟨piece, rest, rfl, free⟩ := List.eq_append_cons_of_mem ended
      have shorter : rest.length < n := by
        rw [← size, List.length_append, List.length_cons]
        omega
      exact line piece rest free (ih _ shorter rest rfl)
    · exact last t ended

/-- The text of a line whose ending is cut off: a carriage return at its end was part of that. -/
def dropCr (t : Text) : Text := if t.getLast? = some '\r' then t.dropLast else t

theorem dropCr_eq_self_iff {t : Text} : dropCr t = t ↔ t.getLast? ≠ some '\r' := by
  rw [dropCr]
  split
  next returned =>
    have nonempty : t ≠ [] := by
      rintro rfl
      simp at returned
    have shorter : t.dropLast.length < t.length := by
      have := List.length_pos_iff.mpr nonempty
      rw [List.length_dropLast]
      omega
    simp only [returned, not_true_eq_false, iff_false, ne_eq]
    intro same
    rw [same] at shorter
    exact Nat.lt_irrefl _ shorter
  next kept => simp [kept]

theorem dropCr_cons {c : Char} {t : Text} (nonempty : t ≠ []) :
    dropCr (c :: t) = c :: dropCr t := by
  obtain ⟨d, more, rfl⟩ := List.exists_cons_of_ne_nil nonempty
  simp only [dropCr, List.getLast?_cons_cons, List.dropLast_cons_cons]
  split <;> rfl

theorem mem_of_mem_dropCr {t : Text} {c : Char} (member : c ∈ dropCr t) : c ∈ t := by
  rw [dropCr] at member
  split at member
  · exact (List.dropLast_prefix t).mem member
  · exact member

theorem map_dropCr_eq_self_iff {pieces : List Text} :
    pieces.map dropCr = pieces ↔ ∀ piece ∈ pieces, piece.getLast? ≠ some '\r' := by
  have pointwise : pieces.map dropCr = pieces.map id ↔ ∀ piece ∈ pieces, dropCr piece = id piece :=
    List.map_inj_left
  simpa only [List.map_id, id_eq, dropCr_eq_self_iff] using pointwise

/-- A character that starts no line ending belongs to the first line. -/
theorem lines_cons {c : Char} {rest : Text} (notLf : c ≠ '\n')
    (notCrLf : c = '\r' → rest.head? ≠ some '\n') :
    lines (c :: rest) = consFirst c (lines rest) := by
  rw [lines]
  · exact notLf
  · rintro after rfl rfl
    exact notCrLf rfl rfl

/-- The first line is the text before the first line feed, and the other lines are those of the text
after it. -/
theorem lines_append_lf {piece : Text} (rest : Text) (free : '\n' ∉ piece) :
    lines (piece ++ '\n' :: rest) = dropCr piece :: lines rest := by
  induction piece with
  | nil => rw [List.nil_append, lines_lf]; rfl
  | cons c more ih =>
    have notLf : c ≠ '\n' := fun same => free (by simp [same])
    have freeMore : '\n' ∉ more := fun member => free (List.mem_cons_of_mem _ member)
    cases more with
    | nil =>
      -- A carriage return right before the line feed belongs to the ending.
      by_cases returned : c = '\r'
      · subst returned
        exact lines_crlf rest
      · show lines (c :: '\n' :: rest) = _
        rw [lines_cons notLf fun same => absurd same returned, lines_lf, consFirst,
          dropCr_eq_self_iff.mpr (by simpa using returned)]
    | cons d others =>
      have notCrLf : d ≠ '\n' := fun same => freeMore (by simp [same])
      show lines (c :: ((d :: others) ++ '\n' :: rest)) = _
      have notCrLfHere : ((d :: others) ++ '\n' :: rest).head? ≠ some '\n' := by simpa using notCrLf
      have nonempty : d :: others ≠ [] := List.cons_ne_nil d others
      rw [lines_cons notLf fun _ => notCrLfHere, ih freeMore, consFirst, dropCr_cons nonempty]

/-- Nothing of a text that a line feed ends runs on into the text after it. -/
theorem lines_append {a : Text} (ended : a = [] ∨ a.getLast? = some '\n') (b : Text) :
    lines (a ++ b) = lines a ++ lines b := by
  induction a using lineInduction with
  | last t free =>
    rcases ended with rfl | ended
    · rfl
    · exact absurd (List.mem_of_getLast? ended) free
  | line piece rest free ih =>
    have endedRest : rest = [] ∨ rest.getLast? = some '\n' := by
      cases rest with
      | nil => exact .inl rfl
      | cons c more =>
        right
        simpa [List.getLast?_append] using ended
    rw [List.append_assoc, List.cons_append, lines_append_lf _ free, lines_append_lf _ free,
      ih endedRest, List.cons_append]

/-- The lines of a text that a line feed ends are its pieces without their carriage returns. -/
theorem lines_join {pieces : List Text} (free : ∀ piece ∈ pieces, '\n' ∉ piece)
    (nonempty : pieces ≠ []) : lines (join ['\n'] pieces ++ ['\n']) = pieces.map dropCr := by
  induction pieces with
  | nil => exact absurd rfl nonempty
  | cons piece others ih =>
    have freePiece : '\n' ∉ piece := free piece List.mem_cons_self
    cases others with
    | nil =>
      rw [join, lines_append_lf [] freePiece, lines]
      rfl
    | cons next more =>
      have tail := ih (fun p member => free p (List.mem_cons_of_mem _ member)) (by simp)
      simp only [join, List.append_assoc, List.cons_append, List.nil_append]
      rw [lines_append_lf _ freePiece, tail]
      rfl

theorem lines_append_last (t : Text) : lines (t ++ ['\n']) = (splitAll '\n' t).map dropCr := by
  have free : ∀ piece ∈ splitAll '\n' t, '\n' ∉ piece := fun _ => not_mem_of_mem_splitAll
  have pieces := lines_join free (by simp)
  rwa [join_splitAll] at pieces

/-- Lines give back the text that they were cut from exactly if no carriage return was taken for
part of a line ending. -/
theorem joinLines_lines_iff (t : Text) :
    joinLines (lines (t ++ ['\n'])) = t ↔
      ∀ piece ∈ splitAll '\n' t, piece.getLast? ≠ some '\r' := by
  rw [lines_append_last, joinLines, ← map_dropCr_eq_self_iff]
  constructor
  · intro same
    -- The joined lines hold the shortened pieces, and cutting them gives these again.
    conv => rhs; rw [← same]
    refine (splitAll_join (by simp) ?_).symm
    intro shortened isPiece
    obtain ⟨original, isOriginal, rfl⟩ := List.mem_map.mp isPiece
    exact fun inside => not_mem_of_mem_splitAll isOriginal (mem_of_mem_dropCr inside)
  · intro unchanged
    rw [unchanged, join_splitAll]

/-! ### Texts cut at a line -/

/-- The text after its first lines. -/
def dropLines : Nat → Text → Text
  | 0, t => t
  | _ + 1, [] => []
  | n + 1, c :: rest => if c = '\n' then dropLines n rest else dropLines (n + 1) rest

/-- The first lines of the text, with their endings. -/
def takeLines : Nat → Text → Text
  | 0, _ => []
  | _ + 1, [] => []
  | n + 1, c :: rest => c :: if c = '\n' then takeLines n rest else takeLines (n + 1) rest

/-- The text with an empty line put after its first lines. -/
def insertLine : Nat → Text → Text
  | 0, t => '\n' :: t
  | _ + 1, [] => []
  | n + 1, c :: rest => c :: if c = '\n' then insertLine n rest else insertLine (n + 1) rest

theorem dropLines_append_lf {piece : Text} (n : Nat) (rest : Text) (free : '\n' ∉ piece) :
    dropLines (n + 1) (piece ++ '\n' :: rest) = dropLines n rest := by
  induction piece with
  | nil => rw [List.nil_append, dropLines, if_pos rfl]
  | cons c more ih =>
    have notLf : c ≠ '\n' := fun same => free (by simp [same])
    rw [List.cons_append, dropLines, if_neg notLf, ih fun member => free (by simp [member])]

theorem insertLine_append_lf {piece : Text} (n : Nat) (rest : Text) (free : '\n' ∉ piece) :
    insertLine (n + 1) (piece ++ '\n' :: rest) = piece ++ '\n' :: insertLine n rest := by
  induction piece with
  | nil => rw [List.nil_append, insertLine, if_pos rfl, List.nil_append]
  | cons c more ih =>
    have notLf : c ≠ '\n' := fun same => free (by simp [same])
    rw [List.cons_append, insertLine, if_neg notLf, ih fun member => free (by simp [member]),
      List.cons_append]

theorem dropLines_of_lf_not_mem {t : Text} (n : Nat) (free : '\n' ∉ t) :
    dropLines (n + 1) t = [] := by
  induction t with
  | nil => rfl
  | cons c rest ih =>
    have notLf : c ≠ '\n' := fun same => free (by simp [same])
    rw [dropLines, if_neg notLf, ih fun member => free (by simp [member])]

/-- A text without a line feed is one line, if it is not empty. -/
theorem lines_of_lf_not_mem {t : Text} (free : '\n' ∉ t) :
    lines t = if t = [] then [] else [t] := by
  induction t with
  | nil => rfl
  | cons c rest ih =>
    have notLf : c ≠ '\n' := fun same => free (by simp [same])
    have freeRest : '\n' ∉ rest := fun member => free (by simp [member])
    have notCrLf : rest.head? ≠ some '\n' := fun first => freeRest (List.mem_of_head? first)
    rw [lines_cons notLf fun _ => notCrLf, ih freeRest, if_neg (List.cons_ne_nil c rest)]
    split
    next empty => rw [empty, consFirst]
    next => rw [consFirst]

/-- The lines that the pieces between line feeds are: a carriage return right before a line feed is
dropped, and what follows the last line feed is a line unless it is empty. -/
def linesOfPieces : List Text → List Text
  | [] => []
  | [last] => if last = [] then [] else [last]
  | piece :: others => dropCr piece :: linesOfPieces others

theorem lines_eq_linesOfPieces (t : Text) : lines t = linesOfPieces (splitAll '\n' t) := by
  induction t using lineInduction with
  | last t free => rw [lines_of_lf_not_mem free, splitAll_of_not_mem free, linesOfPieces]
  | line piece rest free ih =>
    rw [lines_append_lf rest free, splitAll_append rest free, ih]
    cases found : splitAll '\n' rest with
    | nil => exact absurd found (splitAll_ne_nil _ _)
    | cons next more => rfl

theorem lines_dropLines (n : Nat) (t : Text) : lines (dropLines n t) = (lines t).drop n := by
  induction n generalizing t with
  | zero => rw [dropLines, List.drop_zero]
  | succ n ih =>
    by_cases ended : '\n' ∈ t
    · obtain ⟨piece, rest, rfl, free⟩ := List.eq_append_cons_of_mem ended
      rw [dropLines_append_lf n rest free, ih, lines_append_lf rest free, List.drop_succ_cons]
    · rw [dropLines_of_lf_not_mem n ended, lines_of_lf_not_mem ended]
      split <;> simp [lines]

theorem takeLines_append_dropLines (n : Nat) (t : Text) : takeLines n t ++ dropLines n t = t := by
  induction t generalizing n with
  | nil => cases n <;> rfl
  | cons c rest ih =>
    cases n with
    | zero => rfl
    | succ n =>
      rw [takeLines, dropLines]
      split
      · rw [List.cons_append, ih]
      · rw [List.cons_append, ih]

theorem takeLines_append_lf {piece : Text} (n : Nat) (rest : Text) (free : '\n' ∉ piece) :
    takeLines (n + 1) (piece ++ '\n' :: rest) = piece ++ '\n' :: takeLines n rest := by
  have whole := takeLines_append_dropLines (n + 1) (piece ++ '\n' :: rest)
  rw [dropLines_append_lf n rest free] at whole
  have parts : (piece ++ '\n' :: takeLines n rest) ++ dropLines n rest = piece ++ '\n' :: rest := by
    rw [List.append_assoc, List.cons_append, takeLines_append_dropLines]
  exact List.append_cancel_right (whole.trans parts.symm)

theorem lines_takeLines (n : Nat) (t : Text) : lines (takeLines n t) = (lines t).take n := by
  induction n generalizing t with
  | zero => rw [takeLines, lines, List.take_zero]
  | succ n ih =>
    by_cases ended : '\n' ∈ t
    · obtain ⟨piece, rest, rfl, free⟩ := List.eq_append_cons_of_mem ended
      rw [takeLines_append_lf n rest free, lines_append_lf _ free, ih, lines_append_lf rest free,
        List.take_succ_cons]
    · have whole := takeLines_append_dropLines (n + 1) t
      rw [dropLines_of_lf_not_mem n ended, List.append_nil] at whole
      rw [whole, lines_of_lf_not_mem ended]
      split <;> simp

theorem lines_insertLine {n : Nat} {t : Text} (before : n < (lines t).length) :
    lines (insertLine n t) = (lines t).take n ++ [] :: (lines t).drop n := by
  induction n generalizing t with
  | zero => rw [insertLine, lines_lf]; rfl
  | succ n ih =>
    by_cases ended : '\n' ∈ t
    · obtain ⟨piece, rest, rfl, free⟩ := List.eq_append_cons_of_mem ended
      rw [lines_append_lf rest free] at before ⊢
      have beforeRest : n < (lines rest).length := Nat.lt_of_succ_lt_succ before
      rw [insertLine_append_lf n rest free, lines_append_lf _ free, ih beforeRest,
        List.take_succ_cons, List.drop_succ_cons, List.cons_append]
    · -- a text of a single line has no second one
      rw [lines_of_lf_not_mem ended] at before
      split at before <;> simp at before

end HttpCascade.Text

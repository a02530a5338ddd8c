import HttpCascade.Proofs.Request.Endings
import HttpCascade.Proofs.Template.Layout

/-!
# Headers files after a blank line

The headers of a headers file stand before its first blank line, so of a text that is cut before a
blank line only the part before the cut is read (`parseHeaders_of_blankLineAfter`). Filling keeps
the cut (`blankLineAfter_filled`): a blank line holds no placeholder and stays as it is, and the two
parts are filled by themselves. Whatever line feeds a value holds, it cannot bring the second part
into view.
-/

namespace HttpCascade

/-- After `head`, which is empty or ends with a line feed, the text goes on with a blank line, or
ends. -/
def Text.BlankLineAfter (head t : Text) : Prop :=
  (head = [] ∨ head.getLast? = some '\n') ∧
    ∃ blank rest, t = head ++ (blank ++ rest) ∧ blank.isBlank = true ∧ '\n' ∉ blank ∧
      (rest = [] ∨ rest.head? = some '\n')

/-- The two texts differ at most in what follows a blank line: the first one that they have, or any
later one. -/
def Text.SameToBlankLine (t t' : Text) : Prop :=
  t = t' ∨ ∃ head, BlankLineAfter head t ∧ BlankLineAfter head t'

variable {head t : Text}

theorem Text.BlankLineAfter.lines (after : BlankLineAfter head t) :
    t.lines = head.lines ∨
      ∃ blank rest, t.lines = head.lines ++ blank :: rest ∧ blank.isBlank = true := by
  obtain ⟨ended, blank, rest, rfl, isBlank, free, starts⟩ := after
  rw [lines_append ended]
  rcases starts with rfl | starts
  · -- The blank line is the last one and has no ending; if it is empty, it is no line.
    rw [List.append_nil, lines_of_lf_not_mem free]
    split
    · exact .inl (List.append_nil _)
    · exact .inr ⟨blank, [], rfl, isBlank⟩
  · obtain ⟨more, rfl⟩ := List.head?_eq_some_iff.mp starts
    rw [lines_append_lf more free]
    refine .inr ⟨dropCr blank, Text.lines more, rfl, ?_⟩
    exact isBlank_iff.mpr fun c member => isBlank_iff.mp isBlank c (mem_of_mem_dropCr member)

/-- Of a headers file, what follows a blank line is ignored. -/
theorem RequestText.parseHeaders_of_blankLineAfter (after : Text.BlankLineAfter head t) :
    parseHeaders t = parseHeaders head := by
  rw [parseHeaders_eq_map, parseHeaders_eq_map]
  rcases after.lines with same | ⟨blank, rest, lines, isBlank⟩
  · rw [same]
  · rw [lines, headers_append_blank _ isBlank]

namespace Template

theorem filled_append_of_ended (values : Variables) (ended : head = [] ∨ head.getLast? = some '\n')
    (rest : Text) : filled values (head ++ rest) = filled values head ++ filled values rest := by
  rcases ended with rfl | ended
  · rfl
  · obtain ⟨front, rfl⟩ := List.getLast?_eq_some_iff.mp ended
    rw [filled_append_space isSpace_lf, List.append_assoc, List.append_assoc, List.singleton_append,
      List.singleton_append, filled_append_separator (isSeparator_of_isSpace isSpace_lf)]

/-- The line feed that ends the part before the cut is still there, and so is the one behind the
blank line. -/
theorem blankLineAfter_filled (after : Text.BlankLineAfter head t) (values : Variables) :
    Text.BlankLineAfter (filled values head) (filled values t) := by
  obtain ⟨ended, blank, rest, rfl, isBlank, free, starts⟩ := after
  refine ⟨?_, blank, filled values rest, ?_, isBlank, free, ?_⟩
  · refine ended.imp (fun empty => by rw [empty, filled_nil]) fun ended => ?_
    obtain ⟨front, rfl⟩ := List.getLast?_eq_some_iff.mp ended
    rw [filled_append_space isSpace_lf, List.getLast?_concat]
  · rw [filled_append_of_ended values ended, filled_blank_append isBlank]
  · refine starts.imp (fun empty => by rw [empty, filled_nil]) fun starts => ?_
    obtain ⟨more, rfl⟩ := List.head?_eq_some_iff.mp starts
    rw [filled_cons_separator (isSeparator_of_isSpace isSpace_lf), List.head?_cons]

end Template

end HttpCascade

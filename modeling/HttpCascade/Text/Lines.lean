import HttpCascade.Text.Basic

/-!
# Lines

A line ends at a line feed, and a carriage return directly before the line feed belongs to the
ending. The text after the last line feed is a line of its own unless it is empty; a carriage
return at its end is kept.
-/

namespace HttpCascade.Text

/-- The lines of a text, without their endings. -/
def lines : Text → List Text
  | [] => []
  | '\n' :: rest => [] :: lines rest
  | '\r' :: '\n' :: rest => [] :: lines rest
  | c :: rest => consFirst c (lines rest)

/-- The lines with a line feed between each two. -/
def joinLines (ls : List Text) : Text := join ['\n'] ls

theorem lines_lf (rest : Text) : lines ('\n' :: rest) = [] :: lines rest := by
  rw [lines]

theorem lines_crlf (rest : Text) : lines ('\r' :: '\n' :: rest) = [] :: lines rest := by
  rw [lines]

/-- No line holds a line feed. -/
theorem lf_not_mem_of_mem_lines {t l : Text} (member : l ∈ lines t) : '\n' ∉ l := by
  fun_induction lines t generalizing l with
  | case1 => simp at member
  | case2 rest ih => rcases List.mem_cons.mp member with rfl | h <;> simp_all
  | case3 rest ih => rcases List.mem_cons.mp member with rfl | h <;> simp_all
  | case4 c rest notLf _ ih =>
    cases found : lines rest with
    | nil =>
      rw [found, consFirst, List.mem_singleton] at member
      subst member
      exact fun h => notLf (List.mem_singleton.mp h).symm
    | cons first others =>
      rw [found] at ih
      rw [found, consFirst] at member
      rcases List.mem_cons.mp member with rfl | h
      · exact fun h => (List.mem_cons.mp h).elim (fun e => notLf e.symm) (ih (by simp))
      · exact ih (List.mem_cons_of_mem _ h)

end HttpCascade.Text

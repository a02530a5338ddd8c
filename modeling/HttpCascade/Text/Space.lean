/-!
# White space

The characters that separate tokens, surround header names and values, and fill blank lines.
-/

namespace HttpCascade

/-- The Unicode property White_Space. -/
def isSpace (c : Char) : Bool :=
  let n := c.toNat
  (0x09 ≤ n && n ≤ 0x0D) || n == 0x20 || n == 0x85 || n == 0xA0 || n == 0x1680
    || (0x2000 ≤ n && n ≤ 0x200A) || n == 0x2028 || n == 0x2029 || n == 0x202F || n == 0x205F
    || n == 0x3000

theorem isSpace_lf : isSpace '\n' = true := by decide

theorem isSpace_cr : isSpace '\r' = true := by decide

/-- Every character that core calls white space is white space here. -/
theorem isSpace_of_isWhitespace (c : Char) (white : c.isWhitespace = true) : isSpace c = true := by
  simp only [Char.isWhitespace, Bool.or_eq_true, decide_eq_true_eq] at white
  rcases white with ((rfl | rfl) | rfl) | rfl <;> decide

end HttpCascade

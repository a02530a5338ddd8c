import HttpCascade.Text.Basic

/-!
# Character tables

Properties of characters are kept as short texts: a list of tokens such as `41-5A` for the range
from U+0041 to U+005A, and `41-5A>61` where the range maps to the characters from U+0061 on. This
module reads them.
-/

namespace HttpCascade.Unicode

/-- The value of a hexadecimal digit. -/
def hexDigit? (c : Char) : Option Nat :=
  if '0' ≤ c && c ≤ '9' then some (c.toNat - 0x30)
  else if 'A' ≤ c && c ≤ 'F' then some (c.toNat - 0x37)
  else if 'a' ≤ c && c ≤ 'f' then some (c.toNat - 0x57)
  else none

/-- The number that hexadecimal digits stand for; other characters count as zero. -/
def hexNumber (t : Text) : Nat := t.foldl (fun n c => 16 * n + (hexDigit? c).getD 0) 0

/-- An inclusive range of code points. -/
structure CodeRange where
  first : Nat
  last : Nat

namespace CodeRange

def contains (r : CodeRange) (n : Nat) : Bool := r.first ≤ n && n ≤ r.last

/-- Reads `41-5A`, or `41` for a single code point. -/
def ofText (t : Text) : CodeRange :=
  match t.splitOnce '-' with
  | some (first, last) => ⟨hexNumber first, hexNumber last⟩
  | none => ⟨hexNumber t, hexNumber t⟩

end CodeRange

/-- The ranges of a set of characters. -/
def rangesOf (table : String) : List CodeRange := (Text.words table.toList).map CodeRange.ofText

/-- A character is in one of the ranges. -/
def within (ranges : List CodeRange) (c : Char) : Bool := ranges.any fun r => r.contains c.toNat

/-- What the characters of a range map to: every `step`-th one, to `target` shifted by its distance
from the first if `target` is a single code point. -/
structure Mapping where
  range : CodeRange
  step : Nat
  target : List Nat

namespace Mapping

/-- Reads `41-5A>61`, `100-12E/2>101` or `DF>73.73`. -/
def ofText (t : Text) : Mapping :=
  let (source, target) := (t.splitOnce '>').getD (t, [])
  let (range, step) :=
    match source.splitOnce '/' with
    | some (range, step) => (range, hexNumber step)
    | none => (source, 1)
  ⟨CodeRange.ofText range, step, (target.splitAll '.').map hexNumber⟩

/-- The code points that a character maps to. -/
def image? (m : Mapping) (c : Char) : Option (List Nat) :=
  let n := c.toNat
  if m.range.contains n && (n - m.range.first) % m.step == 0 then
    match m.target with
    | [single] => some [single + (n - m.range.first)]
    | several => some several
  else none

end Mapping

/-- The mappings of a table. -/
def mappingsOf (table : String) : List Mapping := (Text.words table.toList).map Mapping.ofText

/-- What the first mapping that covers a character makes of it. -/
def mapped? (mappings : List Mapping) (c : Char) : Option Text :=
  (mappings.findSome? fun m => m.image? c).map fun ns => ns.map Char.ofNat

end HttpCascade.Unicode

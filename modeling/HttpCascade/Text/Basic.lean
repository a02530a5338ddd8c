import HttpCascade.Text.Space

/-!
# Text

Text is a list of characters, so that every reader in this library is a recursion on its input.
This module cuts text at separators and trims it; `HttpCascade.Text.Lines` cuts it into lines.
-/

namespace HttpCascade

/-- A sequence of Unicode characters. -/
abbrev Text := List Char

namespace Text

/-- The text as a string, for messages. -/
def str (t : Text) : String := String.ofList t

/-- Nothing but white space. -/
def isBlank (t : Text) : Bool := t.all isSpace

/-- Drops the white space at the front. -/
def trimStart (t : Text) : Text := t.dropWhile isSpace

/-- Drops the white space at the end. -/
def trimEnd : Text → Text
  | [] => []
  | c :: rest =>
    match trimEnd rest with
    | [] => if isSpace c then [] else [c]
    | kept => c :: kept

/-- Drops the white space at both ends. -/
def trim (t : Text) : Text := trimEnd (trimStart t)

/-- Splits at the first separator, which belongs to neither part. -/
def splitOnce (separator : Char) : Text → Option (Text × Text)
  | [] => none
  | c :: rest =>
    if c = separator then some ([], rest)
    else (splitOnce separator rest).map fun parts => (c :: parts.1, parts.2)

/-- Puts a character in front of the first of some pieces. -/
def consFirst (c : Char) : List Text → List Text
  | [] => [[c]]
  | piece :: pieces => (c :: piece) :: pieces

/-- The pieces between separators; there is one more piece than there are separators. -/
def splitAll (separator : Char) : Text → List Text
  | [] => [[]]
  | c :: rest =>
    if c = separator then [] :: splitAll separator rest
    else consFirst c (splitAll separator rest)

/-- The maximal runs without white space. -/
def words : Text → List Text
  | [] => []
  | [c] => if isSpace c then [] else [[c]]
  | c :: d :: rest =>
    if isSpace c then words (d :: rest)
    else if isSpace d then [c] :: words (d :: rest)
    else consFirst c (words (d :: rest))

/-- The pieces one after another with a separator between them. -/
def join (separator : Text) : List Text → Text
  | [] => []
  | [piece] => piece
  | piece :: pieces => piece ++ separator ++ join separator pieces

/-- The characters `A` to `Z` replaced by `a` to `z`. -/
def toLowerAscii (t : Text) : Text := t.map Char.toLower

/-- Equal but for the case of the letters `A` to `Z`. -/
def equalsIgnoringCase (s t : Text) : Bool := s.toLowerAscii == t.toLowerAscii

/-- The number of bytes that the text takes in UTF-8. -/
def byteLength : Text → Nat
  | [] => 0
  | c :: rest => c.utf8Size + byteLength rest

/-- The text is one of these. -/
def isOneOf (t : Text) (choices : List String) : Bool := (choices.map String.toList).contains t

/-- Two texts in the order of their characters' numbers, or equal ones. -/
def inOrder (s t : Text) : Bool := !decide (t < s)

/-- The decimal digits of a number. -/
def ofNat (n : Nat) : Text := Nat.toDigits 10 n

/-- One text occurs in another. -/
def occursIn (part : Text) : Text → Bool
  | [] => part.isEmpty
  | c :: rest => part.isPrefixOf (c :: rest) || occursIn part rest

@[simp] theorem splitAll_ne_nil (separator : Char) (t : Text) : splitAll separator t ≠ [] := by
  cases t with
  | nil => simp [splitAll]
  | cons c rest =>
    simp only [splitAll]
    split
    · simp
    · cases splitAll separator rest <;> simp [consFirst]

/-- Splitting loses nothing: the pieces joined by the separator are the text. -/
theorem join_splitAll (separator : Char) (t : Text) :
    join [separator] (splitAll separator t) = t := by
  induction t with
  | nil => rfl
  | cons c rest ih =>
    simp only [splitAll]
    split
    next same =>
      cases pieces : splitAll separator rest with
      | nil => exact absurd pieces (splitAll_ne_nil separator rest)
      | cons piece others => simp [join, ← pieces, ih, same]
    next =>
      cases pieces : splitAll separator rest with
      | nil => exact absurd pieces (splitAll_ne_nil separator rest)
      | cons piece others =>
        rw [pieces] at ih
        cases others <;> simp_all [join, consFirst]

/-- The two parts around the first separator, which the first part does not hold. -/
theorem splitOnce_eq_some_iff {separator : Char} {t front back : Text} :
    splitOnce separator t = some (front, back) ↔
      t = front ++ separator :: back ∧ separator ∉ front := by
  induction t generalizing front with
  | nil => simp [splitOnce]
  | cons c rest ih =>
    by_cases same : c = separator
    · subst same
      cases front with
      | nil => simp [splitOnce, eq_comm]
      | cons d ds => simp [splitOnce]; grind
    · cases front with
      | nil => simp [splitOnce, same]
      | cons d ds =>
        simp only [splitOnce, same, if_false, Option.map_eq_some_iff, Prod.exists, Prod.mk.injEq]
        constructor
        · rintro ⟨a, b, found, eq, rfl⟩
          obtain ⟨rfl, absent⟩ := ih.mp found
          grind
        · rintro ⟨eq, absent⟩
          injection eq with head tail
          exact ⟨ds, back, ih.mpr ⟨tail, fun h => absent (List.mem_cons_of_mem _ h)⟩, by
            simp [head], rfl⟩

end Text

/-- A string literal stands for the text of its characters. -/
instance : Coe String Text := ⟨String.toList⟩

end HttpCascade

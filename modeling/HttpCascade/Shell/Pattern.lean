import HttpCascade.Shell.Command

/-!
# Patterns

The patterns of file names, of `case` and of trimmed parameters: `*` for any text, `?` for any
character and brackets for one of several characters. A quoted character stands for itself.
-/

namespace HttpCascade.Shell

/-- A character of an expanded word, and whether it was quoted. -/
structure Glyph where
  char : Char
  quoted : Bool
  deriving DecidableEq, Repr

/-- What a bracket admits. -/
inductive Member where
  | range (first last : Char)
  | class (name : Text)
  deriving DecidableEq, Repr

/-- A part of a pattern. -/
inductive PatternItem where
  | char (c : Char)
  | anyChar
  | anyText
  | oneOf (negated : Bool) (members : List Member)
  deriving DecidableEq, Repr

abbrev Pattern := List PatternItem

namespace Pattern

/-- A character belongs to a named class. -/
def isInClass (name : Text) (c : Char) : Bool :=
  if name = "alpha" then c.isAlpha
  else if name = "digit" then c.isDigit
  else if name = "alnum" then c.isAlphanum
  else if name = "upper" then c.isUpper
  else if name = "lower" then c.isLower
  else if name = "space" then c ∈ [' ', '\t', '\n', '\r', '\x0b', '\x0c']
  else if name = "blank" then c ∈ [' ', '\t']
  else if name = "punct" then 0x21 ≤ c.toNat && c.toNat ≤ 0x7E && !c.isAlphanum
  else if name = "xdigit" then c.isDigit || ('a' ≤ c && c ≤ 'f') || ('A' ≤ c && c ≤ 'F')
  else if name = "cntrl" then c.toNat < 0x20 || c.toNat = 0x7F
  else if name = "print" then 0x20 ≤ c.toNat && c.toNat ≤ 0x7E
  else if name = "graph" then 0x21 ≤ c.toNat && c.toNat ≤ 0x7E
  else false

def Member.admits (c : Char) : Member → Bool
  | .range first last => first ≤ c && c ≤ last
  | .class name => isInClass name c

/-- The class that a bracket names at the front, and what follows it. -/
def classAtStart? (gs : List Glyph) : Option (Text × List Glyph) :=
  match gs with
  | ⟨'[', false⟩ :: ⟨':', _⟩ :: rest =>
    let name := (rest.takeWhile (·.char ≠ ':')).map Glyph.char
    match rest.drop name.length with
    | ⟨':', _⟩ :: ⟨']', _⟩ :: rest => some (name, rest)
    | _ => none
  | _ => none

/-- The members of a bracket up to its end, and what follows it; the first number bounds its
length. -/
def bracketMembers : Nat → (isFirst : Bool) → List Glyph → Option (List Member × List Glyph)
  | 0, _, _ | _, _, [] => none
  | n + 1, isFirst, g :: rest =>
    if g.char = ']' && !g.quoted && !isFirst then some ([], rest)
    else
      match classAtStart? (g :: rest), rest with
      | some (name, after), _ =>
        (bracketMembers n false after).map fun (ms, r) => (.class name :: ms, r)
      | none, ⟨'-', false⟩ :: last :: after =>
        if last.char = ']' && !last.quoted then
          (bracketMembers n false rest).map fun (ms, r) => (.range g.char g.char :: ms, r)
        else (bracketMembers n false after).map fun (ms, r) => (.range g.char last.char :: ms, r)
      | none, _ =>
        (bracketMembers n false rest).map fun (ms, r) => (.range g.char g.char :: ms, r)

/-- A bracket: whether it is negated, its members and what follows it. -/
def bracket (gs : List Glyph) : Option (PatternItem × List Glyph) :=
  match gs with
  | ⟨'!', false⟩ :: rest | ⟨'^', false⟩ :: rest =>
    (bracketMembers gs.length true rest).map fun (ms, r) => (.oneOf true ms, r)
  | _ => (bracketMembers gs.length true gs).map fun (ms, r) => (.oneOf false ms, r)

/-- The pattern of an expanded word; the first number bounds its length. -/
def ofGlyphsWithin : Nat → List Glyph → Pattern
  | 0, _ => []
  | _, [] => []
  | n + 1, g :: rest =>
    if g.quoted then .char g.char :: ofGlyphsWithin n rest
    else if g.char = '*' then .anyText :: ofGlyphsWithin n rest
    else if g.char = '?' then .anyChar :: ofGlyphsWithin n rest
    else if g.char = '[' then
      match bracket rest with
      | some (item, after) => item :: ofGlyphsWithin n after
      | none => .char '[' :: ofGlyphsWithin n rest
    else .char g.char :: ofGlyphsWithin n rest

def ofGlyphs (gs : List Glyph) : Pattern := ofGlyphsWithin gs.length gs

/-- The pattern holds something other than characters. -/
def isProper (p : Pattern) : Bool :=
  p.any fun item => match item with
    | .char _ => false
    | _ => true

def admits (c : Char) : PatternItem → Bool
  | .char d => c = d
  | .anyChar | .anyText => true
  | .oneOf negated members => (members.any (Member.admits c)) != negated

/-- A text as a whole has the form of a pattern. -/
def isMatch : Pattern → Text → Bool
  | [], t => t.isEmpty
  | .anyText :: items, [] => isMatch items []
  | .anyText :: items, c :: t => isMatch items (c :: t) || isMatch (.anyText :: items) t
  | _ :: _, [] => false
  | item :: items, c :: t => admits c item && isMatch items t
termination_by p t => p.length + t.length

/-- The text without the shortest or longest start that has the form of a pattern. -/
def dropStart (p : Pattern) (longest : Bool) (t : Text) : Text :=
  let lengths := List.range (t.length + 1)
  match (if longest then lengths.reverse else lengths).find? fun n => isMatch p (t.take n) with
  | some n => t.drop n
  | none => t

/-- The text without the shortest or longest end that has the form of a pattern. -/
def dropEnd (p : Pattern) (longest : Bool) (t : Text) : Text :=
  let lengths := List.range (t.length + 1)
  match (if longest then lengths else lengths.reverse).find? fun n => isMatch p (t.drop n) with
  | some n => t.take n
  | none => t

end Pattern

end HttpCascade.Shell

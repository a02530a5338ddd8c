import HttpCascade.Text.Utf8
import HttpCascade.Unicode.Printable

/-!
# Places in a JSON text

A reader of JSON goes through a text from front to back and counts lines from one and the bytes of a
line from one. An error names the place that the reader had come to, or the byte after it where the
reader had only looked ahead.
-/

namespace HttpCascade.Json

/-- How many lines and how many bytes of the last line lie before a place. -/
structure Position where
  line : Nat
  column : Nat
  deriving DecidableEq, Repr

namespace Position

def start : Position := ⟨1, 0⟩

/-- The place after a character. -/
def after (p : Position) (c : Char) : Position :=
  if c = '\n' then ⟨p.line + 1, 0⟩ else ⟨p.line, p.column + c.utf8Size⟩

/-- The place after the first byte of a character. -/
def intoChar (p : Position) (c : Char) : Position :=
  if c = '\n' then ⟨p.line + 1, 0⟩ else ⟨p.line, p.column + 1⟩

/-- The place after some bytes. -/
def afterBytes (p : Position) (bytes : List UInt8) : Position :=
  bytes.foldl (fun p b => if b = 10 then ⟨p.line + 1, 0⟩ else ⟨p.line, p.column + 1⟩) p

end Position

/-- What was found where something else was wanted. -/
inductive Found where
  | null
  | boolean (b : Bool)
  | integer (n : Int)
  | float (written : Text)
  | text (t : Text)
  | sequence
  | map
  deriving DecidableEq, Repr

def Found.describe : Found → String
  | null => "null"
  | boolean b => s!"boolean \x60{b}\x60"
  | integer n => s!"integer \x60{n}\x60"
  | float written => s!"floating point \x60{written.str}\x60"
  | text t => s!"string {(Unicode.quote t).str}"
  | sequence => "sequence"
  | map => "map"

/-- What is wrong with a JSON text. -/
inductive Fault where
  | endInList
  | endInObject
  | endInString
  | endInValue
  | expectedColon
  | expectedListEnd
  | expectedObjectEnd
  | expectedWord
  | expectedValue
  | invalidEscape
  | invalidNumber
  | numberOutOfRange
  | controlCharacter
  | keyNotAString
  | loneSurrogate
  | endOfHexEscape
  | trailingComma
  | trailingCharacters
  | invalidType (found : Found) (expected : String)
  | invalidValue (found : Found) (expected : String)
  | invalidLength (length : Nat) (expected : String)
  | unknownVariant (name : Text) (known : List String)
  | missingField (name : String)
  | duplicateField (name : String)
  deriving DecidableEq, Repr

namespace Fault

def ticked (s : String) : String := "\x60" ++ s ++ "\x60"

def message : Fault → String
  | endInList => "EOF while parsing a list"
  | endInObject => "EOF while parsing an object"
  | endInString => "EOF while parsing a string"
  | endInValue => "EOF while parsing a value"
  | expectedColon => "expected " ++ ticked ":"
  | expectedListEnd => "expected " ++ ticked "," ++ " or " ++ ticked "]"
  | expectedObjectEnd => "expected " ++ ticked "," ++ " or " ++ ticked "\x7d"
  | expectedWord => "expected ident"
  | expectedValue => "expected value"
  | invalidEscape => "invalid escape"
  | invalidNumber => "invalid number"
  | numberOutOfRange => "number out of range"
  | controlCharacter => "control character (\\u0000-\\u001F) found while parsing a string"
  | keyNotAString => "key must be a string"
  | loneSurrogate => "lone leading surrogate in hex escape"
  | endOfHexEscape => "unexpected end of hex escape"
  | trailingComma => "trailing comma"
  | trailingCharacters => "trailing characters"
  | invalidType found expected => s!"invalid type: {found.describe}, expected {expected}"
  | invalidValue found expected => s!"invalid value: {found.describe}, expected {expected}"
  | invalidLength length expected => s!"invalid length {length}, expected {expected}"
  | unknownVariant name known =>
    "unknown variant " ++ ticked name.str ++ ", expected one of " ++
      ", ".intercalate (known.map ticked)
  | missingField name => "missing field " ++ ticked name
  | duplicateField name => "duplicate field " ++ ticked name

end Fault

/-- A fault and its place. -/
structure JsonError where
  fault : Fault
  position : Position
  deriving DecidableEq, Repr

def JsonError.message (e : JsonError) : String :=
  s!"{e.fault.message} at line {e.position.line} column {e.position.column}"

/-- A place in a text and the text from there on. -/
structure Cursor where
  position : Position
  rest : Text
  deriving DecidableEq, Repr

/-- The result of reading something: the thing and the place after it. -/
abbrev Result (α : Type) := Except JsonError (α × Cursor)

namespace Cursor

def ofText (t : Text) : Cursor := ⟨.start, t⟩

/-- The place after some characters of the rest. -/
def advance (c : Cursor) (count : Nat) : Cursor :=
  ⟨(c.rest.take count).foldl Position.after c.position, c.rest.drop count⟩

/-- A fault at this place. -/
def fail {α : Type} (c : Cursor) (fault : Fault) : Except JsonError α := .error ⟨fault, c.position⟩

/-- A fault at the next byte, which has been looked at but not read. -/
def failAhead {α : Type} (c : Cursor) (fault : Fault) : Except JsonError α :=
  match c.rest with
  | [] => .error ⟨fault, c.position⟩
  | next :: _ => .error ⟨fault, c.position.intoChar next⟩

def isSpace (c : Char) : Bool := c == ' ' || c == '\n' || c == '\t' || c == '\r'

/-- The place after the space in front of the rest. -/
def skipSpaceFrom (p : Position) : Text → Cursor
  | [] => ⟨p, []⟩
  | c :: rest => if isSpace c then skipSpaceFrom (p.after c) rest else ⟨p, c :: rest⟩

def skipSpace (c : Cursor) : Cursor := skipSpaceFrom c.position c.rest

/-- The decimal digits in front of the rest, and the place after them. -/
def takeDigits (c : Cursor) : Text × Cursor :=
  let digits := c.rest.takeWhile Char.isDigit
  (digits, c.advance digits.length)

end Cursor

end HttpCascade.Json

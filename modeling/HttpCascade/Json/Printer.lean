import HttpCascade.NameMap

/-!
# Writing JSON

JSON values that records are written as, on one line or indented by two spaces a level.
-/

namespace HttpCascade.Json

/-- The values that records are made of. -/
inductive Value where
  | null
  | boolean (b : Bool)
  | number (n : Nat)
  | text (t : Text)
  | object (members : List (Text × Value))

/-- A character of a string. -/
def writeChar (c : Char) : Text :=
  if c = '"' then ['\\', '"']
  else if c = '\\' then ['\\', '\\']
  else if c = '\n' then ['\\', 'n']
  else if c = '\r' then ['\\', 'r']
  else if c = '\t' then ['\\', 't']
  else if c = '\x08' then ['\\', 'b']
  else if c = '\x0c' then ['\\', 'f']
  else if c.toNat < 0x20 then
    ['\\', 'u', '0', '0', Nat.digitChar (c.toNat / 16), Nat.digitChar (c.toNat % 16)]
  else [c]

/-- A string between its quotes. -/
def writeString (t : Text) : Text := '"' :: t.flatMap writeChar ++ ['"']

mutual

/-- A value on one line. -/
def Value.compact : Value → Text
  | .null => "null"
  | .boolean true => "true"
  | .boolean false => "false"
  | .number n => Text.ofNat n
  | .text t => writeString t
  | .object members => '{' :: compactMembers members ++ ['}']

/-- Members with commas between them. -/
def compactMembers : List (Text × Value) → Text
  | [] => []
  | [(name, value)] => writeString name ++ ':' :: value.compact
  | (name, value) :: rest => writeString name ++ ':' :: value.compact ++ ',' :: compactMembers rest

end

/-- A line break and the indentation of a level. -/
def newLine (level : Nat) : Text := '\n' :: List.replicate (2 * level) ' '

mutual

/-- A value with a line for each member. -/
def Value.pretty (level : Nat) : Value → Text
  | .object [] => ['{', '}']
  | .object members => '{' :: prettyMembers (level + 1) members ++ newLine level ++ ['}']
  | .null => "null"
  | .boolean true => "true"
  | .boolean false => "false"
  | .number n => Text.ofNat n
  | .text t => writeString t

/-- Members on lines of their own. -/
def prettyMembers (level : Nat) : List (Text × Value) → Text
  | [] => []
  | [(name, value)] => newLine level ++ writeString name ++ [':', ' '] ++ value.pretty level
  | (name, value) :: rest =>
    newLine level ++ writeString name ++ [':', ' '] ++ value.pretty level ++
      ',' :: prettyMembers level rest

end

end HttpCascade.Json

import HttpCascade.Text.Basic

/-!
# Shell commands

The commands of a shell script as they are written, before any expansion.

Inside the shell a text is a string of bytes: each character stands for the byte of its number.
-/

namespace HttpCascade.Shell

/-- What is done with the value of a parameter. -/
inductive ParameterUse where
  | value
  | length
  /-- Another text if the parameter is unset, or also if it is empty. -/
  | default (orEmpty : Bool)
  | assign (orEmpty : Bool)
  | require (orEmpty : Bool)
  /-- Another text if the parameter is set, or only if it is not empty. -/
  | alternative (orEmpty : Bool)
  | dropEnd (longest : Bool)
  | dropStart (longest : Bool)
  /-- A use that no shell knows. -/
  | bad
  deriving DecidableEq, Repr

/-- Where a redirection leads. -/
inductive RedirectionKind where
  | read
  | write
  /-- Writes even over a file that should be kept. -/
  | overwrite
  | append
  | readWrite
  | duplicate
  | here
  deriving DecidableEq, Repr

mutual

/-- A part of a word. -/
inductive Part where
  | text (t : Text) (quoted : Bool)
  | parameter (name : Text) (use : ParameterUse) (argument : List Part) (quoted : Bool)
  | substitution (commands : List Command) (quoted : Bool)
  | arithmetic (expression : List Part) (quoted : Bool)

/-- A redirection of a file descriptor. -/
inductive Redirection where
  | mk (descriptor : Nat) (kind : RedirectionKind) (target : List Part)

/-- A command. -/
inductive Command where
  /-- Assignments, a name with arguments, and redirections; the number is that of its line. -/
  | simple (line : Nat) (assignments : List (Text × List Part)) (words : List (List Part))
      (redirections : List Redirection)
  | pipeline (commands : List Command)
  | negation (c : Command)
  | both (first second : Command)
  | either (first second : Command)
  | sequence (commands : List Command)
  | background (c : Command)
  | subshell (c : Command)
  | conditional (condition consequence alternative : Command)
  | loop (untilTrue : Bool) (condition body : Command)
  | iteration (name : Text) (words : Option (List (List Part))) (body : Command)
  | choice (subject : List Part) (arms : List (List (List Part) × Command))
  | definition (name : Text) (body : Command)
  | redirected (c : Command) (redirections : List Redirection)

end

/-- Parts that expand to one text or to several. -/
abbrev Word := List Part

instance : Inhabited Command := ⟨.sequence []⟩

/-- A character that may stand in a variable's name. -/
def isNameChar (c : Char) : Bool := c.isAlphanum || c == '_'

/-- A variable's name. -/
def isName : Text → Bool
  | [] => false
  | c :: rest => (c.isAlpha || c == '_') && rest.all isNameChar

/-- The number that decimal digits stand for. -/
def decimal? (t : Text) : Option Nat :=
  if t ≠ [] && t.all Char.isDigit then some (t.foldl (fun n c => 10 * n + (c.toNat - 48)) 0)
  else none

/-- A number with an optional sign. -/
def integer? (t : Text) : Option Int :=
  match t with
  | '-' :: rest => (decimal? rest).map fun n => -Int.ofNat n
  | '+' :: rest => (decimal? rest).map Int.ofNat
  | _ => (decimal? t).map Int.ofNat

def ofInt (n : Int) : Text :=
  if n < 0 then '-' :: Text.ofNat n.natAbs else Text.ofNat n.natAbs

end HttpCascade.Shell

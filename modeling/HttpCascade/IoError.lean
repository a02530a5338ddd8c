import HttpCascade.Text.Basic

/-!
# Failures of the system

The ways in which reading and writing files can fail, in the words of the system.
-/

namespace HttpCascade

/-- Why the system could not do something. -/
inductive IoError where
  | notFound
  | permissionDenied
  | alreadyExists
  | notADirectory
  | isADirectory
  | noSpace
  | nameTooLong
  | notEmpty
  | tooManyLinks
  | badExecutable
  | invalidUtf8
  | nulInName
  | nulInArgument
  | emptyPath
  | other (message : Text)
  deriving DecidableEq, Repr

namespace IoError

/-- The text and the number of a failure that the system has a number for. -/
def code? : IoError → Option (String × Nat)
  | notFound => some ("No such file or directory", 2)
  | badExecutable => some ("Exec format error", 8)
  | permissionDenied => some ("Permission denied", 13)
  | alreadyExists => some ("File exists", 17)
  | notADirectory => some ("Not a directory", 20)
  | isADirectory => some ("Is a directory", 21)
  | noSpace => some ("No space left on device", 28)
  | nameTooLong => some ("File name too long", 36)
  | notEmpty => some ("Directory not empty", 39)
  | tooManyLinks => some ("Too many levels of symbolic links", 40)
  | _ => none

def message (e : IoError) : String :=
  match e.code? with
  | some (text, number) => s!"{text} (os error {number})"
  | none =>
    match e with
    | invalidUtf8 => "stream did not contain valid UTF-8"
    | nulInName => "file name contained an unexpected NUL byte"
    | nulInArgument => "nul byte found in provided data"
    | emptyPath => "cannot make an empty path absolute"
    | other text => text.str
    | _ => ""

end IoError

end HttpCascade

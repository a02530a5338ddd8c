import HttpCascade.NameMap

/-!
# Configuration

The names of the reserved files of a directory and how its script is run.
-/

namespace HttpCascade

/-- The settings. -/
structure Config where
  /-- The file whose headers apply to the requests in its directory and below. -/
  headersFileName : Text := "_headers.http"
  /-- The script whose exports apply to its directory and below. -/
  beforeScriptFileName : Text := "_before.sh"
  /-- The program that runs scripts. -/
  shell : Text := "/bin/sh"
  /-- How many seconds a script may take; zero for no limit. -/
  scriptTimeoutSecs : UInt64 := 30
  /-- The command line fills placeholders in bodies without being told to. -/
  expandBodyVariables : Bool := false
  deriving DecidableEq, Repr

/-- What is wrong with a configuration. -/
inductive ConfigFault where
  | emptyName (setting : String)
  | notAPlainName (setting : String) (name : Text)
  | sameNames
  | noShell
  deriving DecidableEq, Repr

def ConfigFault.message : ConfigFault → String
  | emptyName setting => s!"{setting} must not be empty"
  | notAPlainName setting name => s!"{setting} must be a plain file name, got '{name.str}'"
  | sameNames => "headersFileName and beforeScriptFileName must differ"
  | noShell => "shell must not be empty"

namespace Config

/-- A name that can stand for a file in any directory. -/
def isPlainName (name : Text) : Bool :=
  name ≠ [] && '/' ∉ name && '\\' ∉ name && name ≠ ['.'] && name ≠ ['.', '.']

/-- The fault of a reserved name. -/
def nameFault? (setting : String) (name : Text) : Option ConfigFault :=
  if name = [] then some (.emptyName setting)
  else if isPlainName name then none
  else some (.notAPlainName setting name)

/-- The first fault of a configuration. -/
def fault? (c : Config) : Option ConfigFault :=
  (nameFault? "headersFileName" c.headersFileName).or <|
    (nameFault? "beforeScriptFileName" c.beforeScriptFileName).or <|
      if c.headersFileName = c.beforeScriptFileName then some .sameNames
      else if c.shell.isBlank then some .noShell
      else none

def isValid (c : Config) : Bool := c.fault?.isNone

/-- How many milliseconds a script may take. -/
def timeout? (c : Config) : Option Nat :=
  if c.scriptTimeoutSecs = 0 then none else some (c.scriptTimeoutSecs.toNat * 1000)

end Config

end HttpCascade

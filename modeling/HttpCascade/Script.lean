import HttpCascade.IoError
import HttpCascade.NameMap
import HttpCascade.Text.Lines

/-!
# Before-scripts

What a directory's script leaves behind: its output, the variables that the output exports, or the
reason why there is none.
-/

namespace HttpCascade

/-- What a script wrote. -/
structure ScriptOutput where
  stdout : Text
  stderr : Text
  deriving DecidableEq, Repr

/-- The name and the value that a line exports. -/
def exportLine? (line : Text) : Option (Text × Text) := line.splitOnce '='

/-- The variables that a script's output exports: one on each line with a `=`, the value after the
first `=`. Later lines count. -/
def exports (stdout : Text) : Variables := NameMap.ofList (stdout.lines.filterMap exportLine?)

/-- The variables that a script exports. -/
def ScriptOutput.bindings (o : ScriptOutput) : Variables := exports o.stdout

/-- Why a script left no output. -/
inductive ScriptError where
  /-- The shell did not start. -/
  | spawn (shell : Text) (cause : IoError)
  /-- The script ended with a status other than zero, or by a signal. -/
  | exit (status : Option Int) (stderr : Text)
  /-- The script took longer than it may. -/
  | timeout (milliseconds : Nat) (stderr : Text)
  /-- The output could not be had. -/
  | io (cause : IoError)
  deriving DecidableEq, Repr

namespace ScriptError

def describeStatus : Option Int → String
  | some status => s!"status {status}"
  | none => "no status (terminated by signal)"

def message : ScriptError → String
  | spawn shell cause => s!"unable to start shell '{shell.str}': {cause.message}"
  | exit status stderr => s!"script exited with {describeStatus status}\n{stderr.trimEnd.str}"
  | timeout milliseconds stderr =>
    s!"script timed out after {milliseconds / 1000}s\n{stderr.trimEnd.str}"
  | io cause => s!"unable to capture script output: {cause.message}"

/-- The failure below this one. -/
def cause? : ScriptError → Option IoError
  | spawn _ cause | io cause => some cause
  | _ => none

end ScriptError

end HttpCascade

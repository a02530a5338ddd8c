import HttpCascade.Files.Basic
import HttpCascade.Json.Records

/-!
# Configuration files

A configuration is read from a JSON file, or is the default one if there is no file, and is used
only if it has no fault.
-/

namespace HttpCascade

/-- Why there is no configuration. -/
inductive ConfigError where
  | io (path : Path) (cause : IoError)
  | json (path : Path) (cause : Json.JsonError)
  | invalid (fault : ConfigFault)

namespace ConfigError

def message : ConfigError → String
  | io path cause => s!"unable to read config file {path.str}: {cause.message}"
  | json path cause => s!"unable to parse config file {path.str}: {cause.message}"
  | invalid fault => s!"invalid configuration: {fault.message}"

/-- The messages of the failures below this one. -/
def causes : ConfigError → List String
  | io _ cause => [cause.message]
  | json _ cause => [cause.message]
  | invalid _ => []

end ConfigError

namespace Config

/-- A configuration without a fault. -/
def checked (c : Config) : Except ConfigError Config :=
  match c.fault? with
  | some fault => .error (.invalid fault)
  | none => .ok c

/-- The configuration that a file's text holds. -/
def ofFile (path : Path) (t : Text) : Except ConfigError Config :=
  match Config.parse t with
  | .error e => .error (.json path e)
  | .ok c => c.checked

/-- The configuration of a file, or the default one. -/
def load {m : Type → Type} [Monad m] (files : Files m) (path : Option Path) :
    m (Except ConfigError Config) :=
  match path with
  | none => return checked {}
  | some path => do
    match ← files.readText path with
    | .error e => return .error (.io path e)
    | .ok t => return ofFile path t

end Config

end HttpCascade

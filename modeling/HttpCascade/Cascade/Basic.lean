import HttpCascade.Cascade.Error
import HttpCascade.Config
import HttpCascade.Log

/-!
# The cascade

A request file is completed by the directories on the way to it. Each of them, from the root to
that of the file, may hold a script whose exports become variables and a headers file whose headers
apply below it. What a directory exports is there for its own headers file, for every directory
below it and for the request file; of two values the one nearer to the file counts.

The outside world is reached through `Capabilities` alone, and `Cascade.resolve` is the same function
over every monad that has them.
-/

namespace HttpCascade

/-- What a resolution may ask of the outside world. -/
structure Capabilities (m : Type → Type) where
  /-- The names of the files directly in a directory. -/
  listFiles : Path → m (Except IoError (List Text))
  /-- The text of a file. -/
  readText : Path → m (Except IoError Text)
  /-- Runs the script of a directory. -/
  runScript : Path → m (Except ScriptError ScriptOutput)
  /-- Takes note of a record. -/
  log : LogRecord → m Unit

namespace Request

/-- A header with its value filled, or the header that cannot be. -/
def fillHeader (values : Variables) (entry : Text × Text) :
    Except (ExpansionField × ExpansionError) (Text × Text) :=
  match expand entry.2 values with
  | .ok value => .ok (entry.1, value)
  | .error e => .error (.header entry.1, e)

/-- A body with its placeholders filled if it is to be. -/
def fillBody (values : Variables) (expandBody : Bool) (body : Text) :
    Except (ExpansionField × ExpansionError) Text :=
  if expandBody then (expand body values).mapError fun e => (.body, e) else .ok body

/-- Fills the placeholders of the URL, then of the header values in name order, then of the body if
it is to be filled. The first part that lacks a value is named. -/
def expand (r : Request) (values : Variables) (expandBody : Bool) :
    Except (ExpansionField × ExpansionError) Request := do
  let url ← (HttpCascade.expand r.url values).mapError fun e => (.url, e)
  let headers ← r.headers.entries.mapM (fillHeader values)
  let body ← fillBody values expandBody r.body
  return { r with url, headers := NameMap.ofList headers, body }

end Request

namespace Cascade

/-- What the directories so far have contributed. -/
structure Scope where
  bindings : Variables
  headers : Headers
  deriving DecidableEq

/-! ### Decisions

The files' contents decide these, without the outside world. -/

/-- The directories on the way to a target. -/
def directories (root target : Path) : Except ResolveError (List Path) :=
  match Path.cascade? root target with
  | some directories => .ok directories
  | none => .error (.notUnderRoot root target)

/-- The headers of a headers file whose placeholders are filled before it is read. -/
def headersOf (file : Path) (text : Text) (bindings : Variables) : Except ResolveError Headers := do
  let filled ← (expand text bindings).mapError (.expansion file .headers)
  (RequestText.parseHeaders filled).mapError (.parse file)

/-- The request of a request file, which is read before its placeholders are filled. -/
def requestOf (file : Path) (text : Text) (bindings : Variables) (expandBody : Bool) :
    Except ResolveError Request := do
  let request ← (RequestText.parse text).mapError (.parse file)
  let filled ← (request.expand bindings expandBody).mapError fun e => .expansion file e.1 e.2
  (Url.validate filled.url).mapError (.invalidUrl file filled.url)
  return filled

/-- The request with the headers of the directories beneath its own. -/
def layBeneath (headers : Headers) (r : Request) : Request :=
  { r with headers := headers.merge r.headers }

/-! ### Records -/

def resolving (target : Path) (count : Nat) : LogRecord where
  level := .info
  source := .resolver
  text := s!"resolving {target.str} through {count} " ++
    (if count = 1 then "directory" else "directories")

def wroteToStderr (script : Path) (stderr : Text) : LogRecord where
  level := .warn
  source := .resolver
  text := s!"{script.str} wrote to stderr: {stderr.trimEnd.str}"

def exported (script : Path) (count : Nat) : LogRecord where
  level := .debug
  source := .resolver
  text := s!"{script.str} exported {count} variable(s)"

def contributed (file : Path) (count : Nat) : LogRecord where
  level := .debug
  source := .resolver
  text := s!"{file.str} contributed {count} header(s)"

/-! ### The walk -/

variable {m : Type → Type} [Monad m]

/-- A result of the outside world, whose failure ends the resolution. -/
def attempt {ε α : Type} (fault : ε → ResolveError) (action : m (Except ε α)) :
    ExceptT ResolveError m α :=
  ExceptT.mk do return (← action).mapError fault

/-- Runs the script of a directory and takes over its exports. -/
def runScript (world : Capabilities m) (directory script : Path) (scope : Scope) :
    ExceptT ResolveError m Scope := do
  let output ← attempt (.script directory script) (world.runScript script)
  if !output.stderr.isBlank then world.log (wroteToStderr script output.stderr)
  world.log (exported script output.bindings.size)
  return { scope with bindings := scope.bindings.merge output.bindings }

/-- Reads the headers file of a directory and takes over its headers. -/
def readHeaders (world : Capabilities m) (file : Path) (scope : Scope) :
    ExceptT ResolveError m Scope := do
  let text ← attempt (.filesystem file) (world.readText file)
  let headers ← headersOf file text scope.bindings
  world.log (contributed file headers.size)
  return { scope with headers := scope.headers.merge headers }

/-- Takes over what a directory contributes: first its script, then its headers file. -/
def visit (world : Capabilities m) (config : Config) (scope : Scope) (directory : Path) :
    ExceptT ResolveError m Scope := do
  let files ← attempt (.filesystem directory) (world.listFiles directory)
  let scope ←
    if files.contains config.beforeScriptFileName then
      runScript world directory (directory.join ⟨config.beforeScriptFileName⟩) scope
    else pure scope
  if files.contains config.headersFileName then
    readHeaders world (directory.join ⟨config.headersFileName⟩) scope
  else return scope

/-- Reads the request file and fills its placeholders. -/
def readRequest (world : Capabilities m) (target : Path) (bindings : Variables)
    (expandBody : Bool) : ExceptT ResolveError m Request := do
  let text ← attempt (.filesystem target) (world.readText target)
  requestOf target text bindings expandBody

/-- The complete request of the file `target` below `root`, starting from the variables `initial`.
Nothing is asked of the outside world unless the target is below the root. -/
def resolve (world : Capabilities m) (config : Config) (root target : Path) (initial : Variables)
    (expandBody : Bool) : ExceptT ResolveError m Request := do
  let directories ← directories root target
  world.log (resolving target directories.length)
  let scope ← directories.foldlM (visit world config) ⟨initial, ∅⟩
  let request ← readRequest world target scope.bindings expandBody
  return layBeneath scope.headers request

end Cascade

end HttpCascade

import HttpCascade.CommandLine.LogFilter
import HttpCascade.CommandLine.Options
import HttpCascade.ConfigFile
import HttpCascade.Curl
import HttpCascade.Launcher
import HttpCascade.Scaffold

/-!
# Tasks

`build` resolves a request, lays a patch over it, replaces its body and writes it, in this order:
what can fail before the output is opened fails before it is touched. `init` writes a starter tree.
-/

namespace HttpCascade

/-- What the program can reach. -/
structure System (m : Type → Type) where
  files : Files m
  /-- The current directory. -/
  directory : Path
  /-- The names and values of the environment. -/
  environment : List (Text × Bytes)
  readInput : m Bytes
  writeOutput : Bytes → m Unit
  writeErrors : Bytes → m Unit
  /-- Takes note of a record. -/
  log : LogRecord → m Unit

namespace System

variable {m : Type → Type} [Monad m]

/-- The variables of the environment, of which the value is UTF-8. -/
def bindings (s : System m) : Variables :=
  NameMap.ofList (s.environment.filterMap fun (name, value) =>
    (Utf8.decode? value).map fun t => (name, t))

/-- The capabilities of a resolution with a configuration. -/
def capabilities (s : System m) (c : Config) : Capabilities m :=
  s.files.capabilities
    ((Launcher.ofConfig c).run s.files s.environment s.log s.directory) s.log

end System

namespace CommandLine

/-- Why a task failed. -/
inductive TaskError where
  | config (e : ConfigError)
  | noDirectory (path : Path)
  | noFile (path : Path)
  | resolve (e : ResolveError)
  | patchUnreadable (path : Path) (cause : IoError)
  | patchInvalid (path : Path) (cause : ParseError)
  | inputUnreadable (cause : IoError)
  | bodyUnreadable (source : Text) (cause : IoError)
  | outputNotMade (target : Text) (cause : IoError)
  | outputNotWritten (cause : IoError)
  | scaffold (e : ScaffoldError)

/-- The message of a failure and those of the failures below it. -/
def TaskError.chain : TaskError → List String
  | config e => e.message :: e.causes
  | noDirectory path => [s!"invalid directory {path.str}", IoError.emptyPath.message]
  | noFile path => [s!"invalid file path {path.str}", IoError.emptyPath.message]
  | resolve e => e.message :: e.causes
  | patchUnreadable path cause => [s!"unable to read {path.str}", cause.message]
  | patchInvalid path cause => [s!"failed to parse {path.str}", cause.message]
  | inputUnreadable cause => ["failed to read body from stdin", cause.message]
  | bodyUnreadable source cause => [s!"failed to read body from {source.str}", cause.message]
  | outputNotMade target cause =>
    [s!"failed to create output file {target.str}", cause.message]
  | outputNotWritten cause => [cause.message]
  | scaffold e => e.message :: e.causes

def TaskError.message (e : TaskError) : String := "Error: " ++ ": ".intercalate e.chain

/-- The request in a format. -/
def render (r : Request) : Format → Text
  | .text => r.render
  | .curl => Curl.command r
  | .json => r.toJson.pretty 0

/-- The text with a line feed at its end. -/
def withNewline (t : Text) : Text := if t.getLast? = some '\n' then t else t ++ ['\n']

variable {m : Type → Type} [Monad m]

/-- A result whose failure ends the task. -/
def attempt {ε α : Type} (fault : ε → TaskError) (action : m (Except ε α)) : ExceptT TaskError m α :=
  ExceptT.mk do return (← action).mapError fault

/-- The absolute form of a directory, or the current one. -/
def absoluteDirectory (s : System m) : Option Path → Except TaskError Path
  | none => .ok s.directory
  | some directory =>
    match Path.absolute? s.directory directory with
    | some p => .ok p.normalize
    | none => .error (.noDirectory directory)

/-- The absolute form of the path of a file. -/
def absoluteFile (s : System m) (file : Path) : Except TaskError Path :=
  match Path.absolute? s.directory file with
  | some p => .ok p.normalize
  | none => .error (.noFile file)

/-- The patch that a file's text holds. -/
def patchOf (file : Path) (t : Text) : Except TaskError PartialRequest :=
  (RequestText.parsePatch t).mapError (.patchInvalid file)

/-- Lays the patch of a file over a request. -/
def applyPatch (s : System m) (r : Request) : Option Path → ExceptT TaskError m Request
  | none => return r
  | some patch => do
    let t ← attempt (.patchUnreadable patch) (s.files.readText patch)
    return r.apply (← patchOf patch t)

/-- The text of the input, which must be UTF-8. -/
def inputText (s : System m) : m (Except IoError Text) := do
  match Utf8.decode? (← s.readInput) with
  | some t => return .ok t
  | none => return .error .invalidUtf8

/-- Replaces the body of a request by the text of a file, or of the input for a hyphen. -/
def replaceBody (s : System m) (r : Request) : Option Text → ExceptT TaskError m Request
  | none => return r
  | some source => do
    let body ←
      if source = ['-'] then attempt .inputUnreadable (inputText s)
      else attempt (.bodyUnreadable source) (s.files.readText ⟨source⟩)
    return { r with body }

/-- Writes a text to a file, or to the output for a hyphen. -/
def writeResult (s : System m) (target t : Text) : ExceptT TaskError m Unit := do
  if target = ['-'] then s.writeOutput (Utf8.encode t)
  else
    attempt (.outputNotMade target) (s.files.truncate ⟨target⟩)
    attempt .outputNotWritten (s.files.append ⟨target⟩ (Utf8.encode t))

/-- The request that `build` writes. -/
def assemble (s : System m) (c : Config) (o : BuildOptions) : ExceptT TaskError m Request := do
  let root ← absoluteDirectory s o.directory
  let target ← absoluteFile s o.file
  let resolved ← attempt .resolve
    (Cascade.resolve (s.capabilities c) c root target s.bindings
      (o.expandBody || c.expandBodyVariables)).run
  replaceBody s (← applyPatch s resolved o.patch) o.body

/-- Builds a request and writes it. -/
def build (s : System m) (c : Config) (o : BuildOptions) : ExceptT TaskError m Unit := do
  let request ← assemble s c o
  writeResult s o.output (withNewline (render request o.format))

/-- Writes a starter tree and says what was written. -/
def init (s : System m) (c : Config) (o : InitOptions) : ExceptT TaskError m Unit := do
  let directory ← absoluteDirectory s o.directory
  let paths ← attempt .scaffold (Scaffold.init s.files s.log directory c).run
  s.writeOutput (Utf8.encode (paths.flatMap fun p => "created ".toList ++ p.text ++ ['\n']))

/-- Carries out a task with the configuration that is asked for. -/
def perform (s : System m) (i : Invocation) : ExceptT TaskError m Unit := do
  let c ← attempt .config (Config.load s.files i.config)
  match i.task with
  | .build o => build s c o
  | .init o => init s c o

/-! ### The program -/

def versionLine : Text := "restree 0.2.0\n"

def helpText : Text :=
  "Resolve .http request files through a tree of headers files and init scripts\n\n" ++
    "Usage: restree [OPTIONS] <COMMAND>\n\nCommands:\n" ++
    "  build  Resolve a request file and print the complete request\n" ++
    "  init   Write a starter tree into a directory\n"

/-- The filter of a run, and the warnings about it. -/
def filterOf (s : System m) (verbose : Bool) : LogFilter × List String :=
  match (s.environment.lookup "RUST_LOG".toList).bind Utf8.decode? with
  | some t => LogFilter.parse t
  | none => LogFilter.parse (if verbose then "debug" else "warn")

/-- Carries out what the arguments ask for; gives the status of the program. -/
def run (s : System m) (arguments : List Text) : m Nat := do
  match parse arguments with
  | .error .usage =>
    s.writeErrors (Utf8.encode "error: invalid arguments\n")
    return 2
  | .error .help =>
    s.writeOutput (Utf8.encode helpText)
    return 0
  | .error .version =>
    s.writeOutput (Utf8.encode versionLine)
    return 0
  | .ok i =>
    let (filter, warnings) := filterOf s i.verbose
    let log := fun r => if filter.admits r then s.writeErrors (Utf8.encode (logLine r)) else pure ()
    for w in warnings do s.writeErrors (Utf8.encode (w.toList ++ ['\n']))
    match ← (perform { s with log } i).run with
    | .ok () => return 0
    | .error e =>
      s.writeErrors (Utf8.encode (e.message.toList ++ ['\n']))
      return 1

end CommandLine

end HttpCascade

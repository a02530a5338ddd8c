import HttpCascade.Cascade.Basic
import HttpCascade.Text.Utf8

/-!
# Files

What a file system can be asked, whatever it is: a real one or a `Disk`. Links are followed except
where a new name is made or a name is removed.
-/

namespace HttpCascade

abbrev Bytes := List UInt8

/-- What a path leads to. -/
inductive FileKind where
  | regular (executable : Bool)
  | directory
  | device
  deriving DecidableEq, Repr

/-- The questions and commands to a file system. -/
structure Files (m : Type → Type) where
  /-- What a path leads to. -/
  kind : Path → m (Except IoError FileKind)
  /-- The names in a directory. -/
  names : Path → m (Except IoError (List Text))
  /-- The bytes of a file. -/
  read : Path → m (Except IoError Bytes)
  /-- Makes a file under a name that nothing has. -/
  create : Path → (executable : Bool) → m (Except IoError Unit)
  /-- Makes a file empty, or makes an empty file. -/
  truncate : Path → m (Except IoError Unit)
  /-- Puts bytes at the end of a file. -/
  append : Path → Bytes → m (Except IoError Unit)
  /-- Lets a file be run, or not. -/
  setExecutable : Path → Bool → m (Except IoError Unit)
  /-- Makes a directory under a name that nothing has. -/
  makeDirectory : Path → m (Except IoError Unit)
  /-- Removes a file or a link. -/
  remove : Path → m (Except IoError Unit)
  /-- Removes an empty directory. -/
  removeDirectory : Path → m (Except IoError Unit)

namespace Files

variable {m : Type → Type} [Monad m]

/-- A path leads somewhere. -/
def doesExist (files : Files m) (p : Path) : m Bool :=
  return (← files.kind p).toOption.isSome

/-- A path leads to a regular file. -/
def isRegular (files : Files m) (p : Path) : m Bool := do
  match ← files.kind p with
  | .ok (.regular _) => return true
  | _ => return false

/-- A path leads to a directory. -/
def isDirectory (files : Files m) (p : Path) : m Bool := do
  match ← files.kind p with
  | .ok .directory => return true
  | _ => return false

/-- The text of a file, which must be UTF-8. -/
def readText (files : Files m) (p : Path) : m (Except IoError Text) := do
  match ← files.read p with
  | .error e => return .error e
  | .ok bytes =>
    match Utf8.decode? bytes with
    | some text => return .ok text
    | none => return .error .invalidUtf8

/-- The names of the regular files directly in a directory. -/
def regularFiles (files : Files m) (directory : Path) : m (Except IoError (List Text)) := do
  match ← files.names directory with
  | .error e => return .error e
  | .ok names => return .ok (← names.filterM fun name => files.isRegular (directory.join ⟨name⟩))

/-- Makes a file with some bytes under a name that nothing has. -/
def createWith (files : Files m) (p : Path) (executable : Bool) (bytes : Bytes) :
    m (Except IoError Unit) := do
  match ← files.create p executable with
  | .error e => return .error e
  | .ok () => files.append p bytes

/-- The capabilities of a resolution on these files. -/
def capabilities (files : Files m) (runScript : Path → m (Except ScriptError ScriptOutput))
    (log : LogRecord → m Unit) : Capabilities m where
  listFiles := files.regularFiles
  readText := files.readText
  runScript := runScript
  log := log

end Files

end HttpCascade

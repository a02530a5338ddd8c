import HttpCascade.Files.Basic

/-!
# Starter trees

Four files that resolve as they are: an environment file, a headers file, a script that exports the
environment file, and a request. They are only written into a directory that has none of them.
-/

namespace HttpCascade.Scaffold

/-- A file of a starter tree. -/
structure StarterFile where
  name : Text
  content : Text
  executable : Bool
  deriving DecidableEq, Repr

def environmentFile : Text := "host=http://localhost\n"

def headersFile : Text :=
  "Accept: */*\n" ++ "Cache-Control: no-cache\n" ++ "Connection: keep-alive\n"

def scriptFile : Text := "#!/bin/sh\n\ncat .env\n"

def requestFile : Text :=
  "POST \x7b\x7bhost\x7d\x7d/hello\n\nContent-Type: application/json\n\n" ++
    "\x7b\n\t\"message\": \"Hello world!\"\n\x7d\n"

/-- The files in the order in which they are written. -/
def starterFiles (c : Config) : List StarterFile :=
  [⟨".env", environmentFile, false⟩, ⟨c.headersFileName, headersFile, false⟩,
    ⟨c.beforeScriptFileName, scriptFile, true⟩, ⟨"hello.http", requestFile, false⟩]

end Scaffold

/-- Why no starter tree was written. -/
inductive ScaffoldError where
  | alreadyExists (path : Path)
  | io (path : Path) (cause : IoError)
  deriving DecidableEq, Repr

namespace ScaffoldError

def message : ScaffoldError → String
  | alreadyExists path => s!"{path.str} already exists"
  | io path cause => s!"unable to create {path.str}: {cause.message}"

/-- The messages of the failures below this one. -/
def causes : ScaffoldError → List String
  | alreadyExists _ => []
  | io _ cause => [cause.message]

/-- A file that could not be made. -/
def ofCause (path : Path) : IoError → ScaffoldError
  | .alreadyExists => alreadyExists path
  | cause => io path cause

end ScaffoldError

namespace Scaffold

def created (file : Path) : LogRecord where
  level := .debug
  source := .scaffold
  text := s!"created {file.str}"

variable {m : Type → Type} [Monad m]

/-- The first of some paths that leads somewhere. -/
def firstPresent? (files : Files m) : List Path → m (Option Path)
  | [] => return none
  | p :: rest => do if ← files.doesExist p then return some p else firstPresent? files rest

/-- Writes a starter file. -/
def writeFile (files : Files m) (log : LogRecord → m Unit) (directory : Path) (f : StarterFile) :
    ExceptT ScaffoldError m Path := do
  let path := directory.join ⟨f.name⟩
  ExceptT.mk do
    return (← files.createWith path f.executable (Utf8.encode f.content)).mapError (.ofCause path)
  log (created path)
  return path

/-- Writes the starter files and gives their paths. If one of the names leads somewhere, nothing is
written. -/
def init (files : Files m) (log : LogRecord → m Unit) (directory : Path) (c : Config) :
    ExceptT ScaffoldError m (List Path) := do
  let starters := starterFiles c
  let present : m (Option Path) :=
    firstPresent? files (starters.map fun f => directory.join ⟨f.name⟩)
  match ← present with
  | some path => throw (.alreadyExists path)
  | none => starters.mapM (writeFile files log directory)

end Scaffold

end HttpCascade

import HttpCascade.CommandLine.Build

/-!
# The program

The system that the program runs on, and its entry. Nothing is decided here: every action of a
`System` is one action of the machine, with its failures in the words of `IoError`.
-/

namespace HttpCascade.Main

/-- The failure with a number of the system. -/
def failureOf (code : Nat) (details : String) : IoError :=
  let known : List IoError :=
    [.notFound, .badExecutable, .permissionDenied, .alreadyExists, .notADirectory, .isADirectory,
      .noSpace, .nameTooLong, .notEmpty, .tooManyLinks]
  match known.find? fun e => e.code?.map Prod.snd = some code with
  | some e => e
  | none => .other details.toList

/-- What went wrong in an action. -/
def failure : IO.Error → IoError
  | .alreadyExists _ code details | .otherError code details | .resourceBusy code details
  | .resourceVanished code details | .unsupportedOperation code details
  | .hardwareFault code details | .unsatisfiedConstraints code details
  | .illegalOperation code details | .protocolError code details | .timeExpired code details
  | .interrupted _ code details | .noFileOrDirectory _ code details
  | .invalidArgument _ code details | .permissionDenied _ code details
  | .resourceExhausted _ code details | .inappropriateType _ code details
  | .noSuchThing _ code details => failureOf code.toNat details
  | .unexpectedEof => .other "unexpected end of file".toList
  | .userError details => .other details.toList

/-- An action whose failure is a value. -/
def attempt {α : Type} (action : IO α) : IO (Except IoError α) := do
  try return .ok (← action)
  catch e => return .error (failure e)

/-- The path as the machine takes it. -/
def written (p : Path) : String := p.text.str

/-- The bytes of a file. -/
def bytesOf (p : Path) : IO Bytes := return (← IO.FS.readBinFile (written p)).toList

/-- A text that starts as the code of a program or as a script with an interpreter does. -/
def startsAsProgram (bytes : Bytes) : Bool :=
  [0x7F, 0x45, 0x4C, 0x46].isPrefixOf bytes || [0x23, 0x21].isPrefixOf bytes

/-- What a path leads to. A file counts as a program if it starts as one. -/
def kindOf (p : Path) : IO FileKind := do
  let place := (← IO.currentDir) / written p
  match (← place.metadata).type with
  | .dir => return .directory
  | .file =>
    let start ← IO.FS.withFile place .read fun h => h.read 4
    return .regular (startsAsProgram start.toList)
  | _ => return .device

def namesIn (p : Path) : IO (List Text) := do
  let entries ← ((← IO.currentDir) / written p).readDir
  return entries.toList.map fun entry => entry.fileName.toList

/-- Opens a file and writes bytes to it. -/
def writeWith (mode : IO.FS.Mode) (p : Path) (bytes : Bytes) : IO Unit :=
  IO.FS.withFile (written p) mode fun h => h.write ⟨bytes.toArray⟩

/-- Lets the owner of a file run it, or not. -/
def allow (p : Path) (executable : Bool) : IO Unit :=
  let others : IO.AccessRight := { read := true, execution := executable }
  IO.setAccessRights (written p)
    { user := { read := true, write := true, execution := executable }, group := others,
      other := others }

def files : Files IO where
  kind p := attempt (kindOf p)
  names p := attempt (namesIn p)
  read p := attempt (bytesOf p)
  create p executable := attempt do
    writeWith .writeNew p []
    if executable then allow p true
  truncate p := attempt (writeWith .write p [])
  append p bytes := attempt (writeWith .append p bytes)
  setExecutable p executable := attempt (allow p executable)
  makeDirectory p := attempt (IO.FS.createDir (written p))
  remove p := attempt (IO.FS.removeFile (written p))
  removeDirectory p := attempt (IO.FS.removeDir (written p))

/-- The names and values in a block of them, each ended by a zero. -/
def environmentOf (block : Bytes) : List (Text × Bytes) :=
  (block.splitOn 0).filterMap fun entry =>
    match entry.span (· ≠ 0x3D) with
    | (name, _ :: value) => (Utf8.decode? name).map fun n => (n, value)
    | _ => none

/-- Writes bytes to a stream. -/
def send (stream : IO.FS.Stream) (bytes : Bytes) : IO Unit := do
  stream.write ⟨bytes.toArray⟩
  stream.flush

/-- The machine that the program runs on. -/
def machine : IO (System IO) := do
  let output ← IO.getStdout
  let errors ← IO.getStderr
  let environment ← attempt (bytesOf ⟨"/proc/self/environ".toList⟩)
  return {
    files
    directory := ⟨(← IO.currentDir).toString.toList⟩
    environment := environmentOf (environment.toOption.getD [])
    readInput := bytesOf ⟨"/dev/stdin".toList⟩
    writeOutput := send output
    writeErrors := send errors
    log := fun _ => pure () }

end HttpCascade.Main

/-- Carries out what the arguments ask for. -/
def main (arguments : List String) : IO UInt32 := do
  let system ← HttpCascade.Main.machine
  let status ← HttpCascade.CommandLine.run system (arguments.map String.toList)
  return status.toUInt32

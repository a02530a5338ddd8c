import HttpCascade.Files.Basic
import HttpCascade.Shell.Command

/-!
# The state of a shell

What a running shell knows: variables, arguments, open descriptors, the directory it is in, and the
time that has passed. A subshell has a copy of everything but the open streams and the clock, which
all shells of a script share.
-/

namespace HttpCascade.Shell

/-! ### Bytes -/

/-- The bytes that a text of the shell stands for. -/
def bytesOf (t : Text) : Bytes := t.map fun c => c.toNat.toUInt8

/-- The text of the shell for some bytes. -/
def ofBytes (bytes : Bytes) : Text := bytes.map fun b => Char.ofNat b.toNat

/-- A text as the shell sees it. -/
def fromText (t : Text) : Text := ofBytes (Utf8.encode t)

/-- A text of the shell as others see it. -/
def toText (t : Text) : Text := Utf8.decodeLossy (bytesOf t)

/-- The shell's path. -/
def toPath (t : Text) : Path := ⟨toText t⟩

/-! ### Streams -/

/-- What was written at once. -/
structure Piece where
  /-- When it was written. -/
  time : Nat
  /-- The command in the background that wrote it, or zero. -/
  job : Nat
  text : Text

/-- What an open descriptor leads to. -/
inductive Stream where
  | null
  /-- What is left to read. -/
  | source (rest : Text)
  /-- What was written, the last piece first. -/
  | sink (pieces : List Piece)
  | file (path : Path)

/-- What was written into a sink up to a time, in the order of the times. -/
def Stream.written (latest : Option Nat) : Stream → Text
  | .sink pieces =>
    let timely := match latest with
      | some time => pieces.filter fun (p : Piece) => p.time ≤ time
      | none => pieces
    (timely.reverse.mergeSort fun a b => a.time ≤ b.time).flatMap Piece.text
  | _ => []

/-- Takes back what a command in the background would have written after a time. -/
def Stream.withoutJob (job time : Nat) : Stream → Stream
  | .sink pieces => .sink (pieces.filter fun p => p.job ≠ job || p.time ≤ time)
  | stream => stream

/-! ### State -/

structure Variable where
  value : Option Text
  exported : Bool
  readOnly : Bool := false

structure Options where
  /-- A failing command ends the shell. -/
  exitOnError : Bool := false
  /-- An unset variable is a fault. -/
  noUnset : Bool := false
  /-- Patterns are not replaced by names. -/
  noGlob : Bool := false
  /-- Commands are shown before they run. -/
  trace : Bool := false
  /-- Variables that are set are given to programs. -/
  allExport : Bool := false
  /-- A file that is there is not written over. -/
  noClobber : Bool := false
  /-- Commands are read and not carried out. -/
  noExec : Bool := false
  /-- Lines are shown as they are read. -/
  verbose : Bool := false

/-- A command in the background, which has been carried out ahead of its time. -/
structure Job where
  number : Nat
  /-- When it ends. -/
  finish : Nat
  status : Nat
  /-- The signal that ended it. -/
  signal : Option Nat := none

/-- The number of the process of a script. -/
def firstProcess : Nat := 4242

/-- The variables that a shell has from its start. -/
def ownVariables (parent : Nat) : List (Text × Variable) :=
  let own := fun (name value : String) => (name.toList, ⟨some value.toList, false, false⟩)
  [own "IFS" " \t\n", own "OPTIND" "1", own "PPID" (toString parent), own "PS1" "# ",
    own "PS2" "> ", own "PS4" "+ "]

structure State where
  /-- The name that complaints start with. -/
  name : Text
  /-- The command or file that complaints name besides. -/
  context : Option Text := none
  /-- The name by which the program that runs was called. -/
  program : Text := []
  process : Nat := firstProcess
  parent : Nat := firstProcess - 1
  /-- This is a part of a process that runs in a process of its own. -/
  subshell : Bool := false
  /-- The command in the background that this is a part of, or zero. -/
  job : Nat := 0
  arguments : List Text := []
  bindings : NameMap Variable := ∅
  functions : List (Text × Command) := []
  status : Nat := 0
  directory : Text
  /-- The stream of each open descriptor. -/
  descriptors : List (Nat × Nat)
  options : Options := {}
  /-- The commands for signals, by number; an empty one ignores the signal. -/
  traps : List (Nat × Text) := []
  line : Nat := 1
  /-- A failing command does not end the shell here, whatever the options say. -/
  unchecked : Bool := false
  /-- How many loops and functions are being carried out. -/
  loops : Nat := 0
  calls : Nat := 0
  /-- What the variables were before the functions that are being carried out made them their own,
  those of the innermost function first. -/
  saved : List (List (Text × Option Variable)) := []
  /-- The number of the last command that was started in the background. -/
  lastJob : Option Nat := none
  jobs : List Job := []
  /-- How far the next word of `getopts` has been read. -/
  optionOffset : Nat := 0
  /-- The permissions that new files do not get. -/
  mask : Nat := 0o022
  /-- Why the last output could not be written. -/
  writeFault : Option IoError := none
  /-- The signal that has ended the last program. -/
  notice : Option Nat := none
  /-- The signals that have been sent to processes and not been received yet. -/
  pending : List (Nat × Nat) := []
  /-- The highest number of a process. -/
  processes : Nat := firstProcess
  streams : Array Stream
  /-- How many milliseconds have passed. -/
  clock : Nat := 0
  /-- When the script is ended from outside. -/
  limit : Option Nat := none

/-- Why a shell does not go on with the next command. -/
inductive Stop where
  | exit (status : Nat)
  | returning (status : Nat)
  | breaking (loops : Nat)
  | continuing (loops : Nat)
  | killed (signal process : Nat)
  | outOfTime
  deriving DecidableEq, Repr

/-- A step of a shell on files of `m`. -/
abbrev Sh (m : Type → Type) := ExceptT Stop (StateT State m)

namespace State

/-- Takes over what all shells share. -/
def withShared (s shared : State) : State :=
  { s with
    pending := shared.pending
    processes := shared.processes
    streams := shared.streams
    clock := shared.clock
    limit := shared.limit }

def get? (s : State) (name : Text) : Option Text := (s.bindings.get? name).bind Variable.value

/-- The path of a name in the shell's directory. -/
def path (s : State) (t : Text) : Path :=
  if t.head? = some '/' then toPath t else if t = [] then ⟨[]⟩ else toPath (s.directory ++ '/' :: t)

/-- The names and values that a program is given. -/
def environment (s : State) : List (Text × Text) :=
  s.bindings.entries.filterMap fun (name, v) =>
    if v.exported then v.value.map fun value => (name, value) else none

end State

/-! ### Steps -/

namespace Sh

variable {m : Type → Type} [Monad m]

def addStream (stream : Stream) : Sh m Nat := do
  let s ← get
  set { s with streams := s.streams.push stream }
  return s.streams.size

def stream? (descriptor : Nat) : Sh m (Option Nat) := return (← get).descriptors.lookup descriptor

/-- Lets a descriptor lead to a stream, or closes it. -/
def setDescriptor (descriptor : Nat) (stream : Option Nat) : Sh m Unit :=
  modify fun s =>
    let others := s.descriptors.filter (·.1 ≠ descriptor)
    { s with
      descriptors := match stream with
        | some i => (descriptor, i) :: others
        | none => others }

def setStream (i : Nat) (stream : Stream) : Sh m Unit :=
  modify fun s => { s with streams := s.streams.setIfInBounds i stream }

/-- Writes to a stream; tells why that fails. -/
def writeStream (files : Files m) (i : Nat) (t : Text) : Sh m (Option IoError) := do
  let s ← get
  match s.streams[i]? with
  | some (.sink pieces) =>
    setStream i (.sink (⟨s.clock, s.job, t⟩ :: pieces))
    return none
  | some (.file path) =>
    match ← (files.append path (bytesOf t) : m _) with
    | .ok () => return none
    | .error e => return some e
  | some .null => return none
  | _ => return some (.other "Bad file descriptor".toList)

/-- Writes to a descriptor. -/
def write (files : Files m) (descriptor : Nat) (t : Text) : Sh m Unit := do
  let fault ← match ← stream? descriptor with
    | none => pure (some (.other "Bad file descriptor".toList))
    | some i => writeStream files i t
  if descriptor = 1 && fault.isSome && t ≠ [] then modify fun s => { s with writeFault := fault }

/-- Everything that is left to read from a descriptor. -/
def readAll (descriptor : Nat) : Sh m Text := do
  match ← stream? descriptor with
  | none => return []
  | some i =>
    match (← get).streams[i]? with
    | some (.source rest) =>
      setStream i (.source [])
      return rest
    | _ => return []

/-- The next line to read from a descriptor, and whether a line feed ended it. -/
def readLine (descriptor : Nat) : Sh m (Text × Bool) := do
  match ← stream? descriptor with
  | none => return ([], false)
  | some i =>
    match (← get).streams[i]? with
    | some (.source rest) =>
      let line := rest.takeWhile (· ≠ '\n')
      setStream i (.source (rest.drop (line.length + 1)))
      return (line, line.length < rest.length)
    | _ => return ([], false)

def print (files : Files m) (t : Text) : Sh m Unit := write files 1 t

/-- Writes a message of the shell, with the shell's name and the line. -/
def complain (files : Files m) (message : String) : Sh m Unit := do
  let s ← get
  let context := match s.context with
    | some t => t ++ [':', ' ']
    | none => []
  write files 2 (s.name ++ ": ".toList ++ Text.ofNat s.line ++ ": ".toList ++ context ++
    message.toList ++ ['\n'])

/-- Does something of which complaints name the context. -/
def inContext {α : Type} (context : Text) (body : Sh m α) : Sh m α := do
  let before := (← get).context
  let restore : Sh m Unit := modify fun s => { s with context := before }
  modify fun s => { s with context := some context }
  let result ← tryCatch body fun stop => do
    restore
    throw stop
  restore
  return result

/-- Ends the shell with a complaint. -/
def fatal {α : Type} (files : Files m) (message : String) : Sh m α := do
  complain files message
  throw (.exit 2)

def setStatus (status : Nat) : Sh m Unit := modify fun s => { s with status }

/-- Lets time pass; the script is ended if it takes too long. -/
def pass (milliseconds : Nat) : Sh m Unit := do
  let s ← get
  let late := s.clock + milliseconds
  match s.limit with
  | some limit =>
    if late ≥ limit then
      set { s with clock := limit }
      throw .outOfTime
    else set { s with clock := late }
  | none => set { s with clock := late }

/-- A script that does not end is ended when its time is over. -/
def hang {α : Type} : Sh m α := do
  modify fun s => { s with clock := s.limit.getD s.clock }
  throw .outOfTime

def setVariable (files : Files m) (name value : Text) : Sh m Unit := do
  let s ← get
  let old := (s.bindings.get? name).getD ⟨none, false, false⟩
  if old.readOnly then fatal files s!"{name.str}: is read only"
  let exported := old.exported || s.options.allExport
  set { s with bindings := s.bindings.insert name { old with value := some value, exported } }

end Sh

end HttpCascade.Shell

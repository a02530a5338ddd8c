import HttpCascade.Files.Disk

/-!
# Machines

A disk together with what a program reads from its input and leaves behind: its output, its error
output and its log. Programs that need files run on a machine as on a real system.
-/

namespace HttpCascade

structure Machine where
  disk : Disk
  input : Bytes := []
  output : Bytes := []
  errors : Bytes := []
  records : List LogRecord := []

namespace Machine

/-- Answers a question about the disk. -/
def ask {α : Type} (question : Disk → Except IoError α) : StateM Machine (Except IoError α) :=
  return question (← get).disk

/-- Changes the disk, or leaves it as it is and says why. -/
def change (step : Disk → Except IoError Disk) : StateM Machine (Except IoError Unit) := do
  match step (← get).disk with
  | .ok disk =>
    modify fun m => { m with disk }
    return .ok ()
  | .error e => return .error e

/-- The files of the machine, seen from a directory. -/
def files (here : Place) : Files (StateM Machine) where
  kind p := ask fun d => d.kind here p
  names p := ask fun d => d.names here p
  read p := ask fun d => d.read here p
  create p executable := change fun d => d.create here p executable
  truncate p := change fun d => d.truncate here p
  append p bytes := change fun d => d.append here p bytes
  setExecutable p executable := change fun d => d.setExecutable here p executable
  makeDirectory p := change fun d => d.makeDirectory here p
  remove p := change fun d => d.remove here p
  removeDirectory p := change fun d => d.removeDirectory here p

/-- Takes note of a record. -/
def log (r : LogRecord) : StateM Machine Unit :=
  modify fun m => { m with records := m.records ++ [r] }

end Machine

end HttpCascade

import HttpCascade.Cascade.Basic

/-!
# Worlds that answer

A `World` answers every call. What it answers may depend on the calls before, as a script may change
the files that are read after it. Resolving in a world gives, besides the result, a journal of what
was asked and what was noted.
-/

namespace HttpCascade.Cascade

/-- A use of a capability. -/
inductive Call where
  | list (directory : Path)
  | read (file : Path)
  | run (script : Path)
  deriving DecidableEq, Repr

namespace Call

/-- The path that a call is about. -/
def path : Call → Path
  | list p | read p | run p => p

def written : Call → Text
  | list p => "list ".toList ++ p.text
  | read p => "read ".toList ++ p.text
  | run p => "run ".toList ++ p.text

end Call

/-- What was asked and what was noted, each in order. -/
structure Journal where
  calls : List Call
  records : List LogRecord
  deriving DecidableEq, Repr

namespace Journal

def empty : Journal := ⟨[], []⟩

def addCall (j : Journal) (c : Call) : Journal := { j with calls := j.calls ++ [c] }

def addRecord (j : Journal) (r : LogRecord) : Journal := { j with records := j.records ++ [r] }

end Journal

/-- The answer to every call that may follow a history of calls. -/
structure World where
  list : List Call → Path → Except IoError (List Text)
  read : List Call → Path → Except IoError Text
  run : List Call → Path → Except ScriptError ScriptOutput

namespace World

/-- A world whose calls are written into a journal. -/
def capabilities (w : World) : Capabilities (StateM Journal) where
  listFiles directory :=
    modifyGet fun j => (w.list j.calls directory, j.addCall (.list directory))
  readText file :=
    modifyGet fun j => (w.read j.calls file, j.addCall (.read file))
  runScript script :=
    modifyGet fun j => (w.run j.calls script, j.addCall (.run script))
  log record := modify (·.addRecord record)

/-- The result of a resolution, and its journal. -/
def resolve (w : World) (config : Config) (root target : Path) (initial : Variables)
    (expandBody : Bool) : Except ResolveError Request × Journal :=
  Cascade.resolve w.capabilities config root target initial expandBody |>.run |>.run .empty

end World

end HttpCascade.Cascade

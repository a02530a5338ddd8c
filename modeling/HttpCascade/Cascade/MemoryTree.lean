import HttpCascade.Cascade.World

/-!
# Trees in memory

A world given by its files. Two paths are the same place if they have the same components.
-/

namespace HttpCascade.Cascade

/-- Files with their texts, directories that cannot be listed and scripts with their outcomes. -/
structure MemoryTree where
  files : List (Path × Except IoError Text)
  directoryErrors : List (Path × IoError)
  scripts : List (Path × Except ScriptError ScriptOutput)

namespace MemoryTree

/-- The last entry for a place. -/
def find? {α : Type} (entries : List (Path × α)) (p : Path) : Option α :=
  (entries.reverse.find? fun entry => entry.1.components = p.components).map Prod.snd

/-- The name under which a file stands directly in a directory. -/
def nameIn? (directory file : Path) : Option Text :=
  if file.parentComponents? = some directory.components then
    file.components.getLast?.map Component.written
  else none

/-- A directory that is not known is empty. -/
def list (t : MemoryTree) (directory : Path) : Except IoError (List Text) :=
  match find? t.directoryErrors directory with
  | some e => .error e
  | none => .ok (t.files.filterMap fun file => nameIn? directory file.1)

def read (t : MemoryTree) (file : Path) : Except IoError Text :=
  (find? t.files file).getD (.error (.other "no such file"))

/-- A script without an outcome of its own writes its own text. -/
def run (t : MemoryTree) (script : Path) : Except ScriptError ScriptOutput :=
  match find? t.scripts script with
  | some outcome => outcome
  | none =>
    match t.read script with
    | .ok text => .ok ⟨text, []⟩
    | .error e => .error (.io e)

/-- Nothing that is asked of a tree changes it. -/
def world (t : MemoryTree) : World where
  list _ := t.list
  read _ := t.read
  run _ := t.run

end MemoryTree

end HttpCascade.Cascade

import HttpCascade.Shell.State

/-!
# Finding programs

Which file a command's name stands for: a name with a slash is a path, and any other name is looked
for in the directories of `PATH`, in their order.
-/

namespace HttpCascade.Shell

open Sh

variable {m : Type → Type} [Monad m]

/-- The first of some programs that can be run, or the failure to name. -/
def firstProgram (files : Files m) (failure : IoError) : List Text → Sh m (Except IoError Text)
  | [] => return .error failure
  | t :: rest => do
    match ← (files.kind ((← get).path t) : m _) with
    | .ok (.regular true) => return .ok t
    | .ok _ => firstProgram files .permissionDenied rest
    | .error _ => firstProgram files failure rest

/-- The program that a name stands for. -/
def findProgram (files : Files m) (name : Text) : Sh m (Except IoError Text) := do
  if name = [] then return .error .notFound
  if '/' ∈ name then
    match ← (files.kind ((← get).path name) : m _) with
    | .ok (.regular true) => return .ok name
    | .ok _ => return .error .permissionDenied
    | .error e => return .error e
  else
    let directories := Text.splitAll ':' (((← get).get? "PATH".toList).getD [])
    firstProgram files .notFound
      (directories.map fun d => if d = [] then name else d ++ '/' :: name)

end HttpCascade.Shell

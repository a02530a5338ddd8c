import HttpCascade.Shell.Run

/-!
# Running scripts

A script is run by a shell as `<shell> <script>` in the script's own directory, with nothing to read
and for no longer than it may take.
-/

namespace HttpCascade

/-- How scripts are run. -/
structure Launcher where
  shell : Text := "/bin/sh"
  /-- How many milliseconds a script may take. -/
  limit : Option Nat := some 30000
  deriving DecidableEq, Repr

namespace Launcher

/-- The launcher that a configuration asks for. -/
def ofConfig (c : Config) : Launcher := ⟨c.shell, c.timeout?⟩

def running (l : Launcher) (script : Path) : LogRecord where
  level := .debug
  source := .shell
  text := s!"running {l.shell.str} {script.str}"

/-- What comes of a shell's end. -/
def result (l : Launcher) (o : Shell.Outcome) : Except ScriptError ScriptOutput :=
  let stderr := Utf8.decodeLossy o.errors
  match o.ending with
  | .outOfTime => .error (.timeout (l.limit.getD 0) stderr)
  | .signaled => .error (.exit none stderr)
  | .exited 0 => .ok ⟨Utf8.decodeLossy o.output, stderr⟩
  | .exited status => .error (.exit (some status) stderr)

/-- Runs a script that is named in a directory. -/
def run {m : Type → Type} [Monad m] (l : Launcher) (files : Files m)
    (environment : List (Text × Bytes)) (log : LogRecord → m Unit) (here script : Path) :
    m (Except ScriptError ScriptOutput) := do
  match Path.absolute? here script with
  | none => return .error (.io .emptyPath)
  | some script =>
    log (l.running script)
    let directory := match script.parentComponents? with
      | some above => Path.ofComponents above
      | none => here
    match ← Shell.launch files environment directory l.limit l.shell [script.text] with
    | .error e => return .error (.spawn l.shell e)
    | .ok outcome => return l.result outcome

end Launcher

end HttpCascade

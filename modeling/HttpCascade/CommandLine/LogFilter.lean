import HttpCascade.Log
import HttpCascade.Shell.Regex
import HttpCascade.Text.Lines

/-!
# Log filters

Which records are shown. A filter is a list of directives such as `warn`, `restree::resolver=debug`
or `restree`; of the directives that a record's source starts with the longest counts.
-/

namespace HttpCascade.CommandLine

/-- The records of the sources that start with a name are shown up to a rank. -/
structure Directive where
  source : Text
  rank : Nat
  deriving DecidableEq, Repr

/-- A filter, with the expression that has to occur in the text of a record. -/
structure LogFilter where
  directives : List Directive
  holding : Text := []
  deriving DecidableEq, Repr

namespace LogFilter

/-- The rank up to which a level's name admits records; `off` admits none. -/
def rank? (name : Text) : Option Nat :=
  if Text.equalsIgnoringCase name "off" then some 0
  else (LogLevel.all.find? fun l => Text.equalsIgnoringCase name l.name.toList).map LogLevel.rank

def mostRank : Nat := LogLevel.trace.rank

/-- Sets the rank of a source in place of an earlier one. -/
def put (d : Directive) (ds : List Directive) : List Directive :=
  if ds.any (·.source = d.source) then
    ds.map fun e => if e.source = d.source then d else e
  else ds ++ [d]

/-- The directive that a piece of a filter writes, or the part of it that makes no sense. -/
def directive (piece : Text) : Except Text Directive :=
  match Text.splitAll '=' piece with
  | [name] =>
    match rank? name with
    | some rank => .ok ⟨[], rank⟩
    | none => .ok ⟨name, mostRank⟩
  | [name, level] =>
    if level.trim = [] then .ok ⟨name, mostRank⟩
    else
      match rank? level.trim with
      | some rank => .ok ⟨name, rank⟩
      | none => .error level.trim
  | _ => .error piece

/-- Reads directives, and gives the parts that make no sense. -/
def directivesOf : List Text → List Directive × List Text
  | [] => ([], [])
  | piece :: rest =>
    let (ds, faults) := directivesOf rest
    if piece.trim = [] then (ds, faults)
    else
      match directive piece.trim with
      | .ok d => (d :: ds, faults)
      | .error fault => (ds, fault :: faults)

/-- Reads a filter, and gives the warnings about it. A filter without directives shows errors
only. -/
def parse (t : Text) : LogFilter × List String :=
  let warn := fun (s : String) => s!"warning: {s}, ignoring it"
  let whole := fun (ds : List Directive) =>
    if ds = [] then [⟨[], LogLevel.error.rank⟩] else ds
  let read := fun (pieces : Text) (holding : Text) =>
    let (ds, faults) := directivesOf (Text.splitAll ',' pieces)
    (⟨whole (ds.foldl (fun ds d => put d ds) []), holding⟩,
      faults.map fun f => warn s!"invalid logging spec '{f.str}'")
  match Text.splitAll '/' t with
  | [pieces] => read pieces []
  | [pieces, holding] => read pieces holding
  | _ =>
    (⟨whole [], []⟩, [warn s!"invalid logging spec '{t.str}' (too many '/'s)"])

/-- A record is shown. -/
def admits (f : LogFilter) (r : LogRecord) : Bool :=
  let fitting := f.directives.filter fun d => d.source.isPrefixOf r.source.name.toList
  let byLength := fitting.mergeSort fun a b => a.source.byteLength ≤ b.source.byteLength
  match byLength.getLast? with
  | some d =>
    decide (r.level.rank ≤ d.rank) &&
      (Shell.Regex.ofText true f.holding).occursIn false r.text
  | none => false

end LogFilter

/-- The line that shows a record. The lines of its text after the first are indented. -/
def logLine (r : LogRecord) : Text :=
  let level := r.level.name.toList
  let padded := level ++ List.replicate (5 - level.length) ' '
  ['['] ++ padded ++ [' '] ++ r.source.name.toList ++ [']', ' '] ++
    Text.join ['\n', ' ', ' ', ' ', ' '] (Text.splitAll '\n' r.text) ++ ['\n']

end HttpCascade.CommandLine

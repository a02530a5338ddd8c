import HttpCascade.Shell.Filter

/-!
# Line editing

The scripts of `sed`: each line is taken in turn, and the commands whose addresses admit it change
it, write it or drop it.
-/

namespace HttpCascade.Shell.Edit

/-- Which lines a command is for. -/
inductive Address where
  | number (n : Nat)
  | last
  | holding (r : Regex)

/-- A part of a replacement. -/
inductive Piece where
  | char (c : Char)
  /-- What a group matched; the whole match is the group of number zero. -/
  | group (n : Nat)

inductive Action where
  | substitute (r : Regex) (replacement : List Piece) (all : Bool) (nth : Nat) (writes : Bool)
      (ignoreCase : Bool)
  | drop
  | write
  | quit
  | lineNumber
  | transliterate (source target : Text)
  | appendText (t : Text)
  | insertText (t : Text)
  | change (t : Text)

structure Step where
  first : Option Address
  last : Option Address
  negated : Bool
  action : Action

/-! ### Reading -/

/-- The text up to a delimiter, which a backslash may stand before, and what follows it. -/
def delimited (delimiter : Char) : Text → Option (Text × Text)
  | [] => none
  | '\\' :: c :: rest =>
    (delimited delimiter rest).map fun (t, after) =>
      (if c = delimiter then c :: t else '\\' :: c :: t, after)
  | c :: rest =>
    if c = delimiter then some ([], rest)
    else (delimited delimiter rest).map fun (t, after) => (c :: t, after)

/-- The parts of a replacement. -/
def pieces : Text → List Piece
  | [] => []
  | '\\' :: c :: rest =>
    (if c.isDigit then .group (c.toNat - 48)
      else if c = 'n' then .char '\n'
      else if c = 't' then .char '\t'
      else .char c) :: pieces rest
  | '&' :: rest => .group 0 :: pieces rest
  | c :: rest => .char c :: pieces rest

def skipBlanks (t : Text) : Text := t.dropWhile fun c => c = ' ' || c = '\t'

/-- An address at the front. -/
def address? (extended : Bool) (t : Text) : Option (Address × Text) :=
  match t with
  | '$' :: rest => some (.last, rest)
  | '/' :: rest => (delimited '/' rest).map fun (r, after) => (.holding (Regex.ofText extended r), after)
  | _ =>
    let digits := t.takeWhile Char.isDigit
    (decimal? digits).map fun n => (.number n, t.drop digits.length)

/-- The line of text that a command takes. -/
def takeText (t : Text) : Text × Text :=
  let t := match skipBlanks t with
    | '\\' :: '\n' :: rest => rest
    | '\\' :: rest => rest
    | t => t
  let line := t.takeWhile (· ≠ '\n')
  (line, t.drop line.length)

/-- The action at the front. -/
def action? (extended : Bool) (t : Text) : Option (Action × Text) :=
  match t with
  | 's' :: delimiter :: rest => do
    let (source, rest) ← delimited delimiter rest
    let (replacement, rest) ← delimited delimiter rest
    let flags := rest.takeWhile fun c => c.isDigit || c ∈ ['g', 'p', 'i', 'I']
    return (.substitute (Regex.ofText extended source) (pieces replacement) ('g' ∈ flags)
      ((decimal? (flags.filter Char.isDigit)).getD 1) ('p' ∈ flags) ('i' ∈ flags || 'I' ∈ flags),
      rest.drop flags.length)
  | 'y' :: delimiter :: rest => do
    let (source, rest) ← delimited delimiter rest
    let (target, rest) ← delimited delimiter rest
    return (.transliterate source target, rest)
  | 'd' :: rest => some (.drop, rest)
  | 'p' :: rest => some (.write, rest)
  | 'q' :: rest => some (.quit, rest)
  | '=' :: rest => some (.lineNumber, rest)
  | 'a' :: rest => let (t, after) := takeText rest; some (.appendText t, after)
  | 'i' :: rest => let (t, after) := takeText rest; some (.insertText t, after)
  | 'c' :: rest => let (t, after) := takeText rest; some (.change t, after)
  | _ => none

/-- The steps of a script; the number bounds its length. -/
def steps? (extended : Bool) : Nat → Text → Option (List Step)
  | 0, _ => none
  | n + 1, t =>
    match t.dropWhile fun c => c = ' ' || c = '\t' || c = '\n' || c = ';' with
    | [] => some []
    | t => do
      let (first, t) := match address? extended t with
        | some (a, t) => (some a, skipBlanks t)
        | none => (none, t)
      let (last, t) := match first, t with
        | some _, ',' :: rest =>
          match address? extended (skipBlanks rest) with
          | some (a, t) => (some a, skipBlanks t)
          | none => (none, t)
        | _, _ => (none, t)
      let (negated, t) := match t with
        | '!' :: rest => (true, skipBlanks rest)
        | _ => (false, t)
      let (action, rest) ← action? extended t
      match skipBlanks rest with
      | [] => return [⟨first, last, negated, action⟩]
      | ';' :: rest | '\n' :: rest =>
        return ⟨first, last, negated, action⟩ :: (← steps? extended n rest)
      | _ => none

/-! ### Carrying out -/

/-- What a group matched in a line. -/
def groupText (line : Text) (start stop : Nat) (gs : Regex.Groups) (n : Nat) : Text :=
  let (a, b) := if n = 0 then (start, stop) else (gs.lookup n).getD (0, 0)
  (line.drop a).take (b - a)

/-- Replaces matches in a line, from the `nth` on; the number bounds their count. -/
def replace (r : Regex) (replacement : List Piece) (all ignoreCase : Bool) (line : Text) :
    Nat → (nth index : Nat) → Text → Text × Bool
  | 0, _, _, t => (t, false)
  | n + 1, nth, index, t =>
    match Regex.findFrom ignoreCase r (Regex.searchDepth line) index t with
    | none => (t, false)
    | some (start, stop, gs) =>
      let before := t.take (start - index)
      let matched := (t.drop (start - index)).take (stop.index - start)
      let filled := if nth ≤ 1 then
          replacement.flatMap fun p => match p with
            | .char c => [c]
            | .group k => groupText line start stop.index gs k
        else matched
      if nth ≤ 1 && !all then (before ++ filled ++ stop.rest, true)
      else
        match stop.index == start, stop.rest with
        | true, [] => (before ++ filled, nth ≤ 1)
        | true, c :: rest =>
          let (after, more) := replace r replacement all ignoreCase line n (nth - 1) (start + 1) rest
          (before ++ filled ++ c :: after, nth ≤ 1 || more)
        | false, rest =>
          let (after, more) := replace r replacement all ignoreCase line n (nth - 1) stop.index rest
          (before ++ filled ++ after, nth ≤ 1 || more)

def Address.admits (number : Nat) (isLast : Bool) (line : Text) : Address → Bool
  | .number n => number = n
  | .last => isLast
  | .holding r => r.occursIn false line

/-- What happens to a line. -/
structure Cycle where
  line : Text
  output : List Text := []
  appended : List Text := []
  dropped : Bool := false
  quits : Bool := false

/-- A step is for a line, and whether its range goes on after it. -/
def selects (s : Step) (inRange : Bool) (number : Nat) (isLast : Bool) (line : Text) : Bool × Bool :=
  match s.first, s.last with
  | none, _ => (!s.negated, false)
  | some a, none => ((a.admits number isLast line) != s.negated, false)
  | some a, some b =>
    if inRange then (!s.negated, !b.admits number isLast line)
    else if a.admits number isLast line then
      (!s.negated, match b with
        | .number n => decide (number < n)
        | _ => true)
    else (s.negated, false)

def act (number : Nat) (c : Cycle) : Action → Cycle
  | .substitute r replacement all nth shown ignoreCase =>
    let (line, changed) := replace r replacement all ignoreCase c.line (c.line.length + 2) nth 0 c.line
    { c with line, output := if changed && shown then c.output ++ [line] else c.output }
  | .drop => { c with dropped := true }
  | .write => { c with output := c.output ++ [c.line] }
  | .quit => { c with quits := true }
  | .lineNumber => { c with output := c.output ++ [Text.ofNat number] }
  | .transliterate source target =>
    { c with line := c.line.map (Filter.transliterate source target) }
  | .appendText t => { c with appended := c.appended ++ [t] }
  | .insertText t => { c with output := c.output ++ [t] }
  | .change t => { c with output := c.output ++ [t], dropped := true }

/-- Carries out the steps on a line, with the ranges that go on. -/
def cycle (number : Nat) (isLast : Bool) : List (Step × Bool) → Cycle → Cycle × List Bool
  | [], c => (c, [])
  | (s, inRange) :: rest, c =>
    if c.dropped || c.quits then (c, inRange :: rest.map Prod.snd)
    else
      let (selected, goesOn) := selects s inRange number isLast c.line
      let c := if selected then act number c s.action else c
      let (c, ranges) := cycle number isLast rest c
      (c, goesOn :: ranges)

/-- Edits the lines; `quiet` keeps them from being written by themselves. -/
def edit (quiet : Bool) (script : List Step) (ranges : List Bool) (number : Nat) :
    List Text → List Text
  | [] => []
  | line :: rest =>
    let (c, ranges) := cycle number rest.isEmpty (script.zip ranges) { line }
    let out := c.output ++ (if c.dropped || quiet then [] else [c.line]) ++ c.appended
    if c.quits then out else out ++ edit quiet script ranges (number + 1) rest

/-- The plan for the arguments of `sed`, if its script can be read. -/
def plan? (arguments : List Text) : Option Filter.Plan := do
  let (options, operands) := Filter.parseOptions ['e'] arguments
  let given := (options.filter (·.1 = 'e')).map Prod.snd
  let (source, files) := if given = [] then (operands.head?.getD [], operands.drop 1)
    else (Text.join ['\n'] given, operands)
  let extended := Filter.has options 'E' || Filter.has options 'r'
  let script ← steps? extended (source.length + 1) source
  return {
    files
    apply t :=
      let out := edit (Filter.has options 'n') script (script.map fun _ => false) 1 (Filter.linesOf t)
      let ended := t = [] || t.getLast? = some '\n'
      (if ended then Filter.unlines out else Text.join ['\n'] out, 0) }

end HttpCascade.Shell.Edit

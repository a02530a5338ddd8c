import HttpCascade.Shell.Edit
import HttpCascade.Shell.Search

/-!
# Utilities

The programs that a script finds in the directories of programs: filters over files, and programs
that make, copy and remove files. A utility gives its status.
-/

namespace HttpCascade.Shell.Utility

open Sh

variable {m : Type → Type} [Monad m]

/-- Writes a complaint that starts with the name by which a program was called. -/
def blame (files : Files m) (message : String) : Sh m Unit := do
  write files 2 ((← get).program ++ ": ".toList ++ message.toList ++ ['\n'])

/-- Writes a complaint about how a program was called. -/
def blameUse (files : Files m) (message : String) : Sh m Unit := do
  blame files message
  let name := (← get).program
  write files 2 ("Try '".toList ++ name ++ " --help' for more information.\n".toList)

/-- A name between single quotes. -/
def quoteName (t : Text) : String := "'" ++ t.str ++ "'"

/-- The system's text for a failure. -/
def reason (e : IoError) : String :=
  match e.code? with
  | some (text, _) => text
  | none => e.message

/-- How a program calls a file that it cannot read. -/
def unreadable (name file : Text) (e : IoError) : String :=
  let quoted := quoteName file
  if name = "head" || name = "tail" then
    if e = .isADirectory then s!"error reading {quoted}: {reason e}"
    else s!"cannot open {quoted} for reading: {reason e}"
  else if name = "sort" then
    if e = .isADirectory then s!"read failed: {file.str}: {reason e}"
    else s!"cannot read: {file.str}: {reason e}"
  else if name = "sed" then
    if e = .isADirectory then s!"couldn't edit {file.str}: not a regular file"
    else s!"can't read {file.str}: {reason e}"
  else if name = "tac" then s!"failed to open {quoted} for reading: {reason e}"
  else if name = "rev" then s!"cannot open {file.str}: {reason e}"
  else s!"{file.str}: {reason e}"

/-- How many bytes a device of zeros is read for. -/
def zeroCount : Nat := 2097152

/-- The bytes of a file, or of the input for a dash. -/
def readInput (files : Files m) (file : Text) : Sh m (Except IoError Text) := do
  if file = ['-'] || file = "/dev/stdin" then return .ok (← readAll 0)
  if file = "/dev/zero" then return .ok (List.replicate zeroCount '\x00')
  match ← (files.read ((← get).path file) : m _) with
  | .ok bytes => return .ok (ofBytes bytes)
  | .error e => return .error e

/-- The texts of some files with their names, and whether one could not be read. -/
def readInputs (files : Files m) (name : Text) : List Text → Sh m (List (Text × Text) × Bool)
  | [] => return ([], false)
  | file :: rest => do
    match ← readInput files file with
    | .ok t =>
      let (others, failed) ← readInputs files name rest
      return ((file, t) :: others, failed)
    | .error e =>
      blame files (unreadable name file e)
      let (others, _) ← readInputs files name rest
      return (others, true)

/-- The status of a program that could not read a file. -/
def failureStatus (name : Text) : Nat :=
  if name.isOneOf ["grep", "sed", "sort", "ls"] then 2 else 1

/-- Runs a filter on its files, or on the input if it names none. -/
def runFilter (files : Files m) (name : Text) (plan : Filter.Plan) : Sh m Nat := do
  let eachAlone := name.isOneOf ["grep", "head", "wc"]
  if plan.files = [] then
    let (output, status) := plan.apply (← readAll 0)
    print files output
    return status
  let (inputs, failed) ← readInputs files name plan.files
  if eachAlone && plan.files.length > 1 then
    let label := fun (file : Text) (output : Text) =>
      if name = "grep" then
        Filter.unlines ((Filter.linesOf output).map fun l => file ++ ':' :: l)
      else if name = "head" then
        "==> ".toList ++ file ++ " <==\n".toList ++ output
      else output.dropLast ++ ' ' :: file ++ ['\n']
    let results := inputs.map fun (file, t) => (label file (plan.apply t).1, (plan.apply t).2)
    print files (Text.join (if name = "head" then ['\n'] else []) (results.map Prod.fst))
    if failed then return failureStatus name
    return if results.any fun (r : Text × Nat) => r.2 = 0 then 0 else 1
  else
    let (output, status) := plan.apply (inputs.flatMap Prod.snd)
    if inputs ≠ [] then print files output
    return if failed then failureStatus name else status

/-! ### Files -/

/-- Does something for each operand; the status tells whether all went well. -/
def forEach (action : Text → Sh m Bool) : List Text → Sh m Nat
  | [] => return 0
  | t :: rest => do
    let good ← action t
    let others ← forEach action rest
    return if good then others else 1

/-- Tries a change of the files and complains if it fails. -/
def attempt (files : Files m) (describe : String) (change : m (Except IoError Unit)) :
    Sh m Bool := do
  match ← (change : m _) with
  | .ok () => return true
  | .error e =>
    blame files s!"{describe}: {reason e}"
    return false

def cat (files : Files m) (arguments : List Text) : Sh m Nat := do
  let (_, operands) := Filter.parseOptions [] arguments
  let operands := if operands = [] then [['-']] else operands
  forEach (fun file => do
    match ← readInput files file with
    | .ok t =>
      print files t
      return true
    | .error e =>
      blame files (unreadable "cat" file e)
      return false) operands

/-- The names in a directory, in order: with those that are hidden if `all` says so, and with those
of the directory itself and the one above it if `dots` says so. -/
def listNames (files : Files m) (all dots : Bool) (directory : Text) :
    Sh m (Except IoError (List Text)) := do
  match ← (files.names ((← get).path directory) : m _) with
  | .error e => return .error e
  | .ok names =>
    let names := (if dots then [['.'], ['.', '.']] else []) ++ names.map fromText
    let shown := names.filter fun name => all || name.head? ≠ some '.'
    return .ok (shown.mergeSort Text.inOrder)

def ls (files : Files m) (arguments : List Text) : Sh m Nat := do
  let (options, operands) := Filter.parseOptions [] arguments
  let dots := Filter.has options 'a'
  let all := dots || Filter.has options 'A'
  let operands := if operands = [] then [['.']] else operands
  let status ← forEach (fun operand => do
    match ← listNames files all dots operand with
    | .ok names =>
      if operands.length > 1 then print files (operand ++ [':', '\n'])
      print files (Filter.unlines names)
      return true
    | .error .notADirectory =>
      print files (operand ++ ['\n'])
      return true
    | .error e =>
      blame files s!"cannot access {quoteName operand}: {reason e}"
      return false) operands
  return if status = 0 then 0 else 2

/-- The directories on the way to a path, and the path. -/
def ancestors (t : Text) : List Text :=
  let pieces := Text.splitAll '/' t
  (List.range pieces.length).filterMap fun n =>
    let above := Text.join ['/'] (pieces.take (n + 1))
    if above = [] then none else some above

def makeDirectories (files : Files m) (arguments : List Text) : Sh m Nat := do
  let (options, operands) := Filter.parseOptions ['m'] arguments
  if operands = [] then
    blameUse files "missing operand"
    return 1
  forEach (fun operand => do
    let describe := s!"cannot create directory {quoteName operand}"
    if Filter.has options 'p' then
      for above in (ancestors operand).dropLast do
        let path := (← get).path above
        let there : Bool ← (files.doesExist path : m _)
        if !there then let _ ← (files.makeDirectory path : m _)
      let path := (← get).path operand
      let there : Bool ← (files.isDirectory path : m _)
      if there then return true
      attempt files describe (files.makeDirectory path)
    else attempt files describe (files.makeDirectory ((← get).path operand))) operands

/-- Removes what stands below a path and then the path; the number bounds the depth. -/
def removeTree (files : Files m) : Nat → Path → m (Except IoError Unit)
  | 0, p => files.remove p
  | n + 1, p => do
    match ← files.remove p with
    | .error .isADirectory =>
      match ← files.names p with
      | .error e => return .error e
      | .ok names =>
        for name in names do let _ ← removeTree files n (p.join ⟨name⟩)
        files.removeDirectory p
    | result => return result

def remove (files : Files m) (arguments : List Text) : Sh m Nat := do
  let (options, operands) := Filter.parseOptions [] arguments
  let force := Filter.has options 'f'
  let deep := Filter.has options 'r' || Filter.has options 'R'
  if operands = [] && !force then
    blameUse files "missing operand"
    return 1
  forEach (fun operand => do
    let path := (← get).path operand
    match ← ((if deep then removeTree files 64 path else files.remove path) : m _) with
    | .ok () => return true
    | .error e =>
      if force && e = .notFound then return true
      blame files s!"cannot remove {quoteName operand}: {reason e}"
      return false) operands

def removeDirectories (files : Files m) (arguments : List Text) : Sh m Nat := do
  if arguments = [] then
    blameUse files "missing operand"
    return 1
  forEach (fun operand => do
    attempt files s!"failed to remove {quoteName operand}"
      (files.removeDirectory ((← get).path operand))) arguments

def touch (files : Files m) (arguments : List Text) : Sh m Nat := do
  let (options, operands) := Filter.parseOptions ['t', 'd', 'r'] arguments
  if operands = [] then
    blameUse files "missing file operand"
    return 1
  forEach (fun operand => do
    let path := (← get).path operand
    let there : Bool ← (files.doesExist path : m _)
    if there || Filter.has options 'c' then return true
    attempt files s!"cannot touch {quoteName operand}" (files.truncate path)) operands

/-- The last name of a path. -/
def baseName (t : Text) : Text :=
  let trimmed := (t.reverse.dropWhile (· == '/')).reverse
  if trimmed = [] then (if t = [] then [] else ['/'])
  else (trimmed.reverse.takeWhile (· ≠ '/')).reverse

/-- A path without its last name. -/
def directoryName (t : Text) : Text :=
  let trimmed := (t.reverse.dropWhile (· == '/')).reverse
  if '/' ∈ trimmed then
    let above := ((trimmed.reverse.dropWhile (· ≠ '/')).dropWhile (· == '/')).reverse
    if above = [] then ['/'] else above
  else if trimmed = [] && t ≠ [] then ['/'] else ['.']

/-- Copies a file; `move` removes the old one. -/
def copy (files : Files m) (move : Bool) (arguments : List Text) : Sh m Nat := do
  let (_, operands) := Filter.parseOptions [] arguments
  match operands.reverse with
  | [] =>
    blameUse files "missing file operand"
    return 1
  | [only] =>
    blameUse files s!"missing destination file operand after {quoteName only}"
    return 1
  | target :: sources =>
    let into : Bool ← (files.isDirectory ((← get).path target) : m _)
    forEach (fun source => do
      let s ← get
      let path := s.path source
      let destination :=
        if into then s.path (target ++ '/' :: baseName source) else s.path target
      let kind : Except IoError FileKind ← (files.kind path : m _)
      match ← (files.read path : m _), kind with
      | .error e, _ | _, .error e =>
        if e = .isADirectory then
          blame files s!"-r not specified; omitting directory {quoteName source}"
        else blame files s!"cannot stat {quoteName source}: {reason e}"
        return false
      | .ok bytes, .ok kind =>
        let describe := s!"cannot create regular file {quoteName target}"
        let made ← attempt files describe (files.truncate destination)
        if !made then return false
        let _ ← (files.append destination bytes : m _)
        if kind = .regular true then let _ ← (files.setExecutable destination true : m _)
        if move then let _ ← (files.remove path : m _)
        return true) sources.reverse

/-- A mode that lets the owner run a file, or forbids it. -/
def modeAllows? (mode : Text) : Option Bool :=
  match mode with
  | c :: _ =>
    if c.isDigit then
      some ((((mode.reverse.drop 2).head?.map fun (d : Char) => d.toNat % 2).getD 0) = 1)
    else if 'x' ∈ mode then
      if '-' ∈ mode then some false else some true
    else none
  | [] => none

def changeMode (files : Files m) (arguments : List Text) : Sh m Nat := do
  match arguments with
  | [] =>
    blameUse files "missing operand"
    return 1
  | [mode] =>
    blameUse files s!"missing operand after {quoteName mode}"
    return 1
  | mode :: operands =>
    forEach (fun operand => do
      let path := (← get).path operand
      let describe := s!"cannot access {quoteName operand}"
      match modeAllows? mode with
      | some executable => attempt files describe (files.setExecutable path executable)
      | none => return true) operands

def tee (files : Files m) (arguments : List Text) : Sh m Nat := do
  let (options, operands) := Filter.parseOptions [] arguments
  let t ← readAll 0
  print files t
  forEach (fun operand => do
    let path := (← get).path operand
    let there : Bool ← (files.doesExist path : m _)
    let made ← if Filter.has options 'a' && there then pure true
      else attempt files operand.str (files.truncate path)
    if made then let _ ← (files.append path (bytesOf t) : m _)
    return made) operands

/-! ### Names and numbers -/

def basename (files : Files m) (arguments : List Text) : Sh m Nat := do
  match arguments with
  | [] =>
    blameUse files "missing operand"
    return 1
  | t :: rest =>
    let name := baseName t
    let ending := rest.head?.getD []
    let name := if ending ≠ [] && ending ≠ name && ending.isSuffixOf name
      then name.take (name.length - ending.length) else name
    print files (name ++ ['\n'])
    return 0

def dirname (files : Files m) (arguments : List Text) : Sh m Nat := do
  if arguments = [] then
    blameUse files "missing operand"
    return 1
  print files (Filter.unlines (arguments.map directoryName))
  return 0

/-- The numbers from one to another by steps; the first number bounds their count. -/
def numbers (step last : Int) : Nat → Int → List Int
  | 0, _ => []
  | n + 1, first =>
    if (step > 0 && first ≤ last) || (step < 0 && first ≥ last) then
      first :: numbers step last n (first + step)
    else []

def seq (files : Files m) (arguments : List Text) : Sh m Nat := do
  let (options, operands, wide) :=
    match arguments with
    | ['-', 's'] :: separator :: rest => ([separator], rest, false)
    | ('-' :: 's' :: separator) :: rest => ([separator], rest, false)
    | ['-', 'w'] :: rest => ([], rest, true)
    | _ => ([], arguments, false)
  match operands.mapM integer? with
  | none =>
    let bad := (operands.find? fun t => (integer? t).isNone).getD []
    blameUse files s!"invalid floating point argument: {quoteName bad}"
    return 1
  | some [] =>
    blameUse files "missing operand"
    return 1
  | some ns =>
    let (first, step, last) := match ns with
      | [last] => (1, 1, last)
      | [first, last] => (first, 1, last)
      | [first, step, last] => (first, step, last)
      | _ => (1, 1, 0)
    let all := (numbers step last ((last - first).natAbs + 1) first).map ofInt
    let width := if wide then (all.map List.length).foldl max 0 else 0
    let all := all.map fun t => List.replicate (width - t.length) '0' ++ t
    match options with
    | [separator] => if all ≠ [] then print files (Text.join separator all ++ ['\n'])
    | _ => print files (Filter.unlines all)
    return 0

/-- The milliseconds of a duration such as `5`, `0.2` or `1m`. -/
def duration? (t : Text) : Option Nat :=
  let (number, unit) := match t.reverse with
    | 's' :: rest => (rest.reverse, 1000)
    | 'm' :: rest => (rest.reverse, 60000)
    | 'h' :: rest => (rest.reverse, 3600000)
    | 'd' :: rest => (rest.reverse, 86400000)
    | _ => (t, 1000)
  match Text.splitOnce '.' number with
  | none => (decimal? number).map (· * unit)
  | some (whole, part) =>
    if (whole = [] && part = []) || !(whole ++ part).all Char.isDigit then none
    else
      let digits := part.take 9
      some (((decimal? whole).getD 0) * unit +
        ((decimal? digits).getD 0) * unit / Nat.pow 10 digits.length)

def sleep (files : Files m) (arguments : List Text) : Sh m Nat := do
  if arguments.any fun t => t = "inf" || t = "infinity" then hang
  match arguments.mapM duration? with
  | some [] =>
    blameUse files "missing operand"
    return 1
  | some ns =>
    pass (ns.foldl (· + ·) 0)
    return 0
  | none =>
    let bad := (arguments.find? fun t => (duration? t).isNone).getD []
    blameUse files s!"invalid time interval {quoteName bad}"
    return 1

/-- A value of `expr`: numbers are texts that look like them. -/
def exprTruth (t : Text) : Bool := t ≠ [] && t ≠ ['0']

/-- What `expr` makes of two operands. -/
def exprApply (a operator b : Text) : Option Text :=
  let numeric := do return (← integer? a, ← integer? b)
  let arithmetic := fun (f : Int → Int → Int) => numeric.map fun (x, y) => ofInt (f x y)
  let comparison := fun (byNumber : Int → Int → Bool) (byText : Text → Text → Bool) =>
    some (if (match numeric with
      | some (x, y) => byNumber x y
      | none => byText a b) then ['1'] else ['0'])
  if operator = "+" then arithmetic (· + ·)
  else if operator = "-" then arithmetic (· - ·)
  else if operator = "*" then arithmetic (· * ·)
  else if operator = "/" then arithmetic Int.tdiv
  else if operator = "%" then arithmetic Int.tmod
  else if operator = "=" then comparison (fun x y => x = y) (fun x y => x = y)
  else if operator = "!=" then comparison (fun x y => x ≠ y) (fun x y => x ≠ y)
  else if operator = "<" then comparison (fun x y => x < y) (fun x y => x < y)
  else if operator = "<=" then comparison (fun x y => x ≤ y) Text.inOrder
  else if operator = ">" then comparison (fun x y => x > y) (fun x y => x > y)
  else if operator = ">=" then comparison (fun x y => x ≥ y) fun x y => Text.inOrder y x
  else if operator = "|" then some (if exprTruth a then a else b)
  else if operator = "&" then some (if exprTruth a && exprTruth b then a else ['0'])
  else none

/-- What the start of a text that an expression describes is: its length, or the part that the
expression marks. -/
def exprMatch (t source : Text) : Text :=
  let r := Regex.ofText false source
  let marks := (source.zip (source.drop 1)).any fun pair => pair = ('\\', '(')
  match Regex.follow false (Regex.searchDepth t) r ⟨0, t⟩ [] fun p groups => some (p, groups) with
  | some (p, groups) =>
    if marks then
      match groups.lookup 1 with
      | some (first, last) => (t.drop first).take (last - first)
      | none => []
    else Text.ofNat p.index
  | none => if marks then [] else ['0']

def expr (files : Files m) (arguments : List Text) : Sh m Nat := do
  let value := match arguments with
    | [a] => some a
    | [['l', 'e', 'n', 'g', 't', 'h'], a] => some (Text.ofNat a.length)
    | [['s', 'u', 'b', 's', 't', 'r'], t, start, count] => do
      let first ← decimal? start
      return if first = 0 then [] else (t.drop (first - 1)).take ((decimal? count).getD 0)
    | [a, [':'], b] => some (exprMatch a b)
    | [a, operator, b] => exprApply a operator b
    | [a, o, b, p, c] => (exprApply a o b).bind fun ab => exprApply ab p c
    | _ => none
  match value with
  | some t =>
    print files (t ++ ['\n'])
    return if exprTruth t then 0 else 1
  | none =>
    blame files "syntax error"
    return 2

/-- How many lines `yes` writes before nobody reads them. -/
def yesCount : Nat := 50000

/-- Writes a line until nobody reads it any more, which only happens in a pipeline. -/
def yes (files : Files m) (arguments : List Text) : Sh m Nat := do
  match (← stream? 1).bind fun i => if i < 3 then none else some i with
  | none => hang
  | some i =>
    match (← get).streams[i]? with
    | some (.sink _) => pure ()
    | _ => hang
  let line := if arguments = [] then ['y'] else Text.join [' '] arguments
  print files (List.replicate yesCount (line ++ ['\n'])).flatten
  return 141

/-- Where a variable stands in a table of thirty-nine rows; the path comes first in its row. -/
def tableRank (name : Text) : Nat :=
  let row := (((name.head?.map Char.toNat).getD 0) * 16 + (name.map Char.toNat).foldl (· + ·) 0) % 39
  2 * row + (if name = "PATH" then 0 else 1)

/-- The variables as they are listed: by the table that they stand in. -/
def listEnvironment (bindings : List (Text × Text)) : List Text :=
  let sorted := bindings.mergeSort fun a b => tableRank a.1 ≤ tableRank b.1
  sorted.map fun (name, value) => name ++ '=' :: value

def printEnvironment (files : Files m) (arguments : List Text) : Sh m Nat := do
  let environment := (← get).environment
  match arguments with
  | [] =>
    print files (Filter.unlines (listEnvironment environment))
    return 0
  | names =>
    forEach (fun name => do
      match environment.lookup name with
      | some value =>
        print files (value ++ ['\n'])
        return true
      | none => return false) names

/-! ### Programs and files -/

/-- Tells which files names of programs stand for. -/
def which (files : Files m) (arguments : List Text) : Sh m Nat :=
  forEach (fun name => do
    match ← findProgram files name with
    | .ok path =>
      print files (path ++ ['\n'])
      return true
    | .error _ => return false) arguments

/-- Where two texts first differ: the number of the byte and of the line. -/
def difference? (byte line : Nat) : Text → Text → Option (Nat × Nat)
  | c :: a, d :: b =>
    if c = d then difference? (byte + 1) (if c = '\n' then line + 1 else line) a b
    else some (byte, line)
  | _, _ => none

def compare (files : Files m) (arguments : List Text) : Sh m Nat := do
  let (options, operands) := Filter.parseOptions [] arguments
  let (inputs, failed) ← readInputs files "cmp" operands
  let quiet := Filter.has options 's'
  match inputs with
  | [(first, a), (second, b)] =>
    match difference? 1 1 a b with
    | some (byte, line) =>
      if !quiet then
        print files s!"{first.str} {second.str} differ: byte {byte}, line {line}\n".toList
      return 1
    | none => return if a.length = b.length then 0 else 1
  | _ => return if failed then 2 else 0

/-- The number of bytes of a size such as `512` or `4k`. -/
def size? (t : Text) : Option Nat :=
  match t.reverse with
  | 'k' :: rest | 'K' :: rest => (decimal? rest.reverse).map (· * 1024)
  | 'M' :: rest => (decimal? rest.reverse).map (· * 1048576)
  | _ => decimal? t

/-- Copies blocks from a file to a file. -/
def copyBlocks (files : Files m) (arguments : List Text) : Sh m Nat := do
  let operand? := fun (key : String) => arguments.findSome? fun a =>
    match Text.splitOnce '=' a with
    | some (k, value) => if k = key.toList then some value else none
    | none => none
  let block := ((operand? "bs").bind size?).getD 512
  let source := (operand? "if").getD ['-']
  match ← readInput files source with
  | .error e =>
    blame files s!"failed to open {quoteName source}: {reason e}"
    return 1
  | .ok t =>
    let t := match (operand? "count").bind size? with
      | some n => t.take (n * block)
      | none => t
    match operand? "of" with
    | none => print files t
    | some target =>
      let path := (← get).path target
      let _ ← (files.truncate path : m _)
      let _ ← (files.append path (bytesOf t) : m _)
    if operand? "status" ≠ some "none".toList then
      let count := s!"{t.length / block}+{if t.length % block = 0 then 0 else 1} records "
      write files 2 (count ++ "in\n" ++ count ++ "out\n").toList
    return 0

/-! ### By name -/

/-- The filters by their names. -/
def filter? (name : Text) (arguments : List Text) : Option (Option Filter.Plan) :=
  if name = "head" then some (some (Filter.head arguments))
  else if name = "tail" then some (some (Filter.tail arguments))
  else if name = "cut" then some (some (Filter.cut arguments))
  else if name = "wc" then some (some (Filter.wc arguments))
  else if name = "sort" then some (some (Filter.sort arguments))
  else if name = "uniq" then some (some (Filter.uniq arguments))
  else if name = "tr" then some (some (Filter.tr arguments))
  else if name = "rev" then some (some (Filter.rev arguments))
  else if name = "tac" then some (some (Filter.tac arguments))
  else if name = "base64" then some (some (Filter.base64 arguments))
  else if name = "grep" then some (some (Filter.grep arguments))
  else if name = "sed" then some (Edit.plan? arguments)
  else none

/-- The other utilities by their names. -/
def action? (files : Files m) (name : Text) (arguments : List Text) : Option (Sh m Nat) :=
  if name = "true" then some (pure 0)
  else if name = "false" then some (pure 1)
  else if name = "cat" then some (cat files arguments)
  else if name = "ls" then some (ls files arguments)
  else if name = "mkdir" then some (makeDirectories files arguments)
  else if name = "rm" then some (remove files arguments)
  else if name = "rmdir" then some (removeDirectories files arguments)
  else if name = "touch" then some (touch files arguments)
  else if name = "cp" then some (copy files false arguments)
  else if name = "mv" then some (copy files true arguments)
  else if name = "chmod" then some (changeMode files arguments)
  else if name = "tee" then some (tee files arguments)
  else if name = "basename" then some (basename files arguments)
  else if name = "dirname" then some (dirname files arguments)
  else if name = "seq" then some (seq files arguments)
  else if name = "sleep" then some (sleep files arguments)
  else if name = "expr" then some (expr files arguments)
  else if name = "yes" then some (yes files arguments)
  else if name = "printenv" then some (printEnvironment files arguments)
  else if name = "env" then some (printEnvironment files [])
  else if name = "which" then some (which files arguments)
  else if name = "cmp" then some (compare files arguments)
  else if name = "dd" then some (copyBlocks files arguments)
  else if name = "uname" then some do
    print files "Linux\n"
    return 0
  else none

/-- What the code of every program starts with. -/
def magic : Text := ['\x7f', 'E', 'L', 'F']

/-- The names of all programs. -/
def names : List String :=
  ["sh", "dash", "bash", "env", "echo", "printf", "test", "[", "pwd", "kill", "head", "tail", "cut",
    "wc", "sort", "uniq", "tr", "rev", "tac", "base64", "grep", "sed", "true", "false", "cat", "ls",
    "mkdir", "rm", "rmdir", "touch", "cp", "mv", "chmod", "tee", "basename", "dirname", "seq",
    "sleep", "expr", "yes", "printenv", "which", "cmp", "dd", "uname"]

/-- The text that stands for the code of a program. -/
def codeOf (name : String) : Text := magic ++ name.toList

/-- The name of the program that a text is the code of. -/
def programOf? (t : Text) : Option String :=
  if magic.isPrefixOf t then names.find? fun name => name.toList = t.drop magic.length else none

/-- Runs a utility, if there is one of the name. -/
def run? (files : Files m) (name : Text) (arguments : List Text) : Option (Sh m Nat) :=
  match filter? name arguments with
  | some (some plan) => some do
    let (_, operands) := Filter.parseOptions [] arguments
    if name = "tr" && operands.length < 2 && !(arguments.any fun a => a.head? = some '-') then
      match operands with
      | [only] =>
        blame files s!"missing operand after {quoteName only}"
        write files 2 "Two strings must be given when translating.\n"
      | _ => blame files "missing operand"
      write files 2 "Try 'tr --help' for more information.\n"
      return 1
    if name = "cut" && !(arguments.any fun a => a.head? = some '-') then
      blameUse files "you must specify a list of bytes, characters, or fields"
      return 1
    let status ← runFilter files name plan
    let (options, _) := Filter.parseOptions ['n', 'c'] arguments
    if name = "tail" && (Filter.has options 'f' || Filter.has options 'F') then hang
    return status
  | some none => some do
    blame files "-e expression #1, char 1: unknown command"
    return 1
  | none => action? files name arguments

end HttpCascade.Shell.Utility

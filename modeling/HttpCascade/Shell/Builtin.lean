import HttpCascade.Shell.Condition
import HttpCascade.Shell.Expansion
import HttpCascade.Shell.Format
import HttpCascade.Shell.Reader
import HttpCascade.Shell.Utility

/-!
# Built-in commands

The commands that a shell carries out itself, because they change it or because they are used all the
time. A special one ends the shell when it fails.
-/

namespace HttpCascade.Shell.Builtin

open Sh

variable {m : Type → Type} [Monad m]

/-- A complaint of a built-in command, with the status of a failure. -/
def refuse (files : Files m) (message : String) (status : Nat) : Sh m Nat := do
  complain files message
  return status

/-- Carries out a text, a line at a time; the number bounds the count of lines, and `isFile` says
that the lines may be shown. -/
def runLines (files : Files m) (i : Interpreter m) (isFile : Bool) : Nat → Source → Sh m Unit
  | 0, _ => return
  | n + 1, source => do
    let shown := isFile && (← get).options.verbose
    match nextLine source with
    | .error fault =>
      if shown then write files 2 source.rest
      modify fun s => { s with line := fault.line }
      fatal files fault.message.str
    | .ok (none, _) => if shown then write files 2 source.rest
    | .ok (some commands, next) =>
      if shown then write files 2 (source.rest.take (source.rest.length - next.rest.length))
      i.run (.sequence commands)
      runLines files i isFile n next

/-- Carries out a text. -/
def runText (files : Files m) (i : Interpreter m) (t : Text) : Sh m Unit :=
  runLines files i false (t.length + 2) ⟨t, 1, 0⟩

/-- Carries out the text of a file. -/
def runFile (files : Files m) (i : Interpreter m) (t : Text) : Sh m Unit :=
  runLines files i true (t.length + 2) ⟨t, 1, 0⟩

/-! ### Output and conditions -/

def printf (files : Files m) (arguments : List Text) : Sh m Nat := do
  match arguments with
  | ['-', '-'] :: format :: rest => carryOut format rest
  | [['-', '-']] | [] => refuse files "usage: printf format [arg ...]" 2
  | ('-' :: c :: _) :: _ => refuse files s!"Illegal option -{c}" 2
  | format :: rest => carryOut format rest
where
  carryOut (format : Text) (operands : List Text) : Sh m Nat := do
    let result := Format.printf format operands
    print files result.output
    for complaint in result.complaints do complain files complaint.message
    return result.status

def test (files : Files m) (name : String) (arguments : List Text) : Sh m Nat := do
  let operands? := if name = "[" then
      if arguments.getLast? = some [']'] then some arguments.dropLast else none
    else some arguments
  match operands? with
  | none => refuse files "missing ]" 2
  | some operands =>
    match ← Condition.evaluate files operands with
    | .ok answer => return if answer then 0 else 1
    | .error e => refuse files e 2

/-! ### Directories -/

/-- Removes `.` and `..` from a path of the shell. -/
def lexical (t : Text) : Text := fromText (Path.normalize (toPath t)).text

/-- Gives a variable to programs. -/
def exportVariable (name : Text) : Sh m Unit :=
  modify fun s =>
    let old := (s.bindings.get? name).getD ⟨none, false, false⟩
    { s with bindings := s.bindings.insert name { old with exported := true } }

def cd (files : Files m) (arguments : List Text) : Sh m Nat := do
  let s ← get
  let operands := arguments.filter fun a => !a.isOneOf ["-L", "-P", "--"]
  let target : Text := match operands with
    | [] => (s.get? "HOME".toList).getD []
    | ['-'] :: _ => (s.get? "OLDPWD".toList).getD []
    | t :: _ => t
  if operands = [] && target = [] then return 0
  let full := if target.head? = some '/' then target
    else if target = [] then s.directory else s.directory ++ '/' :: target
  let there : Bool ← (files.isDirectory (toPath full) : m _)
  if !there then refuse files s!"can't cd to {target.str}" 2
  else
    let old := s.directory
    modify fun s => { s with directory := lexical full }
    setVariable files "OLDPWD" old
    setVariable files "PWD" (lexical full)
    exportVariable "OLDPWD"
    exportVariable "PWD"
    if operands.head? = some ['-'] then print files (lexical full ++ ['\n'])
    return 0

/-! ### Reading -/

/-- A character that was read, and whether a backslash stood before it. -/
structure ReadChar where
  char : Char
  escaped : Bool

/-- The characters of a line whose backslashes count, and whether the line goes on. -/
def unescapeLine : Text → List ReadChar × Bool
  | [] => ([], false)
  | ['\\'] => ([], true)
  | '\\' :: c :: rest =>
    let (cs, goesOn) := unescapeLine rest
    (⟨c, true⟩ :: cs, goesOn)
  | c :: rest =>
    let (cs, goesOn) := unescapeLine rest
    (⟨c, false⟩ :: cs, goesOn)

/-- Reads a line; the number bounds how many lines a line may go on over. -/
def readFields (raw : Bool) : Nat → Sh m (List ReadChar × Bool)
  | 0 => return ([], false)
  | n + 1 => do
    let (line, ended) ← readLine 0
    if raw then return (line.map fun c => ⟨c, false⟩, ended)
    let (cs, goesOn) := unescapeLine line
    if goesOn && ended then
      let (more, ended) ← readFields raw n
      return (cs ++ more, ended)
    else return (cs, ended)

/-- Gives the characters of a line to names; the last takes what is left. -/
def distribute (separators : Text) : List Text → List ReadChar → List (Text × Text)
  | [], _ => []
  | [name], cs =>
    let blank := fun (c : ReadChar) => !c.escaped && c.char ∈ separators && Fields.isBlank c.char
    let kept := ((cs.dropWhile blank).reverse.dropWhile blank).reverse
    let separator := fun (c : ReadChar) => !c.escaped && c.char ∈ separators
    let kept := match kept.reverse with
      | last :: before =>
        if separator last && !(before.any separator) then
          (before.dropWhile blank).reverse else kept
      | [] => kept
    [(name, kept.map ReadChar.char)]
  | name :: names, cs =>
    let blank := fun (c : ReadChar) => !c.escaped && c.char ∈ separators && Fields.isBlank c.char
    let separator := fun (c : ReadChar) => !c.escaped && c.char ∈ separators
    let cs := cs.dropWhile blank
    let value := cs.takeWhile fun c => !separator c
    let rest := (cs.drop value.length).dropWhile blank
    let rest := match rest with
      | c :: after => if separator c then after else rest
      | [] => rest
    (name, value.map ReadChar.char) :: distribute separators names rest

def read (files : Files m) (arguments : List Text) : Sh m Nat := do
  let (options, names) := Filter.parseOptions ['p'] arguments
  if names = [] then return ← refuse files "arg count" 2
  match names.find? fun name => !isName name with
  | some name => return ← refuse files s!"{name.str}: bad variable name" 2
  | none => pure ()
  let (cs, ended) ← readFields (Filter.has options 'r') 1000
  let separators ← separators
  for (name, value) in distribute separators names (cs.filter fun c => c.char ≠ '\x00') do
    setVariable files name value
  return if ended then 0 else 1

/-! ### Flow -/

/-- The status that an operand asks for. -/
def statusOf (files : Files m) (arguments : List Text) : Sh m Nat := do
  match arguments with
  | [] => return (← get).status
  | t :: _ =>
    match decimal? t with
    | some n => return n
    | none => fatal files s!"Illegal number: {t.str}"

/-- How many loops an operand counts. -/
def loopCount (files : Files m) (arguments : List Text) : Sh m Nat := do
  match arguments with
  | [] => return 1
  | t :: _ =>
    match decimal? t with
    | some (n + 1) => return n + 1
    | _ => fatal files s!"Illegal number: {t.str}"

/-- Turns an option on or off. -/
def setOption (files : Files m) (c : Char) (value : Bool) : Sh m Unit := do
  let o := (← get).options
  let o ←
    if c = 'e' then pure { o with exitOnError := value }
    else if c = 'u' then pure { o with noUnset := value }
    else if c = 'f' then pure { o with noGlob := value }
    else if c = 'x' then pure { o with trace := value }
    else if c = 'a' then pure { o with allExport := value }
    else if c = 'C' then pure { o with noClobber := value }
    else if c = 'n' then pure { o with noExec := value }
    else if c = 'v' then pure { o with verbose := value }
    else if c ∈ ['b', 'm', 'E', 'I', 'V'] then pure o
    else fatal files s!"Illegal option -{c}"
  modify fun s => { s with options := o }

/-- The letter of an option's name. -/
def optionLetter? (name : Text) : Option Char :=
  let table : List (String × Char) :=
    [("errexit", 'e'), ("nounset", 'u'), ("noglob", 'f'), ("xtrace", 'x'), ("allexport", 'a'),
      ("verbose", 'v'), ("monitor", 'm'), ("noexec", 'n'), ("noclobber", 'C'), ("notify", 'b')]
  (table.find? fun row => row.1.toList = name).map Prod.snd

/-- Carries out the operands of `set`: options, and then arguments. -/
def setAll (files : Files m) : List Text → Sh m Nat
  | [] => return 0
  | ['-', '-'] :: rest => do
    modify fun s => { s with arguments := rest }
    return 0
  | ['-'] :: rest => do
    setOption files 'x' false
    setOption files 'v' false
    if rest ≠ [] then modify fun s => { s with arguments := rest }
    return 0
  | (sign :: c :: letters) :: rest => do
    if sign = '-' || sign = '+' then
      let named := (c :: letters).getLast? = some 'o'
      for letter in if named then (c :: letters).dropLast else c :: letters do
        setOption files letter (sign = '-')
      if named then
        match rest with
        | [] => return 0
        | name :: rest =>
          match optionLetter? name with
          | some letter => setOption files letter (sign = '-')
          | none => fatal files s!"Illegal option {sign}o {name.str}"
          setAll files rest
      else setAll files rest
    else
      modify fun s => { s with arguments := (sign :: c :: letters) :: rest }
      return 0
  | arguments => do
    modify fun s => { s with arguments }
    return 0

/-! ### Variables -/

/-- Splits `name=value`. -/
def splitAssignment (t : Text) : Text × Option Text :=
  match t.splitOnce '=' with
  | some (name, value) => (name, some value)
  | none => (t, none)

/-- A text between quotes, from which the shell reads the same text. -/
def quoteValue (t : Text) : Text :=
  if t = [] then ['\'', '\''] else (pieces t).flatten
where
  pieces (t : Text) : List Text :=
    (Text.splitAll '\'' t).zipIdx.map fun (piece, n) =>
      (if n = 0 then [] else ['"', '\'', '"']) ++
        (if piece = [] then [] else '\'' :: piece ++ ['\''])

/-- The variables in the order of their names, as commands that set them. -/
def listVariables (files : Files m) (command : Text) (isListed : Variable → Bool) : Sh m Nat := do
  let entries := (← get).bindings.entries.filter fun (entry : Text × Variable) => isListed entry.2
  let sorted := entries.mergeSort fun a b => Text.inOrder a.1 b.1
  for (name, v) in sorted do
    let value := match v.value with
      | some t => '=' :: quoteValue t
      | none => []
    print files (command ++ name ++ value ++ ['\n'])
  return 0

/-- Changes how variables are kept, after values that the operands give them; without operands such
variables are listed. -/
def declare (files : Files m) (command : Text) (isListed : Variable → Bool)
    (change : Variable → Variable) (arguments : List Text) : Sh m Nat := do
  let operands : List Text := arguments.filter fun a => a ≠ ['-', 'p']
  if operands = [] then return ← listVariables files (command ++ [' ']) isListed
  for operand in operands do
    let (key, value) := splitAssignment operand
    if !isName key then fatal files s!"{key.str}: bad variable name"
    match value with
    | some value => setVariable files key value
    | none => pure ()
    modify fun s =>
      let old := (s.bindings.get? key).getD ⟨none, false, false⟩
      { s with bindings := s.bindings.insert key (change old) }
  return 0

def unset (files : Files m) (arguments : List Text) : Sh m Nat := do
  let (options, names) := Filter.parseOptions [] arguments
  for name in names do
    if Filter.has options 'f' then
      modify fun s => { s with functions := s.functions.filter (·.1 ≠ name) }
    else
      if !isName name then fatal files s!"{name.str}: bad variable name"
      if ((← get).bindings.get? name).any Variable.readOnly then
        fatal files s!"{name.str}: is read only"
      modify fun s => { s with bindings := s.bindings.erase name }
  return 0

/-- Makes variables a function's own. -/
def declareLocal (files : Files m) (arguments : List Text) : Sh m Nat := do
  match (← get).saved with
  | [] => fatal files "not in a function"
  | frame :: frames =>
    match arguments.find? fun a => !isName (splitAssignment a).1 with
    | some a => fatal files s!"{(splitAssignment a).1.str}: bad variable name"
    | none => pure ()
    let names := arguments.map fun a => (splitAssignment a).1
    let bindings := (← get).bindings
    let added := names.map fun name => (name, bindings.get? name)
    modify fun s => { s with saved := (added ++ frame) :: frames }
    for operand in arguments do
      match splitAssignment operand with
      | (name, some value) => setVariable files name value
      | _ => pure ()
    return 0

/-! ### Signals -/

def signals : List (String × Nat) :=
  [("EXIT", 0), ("HUP", 1), ("INT", 2), ("QUIT", 3), ("ILL", 4), ("TRAP", 5), ("ABRT", 6), ("BUS", 7),
    ("FPE", 8), ("KILL", 9), ("USR1", 10), ("SEGV", 11), ("USR2", 12), ("PIPE", 13), ("ALRM", 14),
    ("TERM", 15), ("CHLD", 17), ("CONT", 18), ("STOP", 19), ("TSTP", 20), ("TTIN", 21),
    ("TTOU", 22), ("URG", 23), ("WINCH", 28)]

/-- The number of a signal. -/
def signal? (t : Text) : Option Nat :=
  match decimal? t with
  | some n => if n < 65 then some n else none
  | none =>
    let bare := if "SIG".toList.isPrefixOf t then t.drop 3 else t
    (signals.find? fun row => row.1.toList = bare.map Char.toUpper).map Prod.snd

/-- The name of a signal. -/
def signalName (n : Nat) : Text :=
  match signals.find? fun row => row.2 = n with
  | some (name, _) => name.toList
  | none => Text.ofNat n

/-- How the end of a program by a signal is told. -/
def signalMessage? (n : Nat) : Option String :=
  let rows : List (Nat × String) :=
    [(1, "Hangup"), (3, "Quit"), (4, "Illegal instruction"), (5, "Trace/breakpoint trap"),
      (6, "Aborted"), (7, "Bus error"), (8, "Floating point exception"), (9, "Killed"),
      (10, "User defined signal 1"), (11, "Segmentation fault"), (12, "User defined signal 2"),
      (14, "Alarm clock"), (15, "Terminated")]
  rows.lookup n

def trap (files : Files m) (arguments : List Text) : Sh m Nat := do
  let arguments := if arguments.head? = some ['-', '-'] then arguments.drop 1 else arguments
  if arguments = [] then
    for (n, action) in (← get).traps.mergeSort fun a b => a.1 ≤ b.1 do
      print files ("trap -- ".toList ++ quoteValue action ++ ' ' :: signalName n ++ ['\n'])
    return 0
  let (action, names) : Option Text × List Text := match arguments with
    | [name] => (none, [name])
    | ['-'] :: names => (none, names)
    | action :: names => (some action, names)
    | [] => (none, [])
  for name in names do
    match signal? name with
    | none =>
      write files 2 ("trap: ".toList ++ name ++ ": bad trap\n".toList)
      return 1
    | some n =>
      modify fun s =>
        let others := s.traps.filter (·.1 ≠ n)
        { s with
          traps := match action with
            | some a => (n, a) :: others
            | none => others }
  return 0

/-- A signal reaches the shell itself. -/
def receive (files : Files m) (i : Interpreter m) (signal : Nat) : Sh m Unit := do
  let s ← get
  if signal ∈ [0, 17, 18, 23, 28] then return
  if signal = 9 then throw (.killed signal s.process)
  match s.traps.lookup signal with
  | some [] => return
  | some action =>
    runText files i action
    setStatus s.status
  | none =>
    if signal ∈ [19, 20, 21, 22] then
      match s.limit with
      | some limit => pass limit
      | none => throw .outOfTime
    else throw (.killed signal s.process)

/-- Receives the signals that have been sent to the shell. -/
def receivePending (files : Files m) (i : Interpreter m) : Sh m Unit := do
  let s ← get
  if s.subshell || s.pending.isEmpty then return
  let (own, others) := s.pending.partition fun (p : Nat × Nat) => p.1 = s.process
  set { s with pending := others }
  for (_, signal) in own do receive files i signal

def killUsage : String :=
  "Usage: kill [-s sigspec | -signum | -sigspec] [pid | job]... or\nkill -l [exitstatus]"

/-- Ends a command in the background at once. -/
def endJob (job : Job) (signal : Nat) : Sh m Unit :=
  modify fun s =>
    let ended := { job with finish := s.clock, status := 128 + signal, signal := some signal }
    { s with
      jobs := s.jobs.map fun j => if j.number = job.number then ended else j
      streams := s.streams.map fun stream => stream.withoutJob job.number s.clock }

/-- Sends a signal to a process. -/
def sendSignal (files : Files m) (signal : Nat) (target : Text) : Sh m Nat := do
  let s ← get
  match integer? target with
  | none => refuse files s!"Illegal number: {target.str}" 2
  | some n =>
    let processes : List Nat := if n = 0 then [s.process, s.parent]
      else [n.toNat, (-n).toNat].filter fun p => p ∈ [s.process, s.parent, firstProcess]
    if processes ≠ [] then
      if signal ≠ 0 then
        modify fun s => { s with pending := s.pending ++ processes.map fun p => (p, signal) }
      return 0
    else
      match s.jobs.find? fun job => job.number = n.natAbs && s.clock ≤ job.finish with
      | some job =>
        if signal ∉ [0, 17, 18, 19, 20, 21, 22, 23, 28] then endJob job signal
        return 0
      | none => refuse files "No such process\n" 1

/-- Tells names and numbers of signals. -/
def listSignals (files : Files m) : List Text → Sh m Nat
  | [] => do
    for n in List.range 31 do print files (signalName (n + 1) ++ ['\n'])
    return 0
  | t :: _ =>
    match decimal? t with
    | some n => do
      print files (signalName (if n > 128 then n - 128 else n) ++ ['\n'])
      return 0
    | none => refuse files s!"Illegal number: {t.str}" 2

def kill (files : Files m) (arguments : List Text) : Sh m Nat := do
  match arguments with
  | ['-', 'l'] :: rest => listSignals files rest
  | ['-', 's'] :: name :: rest =>
    match signal? name with
    | some signal => send signal rest
    | none => refuse files s!"invalid signal number or name: {name.str}" 2
  | ['-', '-'] :: rest => send 15 rest
  | ('-' :: c :: name) :: rest =>
    match signal? (c :: name) with
    | some signal => send signal rest
    | none => refuse files s!"Illegal option -{c}" 2
  | rest => send 15 rest
where
  send (signal : Nat) (targets : List Text) : Sh m Nat := do
    if targets = [] then refuse files killUsage 2
    else return (← targets.mapM (sendSignal files signal)).foldl max 0

/-- Waits for commands in the background. -/
def wait (files : Files m) : List Text → Sh m Nat
  | [] => do
    let s ← get
    pass ((s.jobs.map fun (job : Job) => job.finish - s.clock).foldl max 0)
    modify fun s => { s with jobs := [] }
    return 0
  | t :: rest => do
    let status ← match decimal? t with
      | none => refuse files s!"Illegal number: {t.str}" 2
      | some n =>
        let s ← get
        match s.jobs.find? fun job => job.number = n with
        | none => pure 127
        | some job =>
          pass (job.finish - s.clock)
          modify fun s => { s with jobs := s.jobs.filter fun j => j.number ≠ n }
          match job.signal.bind signalMessage? with
          | some text => write files 2 (text.toList ++ ['\n'])
          | none => pure ()
          pure job.status
    if rest = [] then return status else wait files rest

/-! ### Options of scripts -/

/-- Whether a letter is an option, and whether it has an argument. -/
def optionKind? (c : Char) : Text → Option Bool
  | [] => none
  | d :: ':' :: rest => if d = c then some true else optionKind? c rest
  | d :: rest => if d = c then some false else optionKind? c rest

/-- Reads the next option out of some words. -/
def getopts (files : Files m) (arguments : List Text) : Sh m Nat := do
  match arguments with
  | letters :: name :: rest =>
    let s ← get
    let words := if rest = [] then s.arguments else rest
    let index := ((s.get? "OPTIND".toList).bind decimal?).getD 1
    let finish := fun (index offset : Nat) (value : Text) (argument : Option Text) (status : Nat) =>
      (do
        match argument with
        | some t => setVariable files "OPTARG" t
        | none => modify fun s => { s with bindings := s.bindings.erase "OPTARG".toList }
        setVariable files "OPTIND" (Text.ofNat index)
        modify fun s => { s with optionOffset := offset }
        setVariable files name value
        return status : Sh m Nat)
    let quiet := letters.head? = some ':'
    let word := words[index - 1]?.getD []
    let offset := max s.optionOffset 1
    match word.drop offset with
    | [] => finish index 0 ['?'] none 1
    | c :: tail =>
      if word.head? ≠ some '-' then finish index 0 ['?'] none 1
      else if word = ['-', '-'] then finish (index + 1) 0 ['?'] none 1
      else
        let (next, position) := if tail = [] then (index + 1, 0) else (index, offset + 1)
        match optionKind? c letters with
        | none =>
          if quiet then finish next position ['?'] (some [c]) 0
          else
            write files 2 ("Illegal option -".toList ++ [c, '\n'])
            finish next position ['?'] none 0
        | some false => finish next position [c] (some []) 0
        | some true =>
          if tail ≠ [] then finish (index + 1) 0 [c] (some tail) 0
          else
            match words[index]? with
            | some argument => finish (index + 2) 0 [c] (some argument) 0
            | none =>
              if quiet then finish (index + 1) 0 [':'] (some [c]) 0
              else
                write files 2 ("No arg for -".toList ++ c :: " option\n".toList)
                finish (index + 1) 0 ['?'] none 0
  | _ => refuse files "Usage: getopts optstring var [arg...]" 2

/-! ### Names of commands -/

/-- The names of the built-in commands, the special ones first. -/
def specialNames : List String :=
  [":", ".", "break", "continue", "eval", "exec", "exit", "export", "readonly", "return", "set",
    "shift", "times", "trap", "unset"]

def plainNames : List String :=
  ["[", "alias", "cd", "command", "echo", "false", "getopts", "hash", "jobs", "kill", "local",
    "printf", "pwd", "read", "test", "true", "type", "ulimit", "umask", "unalias", "wait"]

def isSpecial (name : Text) : Bool := specialNames.any fun n => n.toList = name

def isBuiltin (name : Text) : Bool := isSpecial name || plainNames.any fun n => n.toList = name

/-- What a name would run. -/
def describe (files : Files m) (long : Bool) (name : Text) : Sh m (Option Text) := do
  let told := fun (what : String) => some (if long then name ++ what.toList else name)
  if keywords.any fun k => k.toList = name then return told " is a shell keyword"
  if ((← get).functions.lookup name).isSome then return told " is a shell function"
  if isSpecial name then return told " is a special shell builtin"
  if isBuiltin name then return told " is a shell builtin"
  match ← findProgram files name with
  | .ok path => return some (if long then name ++ " is ".toList ++ path else path)
  | .error _ => return none

def tellKinds (files : Files m) (arguments : List Text) : Sh m Nat := do
  let statuses ← arguments.mapM fun name => do
    match ← describe files true name with
    | some t =>
      print files (t ++ ['\n'])
      return 0
    | none =>
      print files (name ++ ": not found\n".toList)
      return 127
  return statuses.foldl max 0

/-- Tells or changes which permissions new files do not get. -/
def changeMask (files : Files m) : List Text → Sh m Nat
  | [] => do
    let digits := Nat.toDigits 8 (← get).mask
    print files (List.replicate (4 - digits.length) '0' ++ digits ++ ['\n'])
    return 0
  | t :: _ =>
    if t ≠ [] && t.all fun c => '0' ≤ c && c ≤ '7' then do
      modify fun s => { s with mask := t.foldl (fun n c => 8 * n + (c.toNat - 48)) 0 % 512 }
      return 0
    else if t.head?.any Char.isDigit then refuse files s!"Illegal number: {t.str}" 2
    else refuse files s!"Illegal mode: {t.str}" 2

/-! ### By name -/

/-- Carries out the text of a file. -/
def source (files : Files m) (i : Interpreter m) (arguments : List Text) : Sh m Nat := do
  match arguments with
  | [] => return 0
  | name :: _ =>
    let s ← get
    let candidates := if '/' ∈ name then [name]
      else (Text.splitAll ':' ((s.get? "PATH".toList).getD [])).map fun d =>
        if d = [] then name else d ++ '/' :: name
    let found ← candidates.findM? fun t => do
      let kind : Except IoError FileKind ← (files.kind (s.path t) : m _)
      return match kind with
        | .ok (.regular _) => true
        | _ => false
    let content : Except IoError Bytes ← (files.read (s.path (found.getD name)) : m _)
    match found, content with
    | some _, .ok bytes =>
      inContext name do
        tryCatch (do runFile files i (ofBytes bytes); return (← get).status) fun
          | .returning status => pure status
          | stop => throw stop
    | _, .error e =>
      if '/' ∈ name then
        let why := if e = .notFound || e = .notADirectory then "No such file" else Utility.reason e
        fatal files s!"cannot open {name.str}: {why}"
      else fatal files s!"{name.str}: not found"
    | none, .ok _ => fatal files s!"{name.str}: not found"

/-- The built-in command of a name, other than those that run a command themselves. -/
def run? (files : Files m) (i : Interpreter m) (name : Text) (arguments : List Text) :
    Option (Sh m Nat) :=
  if name.isOneOf [":", "true", "alias", "unalias", "jobs", "ulimit", "times"] then
    some (pure 0)
  else if name = "false" then some (pure 1)
  else if name = "echo" then some do
    print files (Format.echo arguments)
    return 0
  else if name = "printf" then some (printf files arguments)
  else if name = "test" then some (test files "test" arguments)
  else if name = "[" then some (test files "[" arguments)
  else if name = "pwd" then some do
    print files ((← get).directory ++ ['\n'])
    return 0
  else if name = "cd" then some (cd files arguments)
  else if name = "read" then some (read files arguments)
  else if name = "exit" then some do throw (.exit (← statusOf files arguments))
  else if name = "return" then some do throw (.returning (← statusOf files arguments))
  else if name = "break" then some do
    let n ← loopCount files arguments
    let loops := (← get).loops
    if loops = 0 then return 0 else throw (.breaking (min n loops))
  else if name = "continue" then some do
    let n ← loopCount files arguments
    let loops := (← get).loops
    if loops = 0 then return 0 else throw (.continuing (min n loops))
  else if name = "shift" then some do
    let n ← match arguments with
      | [] => pure 1
      | t :: _ => pure ((decimal? t).getD 1)
    if n > (← get).arguments.length then fatal files "can't shift that many"
    modify fun s => { s with arguments := s.arguments.drop n }
    return 0
  else if name = "set" then
    if arguments = [] then some (listVariables files [] fun v => v.value.isSome)
    else some (setAll files arguments)
  else if name = "export" then
    some (declare files name Variable.exported (fun v => { v with exported := true }) arguments)
  else if name = "readonly" then
    some (declare files name Variable.readOnly (fun v => { v with readOnly := true }) arguments)
  else if name = "unset" then some (unset files arguments)
  else if name = "local" then some (declareLocal files arguments)
  else if name = "trap" then some (trap files arguments)
  else if name = "kill" then some (kill files arguments)
  else if name = "wait" then some (wait files arguments)
  else if name = "getopts" then some (getopts files arguments)
  else if name = "hash" then some do
    for program in arguments do
      if (← findProgram files program).toOption.isNone then
        return ← refuse files s!"{program.str}: not found" 1
    return 0
  else if name = "type" then some (tellKinds files arguments)
  else if name = "umask" then some (changeMask files arguments)
  else if name = "eval" then some do
    setStatus 0
    runText files i (Text.join [' '] arguments)
    return (← get).status
  else if name = "." then some (source files i arguments)
  else none

end HttpCascade.Shell.Builtin

import HttpCascade.Shell.Builtin

/-!
# Carrying out commands

What each command does to a shell and to the files. `execute` carries out one command and leaves the
commands inside it to an `Interpreter`; `interpreter` ties the knot with a bound on the depth. A
script that reaches the bound counts as one that does not end.
-/

namespace HttpCascade.Shell

open Sh Builtin

variable {m : Type → Type} [Monad m]

/-! ### Descriptors -/

/-- How a redirection to a file fails. -/
def openFailure (making : Bool) (e : IoError) : String :=
  if e = .notFound || e = .notADirectory then
    if making then "Directory nonexistent" else "No such file"
  else Utility.reason e

/-- The descriptor that a name of a device stands for. -/
def deviceDescriptor? (t : Text) : Option Nat :=
  if t = "/dev/stdin" then some 0
  else if t = "/dev/stdout" then some 1
  else if t = "/dev/stderr" then some 2
  else if "/dev/fd/".toList.isPrefixOf t then decimal? (t.drop 8)
  else none

/-- Lets a descriptor lead where another leads. -/
def duplicate (files : Files m) (descriptor : Nat) (t : Text) : Sh m Bool := do
  if t = ['-'] then
    setDescriptor descriptor none
    return true
  match decimal? t with
  | none =>
    complain files "Bad fd number"
    return false
  | some other =>
    match ← stream? other with
    | some i =>
      setDescriptor descriptor (some i)
      return true
    | none =>
      complain files s!"{other}: Bad file descriptor"
      return false

/-- Opens a file for writing; `keep` says that a file that is there must not be written over. -/
def openOutput (files : Files m) (descriptor : Nat) (append keep : Bool) (t : Text) :
    Sh m Bool := do
  match deviceDescriptor? t with
  | some other => duplicate files descriptor (Text.ofNat other)
  | none =>
    let path := (← get).path t
    let there : Bool ← (files.isRegular path : m _)
    let made : Except IoError Unit ←
      if append && there then pure (.ok ())
      else if keep && there then pure (.error .alreadyExists)
      else (files.truncate path : m _)
    match made with
    | .ok () =>
      setDescriptor descriptor (some (← addStream (.file path)))
      return true
    | .error e =>
      complain files s!"cannot create {t.str}: {openFailure true e}"
      return false

/-- Carries out a redirection; says whether that went well. -/
def redirect (files : Files m) (i : Interpreter m) : Redirection → Sh m Bool
  | .mk descriptor kind target => do
    let t ← expandToText files i target
    match kind with
    | .here =>
      setDescriptor descriptor (some (← addStream (.source t)))
      return true
    | .duplicate => duplicate files descriptor t
    | .write => openOutput files descriptor false (← get).options.noClobber t
    | .overwrite => openOutput files descriptor false false t
    | .append => openOutput files descriptor true false t
    | .read | .readWrite =>
      match deviceDescriptor? t with
      | some other => duplicate files descriptor (Text.ofNat other)
      | none =>
        match ← Utility.readInput files t with
        | .ok content =>
          setDescriptor descriptor (some (← addStream (.source content)))
          return true
        | .error .isADirectory =>
          setDescriptor descriptor (some (← addStream .null))
          return true
        | .error e =>
          complain files s!"cannot open {t.str}: {openFailure false e}"
          return false

/-- Carries out redirections until one fails. -/
def redirectAll (files : Files m) (i : Interpreter m) : List Redirection → Sh m Bool
  | [] => return true
  | r :: rest => do if ← redirect files i r then redirectAll files i rest else return false

/-- Does something under redirections; `special` says that a failing one ends the shell. -/
def underRedirections (files : Files m) (i : Interpreter m) (special : Bool)
    (rs : List Redirection) (body : Sh m Unit) : Sh m Unit := do
  if rs.isEmpty then body
  else
    let before := (← get).descriptors
    let restore : Sh m Unit := modify fun s => { s with descriptors := before }
    if ← redirectAll files i rs then
      tryCatch body fun stop => do
        restore
        throw stop
      restore
    else
      restore
      setStatus 2
      if special then throw (.exit 2)

/-! ### Status -/

/-- Does something whose failure does not end the shell. -/
def leniently (body : Sh m Unit) : Sh m Unit := do
  let before := (← get).unchecked
  let restore : Sh m Unit := modify fun s => { s with unchecked := before }
  modify fun s => { s with unchecked := true }
  tryCatch body fun stop => do
    restore
    throw stop
  restore

/-- Ends the shell if the last command failed and the options ask for that. -/
def check : Sh m Unit := do
  let s ← get
  if s.status ≠ 0 && s.options.exitOnError && !s.unchecked then throw (.exit s.status)

/-! ### Loops -/

/-- Carries out the body of a loop; says whether the loop goes on. -/
def runBody (body : Sh m Unit) : Sh m Bool := do
  let before := (← get).loops
  let leave : Sh m Unit := modify fun s => { s with loops := before }
  modify fun s => { s with loops := before + 1 }
  let goesOn ← tryCatch (do body; return true) fun stop => do
    leave
    match stop with
    | .breaking (n + 2) => throw (.breaking (n + 1))
    | .continuing (n + 2) => throw (.continuing (n + 1))
    | .breaking _ => return false
    | .continuing _ => return true
    | stop => throw stop
  leave
  return goesOn

/-- How often a loop may be carried out before it counts as endless. -/
def loopLimit : Nat := 200000

/-- Repeats a loop whose last status is known; the first number bounds the repetitions. -/
def repeatLoop (untilTrue : Bool) (condition body : Sh m Unit) : Nat → (last : Nat) → Sh m Unit
  | 0, _ => hang
  | n + 1, last => do
    leniently condition
    if ((← get).status = 0) != untilTrue then
      let goesOn ← runBody body
      let last := (← get).status
      if goesOn then repeatLoop untilTrue condition body n last else setStatus last
    else setStatus last

/-- Carries out the body for each value of a variable. -/
def runFor (files : Files m) (name : Text) (body : Sh m Unit) : List Text → Sh m Unit
  | [] => return
  | value :: rest => do
    setVariable files name value
    if ← runBody body then runFor files name body rest

/-! ### Programs -/

/-- The state of a shell that a program starts. -/
def freshState (s : State) (name : Text) (arguments : List Text) : State :=
  let fresh : State :=
    { name
      arguments
      process := s.process
      parent := s.parent
      job := s.job
      bindings := NameMap.ofList (ownVariables s.parent ++
        s.bindings.entries.filter fun entry => entry.2.exported)
      directory := s.directory
      descriptors := s.descriptors
      traps := s.traps.filter (·.2 = [])
      mask := s.mask
      streams := s.streams }
  fresh.withShared s

/-- Carries out a script, which is the text of a file or not, and what it has set up for its end;
gives its status. -/
def runScript (files : Files m) (i : Interpreter m) (isFile : Bool) (t : Text) : Sh m Nat := do
  let ending := fun (body : Sh m Unit) =>
    tryCatch (do body; return (← get).status) fun
      | .exit status | .returning status => pure status
      | .breaking _ | .continuing _ => return (← get).status
      | stop => throw stop
  let status ← ending (if isFile then runFile files i t else runText files i t)
  match (← get).traps.lookup 0 with
  | some (c :: action) =>
    modify fun s =>
      { s with traps := s.traps.filter (·.1 ≠ 0), status, unchecked := false, context := none }
    let status ← tryCatch (do runText files i (c :: action); return status) fun
      | .exit status => pure status
      | .killed signal process => throw (.killed signal process)
      | .outOfTime => throw .outOfTime
      | _ => pure status
    return status % 256
  | _ => return status % 256

/-- The operands of a shell: its options, a command text if one is given, and the rest. -/
def shellOperands (files : Files m) (command : Bool) :
    List Text → Sh m (Bool × List Text)
  | ['-', '-'] :: rest => return (command, rest)
  | (sign :: c :: letters) :: rest => do
    if sign = '-' then
      for letter in c :: letters do
        if letter ∉ ['c', 's', 'i', 'l'] then setOption files letter true
      shellOperands files (command || 'c' ∈ c :: letters) rest
    else return (command, (sign :: c :: letters) :: rest)
  | rest => return (command, rest)

/-- Runs a shell as a program. -/
def runShell (files : Files m) (i : Interpreter m) (name : Text) (arguments : List Text) :
    Sh m Nat := do
  modify fun s => freshState s name []
  let (command, operands) ← shellOperands files false arguments
  setVariable files "PWD" (← get).directory
  exportVariable "PWD"
  match command, operands with
  | true, t :: rest =>
    modify fun s => { s with name := rest.head?.getD name, arguments := rest.drop 1 }
    runScript files i false t
  | true, [] =>
    modify fun s => { s with line := 0 }
    complain files "-c requires an argument"
    return 2
  | false, [] => do
    let t ← readAll 0
    runScript files i true t
  | false, file :: rest =>
    match ← (files.read ((← get).path file) : m _) with
    | .ok bytes =>
      modify fun s => { s with name := file, arguments := rest }
      runScript files i true (ofBytes bytes)
    | .error .isADirectory => return 0
    | .error e =>
      modify fun s => { s with line := 0 }
      complain files s!"cannot open {file.str}: {openFailure false e}"
      return 2

/-- What `env` makes of its operands: values for variables, and a command. -/
def environmentOperands : List Text → List (Text × Text) × List Text
  | [] => ([], [])
  | t :: rest =>
    match t.splitOnce '=' with
    | some (name, value) =>
      let (values, command) := environmentOperands rest
      ((name, value) :: values, command)
    | none => ([], t :: rest)

mutual

/-- Runs a program that is known by its name; its output may turn out not to have been written. -/
def runUtility (files : Files m) (i : Interpreter m) (name : Text) (arguments : List Text) :
    Sh m Nat := do
  modify fun s => { s with writeFault := none }
  let status ←
    if name = "echo" then do
      let (bare, arguments) := match arguments with
        | ['-', 'n'] :: rest => (true, rest)
        | _ => (false, arguments)
      print files (Text.join [' '] arguments ++ (if bare then [] else ['\n']))
      pure 0
    else
      match (Utility.run? files name arguments).or (Builtin.run? files i name arguments) with
      | some action => action
      | none => pure 0
  match (← get).writeFault with
  | none => return status
  | some e =>
    let what := if name = "cat" && e.code?.isNone then "standard output" else "write error"
    Utility.blame files s!"{what}: {Utility.reason e}"
    return if name = "env" then 125 else 1

/-- Runs a program from its file; the first number bounds how far programs name programs. -/
def runProgram (files : Files m) (i : Interpreter m) (depth : Nat) (path name : Text)
    (arguments : List Text) : Sh m Nat :=
  match depth with
  | 0 => return 126
  | depth + 1 => do
    match ← (files.read ((← get).path path) : m _) with
    | .error _ => return 126
    | .ok bytes =>
      let code := ofBytes bytes
      if Utility.magic.isPrefixOf code then
        let known := ((Utility.programOf? code).map String.toList).getD (Utility.baseName path)
        modify fun s => { s with program := name }
        if Text.isOneOf known ["sh", "dash", "bash"] then runShell files i name arguments
        else if known = "env" then runWithEnvironment files i depth arguments
        else runUtility files i known arguments
      else
        match code with
        | '#' :: '!' :: rest =>
          let line := rest.takeWhile (· ≠ '\n')
          match Filter.wordsOf line with
          | [] => runShell files i name (path :: arguments)
          | interpreter :: options =>
            runNamed files i depth interpreter (options ++ path :: arguments)
        | _ => runShell files i name (path :: arguments)

/-- Finds a program and runs it. -/
def runNamed (files : Files m) (i : Interpreter m) (depth : Nat) (name : Text)
    (arguments : List Text) : Sh m Nat :=
  match depth with
  | 0 => return 126
  | depth + 1 => do
    match ← findProgram files name with
    | .ok path => runProgram files i depth path name arguments
    | .error e =>
      let missing := e = .notFound || e = .notADirectory
      let why := if name = [] then Utility.reason .permissionDenied
        else if missing then "not found" else Utility.reason e
      complain files s!"{name.str}: {why}"
      return if missing then 127 else 126

/-- Runs a command with other variables. -/
def runWithEnvironment (files : Files m) (i : Interpreter m) (depth : Nat)
    (arguments : List Text) : Sh m Nat :=
  match depth with
  | 0 => return 126
  | depth + 1 => do
    let (empty, arguments) := match arguments with
      | ['-', 'i'] :: rest | ['-'] :: rest => (true, rest)
      | _ => (false, arguments)
    let (values, command) := environmentOperands arguments
    if empty then modify fun s => { s with bindings := ∅ }
    for (name, value) in values do
      setVariable files name value
      exportVariable name
    match command with
    | [] => runUtility files i "env" []
    | name :: rest =>
      match ← findProgram files name with
      | .ok path => runProgram files i depth path name rest
      | .error e =>
        Utility.blame files s!"{Utility.quoteName name}: {Utility.reason e}"
        return if e = .notFound || e = .notADirectory then 127 else 126

end

/-- How far programs may name programs. -/
def programDepth : Nat := 16

/-! ### Simple commands -/

/-- Makes assignments; `exported` gives them to programs. Tells what was assigned. -/
def assignAll (files : Files m) (i : Interpreter m) (exported : Bool) :
    List (Text × Word) → Sh m (List Text)
  | [] => return []
  | (name, w) :: rest => do
    let value ← expandToText files i w
    setVariable files name value
    if exported then exportVariable name
    return (name ++ '=' :: value) :: (← assignAll files i exported rest)

/-- Does something with variables that are as before afterwards. -/
def withVariables (names : List Text) (body : Sh m Unit) : Sh m Unit := do
  let before := (← get).bindings
  let restore : Sh m Unit := modify fun s =>
    { s with
      bindings := names.foldl (fun vs name =>
        match before.get? name with
        | some v => vs.insert name v
        | none => vs.erase name) s.bindings }
  tryCatch body fun stop => do
    restore
    throw stop
  restore

/-- How deep functions may call functions. -/
def deepestCall : Nat := 1000

/-- Carries out a function. -/
def callFunction (files : Files m) (i : Interpreter m) (body : Command) (arguments : List Text) :
    Sh m Unit := do
  let before ← get
  if before.calls ≥ deepestCall then
    fatal files s!"Maximum function recursion depth ({deepestCall}) reached"
  let restore : Sh m Unit := modify fun s =>
    { s with
      arguments := before.arguments
      loops := before.loops
      calls := before.calls
      saved := before.saved
      bindings := (s.saved.head?.getD []).foldl (fun vs (name, old) =>
        match old with
        | some v => vs.insert name v
        | none => vs.erase name) s.bindings }
  modify fun s => { s with arguments, loops := 0, calls := s.calls + 1, saved := [] :: s.saved }
  tryCatch (i.run body) fun stop => do
    match stop with
    | .returning status => setStatus status
    | stop =>
      restore
      throw stop
  restore

/-- Shows a command before it runs, on a stream. -/
def traceCommand (files : Files m) (stream : Option Nat) (words : List Text) : Sh m Unit := do
  let s ← get
  match stream with
  | some i =>
    if s.options.trace && words ≠ [] then
      let start := (s.get? "PS4".toList).getD []
      let _ ← writeStream files i (start ++ Text.join [' '] words ++ ['\n'])
  | none => return

/-- Runs something as a process of its own, which a signal may end. -/
def inProcess (body : Sh m Unit) : Sh m Unit :=
  inSubshell do
    let process := (← get).processes + 1
    modify fun s => { s with process, parent := s.process, processes := process }
    tryCatch body fun stop => do
      match stop with
      | .killed signal ended =>
        if ended ≠ process then throw stop
        modify fun s => { s with status := 128 + signal, notice := some signal }
      | stop => throw stop

/-- Tells that a signal has ended a program. -/
def tellNotice (files : Files m) : Sh m Unit := do
  match (← get).notice with
  | none => return
  | some signal =>
    modify fun s => { s with notice := none }
    match signalMessage? signal with
    | some message => write files 2 (message.toList ++ ['\n'])
    | none => return

/-- Carries out a built-in command, if there is one of the name. Its output may turn out not to have
been written. -/
def builtin? (files : Files m) (i : Interpreter m) (name : Text) (arguments : List Text) :
    Option (Sh m Unit) :=
  (Builtin.run? files i name arguments).map fun action => do
    modify fun s => { s with writeFault := none }
    inContext name do
      setStatus (← action)
      if (← get).writeFault.isSome then
        modify fun s => { s with writeFault := none }
        complain files s!"{name.str}: I/O error"
        setStatus 1

/-- Carries out `command`: a name without regard to functions. -/
def runCommand (files : Files m) (i : Interpreter m) (arguments : List Text) : Sh m Unit := do
  let (options, operands) := Filter.parseOptions [] (arguments.take 1)
  let operands := operands ++ arguments.drop 1
  let long := Filter.has options 'V'
  match operands with
  | [] => setStatus 0
  | name :: rest =>
    if long || Filter.has options 'v' then
      match ← describe files long name with
      | some t =>
        print files (t ++ ['\n'])
        setStatus 0
      | none =>
        if long then print files (name ++ ": not found\n".toList)
        setStatus 127
    else
      match builtin? files i name rest with
      | some action => action
      | none => inProcess do setStatus (← runNamed files i programDepth name rest)

/-- Carries out `exec`: redirections that stay, and a program in place of the shell. -/
def runExec (files : Files m) (i : Interpreter m) (arguments : List Text)
    (rs : List Redirection) : Sh m Unit := do
  if !(← redirectAll files i rs) then throw (.exit 2)
  match arguments with
  | [] => setStatus 0
  | name :: rest =>
    inContext "exec" do
      if (← findProgram files name).toOption.isSome then modify fun s => { s with traps := [] }
      if (← get).subshell then
        inProcess do setStatus (← runNamed files i programDepth name rest)
        throw (.exit (← get).status)
      else throw (.exit (← runNamed files i programDepth name rest))

/-- A word holds a command substitution. -/
def substitutes (w : Word) : Bool :=
  w.any fun (p : Part) => match p with
    | .substitution _ _ => true
    | _ => false

/-- Carries out a simple command. -/
def runSimple (files : Files m) (i : Interpreter m) (line : Nat) (assignments : List (Text × Word))
    (words : List Word) (rs : List Redirection) : Sh m Unit := do
  modify fun s => { s with line }
  let fields := (← words.mapM (expandToFields files i)).flatten
  let errors ← stream? 2
  let assign := fun (exported : Bool) => (do
    let assigned ← assignAll files i exported assignments
    traceCommand files errors (assigned ++ fields) : Sh m Unit)
  match fields with
  | [] =>
    underRedirections files i false rs do
      assign false
      if !(assignments.any fun a => substitutes a.2) && !(words.any substitutes) then setStatus 0
  | name :: arguments =>
    if name = "exec" then
      assign false
      runExec files i arguments rs
    else if Builtin.isSpecial name then
      underRedirections files i true rs do
        assign false
        match builtin? files i name arguments with
        | some action => action
        | none => setStatus 0
    else
      let own := fun (body : Sh m Unit) => withVariables (assignments.map Prod.fst) do
        assign true
        body
      underRedirections files i false rs do
        match (← get).functions.lookup name with
        | some body => own (callFunction files i body arguments)
        | none =>
          if name = "command" then own (runCommand files i arguments)
          else
            match builtin? files i name arguments with
            | some action => own action
            | none => own (inProcess do setStatus (← runNamed files i programDepth name arguments))
      tellNotice files
  check

/-! ### Commands -/

/-- Carries out the commands of a pipeline, each with what the one before has written. -/
def runStages (i : Interpreter m) : List Command → Sh m Unit
  | [] => return
  | [last] => inSubshell (i.run last)
  | c :: rest => do
    let start := (← get).clock
    let sink ← addStream (.sink [])
    inSubshell do
      setDescriptor 1 (some sink)
      i.run c
    let finished := (← get).clock
    let stream := (← get).streams[sink]?.getD .null
    setStream sink (.source (stream.written none))
    modify fun s => { s with clock := start }
    let before := (← get).descriptors
    setDescriptor 0 (some sink)
    runStages i rest
    modify fun s => { s with descriptors := before, clock := max s.clock finished }

/-- Starts a command in the background: it has the time to itself, and the shell goes on. -/
def runBackground (i : Interpreter m) (c : Command) : Sh m Unit := do
  let before ← get
  let number := before.processes + 1
  let nothing ← addStream (.source [])
  modify fun s => { s with job := number, processes := number }
  tryCatch
    (inSubshell do
      setDescriptor 0 (some nothing)
      i.run c)
    fun
      | .killed signal process => throw (.killed signal process)
      | _ => pure ()
  modify fun s =>
    { before.withShared s with
      clock := before.clock
      jobs := ⟨number, s.clock, s.status, s.notice⟩ :: before.jobs
      lastJob := some number
      status := 0 }

/-- The arm of a choice that a text belongs to. -/
def chosenArm? (files : Files m) (i : Interpreter m) (t : Text) :
    List (List Word × Command) → Sh m (Option Command)
  | [] => return none
  | (patterns, body) :: rest => do
    let fits ← patterns.anyM fun w => do
      let p := Pattern.ofGlyphs (glyphsOf (← expandWord files i w))
      return p.isMatch t
    if fits then return some body else chosenArm? files i t rest

/-- Carries out a command. -/
def perform (files : Files m) (i : Interpreter m) : Command → Sh m Unit
  | .simple line assignments words rs => runSimple files i line assignments words rs
  | .pipeline commands => do
    let before := (← get).descriptors
    tryCatch (runStages i commands) fun stop => do
      modify fun s => { s with descriptors := before }
      throw stop
    tellNotice files
    check
  | .negation c => do
    leniently (i.run c)
    setStatus (if (← get).status = 0 then 1 else 0)
  | .both first second => do
    leniently (i.run first)
    if (← get).status = 0 then i.run second
  | .either first second => do
    leniently (i.run first)
    if (← get).status ≠ 0 then i.run second
  | .sequence commands => commands.forM i.run
  | .background c => runBackground i c
  | .subshell c => do
    inSubshell (i.run c)
    tellNotice files
    check
  | .conditional condition consequence alternative => do
    leniently (i.run condition)
    if (← get).status = 0 then i.run consequence
    else
      setStatus 0
      i.run alternative
  | .loop untilTrue condition body =>
    repeatLoop untilTrue (i.run condition) (i.run body) loopLimit 0
  | .iteration name words body => do
    let values ← match words with
      | some ws => do pure (← ws.mapM (expandToFields files i)).flatten
      | none => pure (← get).arguments
    if values = [] then setStatus 0
    runFor files name (i.run body) values
  | .choice subject arms => do
    let t ← expandToText files i subject
    match ← chosenArm? files i t arms with
    | some body =>
      setStatus 0
      i.run body
    | none => setStatus 0
  | .definition name body => do
    modify fun s => { s with functions := (name, body) :: s.functions.filter (·.1 ≠ name) }
    setStatus 0
  | .redirected c rs => do
    underRedirections files i false rs (i.run c)
    check

/-- Carries out a command if commands are carried out, and receives signals. -/
def execute (files : Files m) (i : Interpreter m) (c : Command) : Sh m Unit := do
  if (← get).options.noExec then return
  perform files i c
  receivePending files i

/-- An interpreter for commands and words up to a depth. -/
def interpreter (files : Files m) : Nat → Interpreter m
  | 0 => ⟨fun _ => hang, fun _ => hang⟩
  | n + 1 =>
    { run := fun c => execute files (interpreter files n) c
      expand := fun w => expandWord files (interpreter files n) w }

/-- The deepest that commands may stand inside each other. -/
def deepest : Nat := 20000

/-! ### Processes -/

/-- How a process ended. -/
inductive Ending where
  | exited (status : Nat)
  | signaled
  | outOfTime
  deriving DecidableEq, Repr

/-- What a process left behind. -/
structure Outcome where
  ending : Ending
  output : Bytes
  errors : Bytes
  deriving DecidableEq, Repr

/-- The state in which a process starts: nothing to read, and two streams to write to. -/
def startState (environment : List (Text × Bytes)) (directory : Path) (limit : Option Nat) :
    State where
  name := []
  bindings := NameMap.ofList (environment.map fun (name, value) =>
    (fromText name, ⟨some (ofBytes value), true, false⟩))
  directory := fromText directory.text
  descriptors := [(0, 0), (1, 1), (2, 2)]
  streams := #[.source [], .sink [], .sink []]
  limit := limit

/-- Runs a program with arguments in a directory. It fails if the program cannot be started there. -/
def launch (files : Files m) (environment : List (Text × Bytes)) (directory : Path)
    (limit : Option Nat) (program : Text) (arguments : List Text) : m (Except IoError Outcome) := do
  if '\x00' ∈ program || arguments.any fun a => '\x00' ∈ a then return .error .nulInArgument
  match ← files.kind directory with
  | .error e => return .error e
  | .ok .directory =>
    let i := interpreter files deepest
    let started := startState environment directory limit
    let name := fromText program
    let (found, state) ← (findProgram files name).run.run started
    match found with
    | .error _ => return .error .notFound
    | .ok (.error e) => return .error e
    | .ok (.ok path) =>
      let body : Sh m Nat := runProgram files i programDepth path name (arguments.map fromText)
      let (result, state) ← body.run.run state
      let ending := match result with
        | .ok status | .error (.exit status) => Ending.exited (status % 256)
        | .error (.killed _ _) => .signaled
        | .error .outOfTime => .outOfTime
        | .error _ => .exited (state.status % 256)
      let written := fun (n : Nat) =>
        bytesOf ((state.streams[n]?.getD .null).written (some state.clock))
      return .ok ⟨ending, written 1, written 2⟩
  | .ok _ => return .error .notADirectory

end HttpCascade.Shell

import HttpCascade.Path

/-!
# Arguments

What the arguments of the program ask for. They are read from left to right, and the first that makes
no sense decides; a request for help or for the version counts as soon as it is read.
-/

namespace HttpCascade.CommandLine

/-- How a request is written. -/
inductive Format where
  | text
  | curl
  | json
  deriving DecidableEq, Repr

/-- What `build` is to do. -/
structure BuildOptions where
  file : Path
  directory : Option Path := none
  output : Text := "-"
  expandBody : Bool := false
  body : Option Text := none
  patch : Option Path := none
  format : Format := .text
  deriving DecidableEq, Repr

/-- What `init` is to do. -/
structure InitOptions where
  directory : Option Path := none
  deriving DecidableEq, Repr

inductive Task where
  | build (options : BuildOptions)
  | init (options : InitOptions)
  deriving DecidableEq, Repr

/-- What a run is to do. -/
structure Invocation where
  verbose : Bool
  config : Option Path
  task : Task
  deriving DecidableEq, Repr

/-- Why there is nothing to do. -/
inductive Refusal where
  | usage
  | help
  | version
  deriving DecidableEq, Repr

/-! ### Options -/

/-- The options by their meaning. -/
inductive Setting where
  | verbose
  | config
  | help
  | version
  | directory
  | output
  | expandBody
  | body
  | patch
  | format
  deriving DecidableEq, Repr

namespace Setting

/-- An option is followed by a value. -/
def takesValue : Setting → Bool
  | config | directory | output | body | patch | format => true
  | _ => false

end Setting

/-- Where options are read. -/
inductive Level where
  | top
  | build
  | init
  deriving DecidableEq, Repr

/-- The options of a level with their long names and letters. -/
def Level.options : Level → List (String × Option Char × Setting)
  | top =>
    [("verbose", some 'v', .verbose), ("config", none, .config), ("help", some 'h', .help),
      ("version", some 'V', .version)]
  | build =>
    [("verbose", some 'v', .verbose), ("config", none, .config), ("help", some 'h', .help),
      ("directory", some 'D', .directory), ("output", some 'o', .output),
      ("expand-body-variables", none, .expandBody), ("body", some 'b', .body),
      ("patch", none, .patch), ("format", none, .format)]
  | init =>
    [("verbose", some 'v', .verbose), ("config", none, .config), ("help", some 'h', .help),
      ("directory", some 'D', .directory)]

def Level.long? (l : Level) (name : Text) : Option Setting :=
  (l.options.find? fun row => row.1.toList = name).map fun row => row.2.2

def Level.letter? (l : Level) (c : Char) : Option Setting :=
  (l.options.find? fun row => row.2.1 = some c).map fun row => row.2.2

/-- An option of an argument, with the value that stands in the argument. -/
structure Given where
  option : Setting
  value : Option Text

/-- The options that a cluster of letters gives; what follows an option with a value is its value. -/
def cluster (l : Level) : Text → Except Refusal (List Given)
  | [] => .ok []
  | c :: rest =>
    match l.letter? c with
    | none => .error .usage
    | some option =>
      if option.takesValue then
        match rest with
        | [] => .ok [⟨option, none⟩]
        | '=' :: value => .ok [⟨option, some value⟩]
        | value => .ok [⟨option, some value⟩]
      else if option = .help then .error .help
      else if option = .version then .error .version
      else (cluster l rest).map (⟨option, none⟩ :: ·)

/-- The option of a long name, which may hold a value after an equals sign. -/
def long (l : Level) (t : Text) : Except Refusal Given :=
  let (name, value) : Text × Option Text := match t.splitOnce '=' with
    | some (name, value) => (name, some value)
    | none => (t, none)
  match l.long? name with
  | none => .error .usage
  | some option =>
    if option.takesValue then .ok ⟨option, value⟩
    else if value.isSome then .error .usage
    else if option = .help then .error .help
    else if option = .version then .error .version
    else .ok ⟨option, none⟩

/-- A value of an option that follows in an argument of its own. -/
def isValue (t : Text) : Bool := t.head? ≠ some '-' || t = ['-']

/-! ### Reading -/

/-- What has been read on a level. -/
structure Found where
  given : List (Setting × Text) := []
  operands : List Text := []

def Found.value? (f : Found) (option : Setting) : Option Text := f.given.lookup option

def Found.has (f : Found) (option : Setting) : Bool := (f.value? option).isSome

def format? (t : Text) : Option Format :=
  if t = "text" then some .text
  else if t = "curl" then some .curl
  else if t = "json" then some .json
  else none

/-- A value that an option may have: a path is not empty, and a format is one of three. -/
def isGood (option : Setting) (value : Text) : Bool :=
  match option with
  | .config | .directory | .patch => value ≠ []
  | .format => (format? value).isSome
  | _ => true

/-- Takes an option with its value, which no other value may have been given for. -/
def Found.add (f : Found) (option : Setting) (value : Text) : Except Refusal Found :=
  if f.has option || !isGood option value then .error .usage
  else .ok { f with given := (option, value) :: f.given }

/-- Takes options of which the last may still lack its value; says which one does. -/
def Found.addAll (f : Found) : List Given → Except Refusal (Found × Option Setting)
  | [] => .ok (f, none)
  | ⟨option, value⟩ :: rest =>
    match value with
    | some value => do (← f.add option value).addAll rest
    | none =>
      if option.takesValue then
        if f.has option then .error .usage else .ok (f, some option)
      else do (← f.add option []).addAll rest

/-- Takes an operand of a level that admits so many. -/
def Found.addOperand (f : Found) (most : Nat) (t : Text) : Except Refusal Found :=
  if f.operands.length ≥ most || t = [] then .error .usage
  else .ok { f with operands := f.operands ++ [t] }

/-- Reads the options of an argument that starts with a hyphen. -/
def given (l : Level) (argument : Text) : Except Refusal (List Given) :=
  match argument with
  | '-' :: '-' :: name => (long l name).map ([·])
  | '-' :: letters => cluster l letters
  | _ => .error .usage

/-- Reads arguments on a level up to one that `stops` it; what is left starts with that one. A
pending option takes the next argument as its value. -/
def scan (l : Level) (most : Nat) (stops : Text → Bool) (pending : Option Setting) (f : Found) :
    List Text → Except Refusal (Found × List Text)
  | [] => if pending.isSome then .error .usage else .ok (f, [])
  | argument :: rest =>
    match pending with
    | some option =>
      if isValue argument then do
        scan l most stops none (← f.add option argument) rest
      else .error .usage
    | none =>
      if argument = ['-', '-'] then do
        let f ← rest.foldlM (fun f operand => Found.addOperand f most operand) f
        return (f, [])
      else if isValue argument then
        if stops argument then .ok (f, argument :: rest)
        else do scan l most stops none (← f.addOperand most argument) rest
      else do
        let (f, pending) ← f.addAll (← given l argument)
        scan l most stops pending f rest

def pathOf (t : Text) : Path := ⟨t⟩

/-- The task of a level's options and operands. -/
def buildTask (f : Found) : Except Refusal Task :=
  match f.operands with
  | [file] =>
    .ok (.build
      { file := ⟨file⟩
        directory := (f.value? .directory).map pathOf
        output := (f.value? .output).getD ['-']
        expandBody := f.has .expandBody
        body := f.value? .body
        patch := (f.value? .patch).map pathOf
        format := ((f.value? .format).bind format?).getD .text })
  | _ => .error .usage

def initTask (f : Found) : Task := .init { directory := (f.value? .directory).map pathOf }

/-- What the arguments of `help` ask for. -/
def helpAbout : List Text → Refusal
  | [] => .help
  | [topic] => if topic.isOneOf ["build", "init", "help"] then .help else .usage
  | _ => .usage

/-- What the arguments ask for. A setting that may stand on either side of the task's name counts as
it stands after it. -/
def parse (arguments : List Text) : Except Refusal Invocation := do
  let isTask := fun (t : Text) => t.isOneOf ["build", "init", "help"]
  let (outer, rest) ← scan .top 0 isTask none {} arguments
  match rest with
  | [] => throw .usage
  | name :: rest =>
    if name = "help" then throw (helpAbout rest)
    let isBuild : Bool := name = "build"
    let (inner, _) ← if isBuild then scan .build 1 (fun _ => false) none {} rest
      else scan .init 0 (fun _ => false) none {} rest
    let task ← if isBuild then buildTask inner else pure (initTask inner)
    return {
      verbose := outer.has .verbose || inner.has .verbose
      config := ((inner.value? .config).or (outer.value? .config)).map pathOf
      task }

end HttpCascade.CommandLine

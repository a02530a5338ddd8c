import HttpCascade.Shell.Arithmetic
import HttpCascade.Shell.Pattern
import HttpCascade.Shell.State

/-!
# Expansion

How a word becomes fields: parameters, commands and arithmetic are replaced by their values, values
that were not quoted are cut at blanks, and patterns are replaced by the names of files.

What runs commands and expands words inside words is passed in as an `Interpreter`.
-/

namespace HttpCascade.Shell

/-- A part of an expanded word before it is cut into fields. -/
inductive Bit where
  | char (c : Char) (quoted : Bool)
  /-- A character of a value, which may separate fields. -/
  | value (c : Char)
  /-- Quotes stood here, so there is a field even if it is empty. -/
  | quotes
  /-- The border between two arguments. -/
  | border
  /-- There were no arguments, so quotes alone make no field. -/
  | noArguments
  deriving DecidableEq, Repr

/-- What carries out commands and words that stand inside others. -/
structure Interpreter (m : Type → Type) where
  run : Command → Sh m Unit
  expand : Word → Sh m (List Bit)

/-! ### Fields -/

/-- The fields that have been found. -/
structure Fields where
  /-- The fields that are complete, the last first. -/
  complete : List (List Glyph) := []
  /-- The field that is being read, in reverse. -/
  current : Option (List Glyph) := none
  /-- The last field ended at a blank, so a separator may still follow. -/
  afterBlank : Bool := false
  noArguments : Bool := false

namespace Fields

def addChar (f : Fields) (g : Glyph) : Fields :=
  { f with current := some (g :: f.current.getD []), afterBlank := false }

/-- Completes the field that is being read. -/
def finish (f : Fields) : Fields :=
  match f.current with
  | none => f
  | some glyphs =>
    if glyphs = [] && f.noArguments then { f with current := none }
    else { f with complete := glyphs.reverse :: f.complete, current := none }

def isBlank (c : Char) : Bool := c = ' ' || c = '\t' || c = '\n'

/-- Takes a part into account; `separators` are the characters that separate fields. -/
def add (separators : Text) (f : Fields) : Bit → Fields
  | .char c quoted => f.addChar ⟨c, quoted⟩
  | .quotes => { f with current := some (f.current.getD []) }
  | .border => f.finish
  | .noArguments => { f with noArguments := true }
  | .value c =>
    if c ∉ separators then f.addChar ⟨c, false⟩
    else if isBlank c then
      if f.current.isSome then { f.finish with afterBlank := true } else f
    else if f.current.isSome then { f.finish with afterBlank := false }
    else if f.afterBlank then { f with afterBlank := false }
    else { f with complete := [] :: f.complete }

end Fields

/-- Cuts an expanded word into fields. -/
def fieldsOf (separators : Text) (bits : List Bit) : List (List Glyph) :=
  (bits.foldl (Fields.add separators) {}).finish.complete.reverse

/-- The text of an expanded word that is not cut. -/
def textOf (bits : List Bit) : Text :=
  bits.flatMap fun b => match b with
    | .char c _ | .value c => [c]
    | .border => [' ']
    | _ => []

/-- The characters of an expanded word that is not cut. -/
def glyphsOf (bits : List Bit) : List Glyph :=
  bits.flatMap fun b => match b with
    | .char c quoted => [⟨c, quoted⟩]
    | .value c => [⟨c, false⟩]
    | .border => [⟨' ', false⟩]
    | _ => []

/-- The parts of a value, which quotes keep together. -/
def valueBits (quoted : Bool) (t : Text) : List Bit :=
  if quoted then t.map fun c => .char c true else t.map .value

/-- The parts of arguments, each a field of its own. -/
def argumentBits (quoted : Bool) (arguments : List Text) : List Bit :=
  match arguments with
  | [] => [.noArguments]
  | _ =>
    let one := fun (a : Text) => (if quoted then [.quotes] else []) ++ valueBits quoted a
    (arguments.map one).intersperse [.border] |>.flatten

/-- The parts of a word inside braces, which is a value unless it is quoted. -/
def asValue (quoted : Bool) (bits : List Bit) : List Bit :=
  if quoted then bits
  else bits.map fun b => match b with
    | .char c false => .value c
    | b => b

variable {m : Type → Type} [Monad m]

namespace Sh

/-- The characters that separate fields. -/
def separators : Sh m Text := return ((← get).get? "IFS".toList).getD [' ', '\t', '\n']

/-- The letters of the options that are on. -/
def optionLetters (o : Options) : Text :=
  let table : List (Char × Bool) :=
    [('u', o.noUnset), ('a', o.allExport), ('C', o.noClobber), ('v', o.verbose), ('x', o.trace),
      ('n', o.noExec), ('f', o.noGlob), ('e', o.exitOnError)]
  (table.filter Prod.snd).map Prod.fst

/-- The value of a parameter that is not all arguments at once. -/
def parameter? (name : Text) : Sh m (Option Text) := do
  let s ← get
  match name with
  | ['?'] => return some (Text.ofNat s.status)
  | ['$'] => return some (Text.ofNat s.process)
  | ['#'] => return some (Text.ofNat s.arguments.length)
  | ['!'] => return s.lastJob.map Text.ofNat
  | ['-'] => return some (optionLetters s.options)
  | ['0'] => return some s.name
  | _ =>
    match decimal? name with
    | some n => return s.arguments[n - 1]?
    | none => return s.get? name

/-- Runs something in a shell of its own, of which only the status, the streams and the time
remain. -/
def inSubshell (body : Sh m Unit) : Sh m Unit := do
  let outer ← get
  set { outer with traps := outer.traps.filter (·.2 = []), subshell := true }
  let status ←
    tryCatch (do body; return (← get).status) fun
      | .exit status | .returning status => pure status
      | .breaking _ | .continuing _ => return (← get).status
      | stop => throw stop
  let inner ← get
  set { outer.withShared inner with status := status % 256, notice := inner.notice }

/-- What something writes to its output. -/
def capture (body : Sh m Unit) : Sh m Text := do
  let i ← addStream (.sink [])
  inSubshell do
    setDescriptor 1 (some i)
    body
  let stream := (← get).streams[i]?.getD .null
  setStream i .null
  return stream.written none

end Sh

open Sh

/-- Expands a parameter. -/
def expandParameter (files : Files m) (interpreter : Interpreter m) (name : Text)
    (use : ParameterUse) (argument : Word) (quoted : Bool) : Sh m (List Bit) := do
  let s ← get
  let all := name = ['@'] || name = ['*']
  let value ← if all then
      pure (if s.arguments = [] then none else some (Text.join [' '] s.arguments))
    else parameter? name
  let present := fun (orEmpty : Bool) => match value with
    | none => false
    | some [] => !orEmpty
    | some _ => true
  let unset : Sh m (List Bit) := fatal files s!"{name.str}: parameter not set"
  let own : Sh m (List Bit) := do
    if name = ['*'] && quoted then
      return valueBits true (Text.join ((← separators).take 1) s.arguments)
    if all then return argumentBits quoted s.arguments
    match value with
    | some t => return valueBits quoted t
    | none => if s.options.noUnset then unset else return []
  let other : Sh m (List Bit) := return asValue quoted (← interpreter.expand argument)
  match use with
  | .value => own
  | .length =>
    if all then return valueBits quoted (Text.ofNat s.arguments.length)
    match value with
    | some t => return valueBits quoted (Text.ofNat t.length)
    | none => if s.options.noUnset then unset else return valueBits quoted ['0']
  | .default orEmpty => if present orEmpty then own else other
  | .alternative orEmpty => if present orEmpty then other else return []
  | .assign orEmpty =>
    if present orEmpty then own
    else
      if !isName name then fatal files s!"{name.str}: bad variable name"
      let t := textOf (← interpreter.expand argument)
      setVariable files name t
      return valueBits quoted t
  | .require orEmpty =>
    if present orEmpty then own
    else
      let t := textOf (← interpreter.expand argument)
      let reason := if t ≠ [] then t.str
        else if orEmpty then "parameter not set or null" else "parameter not set"
      fatal files s!"{name.str}: {reason}"
  | .dropEnd longest =>
    let p := Pattern.ofGlyphs (glyphsOf (← interpreter.expand argument))
    return valueBits quoted (p.dropEnd longest (value.getD []))
  | .dropStart longest =>
    let p := Pattern.ofGlyphs (glyphsOf (← interpreter.expand argument))
    return valueBits quoted (p.dropStart longest (value.getD []))
  | .bad => fatal files "Bad substitution"

/-- Expands a part of a word. -/
def expandPart (files : Files m) (interpreter : Interpreter m) : Part → Sh m (List Bit)
  | .text t quoted =>
    return (if quoted && t = [] then [.quotes] else []) ++ t.map fun c => .char c quoted
  | .parameter name use argument quoted =>
    expandParameter files interpreter name use argument quoted
  | .substitution commands quoted => do
    let t ← capture (interpreter.run (.sequence commands))
    let kept := (t.reverse.dropWhile (· == '\n')).reverse.filter (· ≠ '\x00')
    return valueBits quoted kept
  | .arithmetic expression quoted => do
    let t := textOf (← interpreter.expand expression)
    let s ← get
    match Arithmetic.evaluate (fun name => (s.get? name).getD []) t with
    | .error f => fatal files (f.message t)
    | .ok (n, assignments) =>
      for (name, value) in assignments.reverse do setVariable files name (ofInt value)
      return valueBits quoted (ofInt n)

/-- Expands a word without cutting it. -/
def expandWord (files : Files m) (interpreter : Interpreter m) : Word → Sh m (List Bit)
  | [] => return []
  | part :: rest => do
    let bits ← expandPart files interpreter part
    return bits ++ (← expandWord files interpreter rest)

/-- The home directory in place of a tilde at the front. -/
def withHome (w : Word) : Sh m Word := do
  match w, (← get).get? "HOME".toList with
  | .text ('~' :: t) false :: rest, some home =>
    if t = [] && rest.isEmpty || t.head? = some '/' then
      return .text home true :: .text t false :: rest
    else return w
  | _, _ => return w

/-- A word as one text. -/
def expandToText (files : Files m) (interpreter : Interpreter m) (w : Word) : Sh m Text := do
  return textOf (← expandWord files interpreter (← withHome w))

/-! ### Names of files -/

/-- The pieces between slashes. -/
def splitGlyphs : List Glyph → List (List Glyph)
  | [] => [[]]
  | g :: rest =>
    if g.char = '/' then [] :: splitGlyphs rest
    else
      match splitGlyphs rest with
      | [] => [[g]]
      | piece :: pieces => (g :: piece) :: pieces

/-- The names below a start that have the form of the pieces of a pattern. -/
def matchingNames (files : Files m) (before : Text) : List (List Glyph) → Sh m (List Text)
  | [] => return [before]
  | piece :: rest => do
    let p := Pattern.ofGlyphs piece
    let slash : Text := if rest = [] then [] else ['/']
    if !p.isProper then
      let here := before ++ piece.map Glyph.char
      if rest = [] then
        let path := (← get).path here
        let there : Bool ←
          ((if piece = [] then files.isDirectory path else files.doesExist path) : m _)
        return if there then [here] else []
      else matchingNames files (here ++ slash) rest
    else
      let directory : Text := if before = [] then ['.'] else before
      let listed : Except IoError (List Text) ← (files.names ((← get).path directory) : m _)
      match listed with
      | .error _ => return []
      | .ok names =>
        let hidden := (piece.head?.map Glyph.char) = some '.'
        let names := ([['.'], ['.', '.']] ++ names.map fromText).filter fun name =>
          p.isMatch name && (hidden || name.head? ≠ some '.')
        let found ← (names.mergeSort Text.inOrder).mapM fun name =>
          matchingNames files (before ++ name ++ slash) rest
        return found.flatten

/-- The fields of a word. -/
def expandToFields (files : Files m) (interpreter : Interpreter m) (w : Word) :
    Sh m (List Text) := do
  let bits ← expandWord files interpreter (← withHome w)
  let fields ← (fieldsOf (← separators) bits).mapM fun glyphs => do
    if (Pattern.ofGlyphs glyphs).isProper && !(← get).options.noGlob then
      match ← matchingNames files [] (splitGlyphs glyphs) with
      | [] => return [glyphs.map Glyph.char]
      | names => return names
    else return [glyphs.map Glyph.char]
  return fields.flatten

end HttpCascade.Shell

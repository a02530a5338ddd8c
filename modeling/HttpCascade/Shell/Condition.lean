import HttpCascade.Shell.State

/-!
# Conditions

The conditions of `test` and `[`: questions about texts, numbers and files, joined by `-a` and `-o`.
-/

namespace HttpCascade.Shell.Condition

variable {m : Type → Type} [Monad m]

/-- The names of the questions about one operand. -/
def unaryNames : List String :=
  ["-n", "-z", "-e", "-f", "-d", "-r", "-w", "-x", "-s", "-c", "-b", "-p", "-u", "-g", "-k", "-t",
    "-h", "-L", "-O", "-G", "-S"]

/-- The kinds of files for which a question is answered with yes. -/
def admits (operator : Text) (kind : FileKind) : Bool :=
  if operator = "-f" then kind matches .regular _
  else if operator = "-d" then kind = .directory
  else if operator = "-c" then kind = .device
  else if operator = "-x" then kind ≠ .regular false && kind ≠ .device
  else operator.isOneOf ["-e", "-r", "-w", "-O", "-G"]

/-- The answer to a question about one operand. -/
def unary (files : Files m) (operator t : Text) : Sh m Bool := do
  if operator = "-n" then return t ≠ []
  else if operator = "-z" then return t = []
  else if operator = "-s" then
    match ← (files.read ((← get).path t) : m _) with
    | .ok bytes => return bytes ≠ []
    | .error .isADirectory => return true
    | .error _ => return false
  else
    match ← (files.kind ((← get).path t) : m _) with
    | .ok kind => return admits operator kind
    | .error _ => return false

/-- The comparison of two numbers. -/
def numeric? (operator : Text) : Option (Int → Int → Bool) :=
  if operator = "-eq" then some fun a b => a = b
  else if operator = "-ne" then some fun a b => a ≠ b
  else if operator = "-lt" then some fun a b => a < b
  else if operator = "-le" then some fun a b => a ≤ b
  else if operator = "-gt" then some fun a b => a > b
  else if operator = "-ge" then some fun a b => a ≥ b
  else none

/-- The comparison of two texts. -/
def textual? (operator : Text) : Option (Text → Text → Bool) :=
  if operator = "=" then some fun a b => a = b
  else if operator = "!=" then some fun a b => a ≠ b
  else if operator = "<" then some fun a b => a < b
  else if operator = ">" then some fun a b => a > b
  else none

/-- The names of the questions about two operands; there are no times of files to compare. -/
def isComparison (operator : Text) : Bool :=
  (numeric? operator).isSome || (textual? operator).isSome ||
    operator.isOneOf ["-nt", "-ot", "-ef"]

/-- A number, with blanks around it allowed. -/
def numberOf (t : Text) : Except String Int :=
  let blank := fun (c : Char) => c = ' ' || ('\t' ≤ c && c ≤ '\r')
  let inner := ((t.dropWhile blank).reverse.dropWhile blank).reverse
  match integer? inner with
  | some n => .ok n
  | none => .error s!"Illegal number: {t.str}"

/-- The answer to a question about two operands. -/
def compare (a operator b : Text) : Except String Bool :=
  match textual? operator with
  | some f => .ok (f a b)
  | none =>
    match numeric? operator with
    | some f => do return f (← numberOf a) (← numberOf b)
    | none => .ok false

/-- What the first of some operands is for. -/
inductive Role where
  | operand
  | unary
  | comparison
  | not
  | and
  | or
  | openParenthesis
  | closeParenthesis
  | nothing
  deriving DecidableEq, Repr

/-- What a text is for where an operator may stand. -/
def Role.ofText (t : Text) : Role :=
  if t.isOneOf unaryNames then .unary
  else if isComparison t then .comparison
  else if t = ['!'] then .not
  else if t = "-a" then .and
  else if t = "-o" then .or
  else if t = ['('] then .openParenthesis
  else if t = [')'] then .closeParenthesis
  else .operand

/-- An operator that has nothing to work on is an operand. -/
def Role.ofFirst : List Text → Role
  | [] => .nothing
  | t :: rest =>
    match Role.ofText t, rest with
    | .unary, [] => .operand
    | .unary, next :: _ :: _ => if isComparison next then .operand else .unary
    | .openParenthesis, [] => .operand
    | role, _ => role

abbrev Answer (m : Type → Type) := ExceptT String (Sh m)

mutual

/-- Conditions with `-o` between them, and what follows them. -/
def disjunction (files : Files m) (fuel : Nat) (role : Role) (ts : List Text) :
    Answer m (Bool × List Text) :=
  match fuel with
  | 0 => throw "too many arguments"
  | fuel + 1 => do
    let (a, rest) ← conjunction files fuel role ts
    if Role.ofFirst rest = .or then
      let (b, rest) ← disjunction files fuel (Role.ofFirst (rest.drop 1)) (rest.drop 1)
      return (a || b, rest)
    else return (a, rest)

/-- Conditions with `-a` between them, and what follows them. -/
def conjunction (files : Files m) (fuel : Nat) (role : Role) (ts : List Text) :
    Answer m (Bool × List Text) :=
  match fuel with
  | 0 => throw "too many arguments"
  | fuel + 1 => do
    let (a, rest) ← negation files fuel role ts
    if Role.ofFirst rest = .and then
      let (b, rest) ← conjunction files fuel (Role.ofFirst (rest.drop 1)) (rest.drop 1)
      return (a && b, rest)
    else return (a, rest)

/-- A condition that may be negated, and what follows it. -/
def negation (files : Files m) (fuel : Nat) (role : Role) (ts : List Text) :
    Answer m (Bool × List Text) :=
  match fuel with
  | 0 => throw "too many arguments"
  | fuel + 1 => do
    if role = .not then
      let (a, rest) ← negation files fuel (Role.ofFirst (ts.drop 1)) (ts.drop 1)
      return (!a, rest)
    else primary files fuel role ts

/-- A single condition, and what follows it. -/
def primary (files : Files m) (fuel : Nat) (role : Role) (ts : List Text) :
    Answer m (Bool × List Text) :=
  match fuel with
  | 0 => throw "too many arguments"
  | fuel + 1 => do
    match role, ts with
    | .nothing, _ | _, [] => return (false, [])
    | .openParenthesis, _ :: rest =>
      if Role.ofFirst rest = .closeParenthesis then return (false, rest.drop 1)
      let (a, rest) ← disjunction files fuel (Role.ofFirst rest) rest
      if Role.ofFirst rest = .closeParenthesis then return (a, rest.drop 1)
      else throw "closing paren expected"
    | .unary, operator :: operand :: rest =>
      let answer ← (unary files operator operand : Sh m Bool)
      return (answer, rest)
    | _, a :: rest =>
      match rest with
      | operator :: others =>
        if isComparison operator then
          match others with
          | [] => throw s!"{operator.str}: argument expected"
          | b :: rest =>
            match compare a operator b with
            | .ok answer => return (answer, rest)
            | .error e => throw e
        else return (a ≠ [], rest)
      | [] => return (a ≠ [], [])

end

/-- The answer to a whole condition: every operand has to belong to it. -/
def whole (files : Files m) (role : Role) (ts : List Text) : Sh m (Except String Bool) := do
  match ← (disjunction files (8 * (ts.length + 2)) role ts).run with
  | .ok (answer, rest) =>
    match rest, ts[ts.length - rest.length - 1]? with
    | _ :: _, some last => return .error s!"{last.str}: unexpected operator"
    | _, _ => return .ok answer
  | .error e => return .error e

/-- The answer to a condition, or why there is none. Of three operands with a comparison in the
middle the others are texts, whatever they look like; `negated` says that the answer is turned. -/
def evaluateFrom (files : Files m) (negated : Bool) : List Text → Sh m (Except String Bool)
  | [] => return .ok negated
  | [a, operator, b] =>
    if isComparison operator then answerAs .operand [a, operator, b]
    else if a = ['('] && b = [')'] then answer [operator]
    else if a = ['!'] then evaluateFrom files true [operator, b]
    else answer [a, operator, b]
  | [a, b, c, d] =>
    if a = ['('] && d = [')'] then answer [b, c]
    else if a = ['!'] then evaluateFrom files true [b, c, d]
    else answer [a, b, c, d]
  | ts => answer ts
where
  answerAs (role : Role) (ts : List Text) : Sh m (Except String Bool) :=
    return (← whole files role ts).map fun a => a != negated
  answer (ts : List Text) : Sh m (Except String Bool) := answerAs (Role.ofFirst ts) ts

def evaluate (files : Files m) (ts : List Text) : Sh m (Except String Bool) :=
  evaluateFrom files false ts

end HttpCascade.Shell.Condition

import HttpCascade.Shell.Command

/-!
# Shell arithmetic

Expressions over whole numbers of 64 bits, with variables that may be assigned. An expression is cut
into tokens, read into a tree and evaluated; only the operands that count are evaluated.
-/

namespace HttpCascade.Shell.Arithmetic

inductive Token where
  | number (n : Nat)
  | name (t : Text)
  | operator (t : Text)
  deriving DecidableEq, Repr

inductive Expression where
  | number (n : Int)
  | variable (name : Text)
  | unary (operator : Text) (e : Expression)
  | binary (operator : Text) (left right : Expression)
  | conditional (condition yes no : Expression)
  /-- An assignment, with the operator that joins the old value to the new. -/
  | assign (name : Text) (operator : Text) (e : Expression)

/-- Why an expression has no value. -/
inductive Fault where
  | expectingPrimary
  | expectingEnd
  | divisionByZero
  | illegalNumber (t : Text)

/-- The operators of two or three characters, longer ones first. -/
def longOperators : List String :=
  ["<<=", ">>=", "<<", ">>", "<=", ">=", "==", "!=", "&&", "||", "+=", "-=", "*=", "/=", "%=", "&=",
    "|=", "^="]

/-- The value of a digit in bases up to sixteen. -/
def digitValue (c : Char) : Nat :=
  if c.isDigit then c.toNat - 48
  else if 'a' ≤ c && c ≤ 'f' then c.toNat - 87
  else if 'A' ≤ c && c ≤ 'F' then c.toNat - 55
  else 0

/-- The largest number. -/
def largest : Nat := 0x7fffffffffffffff

/-- The number that digits stand for: hexadecimal after `0x`, octal after `0`, decimal otherwise. One
that is too large counts as the largest. -/
def number? (t : Text) : Option Nat :=
  let value := fun (base : Nat) (digits : Text) =>
    min largest (digits.foldl (fun n c => base * n + digitValue c) 0)
  match t with
  | '0' :: 'x' :: digits | '0' :: 'X' :: digits =>
    if digits ≠ [] && digits.all fun c => c.isDigit || ('a' ≤ c && c ≤ 'f') || ('A' ≤ c && c ≤ 'F')
    then some (value 16 digits) else none
  | '0' :: digits =>
    if digits.all fun c => '0' ≤ c && c ≤ '7' then some (value 8 digits) else none
  | _ => if t ≠ [] && t.all Char.isDigit then some (value 10 t) else none

/-- The tokens of an expression; the number bounds their count. -/
def tokens : Nat → Text → Except Fault (List Token)
  | 0, _ | _, [] => .ok []
  | n + 1, c :: rest =>
    if c = ' ' || c = '\t' || c = '\n' then tokens n rest
    else if c.isDigit then
      let word := (c :: rest).takeWhile isNameChar
      match number? word with
      | some value => (tokens n ((c :: rest).drop word.length)).map (.number value :: ·)
      | none => .error .expectingEnd
    else if isNameChar c then
      let word := (c :: rest).takeWhile isNameChar
      (tokens n ((c :: rest).drop word.length)).map (.name word :: ·)
    else
      match longOperators.find? fun o => o.toList.isPrefixOf (c :: rest) with
      | some o => (tokens n ((c :: rest).drop o.length)).map (.operator o.toList :: ·)
      | none => (tokens n rest).map (.operator [c] :: ·)

/-- How tightly a binary operator binds. -/
def precedence? (operator : Text) : Option Nat :=
  let rows : List (List String) :=
    [["||"], ["&&"], ["|"], ["^"], ["&"], ["==", "!="], ["<", ">", "<=", ">="], ["<<", ">>"],
      ["+", "-"], ["*", "/", "%"]]
  rows.findIdx? fun row => row.any fun o => o.toList = operator

/-- The operator that an assignment joins with, which may be none. -/
def assignment? (operator : Text) : Option Text :=
  if operator = ['='] then some []
  else if operator.isOneOf ["+=", "-=", "*=", "/=", "%=", "&=", "|=", "^=", "<<=", ">>="] then
    some operator.dropLast
  else none

mutual

/-- An operand. -/
def operand (fuel : Nat) (ts : List Token) : Except Fault (Expression × List Token) :=
  match fuel with
  | 0 => .error .expectingPrimary
  | fuel + 1 =>
    match ts with
    | .number n :: rest => .ok (.number n, rest)
    | .name t :: rest => .ok (.variable t, rest)
    | .operator ['('] :: rest =>
      match expression fuel rest with
      | .ok (e, .operator [')'] :: rest) => .ok (e, rest)
      | .ok _ => .error .expectingPrimary
      | .error f => .error f
    | .operator o :: rest =>
      if o.isOneOf ["-", "+", "!", "~"] then
        (operand fuel rest).map fun (e, rest) => (.unary o e, rest)
      else .error .expectingPrimary
    | [] => .error .expectingPrimary

/-- An operand and what binary operators of at least a precedence join to it. -/
def joined (fuel : Nat) (least : Nat) (left : Expression) (ts : List Token) :
    Except Fault (Expression × List Token) :=
  match fuel with
  | 0 => .error .expectingPrimary
  | fuel + 1 =>
    match ts with
    | .operator o :: rest =>
      match precedence? o with
      | some p =>
        if p < least then .ok (left, ts)
        else
          match operand fuel rest with
          | .error f => .error f
          | .ok (right, rest) =>
            match joined fuel (p + 1) right rest with
            | .error f => .error f
            | .ok (right, rest) => joined fuel least (.binary o left right) rest
      | none => .ok (left, ts)
    | _ => .ok (left, ts)

/-- A conditional or what is simpler. -/
def conditional (fuel : Nat) (ts : List Token) : Except Fault (Expression × List Token) :=
  match fuel with
  | 0 => .error .expectingPrimary
  | fuel + 1 =>
    match operand fuel ts with
    | .error f => .error f
    | .ok (first, rest) =>
      match joined fuel 0 first rest with
      | .ok (condition, .operator ['?'] :: rest) =>
        match expression fuel rest with
        | .ok (yes, .operator [':'] :: rest) =>
          (conditional fuel rest).map fun (no, rest) => (.conditional condition yes no, rest)
        | .ok _ => .error .expectingPrimary
        | .error f => .error f
      | other => other

/-- A whole expression. -/
def expression (fuel : Nat) (ts : List Token) : Except Fault (Expression × List Token) :=
  match fuel with
  | 0 => .error .expectingPrimary
  | fuel + 1 =>
    match ts with
    | .name t :: .operator o :: rest =>
      match assignment? o with
      | some join => (expression fuel rest).map fun (e, rest) => (.assign t join e, rest)
      | none => conditional fuel ts
    | _ => conditional fuel ts

end

/-- The number of 64 bits that an integer wraps to. -/
def wrap (n : Int) : Int := Int.bmod n 0x10000000000000000

def truth (b : Bool) : Int := if b then 1 else 0

/-- Joins two numbers bit by bit. -/
def bitwise (f : UInt64 → UInt64 → UInt64) (a b : Int) : Int :=
  wrap (f (Int64.ofInt a).toUInt64 (Int64.ofInt b).toUInt64).toNat

/-- What a binary operator makes of two numbers. -/
def apply (operator : Text) (a b : Int) : Except Fault Int :=
  if operator = "+" then .ok (wrap (a + b))
  else if operator = "-" then .ok (wrap (a - b))
  else if operator = "*" then .ok (wrap (a * b))
  else if operator = "/" then if b = 0 then .error .divisionByZero else .ok (wrap (a.tdiv b))
  else if operator = "%" then if b = 0 then .error .divisionByZero else .ok (wrap (a.tmod b))
  else if operator = "==" then .ok (truth (a = b))
  else if operator = "!=" then .ok (truth (a ≠ b))
  else if operator = "<" then .ok (truth (a < b))
  else if operator = ">" then .ok (truth (a > b))
  else if operator = "<=" then .ok (truth (a ≤ b))
  else if operator = ">=" then .ok (truth (a ≥ b))
  else if operator = "&" then .ok (bitwise (· &&& ·) a b)
  else if operator = "|" then .ok (bitwise (· ||| ·) a b)
  else if operator = "^" then .ok (bitwise (· ^^^ ·) a b)
  else if operator = "<<" then .ok (wrap (a * Nat.pow 2 (b % 64).toNat))
  else if operator = ">>" then .ok (wrap (a / Nat.pow 2 (b % 64).toNat))
  else .ok b

/-- The variables' texts, with the numbers that were assigned. -/
abbrev Evaluation := StateT (List (Text × Int)) (Except Fault)

/-- The number of a variable; an unset or empty one is zero. -/
def variableValue (value : Text → Text) (name : Text) : Evaluation Int := do
  match (← get).lookup name with
  | some n => return n
  | none =>
    let t := (value name).filter fun c => !(c = ' ' || c = '\t' || c = '\n')
    let (negative, digits) := match t with
      | '-' :: digits => (true, digits)
      | '+' :: digits => (false, digits)
      | _ => (false, t)
    if t = [] then return 0
    match number? digits with
    | some n => return wrap (if negative then -Int.ofNat n else Int.ofNat n)
    | none => throw (.illegalNumber (value name))

/-- The number that an expression stands for. -/
def Expression.evaluate (value : Text → Text) : Expression → Evaluation Int
  | .number n => return wrap n
  | .variable name => variableValue value name
  | .unary operator e => do
    let n ← e.evaluate value
    if operator = "-" then return wrap (-n)
    else if operator = "!" then return truth (n = 0)
    else if operator = "~" then return wrap (-n - 1)
    else return n
  | .binary operator left right => do
    let a ← left.evaluate value
    if operator = "&&" && a = 0 then return 0
    if operator = "||" && a ≠ 0 then return 1
    let b ← right.evaluate value
    if operator = "&&" || operator = "||" then return truth (b ≠ 0)
    apply operator a b
  | .conditional condition yes no => do
    if (← condition.evaluate value) ≠ 0 then yes.evaluate value else no.evaluate value
  | .assign name operator e => do
    let old ← if operator = [] then pure 0 else variableValue value name
    let n ← e.evaluate value
    let n ← if operator = [] then pure n else apply operator old n
    modify ((name, n) :: ·)
    return n

/-- The number of an expression's text, and the assignments in it, the last first. -/
def evaluate (value : Text → Text) (t : Text) : Except Fault (Int × List (Text × Int)) := do
  let ts ← tokens (t.length + 1) t
  if ts = [] then return (0, [])
  match ← expression (8 * (ts.length + 4)) ts with
  | (e, []) => (e.evaluate value).run []
  | _ => throw .expectingEnd

def Fault.message (expression : Text) : Fault → String
  | .expectingPrimary => s!"arithmetic expression: expecting primary: \"{expression.str}\""
  | .expectingEnd => s!"arithmetic expression: expecting EOF: \"{expression.str}\""
  | .divisionByZero => s!"arithmetic expression: division by zero: \"{expression.str}\""
  | .illegalNumber t => s!"Illegal number: {t.str}"

end HttpCascade.Shell.Arithmetic

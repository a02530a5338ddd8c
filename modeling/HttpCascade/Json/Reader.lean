import HttpCascade.Decimal.Shortest
import HttpCascade.Json.Cursor

/-!
# Reading JSON values

Strings, literals and numbers, and passing over a value that nobody asked for. A reader starts at the
first character of a value and ends after its last one.
-/

namespace HttpCascade.Json

/-! ### Strings -/

/-- The value of four hexadecimal digits. -/
def fourDigits? : Text → Option Nat
  | [a, b, c, d] =>
    match Unicode.hexDigit? a, Unicode.hexDigit? b, Unicode.hexDigit? c, Unicode.hexDigit? d with
    | some a, some b, some c, some d => some (((a * 16 + b) * 16 + c) * 16 + d)
    | _, _, _, _ => none
  | _ => none

/-- The number after `\u`. Four bytes are read before they are looked at. -/
def hexEscape (p : Position) (t : Text) : Except JsonError Nat :=
  match fourDigits? (t.take 4) with
  | some n => .ok n
  | none =>
    let bytes := Utf8.encode (t.take 4)
    if bytes.length < 4 then .error ⟨.endInString, p.afterBytes bytes⟩
    else .error ⟨.invalidEscape, p.afterBytes (bytes.take 4)⟩

/-- The character that a letter after a backslash stands for. -/
def simpleEscape? (c : Char) : Option Char :=
  if c = '"' then some '"'
  else if c = '\\' then some '\\'
  else if c = '/' then some '/'
  else if c = 'b' then some '\x08'
  else if c = 'f' then some '\x0c'
  else if c = 'n' then some '\n'
  else if c = 'r' then some '\r'
  else if c = 't' then some '\t'
  else none

/-- The second half of a character above U+FFFF, which has to follow the first half `high`. The text
starts after the first half. -/
def lowerHalf (high : Nat) (p : Position) (t : Text) : Except JsonError Char :=
  match t with
  | [] => .error ⟨.endInString, p⟩
  | c :: rest =>
    if c ≠ '\\' then .error ⟨.endOfHexEscape, p.intoChar c⟩
    else
      match rest with
      | [] => .error ⟨.endInString, p.after c⟩
      | d :: rest =>
        if d ≠ 'u' then .error ⟨.endOfHexEscape, (p.after c).intoChar d⟩
        else
          match hexEscape ((p.after c).after d) rest with
          | .error e => .error e
          | .ok low =>
            if low < 0xDC00 || low > 0xDFFF then
              .error ⟨.loneSurrogate, ((p.after c).after d).afterBytes (Utf8.encode (rest.take 4))⟩
            else .ok (Char.ofNat ((high - 0xD800) * 0x400 + (low - 0xDC00) + 0x10000))

/-- The character of an escape whose backslash has been read, and how many characters it takes. -/
def escape (p : Position) : Text → Except JsonError (Char × Nat)
  | [] => .error ⟨.endInString, p⟩
  | c :: rest =>
    match simpleEscape? c with
    | some value => .ok (value, 1)
    | none =>
      if c ≠ 'u' then .error ⟨.invalidEscape, p.intoChar c⟩
      else
        match hexEscape (p.after c) rest with
        | .error e => .error e
        | .ok n =>
          let after := (p.after c).afterBytes (Utf8.encode (rest.take 4))
          if 0xDC00 ≤ n && n ≤ 0xDFFF then .error ⟨.loneSurrogate, after⟩
          else if 0xD800 ≤ n && n ≤ 0xDBFF then
            match lowerHalf n after (rest.drop 4) with
            | .error e => .error e
            | .ok value => .ok (value, 11)
          else .ok (Char.ofNat n, 5)

/-- The rest of a string after its first `skip` characters, up to and with the quote that ends it. -/
def stringRest : (skip : Nat) → Position → Text → Result Text
  | _, p, [] => .error ⟨.endInString, p⟩
  | skip + 1, p, c :: rest => stringRest skip (p.after c) rest
  | 0, p, c :: rest =>
    if c = '"' then .ok ([], ⟨p.after c, rest⟩)
    else if c = '\\' then
      match escape (p.after c) rest with
      | .error e => .error e
      | .ok (value, count) =>
        match stringRest count (p.after c) rest with
        | .error e => .error e
        | .ok (t, after) => .ok (value :: t, after)
    else if c.toNat < 0x20 then .error ⟨.controlCharacter, p.intoChar c⟩
    else
      match stringRest 0 (p.after c) rest with
      | .error e => .error e
      | .ok (t, after) => .ok (c :: t, after)

/-- The text of a string whose opening quote has been read. -/
def stringBody (c : Cursor) : Result Text := stringRest 0 c.position c.rest

/-- Passes over the rest of a string. Its escapes are read, but nobody asks whether the numbers in
them make characters. -/
def skipStringRest : (skip : Nat) → Position → Text → Except JsonError Cursor
  | _, p, [] => .error ⟨.endInString, p⟩
  | skip + 1, p, c :: rest => skipStringRest skip (p.after c) rest
  | 0, p, c :: rest =>
    if c = '"' then .ok ⟨p.after c, rest⟩
    else if c = '\\' then
      match rest with
      | [] => .error ⟨.endInString, p.after c⟩
      | d :: digits =>
        if (simpleEscape? d).isSome then skipStringRest 1 (p.after c) rest
        else if d ≠ 'u' then .error ⟨.invalidEscape, (p.after c).intoChar d⟩
        else
          match hexEscape ((p.after c).after d) digits with
          | .error e => .error e
          | .ok _ => skipStringRest 5 (p.after c) rest
    else if c.toNat < 0x20 then .error ⟨.controlCharacter, p.intoChar c⟩
    else skipStringRest 0 (p.after c) rest

def skipString (c : Cursor) : Except JsonError Cursor := skipStringRest 0 c.position c.rest

/-! ### Literals -/

/-- Reads the letters of a literal one after another. -/
def literalRest (p : Position) : Text → Text → Except JsonError Cursor
  | [], rest => .ok ⟨p, rest⟩
  | _ :: _, [] => .error ⟨.endInValue, p⟩
  | wanted :: more, c :: rest =>
    if c = wanted then literalRest (p.after c) more rest else .error ⟨.expectedWord, p.intoChar c⟩

/-- Reads a literal whose first letter is known. -/
def literal (c : Cursor) (word : Text) : Except JsonError Cursor := literalRest c.position word c.rest

/-! ### Numbers -/

/-- A number as it was written: a whole number that fits in 64 bits, or a floating-point number. -/
inductive Number where
  | natural (n : Nat)
  | negative (n : Int)
  | float (f : Float)

/-- Takes digits into a number as long as it fits in 64 bits; returns it with the number of digits
taken. -/
def absorb (significand : Nat) : Text → Nat × Nat
  | [] => (significand, 0)
  | d :: rest =>
    let next := significand * 10 + (d.toNat - 0x30)
    if next ≤ 0xFFFFFFFFFFFFFFFF then
      let (value, count) := absorb next rest
      (value, count + 1)
    else (significand, 0)

/-- A power of ten as a double. -/
def powerOfTen (n : Nat) : Float := Float.ofScientific 1 false n

/-- Scales by a power of ten in steps of at most `10 ^ 308`. -/
def scale (f : Float) (exponent : Int) : Nat → Option Float
  | 0 => some f
  | steps + 1 =>
    if exponent.natAbs ≤ 308 then
      if exponent ≥ 0 then
        let scaled := f * powerOfTen exponent.natAbs
        if scaled.isInf then none else some scaled
      else some (f / powerOfTen exponent.natAbs)
    else if f == 0.0 then some f
    else if exponent ≥ 0 then none
    else scale (f / powerOfTen 308) (exponent + 308) steps

/-- The double `significand * 10 ^ exponent`. After so many divisions as doubles have powers of two
the value is zero. -/
def double (c : Cursor) (positive : Bool) (significand : Nat) (exponent : Int) : Result Number :=
  match scale significand.toUInt64.toFloat exponent 2200 with
  | some f => .ok (.float (if positive then f else -f), c)
  | none => c.fail .numberOutOfRange

/-- The exponent after `e`, and what it makes of the digits before it. -/
def exponentPart (c : Cursor) (positive : Bool) (significand : Nat) (exponent : Int) :
    Result Number :=
  let (up, c) :=
    match c.rest with
    | '+' :: _ => (true, c.advance 1)
    | '-' :: _ => (false, c.advance 1)
    | _ => (true, c)
  match c.rest with
  | [] => c.fail .endInValue
  | first :: _ =>
    if !first.isDigit then c.failAhead .invalidNumber
    else
      let digits := (c.takeDigits).1
      let fits := digits.length.min ((List.range (digits.length + 1)).filter fun n =>
        (digits.take n).foldl (fun v d => v * 10 + (d.toNat - 0x30)) 0 ≤ 0x7FFFFFFF).length.pred
      if fits < digits.length then
        if significand ≠ 0 && up then (c.advance (fits + 1)).fail .numberOutOfRange
        else .ok (.float (if positive then 0.0 else -0.0), c.advance digits.length)
      else
        let value : Int := digits.foldl (fun v d => v * 10 + (d.toNat - 0x30)) 0
        let total := if up then min (exponent + value) 0x7FFFFFFF
          else max (exponent - value) (-0x80000000)
        double (c.advance digits.length) positive significand total

def isExponentMark (c : Option Char) : Bool := c == some 'e' || c == some 'E'

/-- The digits after a point, and what follows them. -/
def fractionPart (c : Cursor) (positive : Bool) (significand : Nat) (exponent : Int) :
    Result Number :=
  let (digits, after) := c.takeDigits
  if digits = [] then
    if c.rest = [] then c.failAhead .endInValue else c.failAhead .invalidNumber
  else
    let (value, taken) := absorb significand digits
    if isExponentMark after.rest.head? then
      exponentPart (after.advance 1) positive value (exponent - taken)
    else double after positive value (exponent - taken)

/-- A number whose sign, if it has one, has been read. -/
def number (c : Cursor) (positive : Bool) : Result Number :=
  match c.rest with
  | [] => c.fail .endInValue
  | first :: rest =>
    if !first.isDigit then c.failAhead .invalidNumber
    else if first = '0' && (rest.head?.map Char.isDigit).getD false then
      (c.advance 1).failAhead .invalidNumber
    else
      let (digits, after) := c.takeDigits
      let (value, taken) := absorb 0 digits
      let exponent : Int := digits.length - taken
      match after.rest.head? with
      | some '.' => fractionPart (after.advance 1) positive value exponent
      | next =>
        if isExponentMark next then exponentPart (after.advance 1) positive value exponent
        else if taken < digits.length then double after positive value exponent
        else if positive then .ok (.natural value, after)
        else if value = 0 || value > 0x8000000000000000 then
          .ok (.float (-value.toUInt64.toFloat), after)
        else .ok (.negative (-value), after)

/-- How floating-point numbers are shown in messages. -/
def floatNotation : Decimal.Notation := ⟨-5, 15, "e+", "e-"⟩

/-- A floating-point number in a message. -/
def showFloat (f : Float) : Text :=
  let bits := f.toBits.toNat
  let sign : Text := if bits ≥ Nat.pow 2 63 then ['-'] else []
  let size := bits % Nat.pow 2 63
  if size = 0 then sign ++ ['0', '.', '0']
  else sign ++ (Decimal.shortest (Decimal.Binary.ofBits size)).written floatNotation

def Number.found : Number → Found
  | natural n => .integer n
  | negative n => .integer n
  | float f => .float (showFloat f)

/-! ### Values of another kind than wanted -/

/-- The error for a value of another kind than wanted. A scalar is read first, so that its own faults
come before. -/
def wrongType {α : Type} (c : Cursor) (expected : String) : Except JsonError α :=
  let found : Except JsonError (Found × Cursor) :=
    match c.rest with
    | 'n' :: _ => (literal (c.advance 1) "ull").map fun after => (.null, after)
    | 't' :: _ => (literal (c.advance 1) "rue").map fun after => (.boolean true, after)
    | 'f' :: _ => (literal (c.advance 1) "alse").map fun after => (.boolean false, after)
    | '"' :: _ => (stringBody (c.advance 1)).map fun (t, after) => (.text t, after)
    | '-' :: _ => (number (c.advance 1) false).map fun (n, after) => (n.found, after)
    | '[' :: _ => .ok (.sequence, c)
    | '{' :: _ => .ok (.map, c)
    | first :: _ =>
      if first.isDigit then (number c true).map fun (n, after) => (n.found, after)
      else c.failAhead .expectedValue
    | [] => c.failAhead .expectedValue
  match found with
  | .error e => .error e
  | .ok (found, after) => after.fail (.invalidType found expected)

/-- The first character of a value after space. -/
def valueStart (c : Cursor) : Except JsonError (Char × Cursor) :=
  let c := c.skipSpace
  match c.rest with
  | [] => c.failAhead .endInValue
  | first :: _ => .ok (first, c)

/-- A value that has to be a string. -/
def readText (c : Cursor) (expected : String) : Result Text :=
  match valueStart c with
  | .error e => .error e
  | .ok (first, c) => if first = '"' then stringBody (c.advance 1) else wrongType c expected

/-- A value that has to be `true` or `false`. -/
def readBool (c : Cursor) : Result Bool :=
  match valueStart c with
  | .error e => .error e
  | .ok (first, c) =>
    if first = 't' then (literal (c.advance 1) "rue").map fun after => (true, after)
    else if first = 'f' then (literal (c.advance 1) "alse").map fun after => (false, after)
    else wrongType c "a boolean"

/-- A value that has to be a whole number of 64 bits. -/
def readUInt64 (c : Cursor) : Result UInt64 :=
  match valueStart c with
  | .error e => .error e
  | .ok (first, c) =>
    if first = '-' || first.isDigit then
      let read := if first = '-' then number (c.advance 1) false else number c true
      match read with
      | .error e => .error e
      | .ok (.natural n, after) => .ok (n.toUInt64, after)
      | .ok (.negative n, after) => after.fail (.invalidValue (.integer n) "u64")
      | .ok (.float f, after) => after.fail (.invalidType (.float (showFloat f)) "u64")
    else wrongType c "u64"

/-- A value that is `null` or what `read` reads. -/
def readOption {α : Type} (read : Cursor → Result α) (c : Cursor) : Result (Option α) :=
  let c := c.skipSpace
  match c.rest with
  | 'n' :: _ => (literal (c.advance 1) "ull").map fun after => (none, after)
  | _ => (read c).map fun (value, after) => (some value, after)

/-! ### Passing over a value -/

/-- Passes over a whole number whose sign has been read, and over what follows it. -/
def skipNumber (c : Cursor) : Except JsonError Cursor :=
  match c.rest with
  | [] => c.fail .invalidNumber
  | first :: rest =>
    if !first.isDigit then c.failAhead .invalidNumber
    else if first = '0' && (rest.head?.map Char.isDigit).getD false then
      (c.advance 1).failAhead .invalidNumber
    else
      let c := (c.takeDigits).2
      match c.rest.head? with
      | some '.' =>
        let (digits, c) := (c.advance 1).takeDigits
        if digits = [] then c.failAhead .invalidNumber
        else if isExponentMark c.rest.head? then skipExponent (c.advance 1)
        else .ok c
      | next => if isExponentMark next then skipExponent (c.advance 1) else .ok c
where
  skipExponent (c : Cursor) : Except JsonError Cursor :=
    let c := match c.rest with
      | '+' :: _ | '-' :: _ => c.advance 1
      | _ => c
    let (digits, after) := c.takeDigits
    if digits = [] then c.failAhead .invalidNumber else .ok after

/-- Reads the colon after a key. -/
def readColon (c : Cursor) : Except JsonError Cursor :=
  let c := c.skipSpace
  match c.rest with
  | ':' :: _ => .ok (c.advance 1)
  | [] => c.failAhead .endInObject
  | _ => c.failAhead .expectedColon

mutual

/-- Passes over a value. Every step inwards or onwards reads a character, so the number of steps is
bounded by the length of the text. -/
def skipValue : Nat → Cursor → Except JsonError Cursor
  | 0, c => c.failAhead .endInValue
  | steps + 1, c =>
    match valueStart c with
    | .error e => .error e
    | .ok (first, c) =>
      if first = 'n' then literal (c.advance 1) "ull"
      else if first = 't' then literal (c.advance 1) "rue"
      else if first = 'f' then literal (c.advance 1) "alse"
      else if first = '-' then skipNumber (c.advance 1)
      else if first.isDigit then skipNumber c
      else if first = '"' then skipString (c.advance 1)
      else if first = '[' then
        let c := (c.advance 1).skipSpace
        match c.rest with
        | [] => c.failAhead .endInList
        | ']' :: _ => .ok (c.advance 1)
        | _ => skipElements steps c
      else if first = '{' then
        let c := (c.advance 1).skipSpace
        match c.rest with
        | [] => c.failAhead .endInObject
        | '}' :: _ => .ok (c.advance 1)
        | _ => skipMembers steps c
      else c.failAhead .expectedValue

/-- Passes over the elements of a list, of which there is at least one, and its end. -/
def skipElements : Nat → Cursor → Except JsonError Cursor
  | 0, c => c.failAhead .endInList
  | steps + 1, c =>
    match skipValue steps c with
    | .error e => .error e
    | .ok c =>
      let c := c.skipSpace
      match c.rest with
      | [] => c.failAhead .endInList
      | ']' :: _ => .ok (c.advance 1)
      | ',' :: _ => skipElements steps (c.advance 1)
      | _ => c.failAhead .expectedListEnd

/-- Passes over the members of an object, of which there is at least one, and its end. -/
def skipMembers : Nat → Cursor → Except JsonError Cursor
  | 0, c => c.failAhead .endInObject
  | steps + 1, c =>
    let c := c.skipSpace
    match c.rest with
    | [] => c.failAhead .endInObject
    | '"' :: _ =>
      match skipString (c.advance 1) with
      | .error e => .error e
      | .ok c =>
        match readColon c with
        | .error e => .error e
        | .ok c =>
          match skipValue steps c with
          | .error e => .error e
          | .ok c =>
            let c := c.skipSpace
            match c.rest with
            | [] => c.failAhead .endInObject
            | '}' :: _ => .ok (c.advance 1)
            | ',' :: _ => skipMembers steps (c.advance 1)
            | _ => c.failAhead .expectedObjectEnd
    | _ => c.failAhead .keyNotAString

end

/-- Passes over a value. -/
def skip (c : Cursor) : Except JsonError Cursor := skipValue (2 * c.rest.length + 2) c

end HttpCascade.Json

import HttpCascade.Decimal.Shortest
import HttpCascade.Shell.Command

/-!
# Formatted output

How `echo` and `printf` make a text of their arguments. A backslash starts an escape for a byte, and
a percent sign a conversion of the next argument.
-/

namespace HttpCascade.Shell.Format

/-- The byte of a named escape. -/
def namedEscape? (c : Char) : Option Char :=
  if c = 'a' then some '\x07'
  else if c = 'b' then some '\x08'
  else if c = 'e' then some '\x1b'
  else if c = 'f' then some '\x0c'
  else if c = 'n' then some '\n'
  else if c = 'r' then some '\r'
  else if c = 't' then some '\t'
  else if c = 'v' then some '\x0b'
  else if c = '\\' then some '\\'
  else none

def isOctal (c : Char) : Bool := '0' ≤ c && c ≤ '7'

/-- The byte of octal digits. -/
def octalByte (digits : Text) : Char :=
  Char.ofNat (digits.foldl (fun n c => 8 * n + (c.toNat - 48)) 0 % 256)

/-- The byte of the escape after a backslash, and what follows it. -/
def escape (t : Text) : Char × Text :=
  match t with
  | [] => ('\\', [])
  | c :: rest =>
    if isOctal c then
      let digits := (t.take 3).takeWhile isOctal
      (octalByte digits, t.drop digits.length)
    else
      match namedEscape? c with
      | some b => (b, rest)
      | none => ('\\', t)

/-- An argument with its escapes carried out, and whether `\c` ended the output. The number bounds
the length. -/
def unescapeWithin : Nat → Text → Text × Bool
  | 0, _ | _, [] => ([], false)
  | _ + 1, '\\' :: 'c' :: _ => ([], true)
  | n + 1, '\\' :: '0' :: rest =>
    let digits := (rest.take 3).takeWhile isOctal
    let (t, ended) := unescapeWithin n (rest.drop digits.length)
    (octalByte digits :: t, ended)
  | n + 1, '\\' :: rest =>
    let (c, after) := escape rest
    let (t, ended) := unescapeWithin n after
    (c :: t, ended)
  | n + 1, c :: rest =>
    let (t, ended) := unescapeWithin n rest
    (c :: t, ended)

def unescape (t : Text) : Text × Bool := unescapeWithin (t.length + 1) t

/-- What `echo` writes. -/
def echo (arguments : List Text) : Text :=
  let (bare, arguments) := match arguments with
    | ['-', 'n'] :: rest => (true, rest)
    | _ => (false, arguments)
  let (t, ended) := unescape (Text.join [' '] arguments)
  if bare || ended then t else t ++ ['\n']

/-! ### Conversions -/

/-- What stands between a percent sign and the letter of a conversion. -/
structure Layout where
  left : Bool := false
  zero : Bool := false
  plus : Bool := false
  blank : Bool := false
  alternate : Bool := false
  width : Nat := 0
  precision : Option Nat := none

namespace Layout

def addFlag (l : Layout) (c : Char) : Layout :=
  if c = '-' then { l with left := true }
  else if c = '0' then { l with zero := true }
  else if c = '+' then { l with plus := true }
  else if c = ' ' then { l with blank := true }
  else { l with alternate := true }

def isFlag (c : Char) : Bool := c ∈ ['-', '0', '+', ' ', '#']

/-- Fills a text up to the width. -/
def pad (l : Layout) (t : Text) : Text :=
  let missing := List.replicate (l.width - t.length) ' '
  if l.left then t ++ missing else missing ++ t

/-- Fills a number up to the width, with zeros after its sign if that is asked for. -/
def padNumber (l : Layout) (sign digits : Text) : Text :=
  let digits := match l.precision with
    | some p => List.replicate (p - digits.length) '0' ++ digits
    | none => digits
  if l.zero && !l.left && l.precision.isNone then
    sign ++ List.replicate (l.width - (sign.length + digits.length)) '0' ++ digits
  else l.pad (sign ++ digits)

end Layout

/-- What is wrong with an argument. -/
inductive Complaint where
  | notNumber (argument : Text)
  | notWholeNumber (argument : Text)
  | outOfRange (argument : Text)
  | noConversion
  | badConversion (conversion : Text)

def Complaint.message : Complaint → String
  | notNumber t => s!"{t.str}: expected numeric value"
  | notWholeNumber t => s!"{t.str}: not completely converted"
  | outOfRange t => s!"{t.str}: Numerical result out of range"
  | noConversion => "missing format character"
  | badConversion t => s!"{t.str}: invalid directive"

/-- What is wrong with an argument of which so much was not read. -/
def leftover? (t unread : Text) : Option Complaint :=
  if unread = [] then none
  else if unread.length = t.length then some (.notNumber t)
  else some (.notWholeNumber t)

/-- A sign, and what follows it. -/
def splitSign : Text → Bool × Text
  | '-' :: rest => (true, rest)
  | '+' :: rest => (false, rest)
  | t => (false, t)

/-- The digits at the front in a base, and what follows them. -/
def readDigits (base : Nat) (t : Text) : Nat × Text :=
  let value := fun (c : Char) =>
    if c.isDigit then c.toNat - 48
    else if 'a' ≤ c && c ≤ 'f' then c.toNat - 87
    else if 'A' ≤ c && c ≤ 'F' then c.toNat - 55
    else 16
  let digits := t.takeWhile fun c => value c < base
  (digits.foldl (fun n c => base * n + value c) 0, t.drop digits.length)

/-- The whole number that an argument stands for, between two bounds. -/
def numberOf (least greatest : Int) (t : Text) : Int × Option Complaint :=
  let (negative, digits) := splitSign t
  let finish := fun (n : Nat) (unread : Text) =>
    let signed := if negative then -Int.ofNat n else Int.ofNat n
    let kept := max least (min greatest signed)
    (kept, if kept = signed then leftover? t unread else some (.outOfRange t))
  match t with
  | [] => (0, none)
  | '"' :: c :: _ | '\'' :: c :: _ => (c.toNat, none)
  | _ =>
    match digits with
    | '0' :: x :: hex =>
      if (x = 'x' || x = 'X') && (readDigits 16 hex).2.length < hex.length then
        let (n, unread) := readDigits 16 hex
        finish n unread
      else
        let (n, unread) := readDigits 8 digits
        finish n unread
    | _ =>
      let (n, unread) := readDigits 10 digits
      finish n (if unread.length = digits.length then t else unread)

/-- The number that an argument stands for, with a sign that is told apart. -/
def realOf (t : Text) : Bool × Decimal.Binary × Option Complaint :=
  let (negative, unsigned) := splitSign t
  let (whole, rest) := readDigits 10 unsigned
  let wholeCount := unsigned.length - rest.length
  let (mantissa, places, rest) := match rest with
    | '.' :: fraction =>
      let (n, after) := readDigits 10 fraction
      let count := fraction.length - after.length
      if wholeCount + count = 0 then (0, 0, rest) else (whole * Nat.pow 10 count + n, count, after)
    | _ => (whole, 0, rest)
  let (exponent, rest) := match rest with
    | e :: after =>
      let (minus, digits) := splitSign after
      let (n, unread) := readDigits 10 digits
      if (e = 'e' || e = 'E') && unread.length < digits.length then
        (if minus then -Int.ofNat (min n 1000) else Int.ofNat (min n 1000), unread)
      else (0, rest)
    | [] => (0, rest)
  let shift : Int := exponent - places
  let value := Float.ofScientific mantissa (shift < 0) shift.natAbs
  (negative, .ofBits value.toBits.toNat, leftover? t rest)

/-- The digits of a number in a base. -/
def digitsIn (base : Nat) (capital : Bool) (n : Nat) : Text :=
  let digits := Nat.toDigits base n
  if capital then digits.map Char.toUpper else digits

/-- What is known while a format is carried out. -/
structure Progress where
  output : List Text := []
  arguments : List Text
  /-- An argument was asked for. -/
  consumed : Bool := false
  ended : Bool := false
  /-- The last complaint first. -/
  complaints : List Complaint := []
  status : Nat := 0

namespace Progress

def emit (p : Progress) (t : Text) : Progress := { p with output := t :: p.output }

/-- The next argument, which is empty if there is none. -/
def next (p : Progress) : Text × Progress :=
  match p.arguments with
  | [] => ([], { p with consumed := true })
  | a :: rest => (a, { p with arguments := rest, consumed := true })

/-- Takes note of what is wrong with an argument. -/
def complain (p : Progress) : Option Complaint → Progress
  | some c => { p with complaints := c :: p.complaints, status := 1 }
  | none => p

def nextNumber (p : Progress) (least greatest : Int) : Int × Progress :=
  let (a, p) := p.next
  let (n, complaint) := numberOf least greatest a
  (n, p.complain complaint)

/-- Ends the output with a complaint about the format. -/
def abort (p : Progress) (c : Complaint) : Progress :=
  { p with complaints := c :: p.complaints, status := 2, ended := true }

end Progress

/-- A number with a sign. -/
def signedNumber (l : Layout) (n : Int) : Text :=
  let sign : Text := if n < 0 then ['-'] else if l.plus then ['+'] else if l.blank then [' '] else []
  l.padNumber sign (Text.ofNat n.natAbs)

/-- A number without a sign, as one of 64 bits. -/
def unsignedNumber (l : Layout) (conversion : Char) (n : Int) : Text :=
  let value := (n % 0x10000000000000000).toNat
  if conversion = 'o' then l.padNumber (if l.alternate then ['0'] else []) (digitsIn 8 false value)
  else if conversion = 'x' then
    l.padNumber (if l.alternate && value ≠ 0 then ['0', 'x'] else []) (digitsIn 16 false value)
  else if conversion = 'X' then
    l.padNumber (if l.alternate && value ≠ 0 then ['0', 'X'] else []) (digitsIn 16 true value)
  else l.padNumber [] (Text.ofNat value)

/-! ### Numbers with a point -/

/-- The number in units of `10 ^ tens`, rounded to the nearest, and to the even one in the middle. -/
def roundTo (b : Decimal.Binary) (tens : Int) : Nat :=
  let (value, unit) := Decimal.ratio b.mantissa b.exponent tens
  let (below, rest) := (value / unit, value % unit)
  if 2 * rest < unit || (2 * rest == unit && below % 2 == 0) then below else below + 1

/-- Digits with a point before the last `places` of them. -/
def pointed (l : Layout) (n places : Nat) : Text :=
  let digits := Text.ofNat n
  let digits := List.replicate (places + 1 - digits.length) '0' ++ digits
  let (whole, part) := (digits.take (digits.length - places), digits.drop (digits.length - places))
  if part = [] && !l.alternate then whole else whole ++ '.' :: part

/-- The digits after the first of a number with an exponent, and the exponent. -/
def scientificParts (b : Decimal.Binary) (places : Nat) : Nat × Int :=
  if b.mantissa = 0 then (0, 0)
  else
    let exponent := Decimal.magnitude b - 1
    let n := roundTo b (exponent - places)
    if n ≥ Nat.pow 10 (places + 1) then (n / 10, exponent + 1) else (n, exponent)

def exponentText (capital : Bool) (exponent : Int) : Text :=
  let digits := Text.ofNat exponent.natAbs
  (if capital then 'E' else 'e') :: (if exponent < 0 then '-' else '+') ::
    List.replicate (2 - digits.length) '0' ++ digits

/-- A number without zeros at the end of its part after the point. -/
def trimZeros (t : Text) : Text :=
  if '.' ∈ t then
    let kept := (t.reverse.dropWhile (· == '0')).reverse
    if kept.getLast? = some '.' then kept.dropLast else kept
  else t

/-- A number in one of the notations with a point. -/
def realText (l : Layout) (conversion : Char) (b : Decimal.Binary) : Text :=
  let places := l.precision.getD 6
  if conversion = 'f' || conversion = 'F' then pointed l (roundTo b (-places)) places
  else if conversion = 'e' || conversion = 'E' then
    let (n, exponent) := scientificParts b places
    pointed l n places ++ exponentText (conversion = 'E') exponent
  else
    let count := max places 1
    let (n, exponent) := scientificParts b (count - 1)
    let trimmed := fun (t : Text) => if l.alternate then t else trimZeros t
    if -4 ≤ exponent && exponent < count then
      let after := (count - 1 - exponent).toNat
      trimmed (pointed l (roundTo b (-after)) after)
    else trimmed (pointed l n (count - 1)) ++ exponentText (conversion = 'G') exponent

/-- Carries out a conversion; `spec` is how it is written. -/
def convert (l : Layout) (spec : Text) (conversion : Char) (p : Progress) : Progress :=
  if conversion = '%' then p.emit ['%']
  else if conversion = 's' then
    let (a, p) := p.next
    p.emit (l.pad (match l.precision with
      | some n => a.take n
      | none => a))
  else if conversion = 'b' then
    let (a, p) := p.next
    let (t, ended) := unescape a
    { p.emit (l.pad t) with ended }
  else if conversion = 'c' then
    let (a, p) := p.next
    p.emit (l.pad [a.head?.getD '\x00'])
  else if conversion = 'd' || conversion = 'i' then
    let (n, p) := p.nextNumber (-0x8000000000000000) 0x7fffffffffffffff
    p.emit (signedNumber l n)
  else if conversion ∈ ['u', 'o', 'x', 'X'] then
    let (n, p) := p.nextNumber (-0xffffffffffffffff) 0xffffffffffffffff
    p.emit (unsignedNumber l conversion n)
  else if conversion ∈ ['f', 'F', 'e', 'E', 'g', 'G'] then
    let (a, p) := p.next
    let (negative, b, complaint) := realOf a
    let sign : Text := if negative then ['-'] else if l.plus then ['+'] else if l.blank then [' '] else []
    (p.complain complaint).emit (Layout.padNumber { l with precision := none } sign
      (realText l conversion b))
  else p.abort (.badConversion (spec ++ [conversion]))

/-- The number at the front, or the next argument for a star. -/
def count (t : Text) (p : Progress) : Option Int × Text × Progress :=
  match t with
  | '*' :: rest =>
    let (n, p) := p.nextNumber (-0x80000000) 0x7fffffff
    (some n, rest, p)
  | _ =>
    let digits := t.takeWhile Char.isDigit
    ((decimal? digits).map Int.ofNat, t.drop digits.length, p)

/-- Carries out a format once; the number bounds its length. -/
def once : Nat → Text → Progress → Progress
  | 0, _, p | _, [], p => p
  | n + 1, '\\' :: rest, p =>
    let (c, after) := escape rest
    once n after (p.emit [c])
  | n + 1, '%' :: rest, p =>
    let whole := rest
    let flags := rest.takeWhile Layout.isFlag
    let layout := flags.foldl Layout.addFlag {}
    let (width, rest, p) := count (rest.drop flags.length) p
    let layout := match width with
      | some w => { layout with width := w.natAbs, left := layout.left || w < 0 }
      | none => layout
    let (layout, rest, p) := match rest with
      | '.' :: rest =>
        let (precision, rest, p) := count rest p
        ({ layout with precision := some (precision.getD 0).toNat }, rest, p)
      | _ => (layout, rest, p)
    match rest with
    | [] => p.abort .noConversion
    | conversion :: rest =>
      let spec := '%' :: whole.take (whole.length - rest.length - 1)
      let p := convert layout spec conversion p
      if p.ended then p else once n rest p
  | n + 1, c :: rest, p => once n rest (p.emit [c])

/-- Carries out a format again while arguments are left. -/
def again (format : Text) : Nat → Progress → Progress
  | 0, p => p
  | n + 1, p =>
    let p := once (format.length + 1) format { p with consumed := false }
    if p.ended || p.arguments = [] || !p.consumed then p else again format n p

/-- What comes of `printf`. -/
structure Result where
  output : Text
  complaints : List Complaint
  status : Nat

def printf (format : Text) (arguments : List Text) : Result :=
  let p := again format (arguments.length + 1) { arguments }
  ⟨p.output.reverse.flatten, p.complaints.reverse, p.status⟩

end HttpCascade.Shell.Format

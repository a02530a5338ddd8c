import HttpCascade.Unicode.Table

/-!
# Numeric hosts

IPv4 addresses in decimal, octal or hexadecimal with one to four parts, and IPv6 addresses in
brackets with at most one `::`.
-/

namespace HttpCascade.Url

/-- The value of digits in a base, if all are digits of it. -/
def digitsValue? (base : Nat) (t : Text) : Option Nat :=
  t.foldl
    (fun value c =>
      match value, Unicode.hexDigit? c with
      | some n, some d => if d < base then some (base * n + d) else none
      | _, _ => none)
    (some 0)

namespace Ipv4

/-- The value of a part: hexadecimal after `0x`, octal after a leading zero, decimal otherwise. -/
def part? : Text → Option Nat
  | [] => none
  | '0' :: 'x' :: digits => digitsValue? 16 digits
  | '0' :: 'X' :: digits => digitsValue? 16 digits
  | ['0'] => some 0
  | '0' :: digits => digitsValue? 8 digits
  | digits => digitsValue? 10 digits

/-- The parts between dots; a dot at the end is not followed by a part. -/
def parts (host : Text) : List Text :=
  let all := Text.splitAll '.' host
  if all.getLast? == some [] then all.dropLast else all

/-- The last part of the host is a number, so that the host has to be an address. -/
def isNumeric (host : Text) : Bool :=
  match (parts host).getLast? with
  | some last => (last ≠ [] && last.all Char.isDigit) || (part? last).isSome
  | none => false

/-- Adds up the parts in front of the last one, each a byte. -/
def leadingBytes : List Nat → Option Nat
  | [] => some 0
  | n :: rest => if n ≤ 255 then (leadingBytes rest).map fun m => n * Nat.pow 256 rest.length + m else none

/-- The 32-bit address: the last part fills the bytes that the others leave. -/
def parse? (host : Text) : Option Nat :=
  match (parts host).mapM part? with
  | none => none
  | some values =>
    if values.length > 4 then none
    else
      match values.getLast? with
      | none => none
      | some last =>
        let leading := values.dropLast
        if last < Nat.pow 256 (4 - leading.length) then
          (leadingBytes leading).map fun n => n * Nat.pow 256 (4 - leading.length) + last
        else none

/-- Four decimal parts. -/
def written (address : Nat) : Text :=
  Text.join ['.'] (([3, 2, 1, 0].map fun i => address / Nat.pow 256 i % 256).map Text.ofNat)

end Ipv4

namespace Ipv6

/-- One to four hexadecimal digits. -/
def group? (t : Text) : Option Nat := if t = [] || t.length > 4 then none else digitsValue? 16 t

/-- A byte in decimal without a leading zero. -/
def byte? (t : Text) : Option Nat :=
  if t = [] || (t.length > 1 && t.head? == some '0') then none
  else (digitsValue? 10 t).filter (· ≤ 255)

/-- Two groups written as four decimal bytes. -/
def tail? (t : Text) : Option (List Nat) :=
  match (Text.splitAll '.' t).mapM byte? with
  | some [a, b, c, d] => some [a * 256 + b, c * 256 + d]
  | _ => none

/-- The groups between colons; the last of them may be four decimal bytes. -/
def groups? : List Text → Option (List Nat)
  | [] => some []
  | [last] => if '.' ∈ last then tail? last else (group? last).map ([·])
  | first :: rest =>
    match group? first, groups? rest with
    | some g, some gs => some (g :: gs)
    | _, _ => none

/-- The groups of a text, none for an empty one. -/
def side? (t : Text) : Option (List Nat) := if t = [] then some [] else groups? (Text.splitAll ':' t)

/-- The text before and after the first `::`. -/
def splitElision : Text → Option (Text × Text)
  | ':' :: ':' :: rest => some ([], rest)
  | c :: rest => (splitElision rest).map fun sides => (c :: sides.1, sides.2)
  | [] => none

/-- The eight groups of an address; `::` stands for one or more groups of zero. -/
def parse? (t : Text) : Option (List Nat) :=
  match splitElision t with
  | none =>
    match groups? (Text.splitAll ':' t) with
    | some gs => if gs.length = 8 then some gs else none
    | none => none
  | some (front, back) =>
    if '.' ∈ front then none
    else
      match side? front, side? back with
      | some before, some after =>
        if before.length + after.length ≤ 7 then
          some (before ++ List.replicate (8 - before.length - after.length) 0 ++ after)
        else none
      | _, _ => none

/-- How many groups from an index on are zero. -/
def zeroRun (groups : List Nat) (start : Nat) : Nat := ((groups.drop start).takeWhile (· == 0)).length

/-- Where the first of the longest runs of two or more zero groups starts, and its length. -/
def longestZeroRun (groups : List Nat) : Option (Nat × Nat) :=
  (List.range groups.length).foldl
    (fun best start =>
      let length := zeroRun groups start
      if length ≥ 2 && length > (best.map Prod.snd).getD 0 then some (start, length) else best)
    none

/-- The groups in lower-case hexadecimal between brackets, the longest run of zeros as `::`. -/
def written (groups : List Nat) : Text :=
  let hex := fun (gs : List Nat) => Text.join [':'] (gs.map fun g => Nat.toDigits 16 g)
  let body :=
    match longestZeroRun groups with
    | some (start, length) =>
      hex (groups.take start) ++ [':', ':'] ++ hex (groups.drop (start + length))
    | none => hex groups
  '[' :: body ++ [']']

end Ipv6

end HttpCascade.Url

import HttpCascade.Text.Basic

/-!
# Punycode

A label as ASCII: its ASCII characters, a hyphen, and the places of the other characters as numbers
in a variable-length code of base 36.
-/

namespace HttpCascade.Url.Punycode

/-- Divides a delta until it is small, counting 36 for each division. -/
def scale (delta count : Nat) : Nat :=
  if delta > 455 then scale (delta / 35) (count + 36) else count + 36 * delta / (delta + 38)
termination_by delta

/-- The bias for the next number after one that encoded `delta`. -/
def adapt (delta points : Nat) (first : Bool) : Nat :=
  let delta := if first then delta / 700 else delta / 2
  scale (delta + delta / points) 0

/-- The greatest digit that ends a number, plus one. -/
def threshold (position bias : Nat) : Nat :=
  if position ≤ bias then 1 else if position ≥ bias + 26 then 26 else position - bias

/-- The digits `a` to `z` and `0` to `9`. -/
def digit (n : Nat) : Char := if n < 26 then Char.ofNat (0x61 + n) else Char.ofNat (0x30 + n - 26)

def digitValue? (c : Char) : Option Nat :=
  if 'a' ≤ c && c ≤ 'z' then some (c.toNat - 0x61)
  else if 'A' ≤ c && c ≤ 'Z' then some (c.toNat - 0x41)
  else if '0' ≤ c && c ≤ '9' then some (c.toNat - 0x30 + 26)
  else none

/-- The digits of a number, least significant first. -/
def number (value position bias : Nat) : Text :=
  let t := threshold position bias
  if value < t then [digit value]
  else digit (t + (value - t) % (36 - t)) :: number ((value - t) / (36 - t)) (position + 36) bias
termination_by value
decreasing_by
  have low : 1 ≤ threshold position bias := by unfold threshold; split <;> (try split) <;> omega
  have high : threshold position bias ≤ 26 := by unfold threshold; split <;> (try split) <;> omega
  have step : (value - threshold position bias) / (36 - threshold position bias) ≤
      value - threshold position bias := Nat.div_le_self _ _
  omega

/-- What encoding has reached: the delta since the last number, the bias and the number of
characters written. -/
structure Progress where
  delta : Nat
  bias : Nat
  written : Nat
  output : Text

/-- Passes over the characters of a label and writes the number of each one that equals `point`. -/
def pass (basic : Nat) (point : Nat) (label : Text) (p : Progress) : Progress :=
  label.foldl
    (fun p c =>
      if c.toNat < point then { p with delta := p.delta + 1 }
      else if c.toNat = point then
        { delta := 0
          bias := adapt p.delta (p.written + 1) (p.written == basic)
          written := p.written + 1
          output := p.output ++ number p.delta 36 p.bias }
      else p)
    p

/-- The code points of a label above ASCII, increasing and each once. -/
def highPoints (label : Text) : List Nat :=
  ((label.map Char.toNat).filter (0x80 ≤ ·)).mergeSort.eraseReps

/-- The ASCII form of a label, without the prefix that marks it. -/
def encode (label : Text) : Text :=
  let basic := label.filter fun c => c.toNat < 0x80
  let start : Text := if basic = [] then [] else basic ++ ['-']
  let (progress, _) := (highPoints label).foldl
    (fun (p, last) point =>
      let p := { p with delta := p.delta + (point - last) * (p.written + 1) }
      let p := pass basic.length point label p
      ({ p with delta := p.delta + 1 }, point + 1))
    ((⟨0, 72, basic.length, start⟩ : Progress), 0x80)
  progress.output

/-- Reads a number and returns it with the rest of the digits. -/
def readNumber (position bias weight value : Nat) : Text → Option (Nat × Text)
  | [] => none
  | c :: rest =>
    match digitValue? c with
    | none => none
    | some d =>
      let t := threshold position bias
      if d < t then some (value + d * weight, rest)
      else readNumber (position + 36) bias (weight * (36 - t)) (value + d * weight) rest

/-- Inserts the characters that the digits stand for. At most `steps` numbers are read, and every
number takes a digit. -/
def insertAll : Nat → Text → Text → (index point bias : Nat) → Option Text
  | _, [], label, _, _, _ => some label
  | 0, _ :: _, _, _, _, _ => none
  | steps + 1, digits, label, index, point, bias =>
    match readNumber 36 bias 1 0 digits with
    | none => none
    | some (delta, rest) =>
      let count := label.length + 1
      let target := index + delta
      let point := point + target / count
      let place := target % count
      if point > 0x10FFFF || (0xD800 ≤ point && point ≤ 0xDFFF) then none
      else
        insertAll steps rest (label.take place ++ Char.ofNat point :: label.drop place) (place + 1)
          point (adapt delta count (index == 0))

/-- The label that an ASCII form stands for. -/
def decode? (ascii : Text) : Option Text :=
  let reversed := ascii.reverse
  let digits := (reversed.takeWhile (· ≠ '-')).reverse
  let basic := if '-' ∈ ascii then ((reversed.dropWhile (· ≠ '-')).drop 1).reverse else []
  if ascii.all fun c => c.toNat < 0x80 then insertAll digits.length digits basic 0 0x80 72 else none

end HttpCascade.Url.Punycode

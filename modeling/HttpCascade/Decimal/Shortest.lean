import HttpCascade.Text.Basic

/-!
# Shortest decimals

The shortest decimal that reads back as a given binary floating-point number, found by trying one
digit, then two, and so on, with exact arithmetic. `Notation` says how such a decimal is written.
-/

namespace HttpCascade.Decimal

/-- A positive number `mantissa * 2 ^ exponent`, and whether the gap to the number below it is half
the gap to the number above it. -/
structure Binary where
  mantissa : Nat
  exponent : Int
  atBoundary : Bool

/-- The number that the 64 bits of a positive finite double stand for. -/
def Binary.ofBits (bits : Nat) : Binary :=
  let fraction := bits % Nat.pow 2 52
  let biased : Nat := bits / Nat.pow 2 52 % Nat.pow 2 11
  if biased = 0 then ⟨fraction, -1074, false⟩
  else ⟨Nat.pow 2 52 + fraction, Int.ofNat biased - 1075, fraction == 0 && biased > 1⟩

/-- A decimal `digits * 10 ^ exponent`. -/
structure Short where
  digits : Nat
  exponent : Int

/-- The fraction `n * 2 ^ twos / 10 ^ tens` as numerator and denominator. -/
def ratio (n : Nat) (twos tens : Int) : Nat × Nat :=
  (n * Nat.pow 2 twos.toNat * Nat.pow 10 (-tens).toNat,
    Nat.pow 2 (-twos).toNat * Nat.pow 10 tens.toNat)

/-- The decimals on the grid of `10 ^ tens` next to the number, if they read back as it: the nearer
one, and of two equally near ones the even one. -/
def onGrid? (b : Binary) (tens : Int) : Option Short :=
  let (value, unit) := ratio (4 * b.mantissa) (b.exponent - 2) tens
  let (high, _) := ratio (4 * b.mantissa + 2) (b.exponent - 2) tens
  let (low, _) := ratio (4 * b.mantissa - (if b.atBoundary then 1 else 2)) (b.exponent - 2) tens
  let reads := fun (n : Nat) =>
    if b.mantissa % 2 = 0 then low ≤ n * unit && n * unit ≤ high
    else low < n * unit && n * unit < high
  let below := value / unit
  let above := below + 1
  let nearBelow := 2 * value < (below + above) * unit ||
    (2 * value == (below + above) * unit && below % 2 == 0)
  let best := if (reads below && reads above && nearBelow) || !reads above then below else above
  if reads best && best ≠ 0 then some ⟨best, tens⟩ else none

/-- The number of decimal digits of the whole part, or minus the number of zeros after the point. -/
def magnitude (b : Binary) : Int :=
  let (value, unit) := ratio b.mantissa b.exponent 0
  if value ≥ unit then ((Nat.toDigits 10 (value / unit)).length : Int)
  else
    let scaled := value * Nat.pow 10 330 / unit
    ((Nat.toDigits 10 scaled).length : Int) - 330

/-- The decimal with the fewest digits that reads back as the number. -/
def shortest (b : Binary) : Short :=
  let top := magnitude b
  ((List.range 17).findSome? fun (n : Nat) => onGrid? b (top - Int.ofNat (n + 1))).getD ⟨0, 0⟩

/-- How a decimal is written. -/
structure Notation where
  /-- The least exponent of the leading digit that is written with a point. -/
  leastPlain : Int
  /-- The greatest exponent of the leading digit that is written with a point. -/
  greatestPlain : Int
  /-- What marks an exponent that is not negative. -/
  positiveMark : Text
  /-- What marks a negative exponent. -/
  negativeMark : Text

/-- The digits with the point after the first `before` of them. -/
def withPoint (digits : Text) (before : Int) : Text :=
  let count : Int := digits.length
  if before ≤ 0 then "0.".toList ++ List.replicate (-before).toNat '0' ++ digits
  else if before ≥ count then
    digits ++ List.replicate (before - count).toNat '0' ++ ".0".toList
  else digits.take before.toNat ++ ['.'] ++ digits.drop before.toNat

/-- A decimal in a notation. -/
def Short.written (format : Notation) (s : Short) : Text :=
  let all := Nat.toDigits 10 s.digits
  let zeros := (all.reverse.takeWhile (· == '0')).length
  let digits := all.take (all.length - zeros)
  let leading : Int := s.exponent + all.length - 1
  if format.leastPlain ≤ leading && leading ≤ format.greatestPlain then
    withPoint digits (leading + 1)
  else
    let mark := if leading < 0 then format.negativeMark else format.positiveMark
    (match digits with
      | [only] => [only]
      | first :: rest => first :: '.' :: rest
      | [] => ['0']) ++ mark ++ Text.ofNat leading.natAbs

end HttpCascade.Decimal

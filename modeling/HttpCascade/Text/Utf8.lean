import HttpCascade.Text.Basic

/-!
# UTF-8

Text as bytes and back. Bytes are read as a list of characters with `none` for each maximal broken
sequence; strict reading refuses a broken sequence and lenient reading puts U+FFFD in its place.
-/

namespace HttpCascade.Utf8

/-- The bytes of a text. -/
def encode (t : Text) : List UInt8 := t.flatMap String.utf8EncodeChar

/-- A byte that continues a sequence. -/
def isTail (b : Nat) : Bool := 0x80 ≤ b && b ≤ 0xBF

/-- The least and greatest second byte after a leading byte of a long sequence. -/
def secondRange (lead : Nat) : Nat × Nat :=
  if lead = 0xE0 then (0xA0, 0xBF)
  else if lead = 0xED then (0x80, 0x9F)
  else if lead = 0xF0 then (0x90, 0xBF)
  else if lead = 0xF4 then (0x80, 0x8F)
  else (0x80, 0xBF)

/-- The character that starts at the byte `lead`, if its sequence is whole, and how many of the
bytes after `lead` belong to the sequence. -/
def sequence (lead : Nat) (after : List Nat) : Option Char × Nat :=
  let second := fun b => (secondRange lead).1 ≤ b && b ≤ (secondRange lead).2
  if lead < 0x80 then (some (Char.ofNat lead), 0)
  else if 0xC2 ≤ lead && lead ≤ 0xDF then
    match after with
    | b :: _ =>
      if isTail b then (some (Char.ofNat ((lead - 0xC0) * 64 + (b - 0x80))), 1) else (none, 0)
    | [] => (none, 0)
  else if 0xE0 ≤ lead && lead ≤ 0xEF then
    match after with
    | b :: c :: _ =>
      if !second b then (none, 0)
      else if !isTail c then (none, 1)
      else (some (Char.ofNat ((lead - 0xE0) * 4096 + (b - 0x80) * 64 + (c - 0x80))), 2)
    | [b] => if second b then (none, 1) else (none, 0)
    | [] => (none, 0)
  else if 0xF0 ≤ lead && lead ≤ 0xF4 then
    match after with
    | b :: c :: d :: _ =>
      if !second b then (none, 0)
      else if !isTail c then (none, 1)
      else if !isTail d then (none, 2)
      else
        let n := (lead - 0xF0) * 262144 + (b - 0x80) * 4096 + (c - 0x80) * 64 + (d - 0x80)
        (some (Char.ofNat n), 3)
    | [b, c] => if !second b then (none, 0) else if isTail c then (none, 2) else (none, 1)
    | [b] => if second b then (none, 1) else (none, 0)
    | [] => (none, 0)
  else (none, 0)

/-- The characters of some bytes after the first `skip`, with `none` for each broken sequence. -/
def charsAfter : Nat → List UInt8 → List (Option Char)
  | _, [] => []
  | skip + 1, _ :: rest => charsAfter skip rest
  | 0, lead :: rest =>
    let found := sequence lead.toNat ((rest.take 3).map UInt8.toNat)
    found.1 :: charsAfter found.2 rest

/-- The text of some bytes, unless a sequence among them is broken. -/
def decode? (bytes : List UInt8) : Option Text := (charsAfter 0 bytes).mapM id

/-- The text of some bytes with the replacement character U+FFFD for each broken sequence. -/
def decodeLossy (bytes : List UInt8) : Text :=
  (charsAfter 0 bytes).map fun c => c.getD (Char.ofNat 0xFFFD)

end HttpCascade.Utf8

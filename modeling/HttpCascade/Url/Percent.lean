import HttpCascade.Text.Utf8
import HttpCascade.Unicode.Table

/-!
# Percent encoding

A character that may not stand in a part of a URL is written as its UTF-8 bytes, each as `%` and two
hexadecimal digits. Which characters those are differs from part to part.
-/

namespace HttpCascade.Url.Percent

/-- A byte as `%` and two capital hexadecimal digits. -/
def encodeByte (b : UInt8) : Text :=
  let digit := fun (n : Nat) => (Nat.digitChar n).toUpper
  ['%', digit (b.toNat / 16), digit (b.toNat % 16)]

/-- Encodes the characters outside ASCII and those that are `escaped`. -/
def encode (escaped : Char → Bool) (t : Text) : Text :=
  t.flatMap fun c =>
    if c.toNat < 0x80 && !escaped c then [c] else (String.utf8EncodeChar c).flatMap encodeByte

/-- The bytes of a text after its first `skip` characters, with encoded bytes decoded. -/
def decodeAfter : Nat → Text → List UInt8
  | _, [] => []
  | skip + 1, _ :: rest => decodeAfter skip rest
  | 0, c :: rest =>
    match if c == '%' then rest.take 2 else [] with
    | [high, low] =>
      match Unicode.hexDigit? high, Unicode.hexDigit? low with
      | some h, some l => UInt8.ofNat (16 * h + l) :: decodeAfter 2 rest
      | _, _ => String.utf8EncodeChar c ++ decodeAfter 0 rest
    | _ => String.utf8EncodeChar c ++ decodeAfter 0 rest

/-- The bytes of a text with encoded bytes decoded; a `%` without two digits stays. -/
def decode (t : Text) : List UInt8 := decodeAfter 0 t

/-! ### What is encoded in which part -/

def inPlainPart (c : Char) : Bool := c.toNat < 0x20 || c.toNat == 0x7F

def inFragment (c : Char) : Bool := inPlainPart c || c ∈ [' ', '"', '<', '>', '\x60']

def inPath (c : Char) : Bool := inFragment c || c ∈ ['#', '?', '{', '}']

def inCredentials (c : Char) : Bool :=
  inPath c || c ∈ ['/', ':', ';', '=', '@', '[', '\\', ']', '^', '|']

def inQuery (c : Char) : Bool := inPlainPart c || c ∈ [' ', '"', '#', '<', '>']

def inSpecialQuery (c : Char) : Bool := inQuery c || c == '\''

end HttpCascade.Url.Percent

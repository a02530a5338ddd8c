import HttpCascade.Text.Utf8
import HttpCascade.Unicode.Compatibility
import HttpCascade.Unicode.Direction
import HttpCascade.Unicode.Joining
import HttpCascade.Unicode.Normal
import HttpCascade.Url.Punycode

/-!
# Domain names

A domain name in its ASCII form: characters are replaced by their plain lower-case forms, labels
outside ASCII are checked and written in Punycode. Length limits and hyphens are not checked.
-/

namespace HttpCascade.Url.Domain

open Unicode

/-- The plain lower-case composed form of a name, unless it holds a character that no name may
hold. -/
def plain? (name : Text) : Option Text :=
  (name.mapM fun c =>
    match domainFate c with
    | .valid => some [c]
    | .replacedBy t => some t
    | .disallowed => none).map fun (parts : List Text) => normalize parts.flatten

/-- The mark of a label in Punycode. -/
def encodedMark : Text := "xn--"

def isAscii (t : Text) : Bool := t.all fun c => c.toNat < 0x80

/-- A label as it is meant to be read. A label in Punycode must stand for a label outside ASCII that
is its own plain form. -/
def readLabel? (label : Text) : Option Text :=
  if encodedMark.isPrefixOf label then
    match Punycode.decode? (label.drop encodedMark.length) with
    | some read => if !isAscii read && plain? read == some read then some read else none
    | none => none
  else some label

/-- A joiner between two characters may stand after a mark that suppresses a vowel; a non-joiner may
also stand between two letters that would join. -/
def joinersAllowed (before : Text) : Text → Bool
  | [] => true
  | c :: rest =>
    let afterVowelKiller := (before.head?.map markClass) == some 9
    let here :=
      if c.toNat == 0x200D then afterVowelKiller
      else if c.toNat == 0x200C then
        afterVowelKiller ||
          (((before.dropWhile isTransparent).head?.map joinsAfter).getD false &&
            ((rest.dropWhile isTransparent).head?.map joinsBefore).getD false)
      else true
    here && joinersAllowed (c :: before) rest

/-- A label outside ASCII does not start with a mark and has its joiners where they belong. -/
def isWellFormed (label : Text) : Bool :=
  isAscii label || (!(label.head?.map isMark).getD false && joinersAllowed [] label)

/-- A character that is written from right to left. -/
def isRightToLeft (c : Char) : Bool :=
  0x590 ≤ c.toNat &&
    (direction c == .rightToLeft || direction c == .arabicLetter || direction c == .arabicNumber)

/-- The rule for a label in a name with right-to-left characters: it starts with a letter, keeps to
one direction, and ends with a letter or number of that direction and perhaps marks. -/
def keepsDirection (label : Text) : Bool :=
  let classes := label.map direction
  let ending := (classes.reverse.dropWhile (· == .nonspacingMark)).head?
  let among := fun (allowed : List Direction) => classes.all fun d => allowed.contains d
  let neutral : List Direction := [.europeanNumber, .europeanSeparator, .commonSeparator,
    .europeanTerminator, .otherNeutral, .boundaryNeutral, .nonspacingMark]
  match classes.head? with
  | none => true
  | some .leftToRight =>
    among (.leftToRight :: neutral) &&
      (ending == some .leftToRight || ending == some .europeanNumber)
  | some first =>
    (first == .rightToLeft || first == .arabicLetter) &&
      among (.rightToLeft :: .arabicLetter :: .arabicNumber :: neutral) &&
      (ending == some .rightToLeft || ending == some .arabicLetter ||
        ending == some .europeanNumber || ending == some .arabicNumber) &&
      !(classes.contains .europeanNumber && classes.contains .arabicNumber)

/-- A character that delimits parts of a URL or does not print. -/
def isForbidden (c : Char) : Bool :=
  c.toNat ≤ 0x20 || c.toNat == 0x7F ||
    c ∈ ['%', '#', '/', ':', '<', '>', '?', '@', '[', '\\', ']', '^', '|']

/-- A label in ASCII. -/
def writeLabel (label : Text) : Text :=
  if isAscii label then label else encodedMark ++ Punycode.encode label

/-- The ASCII form of a name. -/
def toAscii? (name : Text) : Option Text :=
  match plain? name with
  | none => none
  | some plain =>
    match (Text.splitAll '.' plain).mapM readLabel? with
    | none => none
    | some labels =>
      let rightToLeft := labels.any fun l => l.any isRightToLeft
      if labels.all isWellFormed && (!rightToLeft || labels.all keepsDirection) &&
          labels.all (fun l => !l.any isForbidden)
      then some (Text.join ['.'] (labels.map writeLabel))
      else none

end HttpCascade.Url.Domain

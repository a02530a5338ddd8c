import HttpCascade.Url.Percent

/-!
# Paths of URLs

The path of a hierarchical URL, in which `.` and `..` segments have been carried out. A file URL may
start with a drive letter, which `..` does not remove.
-/

namespace HttpCascade.Url.Path

/-- A letter and a colon, or a bar in place of the colon. -/
def isDrive : Text → Bool
  | [letter, mark] => letter.isAlpha && (mark == ':' || mark == '|')
  | _ => false

/-- A letter and a colon. -/
def isPlainDrive : Text → Bool
  | [letter, ':'] => letter.isAlpha
  | _ => false

/-- A slash and a drive that ends or is followed by a delimiter. -/
def startsWithDrive : Text → Bool
  | '/' :: letter :: mark :: rest =>
    letter.isAlpha && (mark == ':' || mark == '|') &&
      (match rest with
        | [] => true
        | c :: _ => c == '/' || c == '\\' || c == '?' || c == '#')
  | _ => false

def endsWithSlash (path : Text) : Bool := path.getLast? == some '/'

/-- The path up to its last slash, and what follows the slash. -/
def splitLast (path : Text) : Text × Text :=
  let reversed := path.reverse
  ((reversed.dropWhile (· ≠ '/')).reverse, (reversed.takeWhile (· ≠ '/')).reverse)

/-- The slash that ends the path is not its first one and does not end a drive. -/
def lastSlashIsFree (path : Text) : Bool :=
  let before := (splitLast path.dropLast).1
  before ≠ [] && !startsWithDrive (path.drop (before.length - 1))

/-- Removes what follows the last slash, unless it is a drive of a file URL. -/
def shorten (file : Bool) (path : Text) : Text :=
  if path = [] || (file && isPlainDrive path) then path
  else
    let (before, last) := splitLast path
    if file && isPlainDrive last then path else before

/-- A segment that stands for the directory above. -/
def isParent (segment : Text) : Bool :=
  (Text.toLowerAscii segment).isOneOf ["..", "%2e%2e", "%2e.", ".%2e"]

/-- A segment that stands for the directory itself. -/
def isCurrent (segment : Text) : Bool :=
  (Text.toLowerAscii segment).isOneOf [".", "%2e"]

/-- The path so far, where its last segment starts, and whether a drive has taken the place of the
host. -/
structure Building where
  path : Text
  start : Nat
  dropsHost : Bool

/-- Appends the text of a new segment. A drive in front of it becomes a segment of its own. -/
def appendText (file : Bool) (b : Building) (segment : Text) : Building :=
  let front :=
    if file && segment ≠ [] && b.path ≠ [] && isPlainDrive (b.path.drop 1) then b.path ++ ['/']
    else b.path
  { b with path := front ++ Percent.encode Percent.inPath segment, start := front.length }

/-- Appends a segment, which a slash may follow, and carries it out if it is `.` or `..`. -/
def appendSegment (file : Bool) (b : Building) (segment : Text) (slash : Bool) : Building :=
  let b := appendText file b segment
  let written := b.path.drop b.start
  let front := b.path.take b.start
  if isParent written then
    let front := if endsWithSlash front && lastSlashIsFree front then front.dropLast else front
    let front := shorten file front
    { b with path := if slash && !endsWithSlash front then front ++ ['/'] else front }
  else if isCurrent written then
    { b with path := if endsWithSlash front then front else front ++ ['/'] }
  else if file && b.start == 1 && isDrive written then
    { b with
      path := front ++ written.take 1 ++ (if slash then [':', '/'] else [':'])
      dropsHost := true }
  else { b with path := if slash then b.path ++ ['/'] else b.path }

/-- Appends segments one after another; a slash follows all but the last. -/
def appendAll (file : Bool) (b : Building) : List Text → Building
  | [] => b
  | [last] => appendSegment file b last false
  | segment :: rest => appendAll file (appendSegment file b segment true) rest

/-- The segments of a path in a URL; a backslash counts as a slash in the special schemes. -/
def segments (special : Bool) (t : Text) : List Text :=
  Text.splitAll '/' (if special then t.map fun c => if c == '\\' then '/' else c else t)

/-- The path that starts as `start` and goes on with the segments of a text, and whether a drive has
taken the place of the host. The path of a file URL starts with a single slash. -/
def build (file special : Bool) (start rest : Text) : Text × Bool :=
  let b := appendAll file ⟨start, 0, false⟩ (segments special rest)
  (if file then '/' :: b.path.dropWhile (· == '/') else b.path, b.dropsHost)

end HttpCascade.Url.Path

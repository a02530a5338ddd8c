import HttpCascade.Shell.Regex
import HttpCascade.Shell.Format
import HttpCascade.Text.Lines

/-!
# Filters

Programs that make a text of a text, line by line or byte by byte. Each is a function of its options;
where the text comes from is decided elsewhere.
-/

namespace HttpCascade.Shell.Filter

/-- A filter that its arguments ask for, and the files that they name. -/
structure Plan where
  /-- The output for an input, and the status. -/
  apply : Text → Text × Nat
  files : List Text

/-- Lines without the line feed that ends them; what follows the last is one more line. -/
def linesOf (t : Text) : List Text :=
  match (Text.splitAll '\n' t).reverse with
  | [] :: rest => rest.reverse
  | ls => ls.reverse

/-- The runs of characters other than blanks and line breaks. -/
def wordsOf (t : Text) : List Text :=
  (Text.splitAll ' ' (t.map fun c => if c ∈ ['\t', '\n', '\r', '\x0b', '\x0c'] then ' ' else c)).filter
    (· ≠ [])

def unlines (ls : List Text) : Text := ls.flatMap (· ++ ['\n'])

/-! ### Options -/

/-- The letters of options, with the values of those that have one, and the operands. The number
bounds the count of arguments. -/
def optionsOf (withValue : List Char) :
    Nat → List Text → List (Char × Text) × List Text
  | 0, arguments => ([], arguments)
  | _, [] => ([], [])
  | n + 1, argument :: rest =>
    match argument with
    | ['-', '-'] => ([], rest)
    | '-' :: c :: letters =>
      let flags := (c :: letters).takeWhile fun c => c ∉ withValue
      let before := flags.map fun c => (c, [])
      match (c :: letters).drop flags.length with
      | [] =>
        let (options, operands) := optionsOf withValue n rest
        (before ++ options, operands)
      | [valued] =>
        match rest with
        | [] => (before, [])
        | value :: rest =>
          let (options, operands) := optionsOf withValue n rest
          (before ++ (valued, value) :: options, operands)
      | valued :: value =>
        let (options, operands) := optionsOf withValue n rest
        (before ++ (valued, value) :: options, operands)
    | _ =>
      let (options, operands) := optionsOf withValue n rest
      (options, argument :: operands)

def parseOptions (withValue : List Char) (arguments : List Text) :
    List (Char × Text) × List Text :=
  optionsOf withValue (arguments.length + 1) arguments

def has (options : List (Char × Text)) (c : Char) : Bool := options.any (·.1 = c)

def valueOf? (options : List (Char × Text)) (c : Char) : Option Text := options.lookup c

/-! ### Parts of a text -/

/-- The count in `-5`, as `-n 5`. -/
def spellOutCount (arguments : List Text) : List Text :=
  arguments.flatMap fun a => match a with
    | '-' :: c :: rest => if c.isDigit then [['-', 'n'], c :: rest] else [a]
    | _ => [a]

def head (arguments : List Text) : Plan :=
  let (options, files) := parseOptions ['n', 'c'] (spellOutCount arguments)
  { files
    apply t :=
      match (valueOf? options 'c').bind decimal? with
      | some n => (t.take n, 0)
      | none =>
        let n := ((valueOf? options 'n').bind decimal?).getD 10
        let ls := Text.splitAll '\n' t
        if ls.length ≤ n then (t, 0) else (unlines (ls.take n), 0) }

def tail (arguments : List Text) : Plan :=
  let (options, files) := parseOptions ['n', 'c'] (spellOutCount arguments)
  { files
    apply t :=
      match valueOf? options 'c' with
      | some ('+' :: n) => (t.drop (((decimal? n).getD 1) - 1), 0)
      | some n => (t.drop (t.length - (decimal? n).getD 0), 0)
      | none =>
        let ls := linesOf t
        let kept := match valueOf? options 'n' with
          | some ('+' :: n) => ls.drop (((decimal? n).getD 1) - 1)
          | some n => ls.drop (ls.length - (decimal? n).getD 10)
          | none => ls.drop (ls.length - 10)
        let ended := t.getLast? = some '\n'
        (if ended || kept = [] then unlines kept else Text.join ['\n'] kept, 0) }

/-- The inclusive ranges of `1,3-5,7-`; a range without an end is not bounded. -/
def positions (t : Text) : List (Nat × Option Nat) :=
  (Text.splitAll ',' t).map fun piece =>
    match piece.splitOnce '-' with
    | some (first, last) => ((decimal? first).getD 1, decimal? last)
    | none => ((decimal? piece).getD 0, some ((decimal? piece).getD 0))

def isSelected (ranges : List (Nat × Option Nat)) (n : Nat) : Bool :=
  ranges.any fun (first, last) => first ≤ n && (last.map fun l => decide (n ≤ l)).getD true

/-- The elements at some positions, which are counted from one. -/
def select {α : Type} (ranges : List (Nat × Option Nat)) (l : List α) : List α :=
  (l.zipIdx 1).filterMap fun (a, n) => if isSelected ranges n then some a else none

def cut (arguments : List Text) : Plan :=
  let (options, files) := parseOptions ['d', 'f', 'c', 'b'] arguments
  let delimiter := ((valueOf? options 'd').bind List.head?).getD '\t'
  let line := fun (l : Text) =>
    match valueOf? options 'f' with
    | some fields =>
      if delimiter ∈ l then
        some (Text.join [delimiter] (select (positions fields) (Text.splitAll delimiter l)))
      else if has options 's' then none else some l
    | none =>
      let places := ((valueOf? options 'c').or (valueOf? options 'b')).getD []
      some (select (positions places) l)
  { files, apply t := (unlines ((linesOf t).filterMap line), 0) }

/-! ### Counting and ordering -/

def fill (width : Nat) (t : Text) : Text := List.replicate (width - t.length) ' ' ++ t

def wc (arguments : List Text) : Plan :=
  let (options, files) := parseOptions [] arguments
  { files
    apply t :=
      let counts :=
        (if has options 'l' then [t.count '\n'] else []) ++
          (if has options 'w' then [(wordsOf t).length] else []) ++
          (if has options 'c' || has options 'm' then [t.length] else [])
      let name : Text := match files with
        | [f] => ' ' :: f
        | _ => []
      match counts with
      | [n] => (Text.ofNat n ++ name ++ ['\n'], 0)
      | [] =>
        let all := [t.count '\n', (wordsOf t).length, t.length]
        let width := if files = [] then 7 else (Text.ofNat t.length).length
        (Text.join [' '] (all.map fun n => fill width (Text.ofNat n)) ++ name ++ ['\n'], 0)
      | ns =>
        let width := if files = [] then 7 else (Text.ofNat t.length).length
        (Text.join [' '] (ns.map fun n => fill width (Text.ofNat n)) ++ name ++ ['\n'], 0) }

/-- The number that a line starts with. -/
def leadingNumber (l : Text) : Int :=
  let l := l.dropWhile fun c => c = ' ' || c = '\t'
  match l with
  | '-' :: rest => -Int.ofNat ((decimal? (rest.takeWhile Char.isDigit)).getD 0)
  | _ => Int.ofNat ((decimal? (l.takeWhile Char.isDigit)).getD 0)

/-- The lines without a line that equals the one before it. -/
def distinctNeighbours : List Text → List Text
  | a :: b :: rest =>
    if a = b then distinctNeighbours (b :: rest) else a :: distinctNeighbours (b :: rest)
  | ls => ls

/-- The key of a line for `-t` and `-k`. -/
def sortKey (options : List (Char × Text)) (l : Text) : Text :=
  match (valueOf? options 'k').bind fun k => decimal? (k.takeWhile Char.isDigit) with
  | none => l
  | some n =>
    let fields := match (valueOf? options 't').bind List.head? with
      | some c => Text.splitAll c l
      | none => wordsOf l
    Text.join [' '] (fields.drop (n - 1))

def sort (arguments : List Text) : Plan :=
  let (options, files) := parseOptions ['t', 'k'] arguments
  let numeric := has options 'n' ||
    ((valueOf? options 'k').map fun k => decide ('n' ∈ k)).getD false
  let before := fun (a b : Text) =>
    let ka := sortKey options a
    let kb := sortKey options b
    if numeric && leadingNumber ka ≠ leadingNumber kb then
      decide (leadingNumber ka < leadingNumber kb)
    else if ka ≠ kb then decide (ka < kb) else Text.inOrder a b
  let ordered := fun (a b : Text) => if has options 'r' then before b a else before a b
  { files
    apply t :=
      let ls := (linesOf t).mergeSort ordered
      (unlines (if has options 'u' then distinctNeighbours ls else ls), 0) }

/-- The runs of equal lines. -/
def runs : List Text → List (Nat × Text)
  | [] => []
  | l :: rest =>
    match runs rest with
    | (n, k) :: others => if k = l then (n + 1, k) :: others else (1, l) :: (n, k) :: others
    | [] => [(1, l)]

def uniq (arguments : List Text) : Plan :=
  let (options, files) := parseOptions [] arguments
  { files
    apply t :=
      let groups := (runs (linesOf t)).filter fun (n, _) =>
        (!has options 'd' || n > 1) && (!has options 'u' || n = 1)
      (unlines (groups.map fun (n, l) =>
        if has options 'c' then fill 7 (Text.ofNat n) ++ ' ' :: l else l), 0) }

/-! ### Characters -/

/-- All bytes. -/
def allBytes : Text := (List.range 256).map Char.ofNat

/-- The characters of a set such as `a-z` or `[:upper:]`; the number bounds its length. -/
def charSet : Nat → Text → Text
  | 0, _ | _, [] => []
  | n + 1, '[' :: ':' :: rest =>
    let name := rest.takeWhile (· ≠ ':')
    allBytes.filter (Pattern.isInClass name) ++ charSet n (rest.drop (name.length + 2))
  | n + 1, '\\' :: rest =>
    let (c, after) := Format.escape rest
    if c = '\\' && rest.head? ≠ some '\\' then
      rest.take 1 ++ charSet n (rest.drop 1)
    else c :: charSet n after
  | n + 1, a :: '-' :: b :: rest =>
    (allBytes.filter fun c => a ≤ c && c ≤ b) ++ charSet n rest
  | n + 1, c :: rest => c :: charSet n rest

def setOf (t : Text) : Text := charSet (t.length + 1) t

/-- A text without repetitions of some characters. -/
def squeeze (which : Text) : Text → Text
  | a :: b :: rest =>
    if a = b && a ∈ which then squeeze which (b :: rest) else a :: squeeze which (b :: rest)
  | t => t

/-- What stands for a character: that at its place in the other set, or the last of that set. -/
def transliterate (source target : Text) (c : Char) : Char :=
  match (source.zipIdx.reverse.find? fun (d, _) => d = c), target.getLast? with
  | some (_, i), some last => target.getD i last
  | _, _ => c

def tr (arguments : List Text) : Plan :=
  let (options, sets) := parseOptions [] arguments
  let complement := has options 'c' || has options 'C'
  let first := setOf (sets.head?.getD [])
  let first := if complement then allBytes.filter (· ∉ first) else first
  let second := setOf ((sets.drop 1).head?.getD [])
  { files := []
    apply t :=
      if has options 'd' then
        let kept := t.filter (· ∉ first)
        (if has options 's' then squeeze second kept else kept, 0)
      else if sets.length < 2 then (if has options 's' then squeeze first t else t, 0)
      else
        let table := allBytes.map (transliterate first second)
        let changed := t.map fun c => table.getD c.toNat c
        (if has options 's' then squeeze second changed else changed, 0) }

def rev (arguments : List Text) : Plan where
  files := arguments
  apply t := (unlines ((linesOf t).map List.reverse), 0)

def tac (arguments : List Text) : Plan where
  files := arguments
  apply t := (unlines (linesOf t).reverse, 0)

/-! ### Base 64 -/

def sextets : Text := "ABCDEFGHIJKLMNOPQRSTUVWXYZabcdefghijklmnopqrstuvwxyz0123456789+/"

def sextet (n : Nat) : Char := sextets.getD (n % 64) 'A'

def encode64 : Text → Text
  | [] => []
  | [a] => [sextet (a.toNat / 4), sextet (a.toNat * 16), '=', '=']
  | [a, b] =>
    let n := (a.toNat * 256 + b.toNat) * 4
    [sextet (n / 4096), sextet (n / 64), sextet n, '=']
  | a :: b :: c :: rest =>
    let n := (a.toNat * 256 + b.toNat) * 256 + c.toNat
    sextet (n / 262144) :: sextet (n / 4096) :: sextet (n / 64) :: sextet n :: encode64 rest

def decode64 : Text → Text
  | a :: b :: c :: d :: rest =>
    let value := fun (c : Char) => (sextets.idxOf c) % 64
    let n := ((value a * 64 + value b) * 64 + value c) * 64 + value d
    let byte := fun (n : Nat) => Char.ofNat (n % 256)
    if c = '=' then [byte (n / 65536)]
    else if d = '=' then [byte (n / 65536), byte (n / 256)]
    else byte (n / 65536) :: byte (n / 256) :: byte n :: decode64 rest
  | _ => []

/-- The pieces of a length; the number bounds their count. -/
def wrapAt (width : Nat) : Nat → Text → List Text
  | 0, _ | _, [] => []
  | n + 1, t => t.take width :: wrapAt width n (t.drop width)

def base64 (arguments : List Text) : Plan :=
  let (options, files) := parseOptions ['w'] arguments
  { files
    apply t :=
      if has options 'd' then (decode64 (t.filter (· ≠ '\n')), 0)
      else
        let width := ((valueOf? options 'w').bind decimal?).getD 76
        let coded := encode64 t
        if width = 0 then (coded, 0)
        else (unlines (wrapAt width (coded.length + 1) coded), 0) }

/-! ### Searching -/

/-- Every match in a line; the number bounds their count. -/
def allMatches (ignoreCase : Bool) (r : Regex) (fuel : Nat) : Nat → Nat → Text → List Text
  | 0, _, _ => []
  | n + 1, index, t =>
    match Regex.findFrom ignoreCase r fuel index t with
    | none => []
    | some (start, stop, _) =>
      if stop.index = start then
        match t.drop (start - index + 1) with
        | [] => []
        | rest => allMatches ignoreCase r fuel n (start + 1) rest
      else
        (t.drop (start - index)).take (stop.index - start) ::
          allMatches ignoreCase r fuel n stop.index stop.rest

/-- A part stands in a text with no character of a name before it or after it. -/
def standsAlone (part : Text) (before : Option Char) : Text → Bool
  | [] => false
  | c :: rest =>
    let t := c :: rest
    (part.isPrefixOf t && !(before.any isNameChar) &&
      !((t.drop part.length).head?.any isNameChar)) || standsAlone part (some c) rest

def grep (arguments : List Text) : Plan :=
  let (options, operands) := parseOptions ['e', 'm'] arguments
  let given := (options.filter (·.1 = 'e')).map Prod.snd
  let (sources, files) :=
    if given = [] then (Text.splitAll '\n' (operands.head?.getD []), operands.drop 1)
    else (given.flatMap (Text.splitAll '\n'), operands)
  let expressions := sources.map fun source =>
    let r := if has options 'F' then Regex.ofLiteral source
      else Regex.ofText (has options 'E') source
    if has options 'x' then .sequence .lineStart (.sequence r .lineEnd) else r
  let ignoreCase := has options 'i'
  let matchesOf := fun (l : Text) => expressions.flatMap fun r =>
    allMatches ignoreCase r (Regex.searchDepth l) (l.length + 1) 0 l
  let occurs := fun (l : Text) =>
    if has options 'w' then (matchesOf l).any fun part => standsAlone part none l
    else expressions.any fun r => r.occursIn ignoreCase l
  let admits := fun (l : Text) => occurs l != has options 'v'
  { files
    apply t :=
      let found := ((linesOf t).zipIdx 1).filter fun (l, _) => admits l
      let found := match (valueOf? options 'm').bind decimal? with
        | some n => found.take n
        | none => found
      let numbered := fun (l : Text) (n : Nat) =>
        if has options 'n' then Text.ofNat n ++ ':' :: l else l
      let status := if found = [] then 1 else 0
      if has options 'q' then ([], status)
      else if has options 'c' then (Text.ofNat found.length ++ ['\n'], status)
      else if has options 'o' then
        (unlines (found.flatMap fun (l, n) => (matchesOf l).map fun part => numbered part n), status)
      else (unlines (found.map fun (l, n) => numbered l n), status) }

end HttpCascade.Shell.Filter

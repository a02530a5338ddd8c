import HttpCascade.Shell.Pattern

/-!
# Regular expressions

The expressions of `grep` and `sed`, in the basic and the extended form, and how they are found in a
line. Of several matches at the first place the greediest one counts.
-/

namespace HttpCascade.Shell

inductive Regex where
  | nothing
  | char (c : Char)
  | anyChar
  | oneOf (negated : Bool) (members : List Member)
  | lineStart
  | lineEnd
  | sequence (first second : Regex)
  | either (first second : Regex)
  | repeated (least : Nat) (most : Option Nat) (r : Regex)
  | group (number : Nat) (r : Regex)

namespace Regex

/-! ### Reading -/

/-- What is left of an expression, and how many groups it has had. -/
structure Cursor where
  rest : Text
  groups : Nat

/-- The least and the most repetitions that a sign at the front asks for. -/
def repetition? (extended : Bool) (t : Text) : Option ((Nat × Option Nat) × Text) :=
  let interval := fun (t : Text) (close : Text) =>
    let least := t.takeWhile Char.isDigit
    let after := t.drop least.length
    match after with
    | ',' :: after =>
      let most := after.takeWhile Char.isDigit
      let after := after.drop most.length
      if close.isPrefixOf after then
        some (((decimal? least).getD 0, decimal? most), after.drop close.length)
      else none
    | _ =>
      if close.isPrefixOf after then
        (decimal? least).map fun n => ((n, some n), after.drop close.length)
      else none
  match t with
  | '*' :: rest => some ((0, none), rest)
  | '\\' :: '+' :: rest => if extended then none else some ((1, none), rest)
  | '\\' :: '?' :: rest => if extended then none else some ((0, some 1), rest)
  | '+' :: rest => if extended then some ((1, none), rest) else none
  | '?' :: rest => if extended then some ((0, some 1), rest) else none
  | '\x7b' :: rest => if extended then interval rest ['\x7d'] else none
  | '\\' :: '\x7b' :: rest => if extended then none else interval rest ['\\', '\x7d']
  | _ => none

/-- The expression with the repetitions that follow it; the number bounds their count. -/
def withRepetitions (extended : Bool) : Nat → Regex → Text → Regex × Text
  | 0, r, t => (r, t)
  | n + 1, r, t =>
    match repetition? extended t with
    | some ((least, most), rest) => withRepetitions extended n (.repeated least most r) rest
    | none => (r, t)

/-- A bracket at the front. -/
def bracket? (t : Text) : Option (Regex × Text) :=
  let negated := t.head? = some '^'
  let inside := if negated then t.drop 1 else t
  (Pattern.bracketMembers (inside.length + 1) true (inside.map fun c => ⟨c, false⟩)).map
    fun (members, rest) => (.oneOf negated members, rest.map Glyph.char)

/-- A group opens, closes or an alternative begins at the front. -/
def sign? (extended : Bool) (t : Text) : Option (Char × Text) :=
  match t with
  | '\\' :: c :: rest => if !extended && c ∈ ['(', ')', '|'] then some (c, rest) else none
  | c :: rest => if extended && c ∈ ['(', ')', '|'] then some (c, rest) else none
  | [] => none

mutual

/-- Alternatives up to the end of the group. -/
def alternatives (extended : Bool) (fuel : Nat) (c : Cursor) : Regex × Cursor :=
  match fuel with
  | 0 => (.nothing, c)
  | fuel + 1 =>
    let (first, c) := branch extended fuel true c
    match sign? extended c.rest with
    | some ('|', rest) =>
      let (second, c) := alternatives extended fuel { c with rest }
      (.either first second, c)
    | _ => (first, c)

/-- What stands up to the next alternative. -/
def branch (extended : Bool) (fuel : Nat) (isFirst : Bool) (c : Cursor) : Regex × Cursor :=
  match fuel with
  | 0 => (.nothing, c)
  | fuel + 1 =>
    let continued := fun (r : Regex) (c : Cursor) =>
      let (r, rest) := withRepetitions extended (c.rest.length + 1) r c.rest
      let (after, c) := branch extended fuel false { c with rest }
      (Regex.sequence r after, c)
    match sign? extended c.rest with
    | some ('(', rest) =>
      let number := c.groups + 1
      let (inner, c) := alternatives extended fuel ⟨rest, number⟩
      let rest := match sign? extended c.rest with
        | some (')', rest) => rest
        | _ => c.rest
      continued (.group number inner) { c with rest }
    | some _ => (.nothing, c)
    | none =>
      match c.rest with
      | [] => (.nothing, c)
      | '^' :: rest =>
        if isFirst || extended then
          let (after, c) := branch extended fuel true { c with rest }
          (.sequence .lineStart after, c)
        else continued (.char '^') { c with rest }
      | '$' :: rest =>
        if extended || rest = [] || (sign? extended rest).isSome then
          let (after, c) := branch extended fuel false { c with rest }
          (.sequence .lineEnd after, c)
        else continued (.char '$') { c with rest }
      | '.' :: rest => continued .anyChar { c with rest }
      | '[' :: rest =>
        match bracket? rest with
        | some (r, rest) => continued r { c with rest }
        | none => continued (.char '[') { c with rest }
      | '\\' :: 'n' :: rest => continued (.char '\n') { c with rest }
      | '\\' :: 't' :: rest => continued (.char '\t') { c with rest }
      | '\\' :: d :: rest => continued (.char d) { c with rest }
      | d :: rest => continued (.char d) { c with rest }

end

/-- The expression that a text writes. -/
def ofText (extended : Bool) (t : Text) : Regex :=
  (alternatives extended (8 * (t.length + 4)) ⟨t, 0⟩).1

/-- The expression for a text itself. -/
def ofLiteral (t : Text) : Regex := t.foldr (fun c r => .sequence (.char c) r) .nothing

/-! ### Finding -/

/-- A place in a line. -/
structure Place where
  index : Nat
  rest : Text

/-- Where each group was found: from one index up to another. -/
abbrev Groups := List (Nat × Nat × Nat)

def sameIgnoring (ignoreCase : Bool) (a b : Char) : Bool :=
  a = b || (ignoreCase && a.toLower = b.toLower)

/-- Carries an expression out at a place, and then what follows. -/
def follow (ignoreCase : Bool) (fuel : Nat) (r : Regex) (p : Place) (gs : Groups)
    (next : Place → Groups → Option (Place × Groups)) : Option (Place × Groups) :=
  match fuel with
  | 0 => none
  | fuel + 1 =>
    match r with
    | .nothing => next p gs
    | .lineStart => if p.index = 0 then next p gs else none
    | .lineEnd => if p.rest = [] then next p gs else none
    | .char c =>
      match p.rest with
      | d :: rest => if sameIgnoring ignoreCase c d then next ⟨p.index + 1, rest⟩ gs else none
      | [] => none
    | .anyChar =>
      match p.rest with
      | _ :: rest => next ⟨p.index + 1, rest⟩ gs
      | [] => none
    | .oneOf negated members =>
      match p.rest with
      | d :: rest =>
        let found := members.any (Pattern.Member.admits d) ||
          (ignoreCase && (members.any (Pattern.Member.admits d.toLower) ||
            members.any (Pattern.Member.admits d.toUpper)))
        if found != negated then next ⟨p.index + 1, rest⟩ gs else none
      | [] => none
    | .sequence a b =>
      follow ignoreCase fuel a p gs fun p gs => follow ignoreCase fuel b p gs next
    | .either a b =>
      (follow ignoreCase fuel a p gs next).or (follow ignoreCase fuel b p gs next)
    | .group n r =>
      follow ignoreCase fuel r p gs fun q gs => next q ((n, p.index, q.index) :: gs)
    | .repeated least most r =>
      let more : Option (Place × Groups) :=
        if most = some 0 then none
        else
          follow ignoreCase fuel r p gs fun q gs =>
            if q.index = p.index then none
            else follow ignoreCase fuel (.repeated (least - 1) (most.map (· - 1)) r) q gs next
      match more with
      | some found => some found
      | none => if least = 0 then next p gs else none

/-- The first match at or after a place: where it starts, where it ends, and its groups. -/
def findFrom (ignoreCase : Bool) (r : Regex) (fuel : Nat) (index : Nat) :
    Text → Option (Nat × Place × Groups)
  | [] => (follow ignoreCase fuel r ⟨index, []⟩ [] fun p gs => some (p, gs)).map
      fun (p, gs) => (index, p, gs)
  | c :: rest =>
    match follow ignoreCase fuel r ⟨index, c :: rest⟩ [] fun p gs => some (p, gs) with
    | some (p, gs) => some (index, p, gs)
    | none => findFrom ignoreCase r fuel (index + 1) rest

/-- How deep a search in a line may go. -/
def searchDepth (t : Text) : Nat := 64 * (t.length + 64)

/-- A line holds a match. -/
def occursIn (ignoreCase : Bool) (r : Regex) (t : Text) : Bool :=
  (findFrom ignoreCase r (searchDepth t) 0 t).isSome

end Regex

end HttpCascade.Shell

import HttpCascade.Json.Reader

/-!
# Reading records

A record is read from an object, whose members may come in any order, or from a list of its fields in
their own order. What is known of a record while its members are read is a state; a member of another
name is passed over.
-/

namespace HttpCascade.Json

/-- How a record is read. -/
structure RecordReader (σ α : Type) where
  /-- How the record is named in messages. -/
  expected : String
  /-- What is known before the first member. -/
  start : σ
  /-- Whether a name is a field, and whether it has been read already. -/
  field? : σ → Text → Option (String × Bool)
  /-- Reads the value of a field. -/
  readField : σ → Text → Cursor → Result σ
  /-- The record, or the name of the first field that is missing. -/
  finish : σ → Except String α
  /-- The names of the fields in their order. -/
  order : List Text
  /-- Whether fields may be missing at the end of a list. -/
  optional : Bool

/-- Whether another member follows, and the place of its key. -/
def nextKey (first : Bool) (c : Cursor) : Except JsonError (Bool × Cursor) :=
  let c := c.skipSpace
  match c.rest with
  | [] => c.failAhead .endInObject
  | '}' :: _ => .ok (false, c)
  | next :: _ =>
    if first then if next = '"' then .ok (true, c) else c.failAhead .keyNotAString
    else if next = ',' then
      let c := (c.advance 1).skipSpace
      match c.rest with
      | [] => c.failAhead .endInValue
      | '"' :: _ => .ok (true, c)
      | '}' :: _ => c.failAhead .trailingComma
      | _ => c.failAhead .keyNotAString
    else c.failAhead .expectedObjectEnd

/-- Whether another element follows, and its place. -/
def nextElement (first : Bool) (c : Cursor) : Except JsonError (Bool × Cursor) :=
  let c := c.skipSpace
  match c.rest with
  | [] => c.failAhead .endInList
  | ']' :: _ => .ok (false, c)
  | next :: _ =>
    if first then .ok (true, c)
    else if next = ',' then
      let c := (c.advance 1).skipSpace
      match c.rest with
      | [] => c.failAhead .endInValue
      | ']' :: _ => c.failAhead .trailingComma
      | _ => .ok (true, c)
    else c.failAhead .expectedListEnd

/-- The place after the character that closes an object or list, if it is there. A fault that has no
place of its own is reported here. -/
def afterClosing (closing : Char) (c : Cursor) : Cursor :=
  let c := c.skipSpace
  if c.rest.head? = some closing then c.advance 1 else c

/-- Reads the members of an object up to its end. -/
def readMembers {σ α : Type} (r : RecordReader σ α) : Nat → Bool → σ → Cursor → Result σ
  | 0, _, _, c => c.failAhead .endInObject
  | steps + 1, first, state, c =>
    match nextKey first c with
    | .error e => .error e
    | .ok (false, c) => .ok (state, c)
    | .ok (true, c) =>
      match stringBody (c.advance 1) with
      | .error e => .error e
      | .ok (key, c) =>
        match r.field? state key with
        | some (name, true) => (afterClosing '}' c).fail (.duplicateField name)
        | some (_, false) =>
          match readColon c with
          | .error e => .error e
          | .ok c =>
            match r.readField state key c with
            | .error e => .error e
            | .ok (state, c) => readMembers r steps false state c
        | none =>
          match readColon c with
          | .error e => .error e
          | .ok c =>
            match skip c with
            | .error e => .error e
            | .ok c => readMembers r steps false state c

/-- Reads the elements of a list as the fields in their order. -/
def readElements {σ α : Type} (r : RecordReader σ α) : Nat → List Text → σ → Cursor → Result σ
  | _, [], state, c => .ok (state, c)
  | done, name :: rest, state, c =>
    match nextElement (done == 0) c with
    | .error e => .error e
    | .ok (false, c) =>
      if r.optional then .ok (state, c)
      else
        (afterClosing ']' c).fail
          (.invalidLength done s!"{r.expected} with {r.order.length} elements")
    | .ok (true, c) =>
      match r.readField state name c with
      | .error e => .error e
      | .ok (state, c) => readElements r (done + 1) rest state c

/-- Reads the end of a list of which no more elements are wanted. -/
def endList (c : Cursor) : Except JsonError Cursor :=
  let c := c.skipSpace
  match c.rest with
  | [] => c.failAhead .endInList
  | ']' :: _ => .ok (c.advance 1)
  | ',' :: _ =>
    let c := (c.advance 1).skipSpace
    if c.rest.head? = some ']' then c.failAhead .trailingComma else c.failAhead .trailingCharacters
  | _ => c.failAhead .trailingCharacters

/-- Reads a record. -/
def readRecord {σ α : Type} (r : RecordReader σ α) (c : Cursor) : Result α :=
  match valueStart c with
  | .error e => .error e
  | .ok (first, c) =>
    if first = '{' then
      match readMembers r (c.rest.length + 1) true r.start (c.advance 1) with
      | .error e => .error e
      | .ok (state, c) =>
        match r.finish state with
        | .error name => (afterClosing '}' c).fail (.missingField name)
        | .ok value => .ok (value, afterClosing '}' c)
    else if first = '[' then
      match readElements r 0 r.order r.start (c.advance 1) with
      | .error e => .error e
      | .ok (state, c) =>
        match r.finish state with
        | .error name => (afterClosing ']' c).fail (.missingField name)
        | .ok value =>
          match endList c with
          | .error e => .error e
          | .ok c => .ok (value, c)
    else wrongType c r.expected

/-- Reads the members of an object as names with texts. -/
def readPairs : Nat → Bool → Cursor → Result (List (Text × Text))
  | 0, _, c => c.failAhead .endInObject
  | steps + 1, first, c =>
    match nextKey first c with
    | .error e => .error e
    | .ok (false, c) => .ok ([], c.advance 1)
    | .ok (true, c) =>
      match stringBody (c.advance 1) with
      | .error e => .error e
      | .ok (key, c) =>
        match readColon c with
        | .error e => .error e
        | .ok c =>
          match readText c "a string" with
          | .error e => .error e
          | .ok (value, c) =>
            match readPairs steps false c with
            | .error e => .error e
            | .ok (pairs, c) => .ok ((key, value) :: pairs, c)

/-- A value that has to be an object with texts. -/
def readPairsObject (c : Cursor) : Result (List (Text × Text)) :=
  match valueStart c with
  | .error e => .error e
  | .ok (first, c) =>
    if first = '{' then readPairs (c.rest.length + 1) true (c.advance 1) else wrongType c "a map"

/-- Reads a text that holds one value and perhaps space around it. -/
def readWhole {α : Type} (read : Cursor → Result α) (t : Text) : Except JsonError α :=
  match read (Cursor.ofText t) with
  | .error e => .error e
  | .ok (value, c) =>
    let c := c.skipSpace
    if c.rest = [] then .ok value else c.failAhead .trailingCharacters

end HttpCascade.Json

import HttpCascade.Config
import HttpCascade.Json.Object
import HttpCascade.Json.Printer
import HttpCascade.Request

/-!
# Requests and configurations in JSON

How the records of this library are read from JSON and written as JSON.
-/

namespace HttpCascade

open Json

/-! ### Writing -/

/-- The headers in a given order of their entries. -/
def headersJson (entries : List (Text × Text)) : Value :=
  .object (entries.map fun entry => (entry.1, .text entry.2))

def optionJson : Option Text → Value
  | some t => .text t
  | none => .null

/-- A request whose headers are written in the order of `entries`. -/
def requestJson (method url : Value) (entries : List (Text × Text)) (body : Text) : Value :=
  .object
    [("method", method), ("url", url), ("headers", headersJson entries), ("body", .text body)]

def Request.toJson (r : Request) : Value :=
  requestJson (.text r.method) (.text r.url) r.headers.entries r.body

def PartialRequest.toJson (p : PartialRequest) : Value :=
  requestJson (optionJson p.method) (optionJson p.url) p.headers.entries p.body

def Config.toJson (c : Config) : Value :=
  .object
    [("headersFileName", .text c.headersFileName),
      ("beforeScriptFileName", .text c.beforeScriptFileName),
      ("shell", .text c.shell),
      ("scriptTimeoutSecs", .number c.scriptTimeoutSecs.toNat),
      ("expandBodyVariables", .boolean c.expandBodyVariables)]

def Method.toJson (m : Method) : Value := .text m.name.toList

/-! ### Reading configurations -/

/-- The settings that a configuration names. -/
structure ConfigFields where
  headersFileName : Option Text := none
  beforeScriptFileName : Option Text := none
  shell : Option Text := none
  scriptTimeoutSecs : Option UInt64 := none
  expandBodyVariables : Option Bool := none

namespace ConfigFields

def field? (s : ConfigFields) (name : Text) : Option (String × Bool) :=
  if name = "headersFileName" then some ("headersFileName", s.headersFileName.isSome)
  else if name = "beforeScriptFileName" then
    some ("beforeScriptFileName", s.beforeScriptFileName.isSome)
  else if name = "shell" then some ("shell", s.shell.isSome)
  else if name = "scriptTimeoutSecs" then some ("scriptTimeoutSecs", s.scriptTimeoutSecs.isSome)
  else if name = "expandBodyVariables" then
    some ("expandBodyVariables", s.expandBodyVariables.isSome)
  else none

def read (s : ConfigFields) (name : Text) (c : Cursor) : Result ConfigFields :=
  if name = "headersFileName" then
    (readText c "a string").map fun (t, c) => ({ s with headersFileName := some t }, c)
  else if name = "beforeScriptFileName" then
    (readText c "a string").map fun (t, c) => ({ s with beforeScriptFileName := some t }, c)
  else if name = "shell" then
    (readText c "a string").map fun (t, c) => ({ s with shell := some t }, c)
  else if name = "scriptTimeoutSecs" then
    (readUInt64 c).map fun (n, c) => ({ s with scriptTimeoutSecs := some n }, c)
  else (readBool c).map fun (b, c) => ({ s with expandBodyVariables := some b }, c)

/-- The configuration with the default for every setting that was not named. -/
def complete (s : ConfigFields) : Config :=
  { headersFileName := s.headersFileName.getD ({} : Config).headersFileName
    beforeScriptFileName := s.beforeScriptFileName.getD ({} : Config).beforeScriptFileName
    shell := s.shell.getD ({} : Config).shell
    scriptTimeoutSecs := s.scriptTimeoutSecs.getD ({} : Config).scriptTimeoutSecs
    expandBodyVariables := s.expandBodyVariables.getD ({} : Config).expandBodyVariables }

def reader : RecordReader ConfigFields Config where
  expected := "struct RestreeConfig"
  start := {}
  field? := field?
  readField := read
  finish s := .ok s.complete
  order := ["headersFileName", "beforeScriptFileName", "shell", "scriptTimeoutSecs",
    "expandBodyVariables"]
  optional := true

end ConfigFields

/-- Reads a configuration; a blank text stands for the defaults. -/
def Config.parse (t : Text) : Except JsonError Config :=
  if t.isBlank then .ok {} else readWhole (readRecord ConfigFields.reader) t

/-! ### Reading requests -/

/-- The fields of a request of which the method and the URL are of type `α`. -/
structure RequestFields (α : Type) where
  method : Option α := none
  url : Option α := none
  headers : Option (List (Text × Text)) := none
  body : Option Text := none

namespace RequestFields

variable {α : Type}

def field? (s : RequestFields α) (name : Text) : Option (String × Bool) :=
  if name = "method" then some ("method", s.method.isSome)
  else if name = "url" then some ("url", s.url.isSome)
  else if name = "headers" then some ("headers", s.headers.isSome)
  else if name = "body" then some ("body", s.body.isSome)
  else none

def read (readLine : Cursor → Result α) (s : RequestFields α) (name : Text) (c : Cursor) :
    Result (RequestFields α) :=
  if name = "method" then (readLine c).map fun (t, c) => ({ s with method := some t }, c)
  else if name = "url" then (readLine c).map fun (t, c) => ({ s with url := some t }, c)
  else if name = "headers" then
    (readPairsObject c).map fun (pairs, c) => ({ s with headers := some pairs }, c)
  else (readText c "a string").map fun (t, c) => ({ s with body := some t }, c)

/-- A field, or its name if it is missing. -/
def required {β : Type} (name : String) : Option β → Except String β
  | some value => .ok value
  | none => .error name

def order : List Text := ["method", "url", "headers", "body"]

def requestReader : RecordReader (RequestFields Text) Request where
  expected := "struct HttpRequest"
  start := {}
  field? := field?
  readField := read fun c => readText c "a string"
  finish s := do
    let method ← required "method" s.method
    let url ← required "url" s.url
    let headers ← required "headers" s.headers
    let body ← required "body" s.body
    pure ⟨method, url, NameMap.ofList headers, body⟩
  order := order
  optional := false

def partialReader : RecordReader (RequestFields (Option Text)) PartialRequest where
  expected := "struct PartialRequest"
  start := {}
  field? := field?
  readField := read (readOption fun c => readText c "a string")
  finish s := do
    let headers ← required "headers" s.headers
    let body ← required "body" s.body
    pure ⟨s.method.join, s.url.join, NameMap.ofList headers, body⟩
  order := order
  optional := false

end RequestFields

def Request.ofJson (t : Text) : Except JsonError Request :=
  readWhole (readRecord RequestFields.requestReader) t

def PartialRequest.ofJson (t : Text) : Except JsonError PartialRequest :=
  readWhole (readRecord RequestFields.partialReader) t

/-! ### Reading methods -/

namespace Method

/-- The verb of a name in capitals. -/
def named? (name : Text) : Option Method := all.find? fun m => m.name.toList = name

/-- The name of a verb. -/
def readName (c : Cursor) : Result Method :=
  match readText c "variant identifier" with
  | .error e => .error e
  | .ok (name, c) =>
    match named? name with
    | some m => .ok (m, c)
    | none => c.fail (.unknownVariant name (all.map Method.name))

/-- A verb: its name, or an object with its name as the only key and `null` as its value. -/
def read (c : Cursor) : Result Method :=
  match valueStart c with
  | .error e => .error e
  | .ok (first, c) =>
    if first = '"' then readName c
    else if first = '{' then
      match readName (c.advance 1) with
      | .error e => .error e
      | .ok (m, c) =>
        match readColon c with
        | .error e => .error e
        | .ok c =>
          match valueStart c with
          | .error e => .error e
          | .ok (first, c) =>
            if first = 'n' then
              match literal (c.advance 1) "ull" with
              | .error e => .error e
              | .ok c =>
                let c := c.skipSpace
                match c.rest with
                | '}' :: _ => .ok (m, c.advance 1)
                | [] => c.fail .endInObject
                | _ => c.fail .expectedValue
            else wrongType c "unit"
    else c.failAhead .expectedValue

def ofJson (t : Text) : Except JsonError Method := readWhole read t

end Method

end HttpCascade

import HttpCascade.Request
import HttpCascade.Text.Lines
import HttpCascade.Url.Basic

/-!
# Request files and headers files

The text of a request file is a request line, a blank line, header lines, a blank line and a body.
A headers file is the header lines alone. A patch is a request file in which the request line and
the blank line after it may be missing.

The readers share `headerSection`, which reads lines up to the first blank one, and every fault is
reported with the number of its line.
-/

namespace HttpCascade

/-- Why a text is not a request file, a patch or a headers file. -/
inductive ParseError where
  | emptyRequest
  | invalidRequestLine (content : Text) (line : Nat)
  | invalidMethod (method : Text) (line : Nat)
  | invalidUrl (url : Text) (line : Nat) (reason : UrlError)
  | missingSeparator (content : Text) (line : Nat)
  | invalidHeader (header : Text) (line : Nat)
  deriving DecidableEq, Repr

namespace ParseError

/-- The number of the line at fault, from one. -/
def line? : ParseError → Option Nat
  | emptyRequest => none
  | invalidRequestLine _ line | invalidMethod _ line | invalidUrl _ line _
  | missingSeparator _ line | invalidHeader _ line => some line

def message : ParseError → String
  | emptyRequest => "Empty request: no request line found"
  | invalidRequestLine content line =>
    s!"Invalid request line '{content.str}' at line {line}. Expected format: 'METHOD URL'"
  | invalidMethod method line =>
    s!"Invalid HTTP method '{method.str}' at line {line}. " ++
      "Expected one of: GET, POST, PUT, DELETE, PATCH, OPTIONS, HEAD"
  | invalidUrl url line reason => s!"Invalid URL '{url.str}' at line {line}: {reason.message}"
  | missingSeparator content line =>
    s!"Expected a blank line after the request line, found '{content.str}' at line {line}"
  | invalidHeader header line =>
    s!"Invalid header format '{header.str}' at line {line}. Expected format: 'Header-Name: value'"

end ParseError

namespace RequestText

/-! ### Single lines -/

/-- Two words of which the first is a verb. -/
def looksLikeRequestLine (line : Text) : Bool :=
  match line.words with
  | [method, _] => (Method.ofText? method).isSome
  | _ => false

/-- The method and the URL of a request line. -/
def requestLine (number : Nat) (line : Text) : Except ParseError (Text × Text) :=
  match line.words with
  | [method, url] =>
    if (Method.ofText? method).isNone then .error (.invalidMethod method number)
    else
      match Url.validate url with
      | .ok () => .ok (method, url)
      | .error reason => .error (.invalidUrl url number reason)
  | _ => .error (.invalidRequestLine line.trim number)

/-- The name and the value of a header line: what stands before and after its first colon. -/
def headerLine (number : Nat) (line : Text) : Except ParseError (Text × Text) :=
  match line.splitOnce ':' with
  | some (name, value) =>
    if name.trim = [] then .error (.invalidHeader line.trim number)
    else .ok (name.trim, value.trim)
  | none => .error (.invalidHeader line.trim number)

/-! ### Sections -/

/-- The header lines up to the first blank line, and the lines after it. The number is that of the
first line. -/
def headerSection (number : Nat) :
    List Text → Except ParseError (List (Text × Text) × List Text)
  | [] => .ok ([], [])
  | line :: rest =>
    if line.isBlank then .ok ([], rest)
    else
      match headerLine number line with
      | .error e => .error e
      | .ok header =>
        match headerSection (number + 1) rest with
        | .error e => .error e
        | .ok (headers, body) => .ok (header :: headers, body)

/-- The headers and the body of the lines after the request line and its blank line. -/
def contents (method url : Option Text) (number : Nat) (lines : List Text) :
    Except ParseError PartialRequest :=
  match headerSection number lines with
  | .error e => .error e
  | .ok (headers, body) => .ok ⟨method, url, NameMap.ofList headers, Text.joinLines body⟩

/-- The first line that is not blank with its number, and the lines after it. -/
def firstLine? (number : Nat) : List Text → Option (Nat × Text × List Text)
  | [] => none
  | line :: rest => if line.isBlank then firstLine? (number + 1) rest else some (number, line, rest)

/-! ### Whole texts -/

/-- Reads a request file. -/
def parse (t : Text) : Except ParseError Request :=
  match firstLine? 1 t.lines with
  | none => .error .emptyRequest
  | some (number, line, rest) =>
    match requestLine number line with
    | .error e => .error e
    | .ok (method, url) =>
      match rest with
      | [] => .ok (Request.bare method url)
      | separator :: rest =>
        if separator.isBlank then
          match headerSection (number + 2) rest with
          | .error e => .error e
          | .ok (headers, body) => .ok ⟨method, url, NameMap.ofList headers, Text.joinLines body⟩
        else .error (.missingSeparator separator (number + 1))

/-- Reads a patch. The first line that is not blank is a request line if it looks like one and the
first header otherwise. -/
def parsePatch (t : Text) : Except ParseError PartialRequest :=
  match firstLine? 1 t.lines with
  | none => .ok .empty
  | some (number, line, rest) =>
    if looksLikeRequestLine line then
      match requestLine number line with
      | .error e => .error e
      | .ok (method, url) =>
        match rest with
        | [] => .ok ⟨some method, some url, ∅, []⟩
        | separator :: after =>
          if separator.isBlank then contents (some method) (some url) (number + 2) after
          else contents (some method) (some url) (number + 1) rest
    else contents none none number (line :: rest)

/-- Reads a headers file; what follows its first blank line is ignored. -/
def parseHeaders (t : Text) : Except ParseError Headers :=
  match headerSection 1 t.lines with
  | .error e => .error e
  | .ok (headers, _) => .ok (NameMap.ofList headers)

end RequestText

end HttpCascade

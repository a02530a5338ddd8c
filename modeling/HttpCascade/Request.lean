import HttpCascade.Method
import HttpCascade.NameMap

/-!
# Requests

A request as a request file holds it, a partial request that may lack a request line, and the text
that a request is written as.
-/

namespace HttpCascade

/-- A request. The method is kept as it was written and the URL may hold placeholders. -/
structure Request where
  method : Text
  url : Text
  headers : Headers
  body : Text
  deriving DecidableEq, Inhabited

/-- A request in which the request line may be absent. -/
structure PartialRequest where
  method : Option Text
  url : Option Text
  headers : Headers
  body : Text
  deriving DecidableEq, Inhabited

namespace PartialRequest

def empty : PartialRequest := ⟨none, none, ∅, []⟩

/-- The request, if there was a request line. -/
def complete? (p : PartialRequest) : Option Request :=
  match p.method, p.url with
  | some method, some url => some ⟨method, url, p.headers, p.body⟩
  | _, _ => none

end PartialRequest

namespace Request

/-- A request without headers and body. -/
def bare (method url : Text) : Request := ⟨method, url, ∅, []⟩

/-- The verb of the method, if it is one. -/
def verb? (r : Request) : Option Method := Method.ofText? r.method

def hasBody (r : Request) : Bool := r.body ≠ []

/-- Lays a partial request over a request: a method, a URL and a body that are there replace those
of the request, and headers replace those of the same name. -/
def apply (r : Request) (p : PartialRequest) : Request :=
  { method := p.method.getD r.method
    url := p.url.getD r.url
    headers := r.headers.merge p.headers
    body := if p.body = [] then r.body else p.body }

/-- A header line with its ending. -/
def headerLine (name value : Text) : Text := name ++ [':', ' '] ++ value ++ ['\n']

/-- The text of a request: the request line, an empty line, the headers in name order, and after
another empty line the body, if there is one. A line feed ends the body. -/
def render (r : Request) : Text :=
  r.method ++ [' '] ++ r.url ++ ['\n', '\n'] ++
    r.headers.entries.flatMap (fun entry => headerLine entry.1 entry.2) ++
    (if r.body = [] then [] else '\n' :: r.body ++ ['\n'])

end Request

end HttpCascade

import HttpCascade.Text.Basic

/-!
# Request methods

The seven verbs that a request line may start with. A verb is recognised in any case; its canonical
name is in capitals.
-/

namespace HttpCascade

/-- A verb of a request line. -/
inductive Method where
  | get
  | post
  | put
  | delete
  | patch
  | options
  | head
  deriving DecidableEq, Repr

namespace Method

/-- Every verb. -/
def all : List Method := [get, post, put, delete, patch, options, head]

/-- The canonical name. -/
def name : Method → String
  | get => "GET"
  | post => "POST"
  | put => "PUT"
  | delete => "DELETE"
  | patch => "PATCH"
  | options => "OPTIONS"
  | head => "HEAD"

/-- The verb that a token names, in any case. -/
def ofText? (token : Text) : Option Method :=
  all.find? fun m => Text.equalsIgnoringCase m.name.toList token

theorem ofText?_name (m : Method) : ofText? m.name.toList = some m := by cases m <;> decide

theorem ofText?_eq_some {token : Text} {m : Method} (found : ofText? token = some m) :
    Text.equalsIgnoringCase m.name.toList token = true := by
  have := List.find?_some found
  exact this

end Method

end HttpCascade

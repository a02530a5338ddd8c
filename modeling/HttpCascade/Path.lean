import HttpCascade.Text.Basic

/-!
# Paths

Paths are texts, and most questions about them are questions about their components: repeated and
trailing slashes and the `.` inside a path mean nothing, while a leading `.` and every `..` count.
Nothing here looks at a file system.
-/

namespace HttpCascade

/-- A path as it was written. -/
structure Path where
  text : Text
  deriving DecidableEq, Repr, Inhabited

/-- What a path is made of. -/
inductive Component where
  | root
  | current
  | parent
  | normal (name : Text)
  deriving DecidableEq, Repr

namespace Component

def written : Component → Text
  | root => "/"
  | current => "."
  | parent => ".."
  | normal name => name

/-- The name of a plain component. -/
def name? : Component → Option Text
  | normal name => some name
  | _ => none

end Component

instance : Coe String Path := ⟨fun s => ⟨s.toList⟩⟩

namespace Path

def str (p : Path) : String := p.text.str

def isAbsolute (p : Path) : Bool := p.text.head? == some '/'

/-- The component that a piece between slashes stands for after the first piece. -/
def innerComponent? (piece : Text) : Option Component :=
  if piece = [] || piece = ['.'] then none
  else if piece = ['.', '.'] then some .parent
  else some (.normal piece)

/-- The components that the first piece stands for; it is empty before a leading slash. -/
def firstComponent? (piece : Text) (others : List Text) : Option Component :=
  if piece = [] then (if others = [] then none else some .root)
  else if piece = ['.'] then some .current
  else innerComponent? piece

/-- The components of a path. -/
def components (p : Path) : List Component :=
  match Text.splitAll '/' p.text with
  | [] => []
  | piece :: others => (firstComponent? piece others).toList ++ others.filterMap innerComponent?

/-- The path that is written with the least slashes. -/
def ofComponents : List Component → Path
  | .root :: rest => ⟨'/' :: Text.join ['/'] (rest.map Component.written)⟩
  | components => ⟨Text.join ['/'] (components.map Component.written)⟩

/-- The path `q` read from `p` on: an absolute path stands for itself. -/
def join (p q : Path) : Path :=
  if q.isAbsolute || p.text = [] then q
  else if p.text.getLast? == some '/' then ⟨p.text ++ q.text⟩
  else ⟨p.text ++ '/' :: q.text⟩

/-- The components of a path without the last, if the path is more than a root. -/
def parentComponents? (p : Path) : Option (List Component) :=
  match p.components.getLast? with
  | none | some .root => none
  | _ => some p.components.dropLast

/-- What follows the first list at the front of the second. -/
def dropPrefix? : List Component → List Component → Option (List Component)
  | [], rest => some rest
  | _ :: _, [] => none
  | a :: as, b :: bs => if a = b then dropPrefix? as bs else none

/-- The components of `p` after those of `base`. -/
def relativeTo? (p base : Path) : Option (List Component) :=
  dropPrefix? base.components p.components

/-! ### Normal form -/

/-- Takes a component into account on top of those before it, which are given in reverse: `.` goes
away, and `..` cancels a name and goes away at a root. -/
def fold (above : List Component) : Component → List Component
  | .current => above
  | .parent =>
    match above with
    | .normal _ :: rest => rest
    | .root :: _ => above
    | _ => .parent :: above
  | c => c :: above

/-- The path without `.` and with every `..` carried out as far as that can be done without a file
system. -/
def normalize (p : Path) : Path := ofComponents (p.components.foldl fold []).reverse

/-- The path seen from a directory, with its `..` kept. A slash at the end is kept, and so are two
slashes at the start. There is no such path for an empty one. -/
def absolute? (directory p : Path) : Option Path :=
  if p.text = [] then none
  else
    let relative := match p.components with
      | .current :: rest => rest
      | components => components
    let full :=
      if p.isAbsolute then
        match p.text with
        | '/' :: '/' :: third :: _ =>
          if third = '/' then ofComponents p.components
          else ⟨'/' :: (ofComponents p.components).text⟩
        | ['/', '/'] => "//"
        | _ => ofComponents p.components
      else relative.foldl (fun d c => d.join ⟨c.written⟩) directory
    some (if p.text.getLast? == some '/' then full.join ⟨[]⟩ else full)

/-! ### Directories on the way to a file -/

/-- A directory and those below it along some names. -/
def descend (directory : Path) : List Text → List Path
  | [] => [directory]
  | name :: names => directory :: descend (directory.join ⟨name⟩) names

/-- The names of plain components, if all are plain. -/
def names? (components : List Component) : Option (List Text) := components.mapM Component.name?

/-- The directories from `root` down to the one that holds `target`, if `target` is below `root` and
only plain components lead there. -/
def cascade? (root target : Path) : Option (List Path) :=
  match (target.relativeTo? root).bind names? with
  | none | some [] => none
  | some (name :: names) => some (descend root (name :: names).dropLast)

end Path

end HttpCascade

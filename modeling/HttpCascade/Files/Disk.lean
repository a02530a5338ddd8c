import HttpCascade.Files.Basic

/-!
# Disks

A file system as a value: what stands at each place, where a place is the list of the names that
lead to it from the root. A path is walked name by name, and a link on the way is replaced by its
target.
-/

namespace HttpCascade

/-- The names from the root down. -/
abbrev Place := List Text

/-- A file that holds nothing. -/
inductive Device where
  /-- Reads as empty and takes everything. -/
  | null
  /-- Takes nothing. -/
  | full
  deriving DecidableEq, Repr

/-- What stands at a place. -/
inductive Node where
  | file (bytes : Bytes) (executable : Bool)
  | directory
  | link (target : Path)
  | device (d : Device)
  deriving DecidableEq, Repr

/-- What stands at each place. -/
structure Disk where
  entries : List (Place × Node)

namespace Disk

def empty : Disk := ⟨[]⟩

/-- What stands at a place; the root is a directory. -/
def get? (d : Disk) (p : Place) : Option Node :=
  if p = [] then some .directory else d.entries.lookup p

/-- Puts something at a place. -/
def put (d : Disk) (p : Place) (n : Node) : Disk :=
  ⟨(p, n) :: d.entries.filter (·.1 ≠ p)⟩

def erase (d : Disk) (p : Place) : Disk := ⟨d.entries.filter (·.1 ≠ p)⟩

/-- The name of a place directly below another. -/
def nameBelow? (above p : Place) : Option Text :=
  if p.dropLast = above then p.getLast? else none

/-- The names directly below a place. -/
def namesBelow (d : Disk) (p : Place) : List Text :=
  d.entries.filterMap fun entry => nameBelow? p entry.1

/-! ### Walking -/

/-- How many links a walk may follow. -/
def linkLimit : Nat := 40

/-- The longest name, in bytes. -/
def nameLimit : Nat := 255

/-- The longest path, in bytes. -/
def pathLimit : Nat := 4095

/-- A step of a walk for a piece between slashes: an empty piece asks for a directory. -/
def stepOf (piece : Text) : Component :=
  if piece = [] || piece = ['.'] then .current
  else if piece = ['.', '.'] then .parent
  else .normal piece

/-- The steps along a path. -/
def steps (p : Path) : List Component := (Text.splitAll '/' p.text).map stepOf

/-- Where a path starts when it is read in a directory. -/
def start (here : Place) (p : Path) : Place := if p.isAbsolute then [] else here

/-- The place that steps lead to. Nothing need stand there, but all before it has to. A link as the
last step is followed if `follow` says so. -/
def walk (d : Disk) (follow : Bool) (links : Nat) (here : Place) (way : List Component) :
    Except IoError Place :=
  match way with
  | [] => .ok here
  | .root :: rest => walk d follow links [] rest
  | .current :: rest => walk d follow links here rest
  | .parent :: rest => walk d follow links here.dropLast rest
  | .normal name :: rest =>
    if name.byteLength > nameLimit then .error .nameTooLong
    else
      match d.get? (here ++ [name]) with
      | none => if rest = [] then .ok (here ++ [name]) else .error .notFound
      | some .directory => walk d follow links (here ++ [name]) rest
      | some (.link target) =>
        if rest = [] && !follow then .ok (here ++ [name])
        else
          match links with
          | 0 => .error .tooManyLinks
          | links + 1 =>
            if target.text = [] then .error .notFound
            else walk d follow links (start here target) (steps target ++ rest)
      | some _ => if rest = [] then .ok (here ++ [name]) else .error .notADirectory
termination_by (links, way.length)

/-- The fault of a path that no walk can start with. -/
def pathFault? (p : Path) : Option IoError :=
  if '\x00' ∈ p.text then some .nulInName
  else if p.text = [] then some .notFound
  else if p.text.byteLength > pathLimit then some .nameTooLong
  else none

/-- The place that a path leads to from a directory. -/
def locate (d : Disk) (follow : Bool) (here : Place) (p : Path) : Except IoError Place :=
  match pathFault? p with
  | some e => .error e
  | none => d.walk follow linkLimit (start here p) (steps p)

/-- A path and what stands where it leads, with links followed. -/
def find (d : Disk) (here : Place) (p : Path) : Except IoError (Place × Node) :=
  match d.locate true here p with
  | .error e => .error e
  | .ok place =>
    match d.get? place with
    | some n => .ok (place, n)
    | none => .error .notFound

/-! ### Questions -/

def kindOf : Node → FileKind
  | .file _ executable => .regular executable
  | .device _ => .device
  | _ => .directory

def kind (d : Disk) (here : Place) (p : Path) : Except IoError FileKind :=
  (d.find here p).map fun found => kindOf found.2

def names (d : Disk) (here : Place) (p : Path) : Except IoError (List Text) :=
  match d.find here p with
  | .error e => .error e
  | .ok (place, .directory) => .ok (d.namesBelow place)
  | .ok _ => .error .notADirectory

def read (d : Disk) (here : Place) (p : Path) : Except IoError Bytes :=
  match d.find here p with
  | .error e => .error e
  | .ok (_, .file bytes _) => .ok bytes
  | .ok (_, .device _) => .ok []
  | .ok _ => .error .isADirectory

/-! ### Changes -/

def endsInSlash (p : Path) : Bool := p.text.getLast? == some '/'

/-- The path without slashes at its end. -/
def withoutSlashes (p : Path) : Path := ⟨(p.text.reverse.dropWhile (· == '/')).reverse⟩

/-- Where a file of a name is made. A name with a slash after it is that of a directory. -/
def locateNew (d : Disk) (follow : Bool) (here : Place) (p : Path) : Except IoError Place :=
  if endsInSlash p && (withoutSlashes p).text ≠ [] then
    match d.locate false here (withoutSlashes p) with
    | .error e => .error e
    | .ok _ => .error .isADirectory
  else d.locate follow here p

/-- Makes an empty file where nothing stands, not even a link. -/
def create (d : Disk) (here : Place) (p : Path) (executable : Bool) : Except IoError Disk :=
  match d.locateNew false here p with
  | .error e => .error e
  | .ok place =>
    match d.get? place with
    | some _ => .error .alreadyExists
    | none => .ok (d.put place (.file [] executable))

def truncate (d : Disk) (here : Place) (p : Path) : Except IoError Disk :=
  match d.locateNew true here p with
  | .error e => .error e
  | .ok place =>
    match d.get? place with
    | none => .ok (d.put place (.file [] false))
    | some (.file _ executable) => .ok (d.put place (.file [] executable))
    | some (.device _) => .ok d
    | some _ => .error .isADirectory

def append (d : Disk) (here : Place) (p : Path) (more : Bytes) : Except IoError Disk :=
  match d.find here p with
  | .error e => .error e
  | .ok (place, .file bytes executable) => .ok (d.put place (.file (bytes ++ more) executable))
  | .ok (_, .device .null) => .ok d
  | .ok (_, .device .full) => if more = [] then .ok d else .error .noSpace
  | .ok _ => .error .isADirectory

def setExecutable (d : Disk) (here : Place) (p : Path) (executable : Bool) : Except IoError Disk :=
  match d.find here p with
  | .error e => .error e
  | .ok (place, .file bytes _) => .ok (d.put place (.file bytes executable))
  | .ok _ => .ok d

def makeDirectory (d : Disk) (here : Place) (p : Path) : Except IoError Disk :=
  match d.locate false here (if (withoutSlashes p).text = [] then p else withoutSlashes p) with
  | .error e => .error e
  | .ok place =>
    match d.get? place with
    | some _ => .error .alreadyExists
    | none => .ok (d.put place .directory)

def remove (d : Disk) (here : Place) (p : Path) : Except IoError Disk :=
  match d.locate false here p with
  | .error e => .error e
  | .ok place =>
    match d.get? place with
    | none => .error .notFound
    | some .directory => .error .isADirectory
    | some _ => .ok (d.erase place)

def removeDirectory (d : Disk) (here : Place) (p : Path) : Except IoError Disk :=
  match d.find here p with
  | .error e => .error e
  | .ok (place, .directory) =>
    if d.namesBelow place = [] then .ok (d.erase place) else .error .notEmpty
  | .ok _ => .error .notADirectory

/-! ### Making disks -/

/-- Puts directories along names below a place, where nothing stands yet. -/
def withDirectories (d : Disk) (above : Place) : List Text → Disk
  | [] => d
  | name :: names =>
    let d := if (d.get? (above ++ [name])).isSome then d else d.put (above ++ [name]) .directory
    d.withDirectories (above ++ [name]) names

/-- Puts something along names below a place, with the directories that lead there. -/
def plant (d : Disk) (above : Place) (names : List Text) (n : Node) : Disk :=
  (d.withDirectories above names.dropLast).put (above ++ names) n

/-- Every regular file below a place by its names from there, with links to files followed. -/
def filesBelow (d : Disk) (above : Place) : List (List Text × Bytes × Bool) :=
  d.entries.filterMap fun entry =>
    if above.isPrefixOf entry.1 then
      match d.find [] (Path.ofComponents (.root :: entry.1.map .normal)) with
      | .ok (_, .file bytes executable) => some (entry.1.drop above.length, bytes, executable)
      | _ => none
    else none

/-! ### Look-ups after changes -/

theorem lookup_filter_ne {p q : Place} (different : q ≠ p) (l : List (Place × Node)) :
    (l.filter (·.1 ≠ p)).lookup q = l.lookup q := by
  induction l with
  | nil => rfl
  | cons e rest ih =>
    obtain ⟨place, n⟩ := e
    by_cases same : place = p
    · subst same
      simpa [List.lookup_cons, beq_eq_false_iff_ne.mpr different] using ih
    · by_cases found : q = place
      · simp [same, found]
      · simpa [same, List.lookup_cons, beq_eq_false_iff_ne.mpr found] using ih

theorem get?_put_same (d : Disk) {p : Place} (below : p ≠ []) (n : Node) :
    (d.put p n).get? p = some n := by
  simp [get?, put, below]

theorem get?_put_other (d : Disk) {p q : Place} (different : q ≠ p) (n : Node) :
    (d.put p n).get? q = d.get? q := by
  unfold get? put
  split
  · rfl
  · rw [List.lookup_cons, beq_eq_false_iff_ne.mpr different]
    exact lookup_filter_ne different d.entries

end Disk

end HttpCascade

import HttpCascade.NameMap
import HttpCascade.Unicode.Word

/-!
# Templates

A text in which `{{name}}` stands for a value. A name is one or more word characters;
braces that enclose anything else are ordinary text. Text is cut into pieces once
(`Template.ofText`), and everything else is a function of the pieces: the names, the filled text and
the names without a value. A value is never read for placeholders again.
-/

namespace HttpCascade

/-- A part of a template. -/
inductive Piece where
  | char (c : Char)
  | hole (name : Text)
  deriving DecidableEq, Repr

namespace Piece

/-- The piece as it is written. -/
def written : Piece → Text
  | char c => [c]
  | hole name => '{' :: '{' :: name ++ ['}', '}']

/-- The piece with its value in place of a hole; a hole without a value stays as it is written. -/
def fill (values : Variables) : Piece → Text
  | char c => [c]
  | hole name => (values.get? name).getD (written (hole name))

/-- The name of a hole. -/
def name? : Piece → Option Text
  | char _ => none
  | hole name => some name

end Piece

/-- A text cut into its characters and holes. -/
abbrev Template := List Piece

namespace Template

/-- The name of the placeholder that the text starts with. -/
def nameAtStart? : Text → Option Text
  | '{' :: '{' :: rest =>
    if rest.takeWhile Unicode.isWord ≠ [] ∧ ['}', '}'].isPrefixOf (rest.dropWhile Unicode.isWord)
    then some (rest.takeWhile Unicode.isWord)
    else none
  | _ => none

/-- The pieces of a text after its first `skip` characters. -/
def piecesAfter : Nat → Text → Template
  | _, [] => []
  | skip + 1, _ :: rest => piecesAfter skip rest
  | 0, c :: rest =>
    match nameAtStart? (c :: rest) with
    | some name => .hole name :: piecesAfter (name.length + 3) rest
    | none => .char c :: piecesAfter 0 rest

/-- The pieces of a text. -/
def ofText (t : Text) : Template := piecesAfter 0 t

/-- The template as it is written. -/
def written (template : Template) : Text := template.flatMap Piece.written

/-- The template with every hole that has a value filled. -/
def fill (values : Variables) (template : Template) : Text := template.flatMap (Piece.fill values)

/-- The elements of a list without repetitions, in order of first appearance. -/
def distinct : List Text → List Text
  | [] => []
  | name :: rest => name :: (distinct rest).filter (· ≠ name)

/-- The names of the holes, each once, in order of first appearance. -/
def names (template : Template) : List Text := distinct (template.filterMap Piece.name?)

/-- The names without a value, each once, in order of first appearance. -/
def missing (values : Variables) (template : Template) : List Text :=
  template.names.filter fun name => !values.contains name

end Template

/-- Some placeholders had no value. -/
structure ExpansionError where
  /-- Their names, each once, in order of first appearance. -/
  missing : List Text
  /-- The text with the other placeholders filled. -/
  output : Text
  deriving DecidableEq, Repr

def ExpansionError.message (e : ExpansionError) : String :=
  "missing variables: " ++ ", ".intercalate (e.missing.map Text.str)

/-- Fills every placeholder of a text, or names all that have no value. -/
def expand (t : Text) (values : Variables) : Except ExpansionError Text :=
  let template := Template.ofText t
  match template.missing values with
  | [] => .ok (template.fill values)
  | missing => .error ⟨missing, template.fill values⟩

/-- The names of the placeholders of a text, each once, in order of first appearance. -/
def placeholderNames (t : Text) : List Text := (Template.ofText t).names

namespace Template

theorem nameAtStart?_eq_some {t name : Text} (found : nameAtStart? t = some name) :
    name ≠ [] ∧ (∀ c ∈ name, Unicode.isWord c = true) ∧
      ∃ rest, t = Piece.written (.hole name) ++ rest := by
  unfold nameAtStart? at found
  split at found
  next rest =>
    split at found
    next h =>
      obtain ⟨nonempty, closed⟩ := h
      injection found with eq
      subst eq
      refine ⟨nonempty, fun c member => ?_, ?_⟩
      · have all := List.all_takeWhile (p := Unicode.isWord) (l := rest)
        exact List.all_eq_true.mp all c member
      · obtain ⟨after, eq⟩ := List.isPrefixOf_iff_prefix.mp closed
        refine ⟨after, ?_⟩
        have := List.takeWhile_append_dropWhile (p := Unicode.isWord) (l := rest)
        simp only [Piece.written, List.cons_append, List.append_assoc, List.nil_append]
        conv => lhs; rw [← this, ← eq]
        rfl
    next => cases found
  next => cases found

theorem piecesAfter_drop (skip : Nat) (t : Text) :
    piecesAfter skip t = piecesAfter 0 (t.drop skip) := by
  induction t generalizing skip with
  | nil => cases skip <;> simp [piecesAfter]
  | cons c rest ih =>
    cases skip with
    | zero => rfl
    | succ n => rw [piecesAfter, ih, List.drop_succ_cons]

/-- Cutting a text into pieces loses nothing. -/
theorem written_ofText (t : Text) : (ofText t).written = t := by
  unfold ofText
  induction h : t.length using Nat.strongRecOn generalizing t with
  | ind n ih =>
    cases t with
    | nil => rfl
    | cons c rest =>
      rw [piecesAfter]
      split
      next name found =>
        obtain ⟨_, _, after, eq⟩ := nameAtStart?_eq_some found
        have restEq : rest.drop (name.length + 3) = after := by
          simp only [Piece.written, List.cons_append, List.append_assoc, List.nil_append,
            List.cons.injEq] at eq
          rw [eq.2, show name.length + 3 = (name.length + 2) + 1 by omega, List.drop_succ_cons,
            ← List.drop_drop, List.drop_left]
          rfl
        rw [piecesAfter_drop, restEq, written, List.flatMap_cons]
        have shorter : after.length < n := by
          rw [← h, eq]; simp [Piece.written]; omega
        have := ih after.length shorter after rfl
        rw [written] at this
        rw [this, eq]
      next =>
        have := ih rest.length (by rw [← h]; simp) rest rfl
        rw [written] at this
        rw [written, List.flatMap_cons, this]
        rfl

end Template

end HttpCascade

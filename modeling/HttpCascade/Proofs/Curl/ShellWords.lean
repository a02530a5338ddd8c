import HttpCascade.Text.Basic
import Mathlib.Data.List.Forall2

/-!
# The words of a shell command

How a POSIX shell cuts a line into words, as far as quoting by single quotes and backslashes goes:
blanks end a word, operators and line feeds end a command, everything between single quotes stands
for itself, a backslash takes the meaning from the next character, and a backslash and a line feed
are as if they were not there. Every character of a word remembers whether it was quoted, so what a
shell does after that (expansions, patterns, comments) can be ruled out by looking at the others
(`IsInert`).

The reader is a step on each character. `Gives` says what a piece of text adds to the words wherever
it stands between blanks, and such pieces can be put one after another (`gives_join`).
-/

namespace HttpCascade.ShellWords

/-- A character of a word, and whether it was quoted. -/
structure Letter where
  char : Char
  quoted : Bool
  deriving DecidableEq, Repr

abbrev Word := List Letter

/-- The text that a word stands for if nothing in it is expanded. -/
def value (w : Word) : Text := w.map Letter.char

/-- The characters that separate words. -/
def blanks : List Char := [' ', '\t']

/-- The characters of the operators, and the line feed, which ends a command too. -/
def operators : List Char := ['\n', '|', '&', ';', '<', '>', '(', ')']

/-- The characters that start or belong to expansions, double quotes, patterns and comments. -/
def activeChars : List Char :=
  ['$', '\x60', '"', '~', '*', '?', '[', ']', '#', '=', '%', '\x7b', '\x7d']

/-- No character of the word means anything but itself. -/
def IsInert (w : Word) : Prop := ∀ l ∈ w, l.quoted = false → l.char ∉ activeChars

/-- How the next character is read. -/
inductive Mode where
  | plain
  /-- After a backslash. -/
  | escaped
  /-- Between single quotes. -/
  | quoted
  deriving DecidableEq, Repr

/-- What was read: the commands that have ended, the words that have ended since, and the word that
has not ended, if there is one. -/
structure Reading where
  mode : Mode := .plain
  commands : List (List Word) := []
  words : List Word := []
  word? : Option Word := none
  deriving DecidableEq, Repr

namespace Reading

/-- Puts letters at the end of the word, which may start with them. -/
def add (s : Reading) (w : Word) : Reading := { s with word? := some (s.word?.getD [] ++ w) }

def endWord (s : Reading) : Reading := { s with words := s.words ++ s.word?.toList, word? := none }

def endCommand (s : Reading) : Reading :=
  { s with commands := s.commands ++ [s.endWord.words], words := [], word? := none }

/-- Reads a character. -/
def step (s : Reading) (c : Char) : Reading :=
  match s.mode with
  | .quoted => if c = '\'' then { s with mode := .plain } else s.add [⟨c, true⟩]
  | .escaped =>
    if c = '\n' then { s with mode := .plain } else { s.add [⟨c, true⟩] with mode := .plain }
  | .plain =>
    if c = '\'' then { s.add [] with mode := .quoted }
    else if c = '\\' then { s with mode := .escaped }
    else if c ∈ blanks then s.endWord
    else if c ∈ operators then s.endCommand
    else s.add [⟨c, false⟩]

/-- Reads a text. -/
def run (s : Reading) (t : Text) : Reading := t.foldl step s

end Reading

/-- The words of each command of a text, unless a quote or a backslash is left open. -/
def read (t : Text) : Option (List (List Word)) :=
  let s := Reading.run {} t
  if s.mode = .plain then some (s.commands ++ [s.endWord.words]) else none

/-! ### Steps -/

namespace Reading

variable {s : Reading}

theorem run_append (s : Reading) (t u : Text) : s.run (t ++ u) = (s.run t).run u :=
  List.foldl_append

@[simp] theorem add_add (s : Reading) (v w : Word) : (s.add v).add w = s.add (v ++ w) := by
  simp [add]

@[simp] theorem add_mode (s : Reading) (w : Word) : (s.add w).mode = s.mode := rfl

@[simp] theorem endWord_mode (s : Reading) : s.endWord.mode = s.mode := rfl

@[simp] theorem endWord_endWord (s : Reading) : s.endWord.endWord = s.endWord := by
  simp [endWord]

theorem step_blank {c : Char} (plain : s.mode = .plain) (blank : c ∈ blanks) :
    s.step c = s.endWord := by
  have notQuote : c ≠ '\'' := by
    rintro rfl
    simp [blanks] at blank
  have notBackslash : c ≠ '\\' := by
    rintro rfl
    simp [blanks] at blank
  simp only [step, plain, notQuote, notBackslash, blank, if_false, if_true]

/-- A character that no rule is about. -/
def IsOrdinary (c : Char) : Prop := c ≠ '\'' ∧ c ≠ '\\' ∧ c ∉ blanks ∧ c ∉ operators

theorem step_ordinary {c : Char} (plain : s.mode = .plain) (ordinary : IsOrdinary c) :
    s.step c = s.add [⟨c, false⟩] := by
  obtain ⟨notQuote, notBackslash, notBlank, notOperator⟩ := ordinary
  simp only [step, plain, notQuote, notBackslash, notBlank, notOperator, if_false]

theorem run_add_ordinary {t : Text} (w : Word) (plain : s.mode = .plain)
    (ordinary : ∀ c ∈ t, IsOrdinary c) :
    (s.add w).run t = s.add (w ++ t.map (⟨·, false⟩)) := by
  -- The word grows, so the induction is for every word that was begun.
  induction t generalizing w with
  | nil => simp [run]
  | cons c rest ih =>
    obtain ⟨first, others⟩ := List.forall_mem_cons.mp ordinary
    have plainWithin : (s.add w).mode = .plain := plain
    calc (s.add w).run (c :: rest) = ((s.add w).step c).run rest := rfl
      _ = (s.add (w ++ [⟨c, false⟩])).run rest := by rw [step_ordinary plainWithin first, add_add]
      _ = s.add (w ++ [⟨c, false⟩] ++ rest.map (⟨·, false⟩)) := ih _ others
      _ = s.add (w ++ (c :: rest).map (⟨·, false⟩)) := by simp

theorem run_ordinary {t : Text} (plain : s.mode = .plain) (nonempty : t ≠ [])
    (ordinary : ∀ c ∈ t, IsOrdinary c) : s.run t = s.add (t.map (⟨·, false⟩)) := by
  obtain ⟨c, rest, rfl⟩ := List.exists_cons_of_ne_nil nonempty
  obtain ⟨first, others⟩ := List.forall_mem_cons.mp ordinary
  calc s.run (c :: rest) = (s.step c).run rest := rfl
    _ = (s.add [⟨c, false⟩]).run rest := by rw [step_ordinary plain first]
    _ = s.add ((c :: rest).map (⟨·, false⟩)) := run_add_ordinary _ plain others

end Reading

/-! ### Pieces of a command -/

/-- Between words the text is read as some words, and nothing is left open after it. -/
def Gives (t : Text) (ws : List Word) : Prop :=
  ∀ s : Reading, s.mode = .plain → s.word? = none →
    (s.run t).mode = .plain ∧ (s.run t).endWord = { s with words := s.words ++ ws }

/-- A text that ends a word and does nothing else. -/
def IsSeparator (separator : Text) : Prop :=
  ∀ s : Reading, s.mode = .plain → s.run separator = s.endWord

theorem isSeparator_space : IsSeparator [' '] := fun s plain => by
  show s.step ' ' = s.endWord
  exact Reading.step_blank plain (by decide)

theorem Gives.append {t u separator : Text} {ws vs : List Word} (first : Gives t ws)
    (separates : IsSeparator separator) (second : Gives u vs) :
    Gives (t ++ (separator ++ u)) (ws ++ vs) := by
  intro s plain between
  obtain ⟨plainAfter, ended⟩ := first s plain between
  rw [Reading.run_append, Reading.run_append, separates _ plainAfter, ended]
  obtain ⟨plainEnd, ends⟩ := second { s with words := s.words ++ ws } plain between
  exact ⟨plainEnd, by rw [ends, List.append_assoc]⟩

/-- Pieces between separators give their words one after another. -/
theorem gives_join {separator : Text} {pieces : List Text} {words : List (List Word)}
    (separates : IsSeparator separator) (each : List.Forall₂ Gives pieces words)
    (nonempty : pieces ≠ []) : Gives (Text.join separator pieces) words.flatten := by
  induction each with
  | nil => exact absurd rfl nonempty
  | @cons piece ws others more first rest ih =>
    cases rest with
    -- No separator follows the last piece.
    | nil => simpa [Text.join] using first
    | cons _ _ =>
      have tail := ih (by simp)
      simpa [Text.join] using first.append separates tail

theorem read_of_gives {t : Text} {ws : List Word} (gives : Gives t ws) :
    read t = some [ws] := by
  obtain ⟨plain, ended⟩ := gives {} rfl rfl
  simp only [read, plain, if_true]
  have words := congrArg Reading.words ended
  have commands := congrArg Reading.commands ended
  have same : (Reading.run {} t).commands = [] := commands
  simp only [words, same, List.nil_append]

end HttpCascade.ShellWords

import HttpCascade.Curl
import HttpCascade.Proofs.Curl.ShellWords

/-!
# A cURL command as a shell reads it

An argument is read as itself whatever it holds (`run_word`): without quotes every character of it is
an ordinary one, and between quotes the only character that could end them is put outside. So both
forms of the command of a request are one command with the arguments that were meant
(`reads_as_arguments`).
-/

namespace HttpCascade.Curl

open ShellWords

/-- The options of a request, in the order in which they are written: the method unless it is the
default, the headers in name order, and the body if there is one. -/
def options (r : Request) : List (Char × Text) :=
  (if r.verb? = some .get then [] else [('X', r.method)]) ++
    r.headers.entries.map (fun entry => ('H', entry.1 ++ [':', ' '] ++ entry.2)) ++
    (if r.body = [] then [] else [('d', r.body)])

/-- The arguments that the command of a request is meant to have: its own name, each option and what
belongs to it, and the URL. -/
def arguments (r : Request) : List Text :=
  "curl".toList :: (options r).flatMap (fun o => [['-', o.1], o.2]) ++ [r.url]

theorem option_name {r : Request} : ∀ o ∈ options r, o.1 ∈ ['X', 'H', 'd'] := by
  intro o member
  simp only [options, List.mem_append, List.mem_map] at member
  rcases member with (inMethod | ⟨entry, _, rfl⟩) | inBody
  · split at inMethod <;> simp_all
  · simp
  · split at inBody <;> simp_all

theorem parts_eq (r : Request) :
    parts r = "curl".toList :: (options r).map (fun o => option o.1 o.2) ++ [word r.url] := by
  have headers : r.headers.entries.map (fun entry => option 'H' (entry.1 ++ [':', ' '] ++ entry.2)) =
      (r.headers.entries.map fun entry => ('H', entry.1 ++ [':', ' '] ++ entry.2)).map
        fun o => option o.1 o.2 := by
    rw [List.map_map]
    rfl
  rw [parts, headers, options]
  by_cases isGet : r.verb? = some .get <;> by_cases empty : r.body = [] <;>
    simp [Request.hasBody, isGet, empty]

/-! ### Words -/

/-- The letters that an argument is read as. -/
def letters (argument : Text) : Word := argument.map (⟨·, needsQuotes argument⟩)

theorem value_letters (argument : Text) : value (letters argument) = argument := by
  simp [value, letters, Function.comp_def]

theorem needsQuotes_eq_false_iff {argument : Text} :
    needsQuotes argument = false ↔ argument ≠ [] ∧ ∀ c ∈ argument, c ∉ specialChars := by
  simp [needsQuotes]

/-- Every character that a shell treats in some way of its own is quoted. -/
theorem ordinary_of_not_special {c : Char} (free : c ∉ specialChars) :
    Reading.IsOrdinary c ∧ c ∉ activeChars := by
  have quotes : '\'' ∈ specialChars ∧ '\\' ∈ specialChars := by decide
  have blankSpecial : blanks ⊆ specialChars := by simp [blanks, specialChars]
  have operatorSpecial : operators ⊆ specialChars := by simp [operators, specialChars]
  have activeSpecial : activeChars ⊆ specialChars := by simp [activeChars, specialChars]
  refine ⟨⟨?_, ?_, fun blank => free (blankSpecial blank),
    fun operator => free (operatorSpecial operator)⟩, fun active => free (activeSpecial active)⟩
  · rintro rfl
    exact free quotes.1
  · rintro rfl
    exact free quotes.2

theorem letters_inert (argument : Text) : IsInert (letters argument) := by
  intro letter member unquoted
  obtain ⟨c, inside, rfl⟩ := List.mem_map.mp member
  have free := (needsQuotes_eq_false_iff.mp unquoted).2 c inside
  exact (ordinary_of_not_special free).2

/-- Between quotes an argument is read as itself; its single quotes end them, stand after a
backslash and start them again. -/
theorem run_quoted {s : Reading} (quoted : s.mode = .quoted) (w : Word) (t : Text) :
    (s.add w).run (t.flatMap quoteChar) = s.add (w ++ t.map (⟨·, true⟩)) := by
  induction t generalizing w with
  | nil => simp [Reading.run]
  | cons c rest ih =>
    -- A single quote leaves the quotes and comes back to them, so the mode is the same after it.
    have one : (s.add w).run (quoteChar c) = s.add (w ++ [⟨c, true⟩]) := by
      by_cases quote : c = '\''
      · subst quote
        simp [quoteChar, Reading.run, Reading.step, Reading.add, quoted]
      · simp [quoteChar, quote, Reading.run, Reading.step, quoted]
    rw [List.flatMap_cons, Reading.run_append, one, ih]
    simp

theorem run_word {s : Reading} (plain : s.mode = .plain) (argument : Text) :
    s.run (word argument) = s.add (letters argument) := by
  unfold word letters
  cases quotes : needsQuotes argument with
  | false =>
    obtain ⟨nonempty, free⟩ := needsQuotes_eq_false_iff.mp quotes
    exact Reading.run_ordinary plain nonempty fun c member =>
      (ordinary_of_not_special (free c member)).1
  | true =>
    -- The first quote begins a word also if nothing stands between the quotes.
    have opened : s.step '\'' = ({ s with mode := .quoted } : Reading).add [] := by
      simp [Reading.step, plain, Reading.add]
    have inside := run_quoted (s := { s with mode := .quoted }) rfl [] argument
    rw [if_pos rfl, List.cons_append]
    calc s.run ('\'' :: (argument.flatMap quoteChar ++ ['\'']))
        = (s.step '\'').run (argument.flatMap quoteChar ++ ['\'']) := rfl
      _ = (({ s with mode := .quoted } : Reading).add (argument.map (⟨·, true⟩))).run ['\''] := by
        rw [opened, Reading.run_append, inside, List.nil_append]
      _ = s.add (argument.map (⟨·, true⟩)) := by
        simp [Reading.run, Reading.step, Reading.add, ← plain]

/-! ### Parts -/

theorem gives_word (argument : Text) : Gives (word argument) [letters argument] := by
  intro s plain between
  rw [run_word plain]
  refine ⟨plain, ?_⟩
  simp [Reading.endWord, Reading.add, between]

/-- The letters of an option and of what belongs to it; its name is never quoted. -/
def optionWords (o : Char × Text) : List Word := [[⟨'-', false⟩, ⟨o.1, false⟩], letters o.2]

theorem gives_option {o : Char × Text} (known : o.1 ∈ ['X', 'H', 'd']) :
    Gives (option o.1 o.2) (optionWords o) := by
  have ordinary : ∀ name ∈ ['X', 'H', 'd'], ∀ c ∈ ['-', name], Reading.IsOrdinary c := by
    simp [Reading.IsOrdinary, blanks, operators]
  have name : Gives ['-', o.1] [[⟨'-', false⟩, ⟨o.1, false⟩]] := by
    intro s plain between
    rw [Reading.run_ordinary plain (by simp) (ordinary o.1 known)]
    refine ⟨plain, ?_⟩
    simp [Reading.endWord, Reading.add, between]
  exact name.append isSeparator_space (gives_word o.2)

theorem isSeparator_continuation : IsSeparator continuation := by
  intro s plain
  have space : s.step ' ' = s.endWord := Reading.step_blank plain (by decide)
  -- The backslash and the line feed leave the reading as it is.
  have joined : (s.endWord.step '\\').step '\n' = s.endWord := by
    simp [Reading.step, Reading.endWord, plain]
  have again : s.endWord.step ' ' = s.endWord := by
    rw [Reading.step_blank (s := s.endWord) plain (by decide), Reading.endWord_endWord]
  calc s.run continuation = ((((s.step ' ').step '\\').step '\n').step ' ').step ' ' := rfl
    _ = s.endWord := by rw [space, joined, again, again]

/-- The words of each part of the command. -/
def partWords (r : Request) : List (List Word) :=
  [letters "curl"] :: (options r).map optionWords ++ [[letters r.url]]

/-- The words of the command. -/
def words (r : Request) : List Word := (partWords r).flatten

theorem parts_give (r : Request) : List.Forall₂ Gives (parts r) (partWords r) := by
  have each : List.Forall₂ Gives ((options r).map fun o => option o.1 o.2)
      ((options r).map optionWords) := by
    rw [List.forall₂_map_left_iff, List.forall₂_map_right_iff]
    exact List.forall₂_same.mpr fun o member => gives_option (option_name o member)
  rw [parts_eq, partWords]
  exact List.rel_append (.cons (gives_word "curl") each) (.cons (gives_word r.url) .nil)

theorem value_words (r : Request) : (words r).map value = arguments r := by
  have each : ((options r).map optionWords).flatten.map value =
      (options r).flatMap fun o => [['-', o.1], o.2] := by
    induction options r with
    | nil => rfl
    | cons o rest ih =>
      simp only [List.map_cons, List.flatten_cons, List.map_append, List.flatMap_cons, ih,
        optionWords, value_letters]
      rfl
  simp only [words, partWords, arguments, List.cons_append, List.flatten_cons, List.flatten_append,
    List.map_append, each, List.map_cons, value_letters, List.flatten_nil, List.map_nil,
    List.append_nil, List.nil_append]

theorem inert_words (r : Request) : ∀ w ∈ words r, IsInert w := by
  have names : ∀ name ∈ ['X', 'H', 'd'], IsInert [⟨'-', false⟩, ⟨name, false⟩] := by
    simp [IsInert, activeChars]
  intro w member
  obtain ⟨part, isPart, inside⟩ := List.mem_flatten.mp member
  simp only [partWords, List.mem_append, List.mem_cons, List.mem_map, List.not_mem_nil, or_false]
    at isPart
  rcases isPart with (rfl | ⟨o, isOption, rfl⟩) | rfl
  · rw [List.mem_singleton.mp inside]
    exact letters_inert "curl"
  · rcases List.mem_pair.mp inside with rfl | rfl
    · exact names o.1 (option_name o isOption)
    · exact letters_inert o.2
  · rw [List.mem_singleton.mp inside]
    exact letters_inert r.url

/-! ### Commands -/

theorem read_compact (r : Request) : read (compact r) = some [words r] :=
  read_of_gives (gives_join isSeparator_space (parts_give r) (by simp [parts]))

theorem read_command (r : Request) : read (command r) = some [words r] := by
  unfold command
  split
  · exact read_compact r
  · exact read_of_gives (gives_join isSeparator_continuation (parts_give r) (by simp [parts]))

/-- However it is broken into lines, the command of a request is a single shell command with the
arguments that were meant, and outside of quotes there is nothing in it that a shell would act on. -/
theorem reads_as_arguments (r : Request) :
    ∃ words, read (command r) = some [words] ∧ read (compact r) = some [words] ∧
      words.map value = arguments r ∧ ∀ w ∈ words, IsInert w :=
  ⟨words r, read_command r, read_compact r, value_words r, inert_words r⟩

end HttpCascade.Curl

import HttpCascade.Proofs.Request.Patch

/-!
# The grammar of request files

`IsRequestFile` says what the lines of a request file are and which request they hold, without
reading them in order. The reader accepts exactly these lines, and it finds nothing in a text
exactly if all of its lines are blank (`accepts_grammar`).

## Proof strategy

Each part of the grammar is matched with the function that reads it: a line of two words with
`requestLine`, a header line with `headerLine`, and header lines up to a blank line with
`headerSection`, by induction on the lines. The whole is put together along `RequestFile`, which
tells the ways to read a text apart.
-/

namespace HttpCascade.RequestText

/-! ### The grammar -/

/-- A line of two words: a verb in any case, and a valid URL. -/
structure IsRequestLine (line method url : Text) : Prop where
  words : line.IsPair method url
  verb : ∃ verb : Method, Text.equalsIgnoringCase verb.name.toList method = true
  valid : Url.validate url = .ok ()

/-- A line with something in front of its first colon, with the name and the value that stand before
and after that colon. -/
def IsHeaderLine (line : Text) (header : Text × Text) : Prop :=
  ∃ before after : Text, line = before ++ ':' :: after ∧ ':' ∉ before ∧ before.isBlank = false ∧
    header = (before.trim, after.trim)

/-- Header lines, and after them nothing, or a blank line and the lines of a body. -/
def IsSection (lines : List Text) (headers : List (Text × Text)) (body : List Text) : Prop :=
  ∃ headerLines rest, lines = headerLines ++ rest ∧
    List.Forall₂ IsHeaderLine headerLines headers ∧
    (rest = [] ∧ body = [] ∨ ∃ blank, rest = blank :: body ∧ blank.isBlank = true)

/-- What follows a request line: nothing, or a blank line and a section. -/
def IsRemainder (lines : List Text) (headers : List (Text × Text)) (body : List Text) : Prop :=
  lines = [] ∧ headers = [] ∧ body = [] ∨
    ∃ blank rest, lines = blank :: rest ∧ blank.isBlank = true ∧ IsSection rest headers body

/-- Blank lines, a request line and what follows it, with the request that they hold. -/
def IsRequestFile (lines : List Text) (r : Request) : Prop :=
  ∃ blanks line rest headers body, lines = blanks ++ line :: rest ∧
    (∀ blank ∈ blanks, blank.isBlank = true) ∧ IsRequestLine line r.method r.url ∧
    IsRemainder rest headers body ∧ r.headers.HoldsLast headers ∧ r.body = Text.join ['\n'] body

/-! ### Single lines -/

theorem isSome_ofText?_iff {token : Text} :
    (Method.ofText? token).isSome = true ↔
      ∃ verb : Method, Text.equalsIgnoringCase verb.name.toList token = true := by
  have every (verb : Method) : verb ∈ Method.all := by cases verb <;> decide
  rw [Method.ofText?, List.find?_isSome]
  constructor
  · rintro ⟨verb, _, same⟩
    exact ⟨verb, same⟩
  · rintro ⟨verb, same⟩
    exact ⟨verb, every verb, same⟩

theorem requestLine_ok_iff {number : Nat} {line method url : Text} :
    requestLine number line = .ok (method, url) ↔ IsRequestLine line method url := by
  rw [requestLine_eq_ok_iff, Text.words_eq_pair_iff, isSome_ofText?_iff]
  constructor
  · rintro ⟨words, verb, valid⟩
    exact ⟨words, verb, valid⟩
  · rintro ⟨words, verb, valid⟩
    exact ⟨words, verb, valid⟩

/-- A line of a verb and another word is a request line, or this word is no URL. -/
theorem requestLine_of_isPair {line method url : Text} (pair : line.IsPair method url)
    (verb : ∃ verb : Method, Text.equalsIgnoringCase verb.name.toList method = true)
    (number : Nat) :
    requestLine number line =
      match Url.validate url with
      | .ok () => .ok (method, url)
      | .error reason => .error (.invalidUrl url number reason) := by
  have words := Text.words_eq_pair_iff.mpr pair
  have isVerb : (Method.ofText? method).isNone = false := by
    rw [← Option.not_isSome, isSome_ofText?_iff.mpr verb]
    rfl
  cases valid : Url.validate url <;>
    simp only [requestLine, words, isVerb, Bool.false_eq_true, if_false, valid]

theorem IsRequestLine.not_isBlank {line method url : Text}
    (isLine : IsRequestLine line method url) : line.isBlank = false :=
  isLine.words.not_isBlank

theorem headerLine_ok_iff {number : Nat} {line : Text} {header : Text × Text} :
    headerLine number line = .ok header ↔ IsHeaderLine line header := by
  obtain ⟨name, value⟩ := header
  simp only [headerLine_eq_ok_iff, Text.splitOnce_eq_some_iff, IsHeaderLine, Prod.mk.injEq]
  constructor
  · rintro ⟨before, after, ⟨eq, free⟩, nonempty, rfl, rfl⟩
    refine ⟨before, after, eq, free, Bool.eq_false_iff.mpr fun blank => ?_, rfl, rfl⟩
    exact nonempty (Text.trim_eq_nil_iff.mpr blank)
  · rintro ⟨before, after, eq, free, ink, rfl, rfl⟩
    refine ⟨before, after, ⟨eq, free⟩, fun empty => ?_, rfl, rfl⟩
    rw [Text.trim_eq_nil_iff.mp empty] at ink
    cases ink

theorem IsHeaderLine.not_isBlank {line : Text} {header : Text × Text}
    (isHeader : IsHeaderLine line header) : line.isBlank = false := by
  obtain ⟨before, after, rfl, _, ink, _⟩ := isHeader
  rw [Text.isBlank, List.all_append, ← Text.isBlank, ink, Bool.false_and]

/-! ### Sections -/

theorem isSection_of_headerSection {number : Nat} {lines body : List Text}
    {headers : List (Text × Text)} (read : headerSection number lines = .ok (headers, body)) :
    IsSection lines headers body := by
  -- Each line is one more header line in front, until a blank line ends the section.
  induction lines generalizing number headers with
  | nil =>
    cases read
    exact ⟨[], [], rfl, .nil, .inl ⟨rfl, rfl⟩⟩
  | cons line rest ih =>
    rw [headerSection] at read
    split at read
    next blank =>
      cases read
      exact ⟨[], _, rfl, .nil, .inr ⟨line, rfl, blank⟩⟩
    · split at read
      · cases read
      next header isHeader =>
        split at read
        · cases read
        next others after readRest =>
          cases read
          obtain ⟨headerLines, ending, rfl, each, ends⟩ := ih readRest
          have first := headerLine_ok_iff.mp isHeader
          exact ⟨line :: headerLines, ending, rfl, .cons first each, ends⟩

/-- Header lines are read before what comes after them. -/
theorem headerSection_append {headerLines rest body : List Text} {headers : List (Text × Text)}
    (each : List.Forall₂ IsHeaderLine headerLines headers)
    (ends : ∀ number, headerSection number rest = .ok ([], body)) (number : Nat) :
    headerSection number (headerLines ++ rest) = .ok (headers, body) := by
  induction each generalizing number with
  | nil => exact ends number
  | @cons line header _ _ isHeader _ ih =>
    have ink := isHeader.not_isBlank
    have first : headerLine number line = .ok header := headerLine_ok_iff.mpr isHeader
    rw [List.cons_append, headerSection, if_neg (by simp [ink]), first]
    simp only [ih]

theorem headerSection_ok_iff {number : Nat} {lines body : List Text}
    {headers : List (Text × Text)} :
    headerSection number lines = .ok (headers, body) ↔ IsSection lines headers body := by
  constructor
  · exact isSection_of_headerSection
  · rintro ⟨headerLines, rest, rfl, each, ends⟩
    refine headerSection_append each (fun start => ?_) number
    rcases ends with ⟨rfl, rfl⟩ | ⟨blank, rfl, isBlank⟩
    · rfl
    · rw [headerSection, if_pos isBlank]

/-! ### Whole texts -/

theorem firstLine?_eq_none_iff {number : Nat} {lines : List Text} :
    firstLine? number lines = none ↔ ∀ line ∈ lines, line.isBlank = true := by
  induction lines generalizing number with
  | nil => simp [firstLine?]
  | cons line rest ih =>
    rw [firstLine?, List.forall_mem_cons]
    split
    next blank => rw [ih, and_iff_right blank]
    next ink => simp [ink]

theorem isRequestFile_of_parse {t : Text} {r : Request} (read : parse t = .ok r) :
    IsRequestFile t.lines r := by
  have file := requestFile t
  rw [read] at file
  cases file with
  | bare first looks head =>
    obtain ⟨blanks, eq, allBlank, _⟩ := firstLine?_eq_some_iff.mp first
    have isHead := requestLine_ok_iff.mp head
    exact ⟨blanks, _, [], [], [], eq, allBlank, isHead, .inl ⟨rfl, rfl, rfl⟩,
      NameMap.holdsLast_ofList [], rfl⟩
  | whole first looks head empty reads =>
    obtain ⟨blanks, eq, allBlank, _⟩ := firstLine?_eq_some_iff.mp first
    have isHead := requestLine_ok_iff.mp head
    -- The number of the first line matters for errors only.
    have isSection := headerSection_ok_iff.mp (reads 0)
    exact ⟨blanks, _, _, _, _, eq, allBlank, isHead, .inr ⟨_, _, rfl, empty, isSection⟩,
      NameMap.holdsLast_ofList _, rfl⟩

theorem parse_of_isRequestFile {t : Text} {r : Request} (file : IsRequestFile t.lines r) :
    parse t = .ok r := by
  obtain ⟨blanks, line, rest, headers, body, eq, allBlank, isHead, remainder, holds, joined⟩ := file
  obtain ⟨method, url, entries, text⟩ := r
  obtain rfl : entries = .ofList headers := NameMap.holdsLast_iff.mp holds
  obtain rfl : text = Text.joinLines body := joined
  -- A request line is not blank, so it is the first line that the reader stops at.
  have first : firstLine? 1 t.lines = some (1 + blanks.length, line, rest) :=
    firstLine?_eq_some_iff.mpr ⟨blanks, eq, allBlank, isHead.not_isBlank, rfl⟩
  have head : requestLine (1 + blanks.length) line = .ok (method, url) :=
    requestLine_ok_iff.mpr isHead
  rcases remainder with ⟨rfl, rfl, rfl⟩ | ⟨blank, after, rfl, empty, isSection⟩
  · simp only [parse, first, head]
    rfl
  · have reads : headerSection (1 + blanks.length + 2) after = .ok (headers, body) :=
      headerSection_ok_iff.mpr isSection
    simp only [parse, first, head, empty, if_true, reads]

/-- A text that has all the parts of a request file is one, or its URL is at fault. -/
theorem parse_of_parts {t line method url : Text} {blanks rest body : List Text}
    {headers : List (Text × Text)} (lines : t.lines = blanks ++ line :: rest)
    (allBlank : ∀ blank ∈ blanks, blank.isBlank = true) (pair : line.IsPair method url)
    (verb : ∃ verb : Method, Text.equalsIgnoringCase verb.name.toList method = true)
    (remainder : IsRemainder rest headers body) :
    parse t =
      match Url.validate url with
      | .ok () => .ok ⟨method, url, .ofList headers, Text.joinLines body⟩
      | .error reason => .error (.invalidUrl url (1 + blanks.length) reason) := by
  cases valid : Url.validate url with
  | ok _ =>
    exact parse_of_isRequestFile ⟨blanks, line, rest, headers, body, lines, allBlank,
      ⟨pair, verb, valid⟩, remainder, NameMap.holdsLast_ofList headers, rfl⟩
  | error reason =>
    have first : firstLine? 1 t.lines = some (1 + blanks.length, line, rest) :=
      firstLine?_eq_some_iff.mpr ⟨blanks, lines, allBlank, pair.not_isBlank, rfl⟩
    simp only [parse, first, requestLine_of_isPair pair verb, valid]

theorem parse_eq_emptyRequest_iff_blank {t : Text} :
    parse t = .error .emptyRequest ↔ ∀ line ∈ t.lines, line.isBlank = true := by
  have blank : (∀ line ∈ t.lines, line.isBlank = true) ↔ firstLine? 1 t.lines = none :=
    firstLine?_eq_none_iff.symm
  rw [blank]
  constructor
  · intro nothing
    have file := requestFile t
    rw [nothing] at file
    cases file with
    | blank first => exact first
  · intro none
    simp only [parse, none]

/-- A text is read as a request file exactly if its lines are those of one, as the request that they
hold, and there is nothing in it exactly if all its lines are blank. -/
theorem accepts_grammar (t : Text) :
    (∀ r, parse t = .ok r ↔ IsRequestFile (Text.linesOfPieces (Text.splitAll '\n' t)) r) ∧
      (parse t = .error .emptyRequest ↔
        ∀ line ∈ Text.linesOfPieces (Text.splitAll '\n' t), line.isBlank = true) := by
  rw [← Text.lines_eq_linesOfPieces]
  refine ⟨fun r => ⟨isRequestFile_of_parse, parse_of_isRequestFile⟩, ?_⟩
  exact parse_eq_emptyRequest_iff_blank

end HttpCascade.RequestText

import HttpCascade.Proofs.Request.Head

/-!
# Reading what was written

A request with a writable head is read again from its own text, except that its body has lost the
carriage returns in front of line feeds (`parse_render`). So a request survives being written
exactly if its head is writable and no line of its body ends with a carriage return
(`parse_render_iff`).
-/

namespace HttpCascade

namespace Request

/-- The request line without its ending. -/
def requestLineText (r : Request) : Text := r.method ++ ' ' :: r.url

/-- A header line without its ending. -/
def headerText (header : Text × Text) : Text := header.1 ++ ':' :: ' ' :: header.2

theorem render_eq (r : Request) :
    r.render = r.requestLineText ++ '\n' :: '\n' ::
      (r.headers.entries.flatMap (fun header => headerText header ++ ['\n']) ++
        (if r.body = [] then [] else '\n' :: (r.body ++ ['\n']))) := by
  simp [render, requestLineText, headerText, headerLine]

end Request

namespace WritableHeader

variable {header : Text × Text}

theorem lf_not_mem_text (writable : WritableHeader header) :
    '\n' ∉ Request.headerText header := by
  simp [Request.headerText, writable.name.onOneLine, writable.value.onOneLine]

theorem text_keeps_end (writable : WritableHeader header) :
    (Request.headerText header).getLast? ≠ some '\r' := by
  intro returned
  rw [Request.headerText, List.getLast?_append_cons, List.getLast?_cons_cons] at returned
  cases value : header.2 with
  | nil => simp [value] at returned
  | cons c rest =>
    have last : header.2.getLast? = some '\r' := by
      rw [value, ← returned, value, List.getLast?_cons_cons]
    have ink := (Text.trim_eq_self_iff.mp writable.value.trimmed).2 '\r' last
    simp [isSpace_cr] at ink

theorem text_not_blank (writable : WritableHeader header) :
    (Request.headerText header).isBlank = false := by
  obtain ⟨c, rest, eq⟩ := List.exists_cons_of_ne_nil writable.name.nonempty
  have ink := (Text.trim_eq_self_iff.mp writable.name.trimmed).1 c (by simp [eq])
  exact Text.not_isBlank_of_mem (by simp [Request.headerText, eq]) ink

/-- A written header is read as the header that it was. -/
theorem read_text (writable : WritableHeader header) (number : Nat) :
    RequestText.headerLine number (Request.headerText header) = .ok header := by
  have cut : (Request.headerText header).splitOnce ':' = some (header.1, ' ' :: header.2) :=
    Text.splitOnce_eq_some_iff.mpr ⟨rfl, writable.name.withoutColon⟩
  have value : Text.trim (' ' :: header.2) = header.2 := by
    rw [Text.trim_cons_space header.2 (by decide), writable.value.trimmed]
  apply RequestText.headerLine_eq_ok_iff.mpr
  refine ⟨header.1, ' ' :: header.2, cut, ?_, writable.name.trimmed, value⟩
  rw [writable.name.trimmed]
  exact writable.name.nonempty

end WritableHeader

namespace RequestText

/-! ### Sections -/

/-- Written headers are lines of their own. -/
theorem lines_headers {headers : List (Text × Text)} (rest : Text)
    (writable : ∀ header ∈ headers, WritableHeader header) :
    Text.lines (headers.flatMap (fun header => Request.headerText header ++ ['\n']) ++ rest) =
      headers.map Request.headerText ++ rest.lines := by
  induction headers with
  | nil => rfl
  | cons header others ih =>
    have first := writable header List.mem_cons_self
    have tail := ih fun h member => writable h (List.mem_cons_of_mem _ member)
    simp only [List.flatMap_cons, List.append_assoc, List.map_cons, List.cons_append,
      List.nil_append]
    rw [Text.lines_append_lf _ first.lf_not_mem_text, tail,
      Text.dropCr_eq_self_iff.mpr first.text_keeps_end]

/-- Header lines are read as the headers that they were written for, up to where the section
ends. -/
theorem headerSection_written {headers : List (Text × Text)} {number : Nat} {rest body : List Text}
    (writable : ∀ header ∈ headers, WritableHeader header)
    (ending : rest = [] ∧ body = [] ∨ rest = [] :: body) :
    headerSection number (headers.map Request.headerText ++ rest) = .ok (headers, body) := by
  induction headers generalizing number with
  | nil => rcases ending with ⟨rfl, rfl⟩ | rfl <;> rfl
  | cons header others ih =>
    have first := writable header List.mem_cons_self
    have tail : headerSection (number + 1) (others.map Request.headerText ++ rest) =
        .ok (others, body) := ih fun h member => writable h (List.mem_cons_of_mem _ member)
    simp only [List.map_cons, List.cons_append]
    rw [headerSection, if_neg (by simp [first.text_not_blank]), first.read_text]
    simp only [tail]

/-! ### Whole requests -/

/-- The lines of a written request with a writable head. -/
theorem lines_render {r : Request} (head : WritableHead r) :
    r.render.lines = r.requestLineText :: [] :: (r.headers.entries.map Request.headerText ++
      (if r.body = [] then [] else [] :: Text.lines (r.body ++ ['\n']))) := by
  have methodSolid := (Method.isSolid_of_ofText? head.verb).2
  have solid : ∀ c ∈ r.requestLineText, c = ' ' ∨ isSpace c = false := by
    intro c member
    simp only [Request.requestLineText, List.mem_append, List.mem_cons] at member
    rcases member with inMethod | space | inUrl
    · exact Or.inr (methodSolid c inMethod)
    · exact Or.inl space
    · exact Or.inr (head.urlSolid c inUrl)
  have oneLine : '\n' ∉ r.requestLineText := by
    intro member
    have := solid '\n' member
    simp [isSpace_lf] at this
  have keepsEnd : r.requestLineText.getLast? ≠ some '\r' := by
    intro last
    have := solid '\r' (List.mem_of_getLast? last)
    simp [isSpace_cr] at this
  rw [Request.render_eq, Text.lines_append_lf _ oneLine, Text.dropCr_eq_self_iff.mpr keepsEnd,
    Text.lines_lf, lines_headers _ head.headers]
  split
  · rfl
  · rw [Text.lines_lf]

/-- A written request is read again, its body without the carriage returns at the ends of lines. -/
theorem parse_render {r : Request} (head : WritableHead r) :
    parse r.render = .ok { r with body := Text.joinLines (Text.lines (r.body ++ ['\n'])) } := by
  obtain ⟨methodNonempty, methodSolid⟩ := Method.isSolid_of_ofText? head.verb
  have first : firstLine? 1 r.render.lines = some (1, r.requestLineText, r.render.lines.tail) := by
    obtain ⟨c, more, eq⟩ := List.exists_cons_of_ne_nil methodNonempty
    have inMethod : c ∈ r.method := by simp [eq]
    have notBlank : r.requestLineText.isBlank = false :=
      Text.not_isBlank_of_mem (by simp [Request.requestLineText, inMethod]) (methodSolid c inMethod)
    simp [lines_render head, firstLine?, notBlank]
  have requestLine : requestLine 1 r.requestLineText = .ok (r.method, r.url) :=
    requestLine_eq_ok_iff.mpr ⟨Text.words_pair ⟨methodNonempty, head.urlNonempty⟩
      ⟨methodSolid, head.urlSolid⟩ (by decide), head.verb, head.urlValid⟩
  -- Without a body the empty line after the headers is missing too.
  have contents (number : Nat) : ∃ body, headerSection number (r.headers.entries.map
      Request.headerText ++ (if r.body = [] then [] else [] :: Text.lines (r.body ++ ['\n']))) =
        .ok (r.headers.entries, body) ∧
      Text.joinLines body = Text.joinLines (Text.lines (r.body ++ ['\n'])) := by
    by_cases empty : r.body = []
    · refine ⟨[], ?_, by rw [empty]; rfl⟩
      rw [if_pos empty]
      exact headerSection_written head.headers (Or.inl ⟨rfl, rfl⟩)
    · refine ⟨_, ?_, rfl⟩
      rw [if_neg empty]
      exact headerSection_written head.headers (Or.inr rfl)
  obtain ⟨body, isSection, bodyEq⟩ := contents 3
  have blank : Text.isBlank [] = true := rfl
  rw [parse, first]
  simp only [requestLine, lines_render head, List.tail_cons, blank, if_true, isSection,
    NameMap.ofList_entries, bodyEq]

/-- Exactly the requests with a writable head and a body without carriage returns at the ends of
its lines survive being written. -/
theorem parse_render_iff {r : Request} :
    parse r.render = .ok r ↔
      WritableHead r ∧ ∀ line ∈ Text.splitAll '\n' r.body, line.getLast? ≠ some '\r' := by
  rw [← Text.joinLines_lines_iff]
  constructor
  · intro survives
    have head := writableHead_of_parse survives
    rw [parse_render head, Except.ok.injEq] at survives
    exact ⟨head, congrArg Request.body survives⟩
  · rintro ⟨head, body⟩
    rw [parse_render head, body]

/-- A request, however it came about, is read again from its own text exactly if its method is a
verb, its URL a valid word, every name and value of a header stands trimmed on one line with no
colon in the name, and no line of the body ends with a carriage return. -/
theorem reads_back_iff (r : Request) :
    parse r.render = .ok r ↔
      (∃ verb, r.verb? = some verb) ∧
      (r.url ≠ [] ∧ r.url.IsSolid ∧ Url.validate r.url = .ok ()) ∧
      (∀ name value, r.headers.get? name = some value →
        (name ≠ [] ∧ name.trim = name ∧ ':' ∉ name ∧ '\n' ∉ name) ∧
          value.trim = value ∧ '\n' ∉ value) ∧
      ∀ line ∈ Text.splitAll '\n' r.body, line.getLast? ≠ some '\r' := by
  rw [parse_render_iff]
  constructor
  · rintro ⟨head, body⟩
    refine ⟨Option.isSome_iff_exists.mp head.verb,
      ⟨head.urlNonempty, head.urlSolid, head.urlValid⟩, fun name value found => ?_, body⟩
    obtain ⟨⟨nonempty, trimmed, noColon, oneLine⟩, valueTrimmed, valueOneLine⟩ :=
      head.headers (name, value) (NameMap.get?_eq_some_iff.mp found)
    exact ⟨⟨nonempty, trimmed, noColon, oneLine⟩, valueTrimmed, valueOneLine⟩
  · rintro ⟨verb, ⟨nonempty, solid, valid⟩, headers, body⟩
    refine ⟨⟨Option.isSome_iff_exists.mpr verb, nonempty, solid, valid, ?_⟩, body⟩
    rintro ⟨name, value⟩ member
    obtain ⟨⟨nameNonempty, trimmed, noColon, oneLine⟩, valueTrimmed, valueOneLine⟩ :=
      headers name value (NameMap.get?_eq_some_iff.mpr member)
    exact ⟨⟨nameNonempty, trimmed, noColon, oneLine⟩, valueTrimmed, valueOneLine⟩

/-- Exactly the requests with a writable head have a text with the same head. -/
theorem head_survives_iff {r : Request} :
    (∃ again, parse r.render = .ok again ∧ again.method = r.method ∧ again.url = r.url ∧
      again.headers = r.headers) ↔ WritableHead r := by
  constructor
  · rintro ⟨again, reads, method, url, headers⟩
    obtain ⟨verb, nonempty, solid, valid, writable⟩ := writableHead_of_parse reads
    rw [Request.verb?, method] at verb
    rw [url] at nonempty solid valid
    rw [headers] at writable
    exact ⟨verb, nonempty, solid, valid, writable⟩
  · intro head
    exact ⟨_, parse_render head, rfl, rfl, rfl⟩

/-- A request that was read and is given a body is read again from its text exactly if no line of
that body ends with a carriage return. -/
theorem parse_render_withBody_iff {t : Text} {r : Request} (accepted : parse t = .ok r)
    (body : Text) :
    parse ({ r with body } : Request).render = .ok { r with body } ↔
      ∀ line ∈ Text.splitAll '\n' body, line.getLast? ≠ some '\r' := by
  obtain ⟨verb, nonempty, solid, valid, headers⟩ := writableHead_of_parse accepted
  have head : WritableHead { r with body } := ⟨verb, nonempty, solid, valid, headers⟩
  rw [parse_render_iff]
  exact and_iff_right head

/-- Blank lines, line feeds at the end and carriage returns inside of a line are kept. -/
theorem parse_render_withBody_blank_lines :
    let headers : Headers := .ofList [("X", "1:2"), ("x", [])]
    parse "\nput /a?b={{c}}\n \nX : 1:2 \nx:" = .ok ⟨"put", "/a?b={{c}}", headers, []⟩ ∧
    parse (Request.render ⟨"put", "/a?b={{c}}", headers, "\n a\rb: c\n\n"⟩) =
      .ok ⟨"put", "/a?b={{c}}", headers, "\n a\rb: c\n\n"⟩ :=
  have accepted : parse "\nput /a?b={{c}}\n \nX : 1:2 \nx:" =
      .ok ⟨"put", "/a?b={{c}}", .ofList [("X", "1:2"), ("x", [])], []⟩ := by decide
  ⟨accepted, (parse_render_withBody_iff accepted "\n a\rb: c\n\n").mpr (by decide)⟩

/-- Not even the body that was read is always kept: of two carriage returns before a line feed one
belongs to the body, and its text ends in a carriage return and a line feed again. -/
theorem not_every_body_reads_back :
    ¬ ∀ (t : Text) (r : Request), parse t = .ok r →
      ∀ body : Text, parse ({ r with body } : Request).render = .ok { r with body } := by
  intro all
  have accepted : parse "GET /\n\n\na\r\r\n" = .ok ⟨"GET", "/", ∅, "a\r"⟩ := by decide
  have kept := all _ _ accepted "a\r"
  revert kept
  decide

end RequestText

end HttpCascade

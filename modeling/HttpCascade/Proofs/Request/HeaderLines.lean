import HttpCascade.Proofs.Request.Endings
import HttpCascade.Proofs.Request.Patch

/-!
# The same header lines in three places

Header lines may be a headers file, stand after the request line of a request file, or be a patch
without a request line. What is read of them is the same in all three places, and so is a fault,
whose line is numbered from where the text starts (`headers_are_read_alike`).
-/

namespace HttpCascade.RequestText

variable {head t : Text} {r : Request}

theorem requestLine_of_parse (accepted : parse head = .ok r) :
    ∃ number line rest, firstLine? 1 head.lines = some (number, line, rest) ∧
      requestLine number line = .ok (r.method, r.url) := by
  have file := requestFile head
  rw [accepted] at file
  cases file with
  | bare first _ isHead => exact ⟨_, _, _, first, isHead⟩
  | whole first _ isHead _ _ => exact ⟨_, _, _, first, isHead⟩

/-- A request file of one line is a request line, with or without a carriage return at its end. -/
theorem requestLine_of_oneLine (oneLine : '\n' ∉ head) (accepted : parse head = .ok r) :
    requestLine 1 head.dropCr = .ok (r.method, r.url) := by
  obtain ⟨number, line, rest, first, isHead⟩ := requestLine_of_parse accepted
  obtain ⟨blanks, lines, _⟩ := firstLine?_eq_some_iff.mp first
  rw [Text.lines_of_lf_not_mem oneLine] at lines
  obtain rfl : line = head := by
    split at lines
    · simp at lines
    · -- there is no place for another line before this one
      cases blanks with
      | nil => exact (List.cons.inj lines).1.symm
      | cons blank more => simp at lines
  rw [requestLine_eq_ok_iff] at isHead ⊢
  rwa [Text.words_dropCr]

/-! ### What is read of header lines -/

/-- A headers file, a request file with a head before the same lines, and a patch of these lines
have the same headers, or fail at the same header. -/
theorem header_lines_cases (isHead : requestLine 1 head.dropCr = .ok (r.method, r.url))
    (oneLine : '\n' ∉ head) (t : Text) :
    (∃ headers body, parseHeaders t = .ok headers ∧
      parse (head ++ '\n' :: '\n' :: t) = .ok ⟨r.method, r.url, headers, body⟩ ∧
      contents none none 1 t.lines = .ok ⟨none, none, headers, body⟩) ∨
    ∃ header line, parseHeaders t = .error (.invalidHeader header line) ∧
      parse (head ++ '\n' :: '\n' :: t) = .error (.invalidHeader header (line + 2)) ∧
      contents none none 1 t.lines = .error (.invalidHeader header line) := by
  rw [parse_append_head oneLine isHead, parseHeaders, contents]
  rcases headerSection_cases t.lines with ⟨headers, body, reads⟩ | ⟨header, offset, fails⟩
  · left
    refine ⟨.ofList headers, Text.joinLines body, ?_, ?_, ?_⟩ <;> rw [reads]
    rfl
  · right
    have moved : 1 + offset + 2 = 3 + offset := by omega
    refine ⟨header, 1 + offset, ?_, ?_, ?_⟩ <;> rw [fails]
    rw [moved]
    rfl

/-- A text whose first line is neither blank nor a request line is header lines as a patch. -/
theorem parsePatch_of_headers {first : Text} {rest : List Text} (lines : t.lines = first :: rest)
    (ink : first.isBlank = false) (looks : looksLikeRequestLine first = false) :
    parsePatch t = contents none none 1 t.lines := by
  simp only [parsePatch, lines, firstLine?, ink, looks, Bool.false_eq_true, if_false]

/-- After a request line and an empty line the header lines of a text are read as in a headers file,
two lines further down; if the text starts with a header, they are read alike as a patch, in the
same lines. -/
theorem headers_are_read_alike (oneLine : '\n' ∉ head) (accepted : parse head = .ok r) (t : Text) :
    (∀ headers, parseHeaders t = .ok headers ↔
      ∃ file, parse (head ++ '\n' :: '\n' :: t) = .ok file ∧ file.headers = headers) ∧
    (∀ header line, parseHeaders t = .error (.invalidHeader header line) ↔
      parse (head ++ '\n' :: '\n' :: t) = .error (.invalidHeader header (line + 2))) ∧
    ∀ first rest, t.lines = first :: rest → first.isBlank = false →
      looksLikeRequestLine first = false →
      (∀ headers, parseHeaders t = .ok headers ↔
        ∃ p, parsePatch t = .ok p ∧ p.headers = headers ∧ p.method = none ∧ p.url = none) ∧
      ∀ header line, parseHeaders t = .error (.invalidHeader header line) ↔
        parsePatch t = .error (.invalidHeader header line) := by
  have isHead := requestLine_of_oneLine oneLine accepted
  rcases header_lines_cases isHead oneLine t with
    ⟨headers, body, inFile, inRequest, inPatch⟩ | ⟨header, line, inFile, inRequest, inPatch⟩
  · rw [inFile, inRequest]
    refine ⟨by simp, by simp, fun first rest lines ink looks => ?_⟩
    rw [parsePatch_of_headers lines ink looks, inPatch]
    simp
  · rw [inFile, inRequest]
    refine ⟨by simp, by simp, fun first rest lines ink looks => ?_⟩
    rw [parsePatch_of_headers lines ink looks, inPatch]
    simp

/-- A head with white space around it, a name that is written twice and a bad line. -/
theorem headers_are_read_alike_bad_line :
    let head : Text := " put\thttp://h \r"
    let t : Text := "A: 1\r\nB :2\nA:3\nno header\n\n"
    '\n' ∉ head ∧ parse head = .ok (Request.bare "put" "http://h") ∧
    t.lines = ["A: 1".toList, "B :2".toList, "A:3".toList, "no header".toList, []] ∧
    parseHeaders t = .error (.invalidHeader "no header" 4) ∧
    parse (head ++ '\n' :: '\n' :: t) = .error (.invalidHeader "no header" 6) ∧
    parsePatch t = .error (.invalidHeader "no header" 4) := by
  intro head t
  have oneLine : '\n' ∉ head := by decide
  have accepted : parse head = .ok (Request.bare "put" "http://h") := by decide +kernel
  have lines : t.lines =
      ["A: 1".toList, "B :2".toList, "A:3".toList, "no header".toList, []] := by decide
  have fails : parseHeaders t = .error (.invalidHeader "no header" 4) := by decide +kernel
  obtain ⟨_, inRequest, rest⟩ := headers_are_read_alike oneLine accepted t
  obtain ⟨_, inPatch⟩ := rest _ _ lines (by decide) (by decide)
  exact ⟨oneLine, accepted, lines, fails, (inRequest _ _).mp fails, (inPatch _ _).mp fails⟩

end HttpCascade.RequestText

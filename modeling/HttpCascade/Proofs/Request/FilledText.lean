import HttpCascade.Proofs.Request.Filling
import HttpCascade.Proofs.Request.Grammar
import HttpCascade.Proofs.Template.Layout

/-!
# Filling before or after reading

A headers file is filled as a text before it is read, while a request file is read first and then
filled part by part. With inline values both orders come to the same, as long as no placeholder
stands in the name of a header: the filled text has the grammar of the text, with every part filled.

## Main results

`headers_of_filled_text`: the headers of a filled headers file are those of the file, filled.
`request_of_filled_text`: the request of a filled request file is that of the file, filled, if its
filled URL is valid; otherwise that URL is at fault, in the line of the request line.
-/

namespace HttpCascade

open Template (filled FillsWith FillsInline)

variable {values : Variables}

/-- A header with its value filled. -/
def filledHeader (values : Variables) (header : Text × Text) : Text × Text :=
  (header.1, filled values header.2)

theorem Request.fillsHeaders_ofList {headers : List (Text × Text)}
    (inline : ∀ header ∈ headers, FillsInline values header.2) :
    FillsHeaders values (.ofList headers) (.ofList (headers.map (filledHeader values))) := by
  intro name
  rw [NameMap.get?_ofList, NameMap.get?_ofList, ← List.map_reverse]
  refine NameMap.lookup_rel (List.forall₂_map_right_iff.mpr (List.forall₂_same.mpr ?_)) name
  intro header member
  exact ⟨rfl, (inline header (List.mem_reverse.mp member)).expand_eq⟩

/-- A request made of header entries is filled part by part. -/
theorem Request.expand_of_inline {r : Request} {headers : List (Text × Text)}
    (made : r.headers = .ofList headers) (inUrl : FillsInline values r.url)
    (inValues : ∀ header ∈ headers, FillsInline values header.2)
    (inBody : FillsInline values r.body) :
    r.expand values true = .ok ⟨r.method, filled values r.url,
      .ofList (headers.map (filledHeader values)), filled values r.body⟩ := by
  refine expand_eq_ok_iff.mpr ⟨rfl, inUrl.expand_eq, ?_, ?_⟩
  · rw [made]
    exact fillsHeaders_ofList inValues
  · rw [fillBody_eq_ok_iff, if_pos rfl]
    exact inBody.expand_eq

namespace RequestText

/-! ### Headers -/

theorem IsHeaderLine.filled {line : Text} {header : Text × Text}
    (isHeader : IsHeaderLine line header) (inline : FillsInline values line)
    (plain : placeholderNames header.1 = []) :
    IsHeaderLine (filled values line) (filledHeader values header) ∧
      FillsInline values header.2 := by
  obtain ⟨before, after, rfl, free, ink, rfl⟩ := isHeader
  have separates := Template.isSeparator_colon
  obtain ⟨_, inAfter⟩ := (Template.fillsWith_append_separator separates).mp inline
  have kept : Template.filled values before = before :=
    Template.filled_of_no_names (Template.names_trim_eq_nil_iff.mp plain)
  refine ⟨⟨before, Template.filled values after, ?_, free, ink, ?_⟩, inAfter.trim⟩
  · rw [Template.filled_append_separator separates, kept]
  · rw [Template.trim_filled inAfter]
    rfl

theorem headerLines_filled {lines : List Text} {headers : List (Text × Text)}
    (each : List.Forall₂ IsHeaderLine lines headers)
    (inline : ∀ line ∈ lines, FillsInline values line)
    (plain : ∀ header ∈ headers, placeholderNames header.1 = []) :
    List.Forall₂ IsHeaderLine (lines.map (filled values)) (headers.map (filledHeader values)) ∧
      ∀ header ∈ headers, FillsInline values header.2 := by
  induction each with
  | nil => exact ⟨.nil, by simp⟩
  | cons isHeader _ ih =>
    obtain ⟨inLine, inRest⟩ := List.forall_mem_cons.mp inline
    obtain ⟨plainName, plainRest⟩ := List.forall_mem_cons.mp plain
    obtain ⟨first, inValue⟩ := isHeader.filled inLine plainName
    obtain ⟨others, inValues⟩ := ih inRest plainRest
    exact ⟨.cons first others, List.forall_mem_cons.mpr ⟨inValue, inValues⟩⟩

/-- The lines of a section, each of them filled, are a section with the values and the body filled. -/
theorem IsSection.filled {lines body : List Text} {headers : List (Text × Text)}
    (isSection : IsSection lines headers body)
    (inline : ∀ line ∈ lines, FillsInline values line)
    (plain : ∀ header ∈ headers, placeholderNames header.1 = []) :
    IsSection (lines.map (filled values)) (headers.map (filledHeader values))
        (body.map (filled values)) ∧
      (∀ header ∈ headers, FillsInline values header.2) ∧
      ∀ line ∈ body, FillsInline values line := by
  obtain ⟨headerLines, rest, rfl, each, ends⟩ := isSection
  obtain ⟨inHeaders, inRest⟩ := List.forall_mem_append.mp inline
  obtain ⟨eachFilled, inValues⟩ := headerLines_filled each inHeaders plain
  rcases ends with ⟨rfl, rfl⟩ | ⟨blank, rfl, isBlank⟩
  · exact ⟨⟨_, [], by simp, eachFilled, .inl ⟨rfl, rfl⟩⟩, inValues, by simp⟩
  · obtain ⟨inBlank, inBody⟩ := List.forall_mem_cons.mp inRest
    refine ⟨⟨_, _, List.map_append, eachFilled, .inr ⟨_, List.map_cons, ?_⟩⟩, inValues, inBody⟩
    rw [Template.isBlank_filled inBlank, isBlank]

theorem parseHeaders_eq_ok_iff {t : Text} {headers : Headers} :
    parseHeaders t = .ok headers ↔
      ∃ entries body, IsSection t.lines entries body ∧ headers = .ofList entries := by
  simp only [← @headerSection_ok_iff 1]
  unfold parseHeaders
  constructor
  · intro read
    split at read
    · cases read
    next entries body isSection =>
      cases read
      exact ⟨entries, body, isSection, rfl⟩
  · rintro ⟨entries, body, isSection, rfl⟩
    simp only [isSection]

/-- The names of a map are those of the entries that it was made of. -/
theorem plain_entries {entries : List (Text × Text)} {headers : Headers}
    (made : headers = .ofList entries)
    (plain : ∀ name value, headers.get? name = some value → placeholderNames name = []) :
    ∀ header ∈ entries, placeholderNames header.1 = [] := by
  intro header member
  obtain ⟨value, found⟩ := NameMap.exists_get?_ofList member
  exact plain header.1 value (made ▸ found)

/-- If all names in a headers file have inline values and no header name holds a placeholder, the
filled file has the headers of the file with their values filled. -/
theorem headers_of_filled_text {t : Text} {headers : Headers} {values : Variables}
    (read : parseHeaders t = .ok headers)
    (plain : ∀ name value, headers.get? name = some value → placeholderNames name = [])
    (defined : ∀ name ∈ placeholderNames t,
      ∃ value, values.get? name = some value ∧ value.IsInline) :
    ∃ text after, expand t values = .ok text ∧ parseHeaders text = .ok after ∧
      Request.FillsHeaders values headers after := by
  have inline : FillsInline values t := Template.fillsWith_iff.mpr defined
  obtain ⟨entries, body, isSection, made⟩ := parseHeaders_eq_ok_iff.mp read
  obtain ⟨sectionFilled, inValues, _⟩ := isSection.filled inline.lines (plain_entries made plain)
  rw [← Template.lines_filled inline] at sectionFilled
  subst made
  exact ⟨_, _, inline.expand_eq,
    parseHeaders_eq_ok_iff.mpr ⟨_, _, sectionFilled, rfl⟩, Request.fillsHeaders_ofList inValues⟩

/-- Values with colons, spaces and braces inside, a name that is written twice, and text after the
headers. -/
theorem headers_of_filled_text_two_lines :
    let t : Text := "A: {{x}}\r\n b :{{x}} {{y}}\nA: {{{x}}}\n \n{{y}} is no header"
    let headers : Headers := .ofList [("A", "{{{x}}}"), ("b", "{{x}} {{y}}")]
    let values : Variables := .ofList [("x", "1: 2"), ("y", "{{x}}")]
    parseHeaders t = .ok headers ∧
    (∀ name value, headers.get? name = some value → placeholderNames name = []) ∧
    (∀ name ∈ placeholderNames t, ∃ value, values.get? name = some value ∧ value.IsInline) ∧
    ∃ text after, expand t values = .ok text ∧ parseHeaders text = .ok after ∧
      Request.FillsHeaders values headers after := by
  intro t headers values
  have read : parseHeaders t = .ok headers := by decide
  have plain : ∀ name value, headers.get? name = some value → placeholderNames name = [] := by
    intro name value found
    have each : ∀ entry ∈ headers.entries, placeholderNames entry.1 = [] := by decide
    exact each _ (NameMap.get?_eq_some_iff.mp found)
  have defined : ∀ name ∈ placeholderNames t,
      ∃ value, values.get? name = some value ∧ value.IsInline := by
    have names : placeholderNames t = [['x'], ['y']] := by decide
    rw [names]
    intro name member
    simp only [List.mem_cons, List.not_mem_nil, or_false] at member
    rcases member with rfl | rfl
    · exact ⟨"1: 2", by decide, by decide, by decide, by decide⟩
    · exact ⟨"{{x}}", by decide, by decide, by decide, by decide⟩
  exact ⟨read, plain, defined, headers_of_filled_text read plain defined⟩

/-! ### Request files -/

/-- No verb holds a brace. -/
theorem names_of_verb {method : Text}
    (verb : ∃ verb : Method, Text.equalsIgnoringCase verb.name.toList method = true) :
    placeholderNames method = [] := by
  obtain ⟨verb, same⟩ := verb
  have lowered : verb.name.toList.map Char.toLower = method.map Char.toLower := beq_iff_eq.mp same
  apply Template.names_of_no_braces
  apply Bool.eq_false_iff.mpr
  intro braces
  have brace : '{' ∈ method := (Template.occursIn_iff.mp braces).mem (by simp)
  have inVerb : '{' ∈ verb.name.toList.map Char.toLower := by
    rw [lowered]
    exact List.mem_map.mpr ⟨'{', brace, by decide⟩
  revert inVerb
  cases verb <;> decide

/-- A line of a verb and a URL stays one if what the URL is filled with holds no white space. -/
theorem verbAndUrl_filled {line method url : Text} (pair : line.IsPair method url)
    (verb : ∃ verb : Method, Text.equalsIgnoringCase verb.name.toList method = true)
    (inline : FillsInline values url) (solid : FillsWith Text.IsSolid values url) :
    (filled values line).IsPair method (filled values url) := by
  have kept : filled values method = method := Template.filled_of_no_names (names_of_verb verb)
  have nonempty : filled values url ≠ [] := inline.sameEdges.eq_nil_iff.not.mpr pair.second.1
  have isPair : (filled values line).IsPair (filled values method) (filled values url) :=
    Template.isPair_filled pair (by rw [kept]; exact pair.first)
      ⟨nonempty, Template.isSolid_filled solid pair.second.2⟩
  rwa [kept] at isPair

theorem IsRemainder.filled {lines body : List Text} {headers : List (Text × Text)}
    (remainder : IsRemainder lines headers body)
    (inline : ∀ line ∈ lines, FillsInline values line)
    (plain : ∀ header ∈ headers, placeholderNames header.1 = []) :
    IsRemainder (lines.map (filled values)) (headers.map (filledHeader values))
        (body.map (filled values)) ∧
      (∀ header ∈ headers, FillsInline values header.2) ∧
      ∀ line ∈ body, FillsInline values line := by
  rcases remainder with ⟨rfl, rfl, rfl⟩ | ⟨blank, rest, rfl, isBlank, isSection⟩
  · exact ⟨.inl ⟨rfl, rfl, rfl⟩, by simp, by simp⟩
  · obtain ⟨inBlank, inRest⟩ := List.forall_mem_cons.mp inline
    obtain ⟨sectionFilled, inValues, inBody⟩ := isSection.filled inRest plain
    refine ⟨.inr ⟨_, _, List.map_cons, ?_, sectionFilled⟩, inValues, inBody⟩
    rw [Template.isBlank_filled inBlank, isBlank]

/-- The line of this number is the first one that is not blank. -/
def StartsAt (t : Text) (number : Nat) : Prop :=
  ∃ blanks line rest, t.lines = blanks ++ line :: rest ∧
    (∀ blank ∈ blanks, blank.isBlank = true) ∧ line.isBlank = false ∧ number = blanks.length + 1

/-- If all names in a request file have values, none of them empty and none with white space, and no
header name holds a placeholder, then the request of the file can be filled, and the filled file has
this request if its URL is valid; otherwise the URL is at fault, where the request line starts. -/
theorem request_of_filled_text {t : Text} {r : Request} {values : Variables}
    (read : parse t = .ok r)
    (plain : ∀ name value, r.headers.get? name = some value → placeholderNames name = [])
    (defined : ∀ name ∈ placeholderNames t,
      ∃ value, values.get? name = some value ∧ value ≠ [] ∧ value.IsSolid) :
    ∃ text after number, expand t values = .ok text ∧ r.expand values true = .ok after ∧
      StartsAt t number ∧
      parse text =
        match Url.validate after.url with
        | .ok () => .ok after
        | .error reason => .error (.invalidUrl after.url number reason) := by
  have words : FillsWith (fun value => value ≠ [] ∧ value.IsSolid) values t :=
    Template.fillsWith_iff.mpr defined
  have inline : FillsInline values t := words.imp fun _ word => .of_isSolid word.1 word.2
  obtain ⟨blanks, line, rest, headers, body, eq, allBlank, isHead, remainder, holds, joined⟩ :=
    isRequestFile_of_parse read
  have made : r.headers = .ofList headers := NameMap.holdsLast_iff.mp holds
  -- Line by line, each part of the file stays what it is when it is filled.
  have inLines := inline.lines
  rw [eq] at inLines
  obtain ⟨inBlanks, inOthers⟩ := List.forall_mem_append.mp inLines
  obtain ⟨inLine, inRest⟩ := List.forall_mem_cons.mp inOthers
  obtain ⟨remainderFilled, inValues, inBody⟩ := remainder.filled inRest (plain_entries made plain)
  have inUrl : FillsInline values r.url := inLine.of_infix isHead.words.second_infix
  have pair : (filled values line).IsPair r.method (filled values r.url) := by
    have wordsInLine := words.lines line (by simp [eq])
    exact verbAndUrl_filled isHead.words isHead.verb inUrl
      ((wordsInLine.of_infix isHead.words.second_infix).imp fun _ word => word.2)
  have linesFilled : (filled values t).lines =
      blanks.map (filled values) ++ filled values line :: rest.map (filled values) := by
    rw [Template.lines_filled inline, eq, List.map_append, List.map_cons]
  have blanksFilled : ∀ blank ∈ blanks.map (filled values), blank.isBlank = true := by
    rw [List.forall_mem_map]
    intro blank member
    rw [Template.isBlank_filled (inBlanks blank member), allBlank blank member]
  have inJoined : FillsInline values r.body := by
    rw [joined]
    exact FillsWith.joinLines inBody
  refine ⟨_, _, blanks.length + 1, inline.expand_eq,
    Request.expand_of_inline made inUrl inValues inJoined,
    ⟨blanks, line, rest, eq, allBlank, isHead.not_isBlank, rfl⟩, ?_⟩
  have parsed := parse_of_parts linesFilled blanksFilled pair isHead.verb remainderFilled
  have sameBody : Text.joinLines body = r.body := joined.symm
  rwa [← Template.filled_joinLines, sameBody, List.length_map, Nat.add_comm] at parsed

/-- Blank lines in front, both kinds of line endings, a name that is written twice, values with
colons and braces, and placeholders in the URL, in headers and in the body. -/
theorem request_of_filled_text_all_parts :
    let t : Text :=
      "\n \r\nput\t {{h}}/{{q}} \r\n\nA: {{q}}\nB: {{h}} {{q}}\r\nA:{{{q}}}\n\n{{h}}\n\n\r {{q}}\r"
    let headers : Headers := .ofList [("A", "{{{q}}}"), ("B", "{{h}} {{q}}")]
    let r : Request := ⟨"put", "{{h}}/{{q}}", headers, "{{h}}\n\n\r {{q}}\r"⟩
    let values : Variables := .ofList [("h", "http://h:80"), ("q", "{{h}}")]
    parse t = .ok r ∧
    (∀ name value, r.headers.get? name = some value → placeholderNames name = []) ∧
    (∀ name ∈ placeholderNames t,
      ∃ value, values.get? name = some value ∧ value ≠ [] ∧ value.IsSolid) ∧
    ∃ text after number, expand t values = .ok text ∧ r.expand values true = .ok after ∧
      StartsAt t number ∧
      parse text =
        match Url.validate after.url with
        | .ok () => .ok after
        | .error reason => .error (.invalidUrl after.url number reason) := by
  intro t headers r values
  have read : parse t = .ok r := by decide +kernel
  have plain : ∀ name value, r.headers.get? name = some value → placeholderNames name = [] := by
    intro name value found
    have each : ∀ entry ∈ headers.entries, placeholderNames entry.1 = [] := by decide
    exact each _ (NameMap.get?_eq_some_iff.mp found)
  have defined : ∀ name ∈ placeholderNames t,
      ∃ value, values.get? name = some value ∧ value ≠ [] ∧ value.IsSolid := by
    have names : placeholderNames t = [['h'], ['q']] := by decide +kernel
    rw [names]
    intro name member
    simp only [List.mem_cons, List.not_mem_nil, or_false] at member
    rcases member with rfl | rfl
    · exact ⟨"http://h:80", by decide, by decide, by decide⟩
    · exact ⟨"{{h}}", by decide, by decide, by decide⟩
  exact ⟨read, plain, defined, request_of_filled_text read plain defined⟩

/-- A URL that was accepted with a placeholder can be filled with one that is not. -/
example : parse "\nGET {{u}}" = .ok (Request.bare "GET" "{{u}}") ∧
    parse "\nGET http://[" = .error (.invalidUrl "http://[" 2 .invalidIpv6) := by
  decide +kernel

end RequestText
end HttpCascade

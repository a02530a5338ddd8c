import HttpCascade.Proofs.Request.Head

/-!
# One text as a request file and as a patch

Both readers look for the first line that is not blank and read header lines with `headerSection`,
whose outcome depends on where it starts in the number of a faulty line only
(`headerSection_cases`). `RequestFile` tells the ways in which a text is read as a request file
apart; in each of them the text is a patch that the request file determines
(`parsePatch_of_parse`).
-/

namespace HttpCascade

/-- A request as a patch that lacks nothing. -/
def Request.toPatch (r : Request) : PartialRequest := ⟨some r.method, some r.url, r.headers, r.body⟩

theorem Request.complete?_toPatch (r : Request) : r.toPatch.complete? = some r := rfl

/-- The headers and the body of a request as a patch. -/
def Request.tailPatch (r : Request) : PartialRequest := ⟨none, none, r.headers, r.body⟩

namespace RequestText

/-- A patch has what a request file has, as far as it is kept, or the same header is at fault in both,
in a line of the patch whose number is by `lost` lower and by `gained` higher. -/
def ReadsAlike (keep : Request → PartialRequest) (lost gained : Nat)
    (file : Except ParseError Request) (patch : Except ParseError PartialRequest) : Prop :=
  (∃ r, file = .ok r ∧ patch = .ok (keep r)) ∨
    ∃ header line moved, file = .error (.invalidHeader header line) ∧
      patch = .error (.invalidHeader header moved) ∧ moved + lost = line + gained

/-! ### Single lines -/

/-- A line that looks like a request line is one, or has a bad URL. -/
theorem requestLine_of_looksLike {line : Text} (number : Nat)
    (looks : looksLikeRequestLine line = true) :
    (∃ method url, requestLine number line = .ok (method, url)) ∨
      ∃ url reason, requestLine number line = .error (.invalidUrl url number reason) := by
  unfold looksLikeRequestLine at looks
  split at looks
  next method url words =>
    have named : (Method.ofText? method).isNone = false := by simpa using looks
    simp only [requestLine, words, named, Bool.false_eq_true, if_false]
    split
    · exact Or.inl ⟨method, url, rfl⟩
    next reason _ => exact Or.inr ⟨url, reason, rfl⟩
  · cases looks

/-- A line that does not look like a request line has not two words, or not a verb in front. -/
theorem requestLine_of_not_looksLike {line : Text} (number : Nat)
    (looks : looksLikeRequestLine line = false) :
    requestLine number line = .error (.invalidRequestLine line.trim number) ∨
      ∃ method, requestLine number line = .error (.invalidMethod method number) := by
  unfold looksLikeRequestLine at looks
  split at looks
  next method url words =>
    have unnamed : (Method.ofText? method).isNone = true := by simpa using looks
    exact Or.inr ⟨method, by simp only [requestLine, words, unnamed, if_true]⟩
  next other =>
    left
    unfold requestLine
    split
    next method url words => exact absurd words (other method url)
    · rfl

theorem headerLine_cases (line : Text) :
    (∃ header, ∀ number, headerLine number line = .ok header) ∨
      ∀ number, headerLine number line = .error (.invalidHeader line.trim number) := by
  unfold headerLine
  split
  next name value _ =>
    split
    · exact Or.inr fun _ => rfl
    · exact Or.inl ⟨(name.trim, value.trim), fun _ => rfl⟩
  · exact Or.inr fun _ => rfl

/-! ### Sections -/

/-- Header lines are read alike wherever they stand; only the number of a bad line moves. -/
theorem headerSection_cases (lines : List Text) :
    (∃ headers body, ∀ number, headerSection number lines = .ok (headers, body)) ∨
      ∃ header offset, ∀ number,
        headerSection number lines = .error (.invalidHeader header (number + offset)) := by
  -- A fault further down is one line farther from the start than from the line after it.
  induction lines with
  | nil => exact Or.inl ⟨[], [], fun _ => rfl⟩
  | cons line rest ih =>
    by_cases blank : line.isBlank = true
    · exact Or.inl ⟨[], rest, fun _ => by rw [headerSection, if_pos blank]⟩
    · rcases headerLine_cases line with ⟨header, isHeader⟩ | bad
      · rcases ih with ⟨headers, body, reads⟩ | ⟨fault, offset, fails⟩
        · refine Or.inl ⟨header :: headers, body, fun number => ?_⟩
          simp only [headerSection, blank, isHeader, reads, if_false, Bool.false_eq_true]
        · refine Or.inr ⟨fault, offset + 1, fun number => ?_⟩
          have moved : number + 1 + offset = number + (offset + 1) := by omega
          simp only [headerSection, blank, isHeader, fails, if_false, Bool.false_eq_true, moved]
      · refine Or.inr ⟨line.trim, 0, fun number => ?_⟩
        simp only [headerSection, blank, bad, if_false, Bool.false_eq_true, Nat.add_zero]

/-- The first line that is not blank comes after blank lines only. -/
theorem firstLine?_eq_some_iff {number found : Nat} {lines rest : List Text} {line : Text} :
    firstLine? number lines = some (found, line, rest) ↔
      ∃ blanks, lines = blanks ++ line :: rest ∧ (∀ b ∈ blanks, b.isBlank = true) ∧
        line.isBlank = false ∧ found = number + blanks.length := by
  induction lines generalizing number with
  | nil => simp [firstLine?]
  | cons head tail ih =>
    rw [firstLine?]
    split
    next blank =>
      -- The blank line joins those before the one found.
      rw [ih]
      constructor
      · rintro ⟨blanks, rfl, allBlank, ink, rfl⟩
        refine ⟨head :: blanks, rfl, List.forall_mem_cons.mpr ⟨blank, allBlank⟩, ink, ?_⟩
        rw [List.length_cons]
        omega
      · rintro ⟨blanks, eq, allBlank, ink, rfl⟩
        cases blanks with
        | nil =>
          obtain ⟨rfl, rfl⟩ := List.cons.inj eq
          simp [blank] at ink
        | cons first others =>
          obtain ⟨rfl, rfl⟩ := List.cons.inj eq
          refine ⟨others, rfl, (List.forall_mem_cons.mp allBlank).2, ink, ?_⟩
          rw [List.length_cons]
          omega
    next ink =>
      simp only [Option.some.injEq, Prod.mk.injEq]
      constructor
      · rintro ⟨rfl, rfl, rfl⟩
        exact ⟨[], rfl, by simp, by simpa using ink, rfl⟩
      · rintro ⟨blanks, eq, allBlank, _, rfl⟩
        cases blanks with
        | nil =>
          obtain ⟨rfl, rfl⟩ := List.cons.inj eq
          exact ⟨rfl, rfl, rfl⟩
        | cons first others =>
          obtain ⟨rfl, rfl⟩ := List.cons.inj eq
          exact absurd (allBlank head List.mem_cons_self) ink

/-- The request of a method, a URL and what `headerSection` read. -/
def withHead (method url : Text) (read : List (Text × Text) × List Text) : Request :=
  ⟨method, url, .ofList read.1, Text.joinLines read.2⟩

/-- Of the same header lines a request file and a patch have the same, wherever the lines stand. -/
theorem readsAlike_of_lines {keep : Request → PartialRequest} {method url : Text}
    {method? url? : Option Text} {lost gained start number : Nat} (lines : List Text)
    (kept : ∀ headers body, keep ⟨method, url, headers, body⟩ = ⟨method?, url?, headers, body⟩)
    (moved : number + lost = start + gained) :
    ReadsAlike keep lost gained ((headerSection start lines).map (withHead method url))
      (contents method? url? number lines) := by
  unfold contents
  rcases headerSection_cases lines with ⟨headers, body, reads⟩ | ⟨header, offset, fails⟩
  · rw [reads, reads]
    exact .inl ⟨_, rfl, congrArg Except.ok (kept _ _).symm⟩
  · rw [fails, fails]
    exact .inr ⟨header, start + offset, number + offset, rfl, rfl, by omega⟩

/-! ### The ways to read a request file -/

/-- How a text is read as a request file. -/
inductive RequestFile (t : Text) : Except ParseError Request → Prop
  | blank (first : firstLine? 1 t.lines = none) : RequestFile t (.error .emptyRequest)
  | notTwoWords {number : Nat} {line : Text} {rest : List Text}
      (first : firstLine? 1 t.lines = some (number, line, rest))
      (looks : looksLikeRequestLine line = false) :
      RequestFile t (.error (.invalidRequestLine line.trim number))
  | noVerb {number : Nat} {line method : Text} {rest : List Text}
      (first : firstLine? 1 t.lines = some (number, line, rest))
      (looks : looksLikeRequestLine line = false) :
      RequestFile t (.error (.invalidMethod method number))
  | badUrl {number : Nat} {line url : Text} {rest : List Text} {reason : UrlError}
      (first : firstLine? 1 t.lines = some (number, line, rest))
      (looks : looksLikeRequestLine line = true)
      (bad : requestLine number line = .error (.invalidUrl url number reason)) :
      RequestFile t (.error (.invalidUrl url number reason))
  | bare {number : Nat} {line method url : Text}
      (first : firstLine? 1 t.lines = some (number, line, []))
      (looks : looksLikeRequestLine line = true)
      (head : requestLine number line = .ok (method, url)) :
      RequestFile t (.ok (.bare method url))
  | noSeparator {number : Nat} {line method url separator : Text} {rest : List Text}
      (first : firstLine? 1 t.lines = some (number, line, separator :: rest))
      (looks : looksLikeRequestLine line = true)
      (head : requestLine number line = .ok (method, url)) (ink : separator.isBlank = false) :
      RequestFile t (.error (.missingSeparator separator (number + 1)))
  | badHeader {number offset : Nat} {line method url separator header : Text} {rest : List Text}
      (first : firstLine? 1 t.lines = some (number, line, separator :: rest))
      (looks : looksLikeRequestLine line = true)
      (head : requestLine number line = .ok (method, url)) (empty : separator.isBlank = true)
      (fails : ∀ start, headerSection start rest = .error (.invalidHeader header (start + offset))) :
      RequestFile t (.error (.invalidHeader header (number + 2 + offset)))
  | whole {number : Nat} {line method url separator : Text} {rest body : List Text}
      {headers : List (Text × Text)}
      (first : firstLine? 1 t.lines = some (number, line, separator :: rest))
      (looks : looksLikeRequestLine line = true)
      (head : requestLine number line = .ok (method, url)) (empty : separator.isBlank = true)
      (reads : ∀ start, headerSection start rest = .ok (headers, body)) :
      RequestFile t (.ok ⟨method, url, .ofList headers, Text.joinLines body⟩)

theorem looksLike_of_requestLine {number : Nat} {line : Text} {head : Text × Text}
    (isHead : requestLine number line = .ok head) : looksLikeRequestLine line = true := by
  apply Bool.of_not_eq_false
  intro looks
  rcases requestLine_of_not_looksLike number looks with bad | ⟨method, bad⟩ <;>
    cases isHead.symm.trans bad

theorem requestFile (t : Text) : RequestFile t (parse t) := by
  unfold parse
  split
  next first => exact .blank first
  next number line rest first =>
    split
    next e bad =>
      -- What is wrong with the line is told by whether it looks like a request line.
      cases looks : looksLikeRequestLine line with
      | false =>
        rcases requestLine_of_not_looksLike number looks with notTwo | ⟨method, unknown⟩
        · cases bad.symm.trans notTwo
          exact .notTwoWords first looks
        · cases bad.symm.trans unknown
          exact .noVerb first looks
      | true =>
        rcases requestLine_of_looksLike number looks with ⟨method, url, isHead⟩ | ⟨url, reason, isBad⟩
        · cases bad.symm.trans isHead
        · cases bad.symm.trans isBad
          exact .badUrl first looks bad
    next method url head =>
      have looks := looksLike_of_requestLine head
      split
      · exact .bare first looks head
      next separator after =>
        split
        next empty =>
          rcases headerSection_cases after with ⟨headers, body, reads⟩ | ⟨header, offset, fails⟩
          · rw [reads]
            exact .whole first looks head empty reads
          · rw [fails]
            exact .badHeader first looks head empty fails
        next ink => exact .noSeparator first looks head (Bool.not_eq_true _ ▸ ink)

/-! ### Two texts for a patch without a separator or a request line -/

theorem firstLine?_insertLine {t : Text} {number : Nat} {line next : Text} {rest : List Text}
    (first : firstLine? 1 t.lines = some (number, line, next :: rest)) :
    firstLine? 1 (t.insertLine number).lines = some (number, line, [] :: next :: rest) := by
  obtain ⟨blanks, eq, allBlank, ink, rfl⟩ := firstLine?_eq_some_iff.mp first
  have cut : t.lines = (blanks ++ [line]) ++ next :: rest := by simp [eq]
  have length : (blanks ++ [line]).length = 1 + blanks.length := by simp; omega
  -- The line after the request line is there, so the empty one is not put at the end.
  have before : 1 + blanks.length < t.lines.length := by simp [cut]; omega
  refine firstLine?_eq_some_iff.mpr ⟨blanks, ?_, allBlank, ink, rfl⟩
  rw [Text.lines_insertLine before, cut, ← length, List.take_left, List.drop_left]
  simp

theorem lines_from_first {t : Text} {number : Nat} {line : Text} {rest : List Text}
    (first : firstLine? 1 t.lines = some (number, line, rest)) :
    (t.dropLines (number - 1)).lines = line :: rest := by
  obtain ⟨blanks, eq, _, _, rfl⟩ := firstLine?_eq_some_iff.mp first
  rw [Text.lines_dropLines, eq, Nat.add_sub_cancel_left, List.drop_left]

/-- Header lines after a request line and an empty one are those of a request file. -/
theorem parse_append_head {head method url : Text} (free : '\n' ∉ head)
    (isHead : requestLine 1 head.dropCr = .ok (method, url)) (t : Text) :
    parse (head ++ '\n' :: '\n' :: t) = (headerSection 3 t.lines).map (withHead method url) := by
  have lines : (head ++ '\n' :: '\n' :: t).lines = head.dropCr :: [] :: t.lines := by
    rw [Text.lines_append_lf _ free, Text.lines_lf]
  have ink : head.dropCr.isBlank = false := by
    apply Bool.eq_false_iff.mpr
    intro blank
    obtain ⟨words, _⟩ := requestLine_eq_ok_iff.mp isHead
    rw [Text.words_eq_nil_iff.mpr blank] at words
    cases words
  have blank : Text.isBlank [] = true := rfl
  simp only [parse, lines, firstLine?, ink, isHead, blank, Bool.false_eq_true, if_false, if_true,
    Nat.reduceAdd]
  cases headerSection 3 t.lines <;> rfl

/-- A request line and an empty line, to put before header lines. -/
def someHead : Text := "GET http://h\n\n"

theorem parse_someHead_append (t : Text) :
    parse (someHead ++ t) = (headerSection 3 t.lines).map (withHead "GET" "http://h") := by
  let head : Text := "GET http://h"
  have free : '\n' ∉ head := by decide
  have isHead : requestLine 1 head.dropCr = .ok ("GET".toList, "http://h".toList) :=
    requestLine_eq_ok_iff.mpr ⟨by decide, by decide, by decide⟩
  exact parse_append_head free isHead t

/-! ### Both readings -/

theorem parsePatch_of_parse_ok {t : Text} {r : Request} (read : parse t = .ok r) :
    parsePatch t = .ok r.toPatch := by
  have file := requestFile t
  rw [read] at file
  cases file with
  | bare first looks head => simp only [parsePatch, first, looks, head, if_true]; rfl
  | whole first looks head empty reads =>
    simp only [parsePatch, first, looks, head, empty, if_true, contents, reads]
    rfl

theorem parsePatch_of_invalidUrl {t url : Text} {line : Nat} {reason : UrlError}
    (bad : parse t = .error (.invalidUrl url line reason)) :
    parsePatch t = .error (.invalidUrl url line reason) := by
  have file := requestFile t
  rw [bad] at file
  cases file with
  | badUrl first looks bad => simp only [parsePatch, first, looks, bad, if_true]

theorem parsePatch_of_invalidHeader {t header : Text} {line : Nat}
    (bad : parse t = .error (.invalidHeader header line)) :
    parsePatch t = .error (.invalidHeader header line) := by
  have file := requestFile t
  rw [bad] at file
  cases file with
  | badHeader first looks head empty fails =>
    simp only [parsePatch, first, looks, head, empty, if_true, contents, fails]

theorem readsAlike_of_missingSeparator {t content : Text} {line : Nat}
    (bad : parse t = .error (.missingSeparator content line)) :
    ReadsAlike Request.toPatch 1 0 (parse (t.insertLine (line - 1))) (parsePatch t) := by
  have file := requestFile t
  rw [bad] at file
  cases file with
  | @noSeparator number head method url _ rest first looks isHead ink =>
    have blank : Text.isBlank [] = true := rfl
    -- The patch has its headers from the line where the separator was missed.
    have permissive : parsePatch t =
        contents (some method) (some url) (number + 1) (content :: rest) := by
      simp only [parsePatch, first, looks, isHead, ink, if_true, Bool.false_eq_true, if_false]
    have strict : parse (t.insertLine number) =
        (headerSection (number + 2) (content :: rest)).map (withHead method url) := by
      simp only [parse, firstLine?_insertLine first, isHead, blank, if_true]
      cases headerSection (number + 2) (content :: rest) <;> rfl
    rw [Nat.add_sub_cancel, permissive, strict]
    exact readsAlike_of_lines _ (fun _ _ => rfl) rfl

theorem readsAlike_of_no_request_line {t : Text} {e : ParseError} {line : Nat}
    (bad : parse t = .error e)
    (isFirst : (∃ content, e = .invalidRequestLine content line) ∨
      ∃ method, e = .invalidMethod method line) :
    ReadsAlike Request.tailPatch 3 line (parse (someHead ++ t.dropLines (line - 1)))
      (parsePatch t) := by
  have file := requestFile t
  rw [bad] at file
  obtain ⟨text, rest, first, looks⟩ : ∃ text rest,
      firstLine? 1 t.lines = some (line, text, rest) ∧ looksLikeRequestLine text = false := by
    rcases isFirst with ⟨content, rfl⟩ | ⟨method, rfl⟩
    · cases file with
      | notTwoWords first looks => exact ⟨_, _, first, looks⟩
    · cases file with
      | noVerb first looks => exact ⟨_, _, first, looks⟩
  have permissive : parsePatch t = contents none none line (text :: rest) := by
    simp only [parsePatch, first, looks, Bool.false_eq_true, if_false]
  rw [parse_someHead_append, lines_from_first first, permissive]
  exact readsAlike_of_lines _ (fun _ _ => rfl) (Nat.add_comm line 3)

theorem contents_eq_ok_iff {method url : Option Text} {number : Nat} {lines : List Text}
    {p : PartialRequest} :
    contents method url number lines = .ok p ↔
      ∃ headers body, headerSection number lines = .ok (headers, body) ∧
        ⟨method, url, .ofList headers, Text.joinLines body⟩ = p := by
  unfold contents
  split
  next bad => simp [bad]
  next headers body read => simp [read]

/-- A patch with a line that is not blank has a request line or a header. -/
theorem parsePatch_ne_empty {t : Text} {number : Nat} {line : Text} {rest : List Text}
    (first : firstLine? 1 t.lines = some (number, line, rest)) : parsePatch t ≠ .ok .empty := by
  intro nothing
  unfold parsePatch at nothing
  rw [first] at nothing
  simp only at nothing
  split at nothing
  · split at nothing
    · cases nothing
    · split at nothing
      · cases nothing
      · split at nothing <;>
        · obtain ⟨_, _, _, isEmpty⟩ := contents_eq_ok_iff.mp nothing
          cases isEmpty
  · obtain ⟨headers, body, read, isEmpty⟩ := contents_eq_ok_iff.mp nothing
    obtain ⟨_, _, _, ink, _⟩ := firstLine?_eq_some_iff.mp first
    have noHeaders : NameMap.ofList headers = ∅ := congrArg PartialRequest.headers isEmpty
    rw [NameMap.ofList_eq_empty_iff] at noHeaders
    subst noHeaders
    -- The line is not blank, so it was read as a header.
    rw [headerSection, if_neg (by simp [ink])] at read
    split at read
    · cases read
    · split at read <;> cases read

/-- Only a text of blank lines is an empty patch, and no such text is a request file. -/
theorem parse_eq_emptyRequest_iff {t : Text} :
    parse t = .error .emptyRequest ↔ parsePatch t = .ok .empty := by
  constructor
  · intro nothing
    have file := requestFile t
    rw [nothing] at file
    cases file with
    | blank first => simp only [parsePatch, first]
  · intro nothing
    cases first : firstLine? 1 t.lines with
    | none => simp only [parse, first]
    | some found => exact absurd nothing (parsePatch_ne_empty first)

/-- Of one text a request file and a patch read the same: all of it if it is a request file, and
otherwise what is read of it with an empty line where the separator is missing, or with some head
where the request line is missing. -/
theorem parsePatch_of_parse (t : Text) :
    (∀ r, parse t = .ok r → ∃ p, parsePatch t = .ok p ∧ p.complete? = some r) ∧
    (∀ url line reason, parse t = .error (.invalidUrl url line reason) →
      parsePatch t = .error (.invalidUrl url line reason)) ∧
    (∀ header line, parse t = .error (.invalidHeader header line) →
      parsePatch t = .error (.invalidHeader header line)) ∧
    (∀ content line, parse t = .error (.missingSeparator content line) →
      ReadsAlike Request.toPatch 1 0 (parse (t.insertLine (line - 1))) (parsePatch t)) ∧
    (∀ e line, parse t = .error e →
      ((∃ content, e = .invalidRequestLine content line) ∨ ∃ method, e = .invalidMethod method line) →
      ReadsAlike Request.tailPatch 3 line (parse (someHead ++ t.dropLines (line - 1)))
        (parsePatch t)) ∧
    (parse t = .error .emptyRequest ↔ parsePatch t = .ok .empty) := by
  refine ⟨fun r read => ?_, fun _ _ _ => parsePatch_of_invalidUrl,
    fun _ _ => parsePatch_of_invalidHeader, fun _ _ => readsAlike_of_missingSeparator,
    fun _ _ => readsAlike_of_no_request_line, parse_eq_emptyRequest_iff⟩
  exact ⟨r.toPatch, parsePatch_of_parse_ok read, r.complete?_toPatch⟩

end RequestText

end HttpCascade

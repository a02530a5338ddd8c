import HttpCascade.Proofs.NameMap
import HttpCascade.Proofs.Text.Lines
import HttpCascade.Proofs.Text.Trim
import HttpCascade.RequestText

/-!
# What a reader lets through

A request line gives a verb and a URL without white space, and a header line gives a name and a
value that stand on one line and are trimmed. `WritableHead` collects what every request that was
read has (`writableHead_of_parse`); the headers of a headers file are of the same kind
(`writable_of_parseHeaders`).
-/

namespace HttpCascade

/-- A name that is read from a header line as it is written. -/
structure WritableName (name : Text) : Prop where
  nonempty : name ≠ []
  trimmed : name.trim = name
  withoutColon : ':' ∉ name
  onOneLine : '\n' ∉ name

/-- A value that is read from a header line as it is written. -/
structure WritableValue (value : Text) : Prop where
  trimmed : value.trim = value
  onOneLine : '\n' ∉ value

/-- A header whose name and value can be told apart again when they are written on a line. -/
structure WritableHeader (header : Text × Text) : Prop where
  name : WritableName header.1
  value : WritableValue header.2

/-- A request whose request line and headers can be read again when they are written. -/
structure WritableHead (r : Request) : Prop where
  verb : r.verb?.isSome = true
  urlNonempty : r.url ≠ []
  urlSolid : r.url.IsSolid
  urlValid : Url.validate r.url = .ok ()
  headers : ∀ header ∈ r.headers.entries, WritableHeader header

/-! ### Verbs -/

/-- No white space has a lower case of its own. -/
theorem toLower_of_isSpace {c : Char} (space : isSpace c = true) : c.toLower = c := by
  have notUpper : ¬ (c.val ≥ 'A'.val ∧ c.val ≤ 'Z'.val) := by
    rintro ⟨low, high⟩
    have lower : 65 ≤ c.toNat := low
    have upper : c.toNat ≤ 90 := high
    -- No white space lies among the capital letters.
    simp only [isSpace, Bool.or_eq_true, Bool.and_eq_true, decide_eq_true_eq, beq_iff_eq] at space
    omega
  exact dif_neg notUpper

/-- A token that names a verb is a word. -/
theorem Method.isSolid_of_ofText? {token : Text} (named : (ofText? token).isSome = true) :
    token ≠ [] ∧ token.IsSolid := by
  obtain ⟨verb, found⟩ := Option.isSome_iff_exists.mp named
  have same : verb.name.toList.map Char.toLower = token.map Char.toLower :=
    beq_iff_eq.mp (ofText?_eq_some found)
  have ink : Text.IsSolid (verb.name.toList.map Char.toLower) := by
    cases verb <;> decide
  have length := congrArg List.length same
  constructor
  · rintro rfl
    cases verb <;> simp [name] at length
  · intro c member
    apply Bool.eq_false_iff.mpr
    intro space
    -- The white space would be a character of the verb.
    have lowered : c ∈ verb.name.toList.map Char.toLower := by
      rw [same]
      exact List.mem_map.mpr ⟨c, member, toLower_of_isSpace space⟩
    simp [ink c lowered] at space

namespace RequestText

/-! ### Single lines -/

theorem requestLine_eq_ok_iff {number : Nat} {line method url : Text} :
    requestLine number line = .ok (method, url) ↔
      line.words = [method, url] ∧ (Method.ofText? method).isSome = true ∧
        Url.validate url = .ok () := by
  unfold requestLine
  split
  next first second words =>
    simp only [words, List.cons.injEq, and_true]
    cases named : Method.ofText? first with
    | none =>
      simp only [Option.isNone_none, if_true, reduceCtorEq, false_iff]
      rintro ⟨⟨rfl, rfl⟩, isVerb, _⟩
      simp [named] at isVerb
    | some verb =>
      simp only [Option.isNone_some, Bool.false_eq_true, if_false]
      split
      next valid =>
        simp only [Except.ok.injEq, Prod.mk.injEq]
        constructor
        · rintro ⟨rfl, rfl⟩
          exact ⟨⟨rfl, rfl⟩, by simp [named], valid⟩
        · exact fun parts => parts.1
      next reason invalid =>
        simp only [reduceCtorEq, false_iff]
        rintro ⟨⟨rfl, rfl⟩, _, valid⟩
        simp [invalid] at valid
  next other =>
    simp only [reduceCtorEq, false_iff]
    rintro ⟨words, _⟩
    exact other _ _ words

theorem headerLine_eq_ok_iff {number : Nat} {line name value : Text} :
    headerLine number line = .ok (name, value) ↔
      ∃ before after, line.splitOnce ':' = some (before, after) ∧ before.trim ≠ [] ∧
        before.trim = name ∧ after.trim = value := by
  unfold headerLine
  split
  next before after cut =>
    simp only [cut, Option.some.injEq, Prod.mk.injEq]
    split
    next empty =>
      simp only [reduceCtorEq, false_iff]
      rintro ⟨_, _, ⟨rfl, rfl⟩, nonempty, _⟩
      exact nonempty empty
    next nonempty =>
      simp only [Except.ok.injEq, Prod.mk.injEq]
      constructor
      · rintro ⟨rfl, rfl⟩
        exact ⟨before, after, ⟨rfl, rfl⟩, nonempty, rfl, rfl⟩
      · rintro ⟨_, _, ⟨rfl, rfl⟩, _, sameName, sameValue⟩
        exact ⟨sameName, sameValue⟩
  next uncut => simp [uncut]

theorem writable_of_headerLine {number : Nat} {line name value : Text} (oneLine : '\n' ∉ line)
    (read : headerLine number line = .ok (name, value)) : WritableHeader (name, value) := by
  obtain ⟨before, after, cut, nonempty, rfl, rfl⟩ := headerLine_eq_ok_iff.mp read
  obtain ⟨eq, free⟩ := Text.splitOnce_eq_some_iff.mp cut
  exact {
    name := {
      nonempty := nonempty
      trimmed := Text.trim_trim before
      withoutColon := fun member => free (Text.mem_of_mem_trim member)
      onOneLine := fun member => oneLine (by simp [eq, Text.mem_of_mem_trim member]) }
    value := {
      trimmed := Text.trim_trim after
      onOneLine := fun member => oneLine (by simp [eq, Text.mem_of_mem_trim member]) } }

/-! ### Sections -/

/-- Every header that is read from lines is writable. -/
theorem writable_of_headerSection {number : Nat} {lines body : List Text}
    {headers : List (Text × Text)} (oneLine : ∀ line ∈ lines, '\n' ∉ line)
    (read : headerSection number lines = .ok (headers, body)) :
    ∀ header ∈ headers, WritableHeader header := by
  induction lines generalizing number headers with
  | nil =>
    cases read
    simp
  | cons line rest ih =>
    rw [headerSection] at read
    split at read
    · cases read
      simp
    · split at read
      · cases read
      next header isHeader =>
        split at read
        · cases read
        next others after isSection =>
          cases read
          intro entry member
          rcases List.mem_cons.mp member with rfl | later
          · exact writable_of_headerLine (oneLine line List.mem_cons_self) isHeader
          · have oneLineRest := fun l inside => oneLine l (List.mem_cons_of_mem _ inside)
            exact ih oneLineRest isSection entry later

theorem suffix_of_firstLine? {number found : Nat} {lines rest : List Text} {line : Text}
    (first : firstLine? number lines = some (found, line, rest)) : line :: rest <:+ lines := by
  induction lines generalizing number with
  | nil => cases first
  | cons head tail ih =>
    rw [firstLine?] at first
    split at first
    · exact (ih first).trans (List.suffix_cons head tail)
    · cases first
      exact List.suffix_refl _

/-! ### Whole texts -/

theorem writable_of_parseHeaders {t : Text} {headers : Headers}
    (read : parseHeaders t = .ok headers) :
    ∀ header ∈ headers.entries, WritableHeader header := by
  unfold parseHeaders at read
  split at read
  · cases read
  next entries rest isSection =>
    cases read
    intro header member
    exact writable_of_headerSection (fun _ => Text.lf_not_mem_of_mem_lines) isSection header
      (NameMap.mem_of_mem_ofList member)

/-- Every request that is read has a writable head. -/
theorem writableHead_of_parse {t : Text} {r : Request} (read : parse t = .ok r) :
    WritableHead r := by
  unfold parse at read
  split at read
  · cases read
  next number line rest first =>
    split at read
    · cases read
    next method url isRequestLine =>
      obtain ⟨words, isVerb, valid⟩ := requestLine_eq_ok_iff.mp isRequestLine
      have isWord : url ∈ line.words := by simp [words]
      have solid := Text.solid_of_mem_words isWord
      split at read
      · cases read
        exact ⟨isVerb, solid.1, solid.2, valid, by simp [Request.bare]⟩
      next separator after =>
        split at read
        · split at read
          · cases read
          next headers body isSection =>
            cases read
            refine ⟨isVerb, solid.1, solid.2, valid, fun header member => ?_⟩
            have oneLine : ∀ l ∈ after, '\n' ∉ l := by
              intro l inside
              have among : l ∈ t.lines := (suffix_of_firstLine? first).mem (by simp [inside])
              exact Text.lf_not_mem_of_mem_lines among
            exact writable_of_headerSection oneLine isSection header
              (NameMap.mem_of_mem_ofList member)
        · cases read

end RequestText

end HttpCascade

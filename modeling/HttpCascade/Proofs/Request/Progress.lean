import HttpCascade.Proofs.Request.Endings
import HttpCascade.Proofs.Request.Grammar

/-!
# Reading line by line

A request file, a patch and a headers file are read by one machine that takes one line after
another (`parse_eq`, `parsePatch_eq`, `parseHeaders_eq`). It stops at the first line that does not
fit what has been read before, so an error is settled by the lines up to the one that it names, and
the lines before that one can be read.

## Main result

`errors_point_at_first_fault`: every error that names a line quotes it, stays whatever comes after
that line, and is not there without it.

## Proof strategy

1. An error of one step is about the line of this step (`feed_eq_error`).
2. By induction on the lines, an error of a run is that of its last step (`feedAll_eq_error`), and
   a run goes on where its first part ended (`feedAll_append`).
3. Each reader makes something of the end of a run, for which no line is to blame
   (`ReadsByLine.firstFault`).
-/

namespace HttpCascade

/-- What an error quotes comes from the line: the line itself or one of its words. -/
def ParseError.Quotes (line : Text) : ParseError → Prop
  | emptyRequest => False
  | invalidRequestLine content _ => content = line.trim
  | invalidMethod method _ => ∃ url, line.words = [method, url]
  | invalidUrl url _ _ => ∃ method, line.words = [method, url]
  | missingSeparator content _ => content = line
  | invalidHeader header _ => header = line.trim

namespace RequestText

/-! ### The machine -/

/-- What is known of a text between two of its lines. -/
inductive Progress where
  /-- There were only blank lines. -/
  | start
  /-- The line before was the request line. -/
  | head (method url : Text)
  | headers (method url : Option Text) (found : List (Text × Text))
  | body (method url : Option Text) (found : List (Text × Text)) (lines : List Text)

/-- What has been read. -/
def Progress.result : Progress → PartialRequest
  | start => .empty
  | head method url => ⟨some method, some url, ∅, []⟩
  | headers method url found => ⟨method, url, .ofList found, []⟩
  | body method url found lines => ⟨method, url, .ofList found, Text.joinLines lines⟩

def feedHeader (number : Nat) (line : Text) (method url : Option Text)
    (found : List (Text × Text)) : Except ParseError Progress :=
  (headerLine number line).map fun header => .headers method url (found ++ [header])

/-- Takes the line of a number into account. A request file needs a request line and a blank line
after it. -/
def feed (strict : Bool) (number : Nat) (line : Text) : Progress → Except ParseError Progress
  | .start =>
    if line.isBlank then .ok .start
    else if strict || looksLikeRequestLine line then
      (requestLine number line).map fun head => .head head.1 head.2
    else feedHeader number line none none []
  | .head method url =>
    if line.isBlank then .ok (.headers (some method) (some url) [])
    else if strict then .error (.missingSeparator line number)
    else feedHeader number line (some method) (some url) []
  | .headers method url found =>
    if line.isBlank then .ok (.body method url found [])
    else feedHeader number line method url found
  | .body method url found lines => .ok (.body method url found (lines ++ [line]))

/-- Takes lines into account, the first of which has this number. -/
def feedAll (strict : Bool) : Nat → List Text → Progress → Except ParseError Progress
  | _, [], progress => .ok progress
  | number, line :: rest, progress =>
    feed strict number line progress >>= feedAll strict (number + 1) rest

variable {strict : Bool} {number : Nat} {line : Text} {lines front rest : List Text}
  {progress before after : Progress} {e : ParseError} {method url : Option Text}
  {found : List (Text × Text)}

/-! ### Errors of a step -/

theorem requestLine_eq_error (failed : requestLine number line = .error e) :
    e.line? = some number ∧ e.Quotes line := by
  unfold requestLine at failed
  split at failed
  next method url words =>
    split at failed
    · cases failed
      exact ⟨rfl, url, words⟩
    · split at failed
      · cases failed
      · cases failed
        exact ⟨rfl, method, words⟩
  · cases failed
    exact ⟨rfl, rfl⟩

theorem feedHeader_eq_error (failed : feedHeader number line method url found = .error e) :
    e.line? = some number ∧ e.Quotes line := by
  unfold feedHeader at failed
  rcases headerLine_cases line with ⟨header, isHeader⟩ | bad
  · rw [isHeader number] at failed
    cases failed
  · rw [bad number] at failed
    cases failed
    exact ⟨rfl, rfl⟩

theorem feed_eq_error (failed : feed strict number line progress = .error e) :
    e.line? = some number ∧ e.Quotes line := by
  cases progress with
  | start =>
    rw [feed] at failed
    split at failed
    · cases failed
    · split at failed
      · exact requestLine_eq_error (map_eq_error_iff.mp failed)
      · exact feedHeader_eq_error failed
  | head method url =>
    rw [feed] at failed
    split at failed
    · cases failed
    · split at failed
      · cases failed
        exact ⟨rfl, rfl⟩
      · exact feedHeader_eq_error failed
  | headers method url found =>
    rw [feed] at failed
    split at failed
    · cases failed
    · exact feedHeader_eq_error failed
  | body => cases failed

/-! ### Runs -/

theorem feedAll_append (front rest : List Text) :
    feedAll strict number (front ++ rest) progress =
      feedAll strict number front progress >>= feedAll strict (number + front.length) rest := by
  induction front generalizing number progress with
  | nil => rfl
  | cons line more ih =>
    rw [List.cons_append, feedAll, feedAll]
    cases feed strict number line progress with
    | error e => rfl
    | ok next =>
      have length : number + (line :: more).length = number + 1 + more.length := by
        rw [List.length_cons]
        omega
      rw [length]
      exact ih

/-- A run fails in a step after a part that does not. -/
theorem feedAll_eq_error (failed : feedAll strict number lines progress = .error e) :
    ∃ front line rest before, lines = front ++ line :: rest ∧
      feedAll strict number front progress = .ok before ∧
      feed strict (number + front.length) line before = .error e := by
  induction lines generalizing number progress with
  | nil => cases failed
  | cons line rest ih =>
    rw [feedAll, bind_eq_error_iff] at failed
    rcases failed with here | ⟨next, fed, later⟩
    · exact ⟨[], line, rest, progress, rfl, rfl, here⟩
    · obtain ⟨front, bad, after, before, rfl, readFront, fails⟩ := ih later
      refine ⟨line :: front, bad, after, before, rfl, ?_, ?_⟩
      · rw [feedAll, fed]
        exact readFront
      · rw [List.length_cons, Nat.add_comm front.length, ← Nat.add_assoc]
        exact fails

theorem feedAll_stops (readFront : feedAll strict number front progress = .ok before)
    (fails : feed strict (number + front.length) line before = .error e) (rest : List Text) :
    feedAll strict number (front ++ line :: rest) progress = .error e := by
  rw [feedAll_append, readFront]
  show feedAll strict _ (line :: rest) before = _
  rw [feedAll, fails]
  rfl

/-! ### The readers as runs -/

theorem feedAll_body (lines before : List Text) :
    feedAll strict number lines (.body method url found before) =
      .ok (.body method url found (before ++ lines)) := by
  induction lines generalizing number before with
  | nil => rw [List.append_nil, feedAll]
  | cons line rest ih =>
    rw [feedAll, feed]
    exact (ih _).trans (by rw [List.append_assoc, List.singleton_append])

/-- What is read after some headers: more headers up to a blank line, and a body. -/
theorem feedAll_headers (lines : List Text) (found : List (Text × Text)) :
    (feedAll strict number lines (.headers method url found)).map Progress.result =
      (headerSection number lines).map fun read =>
        ⟨method, url, .ofList (found ++ read.1), Text.joinLines read.2⟩ := by
  induction lines generalizing number found with
  | nil => simp [feedAll, headerSection, Progress.result, Except.map, Text.joinLines, Text.join]
  | cons line rest ih =>
    -- Either the body begins here, or one more header is found and the rest is read after it.
    rw [feedAll, feed, headerSection_cons]
    split
    · show (feedAll strict (number + 1) rest _).map _ = _
      rw [feedAll_body]
      simp [Except.map, Progress.result]
    · rw [feedHeader]
      cases headerLine number line with
      | error e => rfl
      | ok header =>
        show (feedAll strict (number + 1) rest _).map _ = _
        rw [ih]
        cases headerSection (number + 1) rest with
        | error e => rfl
        | ok read => simp [Except.map, bind, Except.bind]

/-- Blank lines at the start are passed over. -/
theorem feedAll_start (lines : List Text) :
    feedAll strict number lines .start =
      match firstLine? number lines with
      | none => .ok .start
      | some (first, line, rest) =>
        feed strict first line .start >>= feedAll strict (first + 1) rest := by
  induction lines generalizing number with
  | nil => rfl
  | cons line rest ih =>
    rw [feedAll, firstLine?]
    by_cases blank : line.isBlank = true
    · rw [feed, if_pos blank, if_pos blank]
      exact ih
    · rw [if_neg blank]

theorem feed_first (ink : line.isBlank = false)
    (isHead : (strict || looksLikeRequestLine line) = true) :
    feed strict number line .start =
      (requestLine number line).map fun head => .head head.1 head.2 := by
  rw [feed, if_neg (by simp [ink]), if_pos isHead]

/-- The request, if a request line was found. -/
def requireHead (p : PartialRequest) : Except ParseError Request :=
  match p.complete? with
  | some r => .ok r
  | none => .error .emptyRequest

theorem parse_eq (t : Text) :
    parse t = (feedAll true 1 t.lines .start).map Progress.result >>= requireHead := by
  rw [parse, feedAll_start]
  cases first : firstLine? 1 t.lines with
  | none => rfl
  | some found =>
    obtain ⟨number, line, rest⟩ := found
    obtain ⟨_, _, _, ink, _⟩ := firstLine?_eq_some_iff.mp first
    simp only [feed_first ink (Bool.true_or _)]
    cases requestLine number line with
    | error e => rfl
    | ok head =>
      obtain ⟨method, url⟩ := head
      -- The line after the request line has to be blank, if there is one.
      cases rest with
      | nil => rfl
      | cons separator after =>
        show _ = (feed true (number + 1) separator (.head method url) >>=
          feedAll true (number + 2) after).map Progress.result >>= requireHead
        rw [feed]
        by_cases blank : separator.isBlank = true
        · simp only [blank, if_true]
          show _ = (feedAll true (number + 2) after _).map Progress.result >>= requireHead
          rw [feedAll_headers]
          cases headerSection (number + 2) after <;> rfl
        · simp only [blank, if_true, Bool.false_eq_true, if_false]
          rfl

/-- The lines of a section, read after a step that leads to its first header. -/
theorem contents_eq (number : Nat) (lines : List Text) :
    contents method url number lines =
      (feedAll strict number lines (.headers method url [])).map Progress.result := by
  rw [feedAll_headers, contents]
  cases headerSection number lines <;> rfl

theorem parsePatch_eq (t : Text) :
    parsePatch t = (feedAll false 1 t.lines .start).map Progress.result := by
  rw [parsePatch, feedAll_start]
  cases first : firstLine? 1 t.lines with
  | none => rfl
  | some found =>
    obtain ⟨number, line, rest⟩ := found
    obtain ⟨_, _, _, ink, _⟩ := firstLine?_eq_some_iff.mp first
    by_cases looks : looksLikeRequestLine line = true
    · simp only [looks, if_true, feed_first ink (Bool.or_eq_true_iff.mpr (.inr looks))]
      cases requestLine number line with
      | error e => rfl
      | ok head =>
        obtain ⟨method, url⟩ := head
        cases rest with
        | nil => rfl
        | cons separator after =>
          show _ = (feedAll false (number + 1) (separator :: after) (.head method url)).map _
          by_cases blank : separator.isBlank = true
          · simp only [blank, if_true, @contents_eq false]
            rw [feedAll, feed, if_pos blank]
            rfl
          · -- The line after the request line is a header, as it is after a blank line.
            simp only [blank, if_false, Bool.false_eq_true, @contents_eq false]
            rw [feedAll, feedAll, feed, feed, if_neg blank, if_neg blank]
            rfl
    · simp only [looks, if_false, Bool.false_eq_true, @contents_eq false]
      rw [feedAll, feed, feed, if_neg (by simp [ink]), if_neg (by simp [ink]),
        if_neg (by simp [looks])]

theorem parseHeaders_eq (t : Text) :
    parseHeaders t = (feedAll true 1 t.lines (.headers none none [])).map Progress.result >>=
      fun p => .ok p.headers := by
  rw [feedAll_headers, parseHeaders]
  cases headerSection 1 t.lines <;> rfl

/-! ### The line at fault -/

/-- The error names a line of the text and quotes it, and it is settled by the lines up to this one:
every text with the same ones has it. -/
structure FirstFault {α : Type} (read : Text → Except ParseError α) (t : Text) (e : ParseError)
    (n : Nat) : Prop where
  inside : 1 ≤ n ∧ n ≤ t.lines.length
  quotes : ∃ line, t.lines[n - 1]? = some line ∧ e.Quotes line
  stays : ∀ u : Text, u.lines.take n = t.lines.take n → read u = .error e

/-- The reader makes something of what the machine has read, or finds a fault that is in no line. -/
structure ReadsByLine {α : Type} (read : Text → Except ParseError α) (strict : Bool)
    (origin : Progress) (finish : PartialRequest → Except ParseError α) : Prop where
  eq : ∀ t, read t = (feedAll strict 1 t.lines origin).map Progress.result >>= finish
  unnamed : ∀ p e, finish p = .error e → e.line? = none

section

variable {α : Type} {read : Text → Except ParseError α} {origin : Progress}
  {finish : PartialRequest → Except ParseError α} {t : Text} {n : Nat}

theorem ReadsByLine.fails (byLine : ReadsByLine read strict origin finish)
    (failed : feedAll strict 1 t.lines origin = .error e) : read t = .error e := by
  rw [byLine.eq, failed]
  rfl

theorem ReadsByLine.ends (byLine : ReadsByLine read strict origin finish)
    (ran : feedAll strict 1 t.lines origin = .ok after) : read t = finish after.result := by
  rw [byLine.eq, ran]
  rfl

theorem ReadsByLine.failed_of_named (byLine : ReadsByLine read strict origin finish)
    (failed : read t = .error e) (named : e.line? = some n) :
    feedAll strict 1 t.lines origin = .error e := by
  cases ran : feedAll strict 1 t.lines origin with
  | error e' =>
    cases failed.symm.trans (byLine.fails ran)
    rfl
  | ok after =>
    -- At the end of a text only faults without a line are left.
    rw [byLine.ends ran] at failed
    rw [byLine.unnamed _ _ failed] at named
    cases named

/-- An error that names a line is its first fault, and the machine reads the lines before it. -/
theorem ReadsByLine.firstFault (byLine : ReadsByLine read strict origin finish)
    (failed : read t = .error e) (named : e.line? = some n) :
    FirstFault read t e n ∧ ∃ p, read (t.takeLines (n - 1)) = finish p := by
  obtain ⟨front, line, rest, before, cut, readFront, fails⟩ :=
    feedAll_eq_error (byLine.failed_of_named failed named)
  obtain ⟨numbered, quotes⟩ := feed_eq_error fails
  obtain rfl : n = 1 + front.length := Option.some.inj (named.symm.trans numbered)
  rw [Nat.add_sub_cancel_left]
  have length : (front ++ [line]).length = 1 + front.length := by
    rw [List.length_append, Nat.add_comm]
    rfl
  have upTo : t.lines.take (1 + front.length) = front ++ [line] := by
    have regrouped : front ++ line :: rest = (front ++ [line]) ++ rest := by simp
    rw [cut, regrouped, ← length, List.take_left]
  refine ⟨⟨⟨by omega, ?_⟩, ⟨line, ?_, quotes⟩, fun u same => ?_⟩, before.result, ?_⟩
  · rw [cut, List.length_append, List.length_cons]
    omega
  · rw [cut, Nat.add_sub_cancel_left, List.getElem?_append_right (Nat.le_refl _), Nat.sub_self]
    rfl
  · -- The run takes the same way up to the line, and there it stops.
    apply byLine.fails
    rw [← List.take_append_drop (1 + front.length) u.lines, same, upTo, List.append_assoc]
    exact feedAll_stops readFront fails _
  · apply byLine.ends
    rw [Text.lines_takeLines, cut, List.take_left]
    exact readFront

end

theorem parse_readsByLine : ReadsByLine parse true .start requireHead where
  eq := parse_eq
  unnamed := by
    intro p e failed
    unfold requireHead at failed
    split at failed
    · cases failed
    · cases failed
      rfl

theorem parsePatch_readsByLine : ReadsByLine parsePatch false .start .ok where
  eq t := by
    rw [parsePatch_eq]
    cases feedAll false 1 t.lines .start <;> rfl
  unnamed := by
    intro p e failed
    cases failed

theorem parseHeaders_readsByLine :
    ReadsByLine parseHeaders true (.headers none none []) fun p => .ok p.headers where
  eq := parseHeaders_eq
  unnamed := by
    intro p e failed
    cases failed

theorem parse_of_requireHead {t : Text} {p : PartialRequest} (read : parse t = requireHead p) :
    if t.lines.all Text.isBlank then parse t = .error .emptyRequest else ∃ r, parse t = .ok r := by
  have nothing := @parse_eq_emptyRequest_iff_blank t
  rw [← List.all_eq_true] at nothing
  split
  next blank => exact nothing.mpr blank
  next ink =>
    rw [← nothing, read] at ink
    rw [read]
    unfold requireHead at ink ⊢
    split
    next r _ => exact ⟨r, rfl⟩
    next none => simp [none] at ink

/-- An error that names a line of a request file, of a patch or of a headers file quotes this line,
and every text with the same lines up to it has this error. The lines before it are accepted, except
that blank lines alone are no request file. -/
theorem errors_point_at_first_fault (t : Text) (e : ParseError) (n : Nat)
    (named : e.line? = some n) :
    (parse t = .error e → FirstFault parse t e n ∧
      if (t.lines.take (n - 1)).all Text.isBlank
      then parse (t.takeLines (n - 1)) = .error .emptyRequest
      else ∃ r, parse (t.takeLines (n - 1)) = .ok r) ∧
    (parsePatch t = .error e → FirstFault parsePatch t e n ∧
      ∃ p, parsePatch (t.takeLines (n - 1)) = .ok p) ∧
    (parseHeaders t = .error e → FirstFault parseHeaders t e n ∧
      ∃ headers, parseHeaders (t.takeLines (n - 1)) = .ok headers) := by
  refine ⟨fun failed => ?_, fun failed => ?_, fun failed => ?_⟩
  · obtain ⟨fault, p, read⟩ := parse_readsByLine.firstFault failed named
    rw [← Text.lines_takeLines]
    exact ⟨fault, parse_of_requireHead read⟩
  · exact parsePatch_readsByLine.firstFault failed named
  · obtain ⟨fault, p, read⟩ := parseHeaders_readsByLine.firstFault failed named
    exact ⟨fault, p.headers, read⟩

/-- A bad header in the fourth line, with both kinds of line endings before it and a separator that
is not empty. -/
theorem errors_point_at_first_fault_fourth_line :
    let t : Text := "\nput http://h\r\n \r\nno header\n\nB: c"
    let e : ParseError := .invalidHeader "no header" 4
    e.line? = some 4 ∧ parse t = .error e ∧ parsePatch t = .error e ∧
    FirstFault parse t e 4 ∧ FirstFault parsePatch t e 4 ∧
    (∃ r, parse (t.takeLines 3) = .ok r) ∧ ∃ p, parsePatch (t.takeLines 3) = .ok p := by
  intro t e
  have named : e.line? = some 4 := rfl
  have fails : parse t = .error e := by decide +kernel
  have failsPatch : parsePatch t = .error e := by decide +kernel
  obtain ⟨strict, permissive, _⟩ := errors_point_at_first_fault t e 4 named
  obtain ⟨fault, before⟩ := strict fails
  obtain ⟨faultPatch, beforePatch⟩ := permissive failsPatch
  have ink : ¬ (t.lines.take (4 - 1)).all Text.isBlank = true := by decide
  rw [if_neg ink] at before
  exact ⟨named, fails, failsPatch, fault, faultPatch, before, beforePatch⟩

end RequestText

end HttpCascade

import HttpCascade.Json.Cursor
import HttpCascade.Json.Printer
import Mathlib.Data.List.Forall2

/-!
# Texts of JSON values

A value has many texts, which differ in the white space between their parts and in how the characters
of their strings are spelled: `Writes` relates it to all of them, numbers excepted, which have one
text here.

## Main results

`writes_compact` and `writes_pretty`: what is printed, on one line or on many, is a text of the value
that is printed. So whoever reads all the texts of a value reads what is printed for it.
-/

namespace HttpCascade.Json

/-- White space between the parts of a text. -/
def IsGap (gap : Text) : Prop := ∀ c ∈ gap, Cursor.isSpace c = true

/-- What stands in front of the key of a member: a comma, unless it is the first. -/
inductive IsLead : (first : Bool) → Text → Prop
  | gap {lead : Text} (isGap : IsGap lead) : IsLead true lead
  | comma {before after : Text} (isBefore : IsGap before) (isAfter : IsGap after) :
      IsLead false (before ++ ',' :: after)

/-! ### Strings -/

/-- The letters that may follow a backslash, and the characters they stand for. -/
def escapeLetters : List (Char × Char) :=
  [('"', '"'), ('\\', '\\'), ('/', '/'), ('b', '\x08'), ('f', '\x0c'), ('n', '\n'), ('r', '\r'),
    ('t', '\t')]

/-- A character that stands for itself in a string. -/
structure IsPlain (c : Char) : Prop where
  notQuote : c ≠ '"'
  notBackslash : c ≠ '\\'
  notControl : ¬ c.toNat < 0x20

/-- Four hexadecimal digits of a number. -/
structure IsHexadecimal (n : Nat) (digits : Text) : Prop where
  four : digits.length = 4
  areDigits : ∀ d ∈ digits, (Unicode.hexDigit? d).isSome = true
  number : Unicode.hexNumber digits = n

/-- What stands for a character in a string: the character itself, a letter or its number after a
backslash, or the numbers of its two halves if it is above U+FFFF. -/
inductive Spells : Char → Text → Prop
  | plain {c : Char} (isPlain : IsPlain c) : Spells c [c]
  | letter {letter c : Char} (isLetter : (letter, c) ∈ escapeLetters) : Spells c ['\\', letter]
  | number {c : Char} {digits : Text} (isNumber : IsHexadecimal c.toNat digits) :
      Spells c ('\\' :: 'u' :: digits)
  | halves {c : Char} {high low : Nat} {upper lower : Text} (highFits : high < 0x400)
      (lowFits : low < 0x400) (isValue : c.toNat = 0x10000 + high * 0x400 + low)
      (isUpper : IsHexadecimal (0xD800 + high) upper)
      (isLower : IsHexadecimal (0xDC00 + low) lower) :
      Spells c ('\\' :: 'u' :: (upper ++ '\\' :: 'u' :: lower))

/-- What stands for a text between the quotes of a string. -/
inductive SpellsText : Text → Text → Prop
  | nil : SpellsText [] []
  | cons {c : Char} {t spelled inside : Text} (spells : Spells c spelled)
      (others : SpellsText t inside) : SpellsText (c :: t) (spelled ++ inside)

/-! ### Values -/

/-- Decimal digits, at least one. -/
structure IsDigits (t : Text) : Prop where
  notNil : t ≠ []
  areDigits : ∀ d ∈ t, d.isDigit = true

/-- A whole number without a sign. A zero in front is all of it. -/
structure IsWhole (t : Text) : Prop extends IsDigits t where
  zero : t.head? = some '0' → t = ['0']

mutual

/-- The texts of a value, from its first character to its last. -/
inductive Writes : Value → Text → Prop
  | null : Writes .null "null"
  | yes : Writes (.boolean true) "true"
  | no : Writes (.boolean false) "false"
  | number (n : Nat) : Writes (.number n) (Text.ofNat n)
  | text {t inside : Text} (spells : SpellsText t inside) :
      Writes (.text t) ('"' :: (inside ++ ['"']))
  | object {members : List (Text × Value)} {inside : Text}
      (areMembers : WritesMembers true members inside) :
      Writes (.object members) ('{' :: inside)

/-- The texts of some members up to the end of their object. -/
inductive WritesMembers : (first : Bool) → List (Text × Value) → Text → Prop
  | nil {first : Bool} {gap : Text} (isGap : IsGap gap) : WritesMembers first [] (gap ++ ['}'])
  | cons {first : Bool} {name : Text} {value : Value} {rest : List (Text × Value)}
      {lead key before after written others : Text} (isLead : IsLead first lead)
      (spells : SpellsText name key) (isBefore : IsGap before) (isAfter : IsGap after)
      (isValue : Writes value written) (areMembers : WritesMembers false rest others) :
      WritesMembers first ((name, value) :: rest)
        (lead ++ '"' :: (key ++ '"' :: (before ++ ':' :: (after ++ (written ++ others)))))

end

theorem isGap_nil : IsGap [] := by simp [IsGap]

theorem isGap_space : IsGap [' '] := by simp [IsGap, Cursor.isSpace]

theorem isGap_newLine (level : Nat) : IsGap (newLine level) := by
  intro c member
  rcases List.mem_cons.mp member with rfl | indentation
  · rfl
  · rw [List.eq_of_mem_replicate indentation]
    rfl

/-! ### Members with the texts of their values -/

/-- The texts of some members up to the end of their object, where each has a given name and a value
that is written as given. -/
inductive SpellsMembers : (first : Bool) → List (Text × Text) → Text → Prop
  | nil {first : Bool} {gap : Text} (isGap : IsGap gap) : SpellsMembers first [] (gap ++ ['}'])
  | cons {first : Bool} {name written : Text} {rest : List (Text × Text)}
      {lead key before after others : Text} (isLead : IsLead first lead)
      (spells : SpellsText name key) (isBefore : IsGap before) (isAfter : IsGap after)
      (areMembers : SpellsMembers false rest others) :
      SpellsMembers first ((name, written) :: rest)
        (lead ++ '"' :: (key ++ '"' :: (before ++ ':' :: (after ++ (written ++ others)))))

/-- A member with a text of its value. -/
def WritesMember (member : Text × Value) (piece : Text × Text) : Prop :=
  piece.1 = member.1 ∧ Writes member.2 piece.2

theorem WritesMembers.spells {first : Bool} {members : List (Text × Value)} {text : Text}
    (writes : WritesMembers first members text) :
    ∃ pieces, List.Forall₂ WritesMember members pieces ∧ SpellsMembers first pieces text := by
  induction members generalizing first text with
  | nil =>
    cases writes with
    | nil isGap => exact ⟨[], .nil, .nil isGap⟩
  | cons member rest ih =>
    cases writes with
    | cons isLead spells isBefore isAfter isValue areMembers =>
      obtain ⟨pieces, writes, areSpelled⟩ := ih areMembers
      exact ⟨_ :: pieces, .cons ⟨rfl, isValue⟩ writes,
        .cons isLead spells isBefore isAfter areSpelled⟩

/-- Every member takes a character at least. -/
theorem SpellsMembers.length_lt {first : Bool} {pieces : List (Text × Text)} {text : Text}
    (spells : SpellsMembers first pieces text) : pieces.length < text.length := by
  induction spells with
  | nil => simp
  | cons _ _ _ _ _ ih =>
    simp only [List.length_cons, List.length_append]
    omega

/-! ### What is printed -/

theorem hexDigit?_digitChar : ∀ digit < 16, Unicode.hexDigit? (Nat.digitChar digit) = some digit := by
  decide

theorem isHexadecimal_digitChar {n : Nat} (small : n < 0x100) :
    IsHexadecimal n ['0', '0', Nat.digitChar (n / 16), Nat.digitChar (n % 16)] := by
  have zero : Unicode.hexDigit? '0' = some 0 := by decide
  have upper := hexDigit?_digitChar (n / 16) (by omega)
  have lower := hexDigit?_digitChar (n % 16) (by omega)
  constructor
  case four => rfl
  case areDigits => simp [zero, upper, lower]
  case number =>
    simp only [Unicode.hexNumber, List.foldl_cons, List.foldl_nil, zero, upper, lower,
      Option.getD_some]
    omega

/-- A character is printed with a letter, with its number, or as it is. -/
theorem spells_writeChar (c : Char) : Spells c (writeChar c) := by
  by_cases simple : c ∈ ['"', '\\', '\n', '\r', '\t', '\x08', '\x0c']
  · simp only [List.mem_cons, List.not_mem_nil, or_false] at simple
    rcases simple with rfl | rfl | rfl | rfl | rfl | rfl | rfl <;> exact .letter (by decide)
  · simp only [List.mem_cons, List.not_mem_nil, or_false, not_or] at simple
    by_cases small : c.toNat < 0x20
    · simp only [writeChar, simple, small, if_false, if_true]
      exact .number (isHexadecimal_digitChar (by omega))
    · simp only [writeChar, simple, small, if_false]
      exact .plain ⟨simple.1, simple.2.1, small⟩

theorem spells_flatMap : ∀ t : Text, SpellsText t (t.flatMap writeChar)
  | [] => .nil
  | c :: t => .cons (spells_writeChar c) (spells_flatMap t)

theorem writes_writeString (t : Text) : Writes (.text t) (writeString t) :=
  .text (spells_flatMap t)

/-- The first of some members becomes a later one by a comma. -/
theorem WritesMembers.after_comma {members : List (Text × Value)} {text : Text}
    (writes : WritesMembers true members text) (some : members ≠ []) :
    WritesMembers false members (',' :: text) := by
  cases writes with
  | nil _ => exact absurd rfl some
  | cons isLead spells isBefore isAfter isValue areMembers =>
    cases isLead with
    | gap isGap => exact .cons (.comma isGap_nil isGap) spells isBefore isAfter isValue areMembers

/-- A first member as it is printed, with nothing before its colon. -/
theorem WritesMembers.printed (name : Text) {value : Value} {rest : List (Text × Value)}
    {lead after written others : Text} (isLead : IsGap lead) (isAfter : IsGap after)
    (isValue : Writes value written) (areMembers : WritesMembers false rest others) :
    WritesMembers true ((name, value) :: rest)
      (lead ++ writeString name ++ ':' :: (after ++ (written ++ others))) := by
  have writes := WritesMembers.cons (.gap isLead) (spells_flatMap name) isGap_nil isAfter isValue
    areMembers
  simpa [writeString] using writes

mutual

theorem writes_compact : ∀ value : Value, Writes value value.compact
  | .null => .null
  | .boolean true => .yes
  | .boolean false => .no
  | .number n => .number n
  | .text t => writes_writeString t
  | .object members => .object (writesMembers_compact members)

theorem writesMembers_compact : ∀ members : List (Text × Value),
    WritesMembers true members (compactMembers members ++ ['}'])
  | [] => .nil isGap_nil
  | [(name, value)] => by
    have writes := WritesMembers.printed name isGap_nil isGap_nil (writes_compact value)
      (.nil isGap_nil)
    simpa [compactMembers] using writes
  | (name, value) :: next :: rest => by
    have others := (writesMembers_compact (next :: rest)).after_comma (by simp)
    have writes := WritesMembers.printed name isGap_nil isGap_nil (writes_compact value) others
    simpa [compactMembers] using writes

end

mutual

theorem writes_pretty (level : Nat) : ∀ value : Value, Writes value (value.pretty level)
  | .null => .null
  | .boolean true => .yes
  | .boolean false => .no
  | .number n => .number n
  | .text t => writes_writeString t
  | .object [] => .object (.nil isGap_nil)
  | .object (member :: rest) => by
    have writes := Writes.object
      (writesMembers_pretty (level + 1) (isGap_newLine level) (member :: rest))
    simpa [Value.pretty] using writes

/-- The last member is followed by the white space of the level outside. -/
theorem writesMembers_pretty (level : Nat) {gap : Text} (isGap : IsGap gap) :
    ∀ members : List (Text × Value),
      WritesMembers true members (prettyMembers level members ++ (gap ++ ['}']))
  | [] => .nil isGap
  | [(name, value)] => by
    have writes := WritesMembers.printed name (isGap_newLine level) isGap_space
      (writes_pretty level value) (.nil isGap)
    simpa [prettyMembers] using writes
  | (name, value) :: next :: rest => by
    have others := (writesMembers_pretty level isGap (next :: rest)).after_comma (by simp)
    have writes := WritesMembers.printed name (isGap_newLine level) isGap_space
      (writes_pretty level value) others
    simpa [prettyMembers] using writes

end

end HttpCascade.Json

import HttpCascade.Proofs.Template.Expansion

/-!
# Placeholders by their places

A placeholder stands at a place of a text if the text goes on there with the braces around a name.
Nothing in this notion depends on how a text is cut into pieces. Placeholders do not overlap
(`OccursAt.apart`), so the holes of the pieces are the placeholders of the text
(`hole_mem_ofText_iff`), and their names are listed in the order of their first places
(`listsNames_filter`).

## Proof strategy

A text is empty, or starts with a character at which no placeholder stands, or with a placeholder
(`cutInduction`). In each case the places of the placeholders follow from those in the rest of the
text (`occursAt_cons_iff`, `occursAt_written_iff`).
-/

namespace HttpCascade.Template

variable {t rest : Text} {name other : Text} {i j : Nat}

/-! ### Places -/

/-- One or more word characters. -/
structure IsName (name : Text) : Prop where
  nonempty : name ≠ []
  areWord : ∀ c ∈ name, Unicode.isWord c = true

/-- The placeholder of a name stands at a place of a text. -/
def OccursAt (t : Text) (place : Nat) (name : Text) : Prop :=
  IsName name ∧ Piece.written (.hole name) <+: t.drop place

theorem length_written_hole (name : Text) :
    (Piece.written (.hole name)).length = name.length + 4 := by
  simp [Piece.written]

theorem nameAtStart?_drop_iff : nameAtStart? (t.drop i) = some name ↔ OccursAt t i name := by
  rw [nameAtStart?_eq_some_iff]
  constructor
  · rintro ⟨nonempty, areWord, rest, eq⟩
    exact ⟨⟨nonempty, areWord⟩, rest, eq.symm⟩
  · rintro ⟨⟨nonempty, areWord⟩, rest, eq⟩
    exact ⟨nonempty, areWord, rest, eq.symm⟩

theorem OccursAt.unique (here : OccursAt t i name) (also : OccursAt t i other) : name = other := by
  rw [← nameAtStart?_drop_iff] at here also
  exact Option.some.inj (here.symm.trans also)

/-- Places in the second of two texts. -/
theorem occursAt_append_iff {front : Text} :
    OccursAt (front ++ rest) (front.length + i) name ↔ OccursAt rest i name := by
  rw [OccursAt, OccursAt, List.drop_length_add_append]

theorem OccursAt.open_braces (here : OccursAt t i name) :
    ∃ c after, t.drop i = '{' :: '{' :: c :: after ∧ Unicode.isWord c = true := by
  obtain ⟨⟨nonempty, areWord⟩, after, eq⟩ := here
  obtain ⟨c, more, rfl⟩ := List.exists_cons_of_ne_nil nonempty
  exact ⟨c, more ++ ['}', '}'] ++ after, by simp [← eq, Piece.written], areWord c (by simp)⟩

/-- Placeholders do not overlap: the next one can start where the one before it has ended. -/
theorem OccursAt.apart (here : OccursAt t i name) (later : OccursAt t j other) (after : i < j) :
    i + (Piece.written (.hole name)).length ≤ j := by
  rw [length_written_hole]
  by_contra overlap
  obtain ⟨k, rfl⟩ : ∃ k, j = i + (k + 1) := ⟨j - i - 1, by omega⟩
  obtain ⟨c, more, opens, _⟩ := later.open_braces
  obtain ⟨first, others, opensHere, isWord⟩ := here.open_braces
  rw [← List.drop_drop] at opens
  cases k with
  | zero =>
    -- Two braces would have to follow the first brace, where the name starts.
    rw [opensHere] at opens
    simp only [Nat.zero_add, List.drop_succ_cons, List.drop_zero, List.cons.injEq] at opens
    obtain ⟨-, rfl, -⟩ := opens
    rw [Unicode.not_isWord_open] at isWord
    cases isWord
  | succ k =>
    -- An opening brace would have to stand among the name and the closing braces.
    obtain ⟨isName, tail, eq⟩ := here
    have inside : k < (name ++ ['}', '}']).length := by simp; omega
    have brace : '{' ∈ name ++ ['}', '}'] := by
      have stands : ((name ++ ['}', '}']) ++ tail)[k]? = some '{' := by
        rw [← eq] at opens
        have head := congrArg List.head? opens
        simpa [Piece.written, List.head?_drop] using head
      rw [List.getElem?_append_left inside] at stands
      exact List.mem_of_getElem? stands
    have inName : '{' ∈ name := by simpa using brace
    have isWord := isName.areWord _ inName
    rw [Unicode.not_isWord_open] at isWord
    cases isWord

/-! ### Texts piece by piece -/

theorem ofText_cons_of_none {c : Char} (none : nameAtStart? (c :: rest) = none) :
    ofText (c :: rest) = .char c :: ofText rest := by
  rw [ofText_cons, none]

theorem nameAtStart?_written (isName : IsName name) (rest : Text) :
    nameAtStart? (Piece.written (.hole name) ++ rest) = some name :=
  nameAtStart?_eq_some_iff.mpr ⟨isName.nonempty, isName.areWord, rest, rfl⟩

theorem ofText_written_append (isName : IsName name) (rest : Text) :
    ofText (Piece.written (.hole name) ++ rest) = .hole name :: ofText rest := by
  have found := nameAtStart?_written isName rest
  have cons : Piece.written (.hole name) ++ rest = '{' :: ('{' :: name ++ ['}', '}'] ++ rest) := by
    simp [Piece.written]
  rw [cons] at found ⊢
  have taken : ('{' :: name ++ ['}', '}']).length = name.length + 3 := by simp
  rw [ofText_cons, found]
  simp only [← taken, List.drop_left]

/-- Every text is empty, or starts with a character at which no placeholder stands, or starts with a
placeholder. -/
@[elab_as_elim]
theorem cutInduction {motive : Text → Prop} (empty : motive [])
    (char : ∀ c rest, nameAtStart? (c :: rest) = none → motive rest → motive (c :: rest))
    (hole : ∀ name rest, IsName name → motive rest →
      motive (Piece.written (.hole name) ++ rest)) (t : Text) : motive t := by
  induction size : t.length using Nat.strongRecOn generalizing t with
  | ind n ih =>
    cases t with
    | nil => exact empty
    | cons c rest =>
      cases found : nameAtStart? (c :: rest) with
      | none => exact char c rest found (ih rest.length (by simp [← size]) rest rfl)
      | some name =>
        obtain ⟨nonempty, areWord, after, eq⟩ := nameAtStart?_eq_some found
        have shorter : after.length < n := by
          rw [← size, eq, List.length_append, length_written_hole]
          omega
        rw [eq]
        exact hole name after ⟨nonempty, areWord⟩ (ih _ shorter after rfl)

theorem occursAt_cons_iff {c : Char} (none : nameAtStart? (c :: rest) = none) :
    OccursAt (c :: rest) i name ↔ ∃ k, i = k + 1 ∧ OccursAt rest k name := by
  cases i with
  | zero => simp [← nameAtStart?_drop_iff, none]
  | succ k => simp [OccursAt]

theorem occursAt_written_iff (isName : IsName name) :
    OccursAt (Piece.written (.hole name) ++ rest) i other ↔
      (i = 0 ∧ other = name) ∨ ∃ k, i = (Piece.written (.hole name)).length + k ∧
        OccursAt rest k other := by
  have atStart : OccursAt (Piece.written (.hole name) ++ rest) 0 name := ⟨isName, rest, rfl⟩
  constructor
  · intro here
    rcases Nat.eq_zero_or_pos i with rfl | later
    · exact .inl ⟨rfl, here.unique atStart⟩
    · -- What stands later stands after the end of the first one.
      have ended := atStart.apart here later
      rw [Nat.zero_add] at ended
      obtain ⟨k, rfl⟩ := Nat.exists_eq_add_of_le ended
      exact .inr ⟨k, rfl, occursAt_append_iff.mp here⟩
  · rintro (⟨rfl, rfl⟩ | ⟨k, rfl, here⟩)
    · exact atStart
    · exact occursAt_append_iff.mpr here

/-- The holes of the pieces are the placeholders of the text. -/
theorem hole_mem_ofText_iff : .hole name ∈ ofText t ↔ ∃ i, OccursAt t i name := by
  induction t using cutInduction with
  | empty =>
    constructor
    · intro member
      cases member
    · rintro ⟨i, here⟩
      obtain ⟨_, _, eq, _⟩ := here.open_braces
      simp at eq
  | char c rest none ih =>
    simp only [ofText_cons_of_none none, List.mem_cons, reduceCtorEq, false_or, ih,
      occursAt_cons_iff none]
    constructor
    · rintro ⟨i, here⟩
      exact ⟨i + 1, i, rfl, here⟩
    · rintro ⟨_, i, _, here⟩
      exact ⟨i, here⟩
  | hole first rest isName ih =>
    simp only [ofText_written_append isName, List.mem_cons, Piece.hole.injEq, ih,
      occursAt_written_iff isName]
    constructor
    · rintro (rfl | ⟨i, here⟩)
      · exact ⟨0, .inl ⟨rfl, rfl⟩⟩
      · exact ⟨_, .inr ⟨i, rfl, here⟩⟩
    · rintro ⟨_, ⟨_, rfl⟩ | ⟨i, _, here⟩⟩
      · exact .inl rfl
      · exact .inr ⟨i, here⟩

/-! ### Names in the order of their first places -/

/-- The first of two names stands at a place before every place of the second one. -/
def Precedes (t : Text) (name other : Text) : Prop :=
  ∃ i, OccursAt t i name ∧ ∀ j, OccursAt t j other → i < j

/-- The names of the placeholders of a text that count, each once, in the order of their first
places. -/
structure ListsNames (t : Text) (counts : Text → Prop) (names : List Text) : Prop where
  complete : ∀ name, name ∈ names ↔ counts name ∧ ∃ i, OccursAt t i name
  once : names.Nodup
  inOrder : names.Pairwise (Precedes t)

theorem Precedes.ne (precedes : Precedes t name other) : name ≠ other := by
  rintro rfl
  obtain ⟨i, here, before⟩ := precedes
  exact Nat.lt_irrefl i (before i here)

theorem names_cons_char (c : Char) (template : Template) :
    names (.char c :: template) = template.names := rfl

theorem names_cons_hole (name : Text) (template : Template) :
    names (.hole name :: template) = name :: template.names.filter (· ≠ name) := rfl

theorem pairwise_names (t : Text) : (placeholderNames t).Pairwise (Precedes t) := by
  unfold placeholderNames
  induction t using cutInduction with
  | empty => exact .nil
  | char c rest none ih =>
    rw [ofText_cons_of_none none, names_cons_char]
    -- All places move on by one.
    refine ih.imp ?_
    rintro first second ⟨i, here, before⟩
    refine ⟨i + 1, (occursAt_cons_iff none).mpr ⟨i, rfl, here⟩, fun j there => ?_⟩
    obtain ⟨k, rfl, there⟩ := (occursAt_cons_iff none).mp there
    exact Nat.succ_lt_succ (before k there)
  | hole name rest isName ih =>
    rw [ofText_written_append isName, names_cons_hole]
    refine List.pairwise_cons.mpr ⟨fun other member => ?_, ?_⟩
    · -- The placeholder in front comes before all others.
      have different : other ≠ name := by simpa using List.of_mem_filter member
      refine ⟨0, (occursAt_written_iff isName).mpr (.inl ⟨rfl, rfl⟩), fun j there => ?_⟩
      rcases (occursAt_written_iff isName).mp there with ⟨_, same⟩ | ⟨k, rfl, _⟩
      · exact absurd same different
      · rw [length_written_hole]
        omega
    · refine (ih.filter _).imp_of_mem ?_
      rintro first second - member ⟨i, here, before⟩
      have different : second ≠ name := by simpa using List.of_mem_filter member
      refine ⟨_, (occursAt_written_iff isName).mpr (.inr ⟨i, rfl, here⟩), fun j there => ?_⟩
      rcases (occursAt_written_iff isName).mp there with ⟨_, same⟩ | ⟨k, rfl, thereRest⟩
      · exact absurd same different
      · exact Nat.add_lt_add_left (before k thereRest) _

theorem listsNames_filter (t : Text) (counts : Text → Bool) :
    ListsNames t (fun name => counts name = true) ((placeholderNames t).filter counts) := by
  have inOrder := (pairwise_names t).filter counts
  refine ⟨fun name => ?_, inOrder.imp Precedes.ne, inOrder⟩
  rw [List.mem_filter, placeholderNames, mem_names_iff, hole_mem_ofText_iff, and_comm]

end HttpCascade.Template

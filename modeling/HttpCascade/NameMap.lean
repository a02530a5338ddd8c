import HttpCascade.Text.Basic

/-!
# Maps from names

Headers and variables are maps from names to values in which a later write replaces an earlier one.
The entries are kept in strictly increasing order of their names, so two maps with the same look-ups
are equal (`NameMap.ext_get?`) and every listing is in name order.
-/

namespace HttpCascade

/-- A finite map from names, listed in name order. -/
structure NameMap (α : Type) where
  entries : List (Text × α)
  sorted : entries.Pairwise fun a b => a.1 < b.1

namespace NameMap

variable {α β : Type}

instance [DecidableEq α] : DecidableEq (NameMap α) := fun a b =>
  if same : a.entries = b.entries then
    .isTrue (by cases a; cases b; simp_all)
  else .isFalse fun h => same (h ▸ rfl)

def empty : NameMap α := ⟨[], .nil⟩

instance : EmptyCollection (NameMap α) := ⟨empty⟩

instance : Inhabited (NameMap α) := ⟨empty⟩

/-- The value of a name. -/
def get? (m : NameMap α) (name : Text) : Option α := m.entries.lookup name

def contains (m : NameMap α) (name : Text) : Bool := (m.get? name).isSome

/-- The names in increasing order. -/
def names (m : NameMap α) : List Text := m.entries.map Prod.fst

def size (m : NameMap α) : Nat := m.entries.length

/-- Puts an entry where its name belongs, in place of an entry of the same name. -/
def insertEntry (name : Text) (value : α) : List (Text × α) → List (Text × α)
  | [] => [(name, value)]
  | entry :: rest =>
    if name < entry.1 then (name, value) :: entry :: rest
    else if name = entry.1 then (name, value) :: rest
    else entry :: insertEntry name value rest

theorem mem_insertEntry {name : Text} {value : α} {entry : Text × α} {l : List (Text × α)}
    (member : entry ∈ insertEntry name value l) : entry = (name, value) ∨ entry ∈ l := by
  induction l with
  | nil => simp_all [insertEntry]
  | cons first rest ih =>
    rw [insertEntry] at member
    split at member
    · simpa using member
    split at member
    · simp only [List.mem_cons] at member ⊢
      exact member.imp_right .inr
    · simp only [List.mem_cons] at member ⊢
      rcases member with rfl | member
      · exact .inr (.inl rfl)
      · exact (ih member).imp_right .inr

theorem insertEntry_sorted {name : Text} {value : α} {l : List (Text × α)}
    (sorted : l.Pairwise fun a b => a.1 < b.1) :
    (insertEntry name value l).Pairwise fun a b => a.1 < b.1 := by
  induction l with
  | nil => simp [insertEntry]
  | cons first rest ih =>
    rw [insertEntry]
    have below : ∀ e ∈ rest, first.1 < e.1 := (List.pairwise_cons.mp sorted).1
    split
    next less =>
      refine List.pairwise_cons.mpr ⟨fun e member => ?_, sorted⟩
      rcases List.mem_cons.mp member with rfl | member
      · exact less
      · exact List.lt_trans less (below e member)
    next notLess =>
      split
      next same =>
        subst same
        exact List.pairwise_cons.mpr ⟨below, sorted.of_cons⟩
      next different =>
        have greater : first.1 < name := by
          rcases Std.Trichotomous.rel_or_eq_or_rel_swap (r := (· < · : Text → Text → Prop))
            (a := name) (b := first.1) with h | h | h
          · exact absurd h notLess
          · exact absurd h different
          · exact h
        refine List.pairwise_cons.mpr ⟨fun e member => ?_, ih sorted.of_cons⟩
        rcases mem_insertEntry member with rfl | member
        · exact greater
        · exact below e member

def insert (m : NameMap α) (name : Text) (value : α) : NameMap α :=
  ⟨insertEntry name value m.entries, insertEntry_sorted m.sorted⟩

def erase (m : NameMap α) (name : Text) : NameMap α :=
  ⟨m.entries.filter (·.1 ≠ name), m.sorted.filter _⟩

/-- Writes entries one after another. -/
def insertAll (m : NameMap α) (entries : List (Text × α)) : NameMap α :=
  entries.foldl (fun m entry => m.insert entry.1 entry.2) m

/-- The map of some entries; the last entry of a name counts. -/
def ofList (entries : List (Text × α)) : NameMap α := insertAll ∅ entries

/-- Lays `overlay` over `base`: its entries replace those of the same name. -/
def merge (base overlay : NameMap α) : NameMap α := base.insertAll overlay.entries

/-! ### Look-ups -/

theorem lookup_entry (entry : Text × α) (l : List (Text × α)) (name : Text) :
    (entry :: l).lookup name = if name = entry.1 then some entry.2 else l.lookup name := by
  obtain ⟨n, v⟩ := entry
  rw [List.lookup_cons]
  by_cases h : name = n
  · simp [h]
  · simp [h, beq_eq_false_iff_ne.mpr h]

theorem lookup_insertEntry (name other : Text) (value : α) (l : List (Text × α)) :
    (insertEntry name value l).lookup other = if other = name then some value else l.lookup other := by
  induction l with
  | nil =>
    by_cases h : other = name
    · simp [insertEntry, h]
    · simp [insertEntry, lookup_entry, h]
  | cons first rest ih =>
    obtain ⟨n, v⟩ := first
    rw [insertEntry]
    split
    next =>
      by_cases h : other = name
      · simp [h]
      · simp [lookup_entry, h]
    next =>
      split
      next same =>
        have same : name = n := same
        subst same
        by_cases h : other = name
        · simp [h]
        · simp [lookup_entry, h]
      next different =>
        have different : name ≠ n := different
        by_cases h : other = n
        · subst h
          simp [Ne.symm different]
        · simp [lookup_entry, h, ih]

@[simp] theorem get?_empty (name : Text) : (∅ : NameMap α).get? name = none := rfl

theorem get?_insert (m : NameMap α) (name other : Text) (value : α) :
    (m.insert name value).get? other = if other = name then some value else m.get? other :=
  lookup_insertEntry name other value m.entries

theorem get?_insertAll (m : NameMap α) (entries : List (Text × α)) (name : Text) :
    (m.insertAll entries).get? name = (entries.reverse.lookup name).or (m.get? name) := by
  induction entries generalizing m with
  | nil => simp [insertAll]
  | cons entry rest ih =>
    have step : m.insertAll (entry :: rest) = (m.insert entry.1 entry.2).insertAll rest := rfl
    rw [step, ih, get?_insert, List.reverse_cons, List.lookup_append]
    by_cases h : name = entry.1
    · subst h; cases List.lookup entry.1 rest.reverse <;> simp [lookup_entry]
    · cases List.lookup name rest.reverse <;> simp [lookup_entry, h]

theorem get?_ofList (entries : List (Text × α)) (name : Text) :
    (ofList entries).get? name = entries.reverse.lookup name := by
  simp [ofList, get?_insertAll]

/-! ### Equality by look-ups -/

/-- A name below every name of a sorted list has no value in it. -/
theorem lookup_eq_none_of_lt {name : Text} {l : List (Text × α)}
    (below : ∀ e ∈ l, name < e.1) : l.lookup name = none := by
  rw [List.lookup_eq_none_iff]
  intro e member
  have less := below e member
  have different : name ≠ e.1 := fun same => List.lt_irrefl e.1 (same ▸ less)
  simpa using different

theorem entries_eq_of_lookup {l₁ l₂ : List (Text × α)}
    (sorted₁ : l₁.Pairwise fun a b => a.1 < b.1) (sorted₂ : l₂.Pairwise fun a b => a.1 < b.1)
    (same : ∀ name, l₁.lookup name = l₂.lookup name) : l₁ = l₂ := by
  induction l₁ generalizing l₂ with
  | nil =>
    cases l₂ with
    | nil => rfl
    | cons e rest =>
      have := same e.1
      simp [lookup_entry] at this
  | cons e₁ rest₁ ih =>
    cases l₂ with
    | nil =>
      have := same e₁.1
      simp [lookup_entry] at this
    | cons e₂ rest₂ =>
      obtain ⟨below₁, tail₁⟩ := List.pairwise_cons.mp sorted₁
      obtain ⟨below₂, tail₂⟩ := List.pairwise_cons.mp sorted₂
      have names : e₁.1 = e₂.1 := by
        rcases Std.Trichotomous.rel_or_eq_or_rel_swap (r := (· < · : Text → Text → Prop))
          (a := e₁.1) (b := e₂.1) with h | h | h
        · have := same e₁.1
          rw [lookup_eq_none_of_lt (l := e₂ :: rest₂)] at this
          · simp [lookup_entry] at this
          · intro e member
            rcases List.mem_cons.mp member with rfl | member
            · exact h
            · exact List.lt_trans h (below₂ e member)
        · exact h
        · have := same e₂.1
          rw [lookup_eq_none_of_lt (l := e₁ :: rest₁)] at this
          · simp [lookup_entry] at this
          · intro e member
            rcases List.mem_cons.mp member with rfl | member
            · exact h
            · exact List.lt_trans h (below₁ e member)
      obtain ⟨n₁, v₁⟩ := e₁
      obtain ⟨n₂, v₂⟩ := e₂
      have names : n₁ = n₂ := names
      subst names
      have values : v₁ = v₂ := by
        have := same n₁
        simpa [lookup_entry] using this
      subst values
      rw [ih tail₁ tail₂]
      intro name
      by_cases h : name = n₁
      · subst h
        rw [lookup_eq_none_of_lt below₁, lookup_eq_none_of_lt below₂]
      · have := same name
        simpa [lookup_entry, h] using this

/-- Maps with the same look-ups are equal. -/
theorem ext_get? {a b : NameMap α} (same : ∀ name, a.get? name = b.get? name) : a = b := by
  cases a with
  | mk entries₁ sorted₁ =>
    cases b with
    | mk entries₂ sorted₂ =>
      obtain rfl : entries₁ = entries₂ := entries_eq_of_lookup sorted₁ sorted₂ same
      rfl

/-- In a sorted list the last entry of a name is its only entry. -/
theorem lookup_reverse {l : List (Text × α)} (sorted : l.Pairwise fun a b => a.1 < b.1)
    (name : Text) : l.reverse.lookup name = l.lookup name := by
  induction l with
  | nil => rfl
  | cons e rest ih =>
    obtain ⟨below, tail⟩ := List.pairwise_cons.mp sorted
    obtain ⟨n, v⟩ := e
    rw [List.reverse_cons, List.lookup_append, ih tail]
    by_cases h : name = n
    · subst h
      rw [lookup_eq_none_of_lt below]
      simp
    · cases hl : rest.lookup name <;> simp [lookup_entry, h, hl]

/-- The value in the overlay counts before the value in the base. -/
theorem get?_merge (base overlay : NameMap α) (name : Text) :
    (base.merge overlay).get? name = (overlay.get? name).or (base.get? name) := by
  rw [merge, get?_insertAll, lookup_reverse overlay.sorted]
  rfl

end NameMap

/-- The headers of a request; names that differ in case are different headers. -/
abbrev Headers := NameMap Text

/-- The values that placeholders stand for. -/
abbrev Variables := NameMap Text

end HttpCascade

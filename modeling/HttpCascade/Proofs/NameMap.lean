import HttpCascade.NameMap
import Mathlib.Data.List.Forall2

/-!
# Entries of name maps

Look-ups and entries say the same (`get?_eq_some_iff`), a map is the map of its entries, in whatever
order (`ofList_entries`, `ofList_of_perm`), and no map that is built of entries holds any other; of
those with one name it holds the last (`holdsLast_iff`). Lists that go through the same names with
related values have related look-ups (`lookup_rel`).
-/

namespace HttpCascade.NameMap

variable {α : Type}

@[simp] theorem entries_empty : (∅ : NameMap α).entries = [] := rfl

theorem lookup_eq_some_of_mem {name : Text} {value : α} {l : List (Text × α)}
    (sorted : l.Pairwise fun a b => a.1 < b.1) (member : (name, value) ∈ l) :
    l.lookup name = some value := by
  induction l with
  | nil => simp at member
  | cons entry rest ih =>
    obtain ⟨below, tail⟩ := List.pairwise_cons.mp sorted
    rw [lookup_entry]
    rcases List.mem_cons.mp member with rfl | later
    · simp
    · have less : entry.1 < name := below (name, value) later
      have differs : name ≠ entry.1 := by
        intro same
        rw [same] at less
        exact List.lt_irrefl _ less
      rw [if_neg differs, ih tail later]

theorem mem_of_lookup_eq_some {name : Text} {value : α} {l : List (Text × α)}
    (found : l.lookup name = some value) : (name, value) ∈ l := by
  obtain ⟨before, after, eq, _⟩ := List.lookup_eq_some_iff.mp found
  simp [eq]

theorem get?_eq_some_iff {m : NameMap α} {name : Text} {value : α} :
    m.get? name = some value ↔ (name, value) ∈ m.entries :=
  ⟨mem_of_lookup_eq_some, lookup_eq_some_of_mem m.sorted⟩

theorem contains_of_get? {m : NameMap α} {name : Text} {value : α}
    (found : m.get? name = some value) : m.contains name = true := by
  rw [contains, found]
  rfl

theorem ofList_entries (m : NameMap α) : ofList m.entries = m := by
  apply ext_get?
  intro name
  rw [get?_ofList, lookup_reverse m.sorted]
  rfl

@[simp] theorem merge_empty (m : NameMap α) : m.merge ∅ = m := rfl

@[simp] theorem empty_merge (m : NameMap α) : (∅ : NameMap α).merge m = m := ofList_entries m

theorem merge_assoc (a b c : NameMap α) : (a.merge b).merge c = a.merge (b.merge c) := by
  apply ext_get?
  intro name
  simp only [get?_merge, Option.or_assoc]

/-- Entries after others lie over them. -/
theorem ofList_append (l l' : List (Text × α)) :
    ofList (l ++ l') = (ofList l).merge (ofList l') := by
  apply ext_get?
  intro name
  rw [get?_merge, get?_ofList, get?_ofList, get?_ofList, List.reverse_append, List.lookup_append]

theorem mem_of_mem_ofList {l : List (Text × α)} {entry : Text × α}
    (member : entry ∈ (ofList l).entries) : entry ∈ l := by
  have found := get?_eq_some_iff.mpr member
  rw [get?_ofList] at found
  exact List.mem_reverse.mp (mem_of_lookup_eq_some found)

/-- Every entry gives its name a value, if not its own. -/
theorem exists_get?_ofList {l : List (Text × α)} {entry : Text × α} (member : entry ∈ l) :
    ∃ value, (ofList l).get? entry.1 = some value := by
  apply Option.ne_none_iff_exists'.mp
  rw [get?_ofList, Ne, List.lookup_eq_none_iff]
  intro absent
  have differs := absent entry (List.mem_reverse.mpr member)
  simp at differs

theorem ofList_eq_empty_iff {l : List (Text × α)} : ofList l = ∅ ↔ l = [] := by
  constructor
  · intro nothing
    cases l with
    | nil => rfl
    | cons entry rest =>
      have absent : (ofList (entry :: rest)).get? entry.1 = none := by rw [nothing, get?_empty]
      rw [get?_ofList, List.lookup_eq_none_iff] at absent
      simpa using absent entry (by simp)
  · rintro rfl
    rfl

/-- The map has the value of the last entry of each name, and no other name. -/
def HoldsLast (m : NameMap α) (entries : List (Text × α)) : Prop :=
  ∀ name value, m.get? name = some value ↔
    ∃ before after, entries = before ++ (name, value) :: after ∧ ∀ entry ∈ after, entry.1 ≠ name

theorem holdsLast_ofList (entries : List (Text × α)) : HoldsLast (ofList entries) entries := by
  intro name value
  rw [get?_ofList, List.lookup_eq_some_iff]
  constructor
  · rintro ⟨later, earlier, eq, others⟩
    refine ⟨earlier.reverse, later.reverse, ?_, fun entry member => ?_⟩
    · rw [← List.reverse_reverse entries, eq]
      simp
    · exact (bne_iff_ne.mp (others entry (List.mem_reverse.mp member))).symm
  · rintro ⟨earlier, later, rfl, others⟩
    refine ⟨later.reverse, earlier.reverse, by simp, fun entry member => ?_⟩
    exact bne_iff_ne.mpr (others entry (List.mem_reverse.mp member)).symm

theorem holdsLast_iff {m : NameMap α} {entries : List (Text × α)} :
    HoldsLast m entries ↔ m = ofList entries := by
  constructor
  · intro holds
    apply ext_get?
    intro name
    apply Option.ext
    intro value
    rw [holds, ← holdsLast_ofList]
  · rintro rfl
    exact holdsLast_ofList entries

theorem mem_of_mem_merge {base overlay : NameMap α} {entry : Text × α}
    (member : entry ∈ (base.merge overlay).entries) :
    entry ∈ overlay.entries ∨ entry ∈ base.entries := by
  have found := get?_eq_some_iff.mpr member
  rw [get?_merge, Option.or_eq_some_iff] at found
  rcases found with above | ⟨_, below⟩
  · exact Or.inl (get?_eq_some_iff.mp above)
  · exact Or.inr (get?_eq_some_iff.mp below)

/-- The entries of a map make this map in whatever order they come. -/
theorem ofList_of_perm {m : NameMap α} {entries : List (Text × α)}
    (perm : entries.Perm m.entries) : ofList entries = m := by
  -- Names are not compared: an entry of one map is an entry of the list, and so of the other map.
  have below : ∀ name value, (ofList entries).get? name = some value → m.get? name = some value := by
    intro name value found
    exact get?_eq_some_iff.mpr (perm.mem_iff.mp (mem_of_mem_ofList (get?_eq_some_iff.mp found)))
  apply ext_get?
  intro name
  cases found : (ofList entries).get? name with
  | some value => exact (below name value found).symm
  | none =>
    rw [get?_ofList, List.lookup_eq_none_iff] at found
    cases listed : m.get? name with
    | none => rfl
    | some value =>
      have member := perm.mem_iff.mpr (get?_eq_some_iff.mp listed)
      have differs := found (name, value) (List.mem_reverse.mpr member)
      simp at differs

/-- The larger map has every entry of the smaller one. -/
def IsPartOf (small large : NameMap α) : Prop :=
  ∀ name value, small.get? name = some value → large.get? name = some value

/-- What comes on top of both maps hides the same names in both. -/
theorem IsPartOf.merge {small large : NameMap α} (part : small.IsPartOf large)
    (overlay : NameMap α) : (small.merge overlay).IsPartOf (large.merge overlay) := by
  intro name value found
  rw [get?_merge] at found ⊢
  cases above : overlay.get? name with
  | some value' => rwa [above] at found
  | none =>
    rw [above, Option.none_or] at found
    rw [Option.none_or]
    exact part name value found

/-! ### Related values -/

variable {β : Type} {related : α → β → Prop}

theorem rel_unique {x : Option α} {y z : Option β}
    (functional : ∀ a b c, related a b → related a c → b = c)
    (one : Option.Rel related x y) (two : Option.Rel related x z) : y = z := by
  cases one with
  | none => cases two; rfl
  | some first =>
    cases two with
    | some second => rw [functional _ _ _ first second]

theorem lookup_rel {l : List (Text × α)} {l' : List (Text × β)}
    (pairs : List.Forall₂ (fun a b => b.1 = a.1 ∧ related a.2 b.2) l l') (name : Text) :
    Option.Rel related (l.lookup name) (l'.lookup name) := by
  induction pairs with
  | nil => exact .none
  | cons pair _ ih =>
    rw [lookup_entry, lookup_entry, pair.1]
    split
    · exact .some pair.2
    · exact ih

theorem pairwise_of_names {l : List (Text × α)} {l' : List (Text × β)}
    (pairs : List.Forall₂ (fun a b => b.1 = a.1) l l')
    (sorted : l.Pairwise fun a b => a.1 < b.1) : l'.Pairwise fun a b => a.1 < b.1 := by
  have names : l'.map Prod.fst = l.map Prod.fst := by
    induction pairs with
    | nil => rfl
    | cons pair _ ih => rw [List.map_cons, List.map_cons, ih sorted.of_cons, pair]
  have sortedNames : (l.map Prod.fst).Pairwise (· < ·) := List.pairwise_map.mpr sorted
  rw [← names] at sortedNames
  exact List.pairwise_map.mp sortedNames

end HttpCascade.NameMap

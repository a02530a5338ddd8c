import HttpCascade.Path
import HttpCascade.Proofs.Text.Lines
import Mathlib.Data.List.TakeDrop

/-!
# Components of paths

The plain components of a path are names, and reading a path on by a relative one adds the
components of that one except `.` (`components_join_relative`), so it adds a name as it stands
(`components_join`), however many slashes the path is written with. So the way from a root to a
file is a matter of components (`cascade?_eq_some_iff`), and the way from any directory on it is the
rest of it (`cascade?_from`).
-/

namespace HttpCascade

namespace Path

/-! ### Names -/

/-- A text that is a plain component of a path as it stands. -/
structure IsName (name : Text) : Prop where
  nonempty : name ≠ []
  notCurrent : name ≠ ['.']
  notParent : name ≠ ['.', '.']
  withoutSlash : '/' ∉ name

theorem innerComponent?_eq_normal_iff {piece name : Text} :
    innerComponent? piece = some (.normal name) ↔
      piece = name ∧ name ≠ [] ∧ name ≠ ['.'] ∧ name ≠ ['.', '.'] := by
  unfold innerComponent?
  split
  next empty =>
    simp only [reduceCtorEq, false_iff]
    rintro ⟨rfl, nonempty, notCurrent, _⟩
    simp [nonempty, notCurrent] at empty
  next other =>
    split
    next parent =>
      simp only [Option.some.injEq, reduceCtorEq, false_iff]
      rintro ⟨rfl, _, _, notParent⟩
      exact notParent parent
    next notParent =>
      simp only [Option.some.injEq, Component.normal.injEq]
      constructor
      · rintro rfl
        simp only [Bool.or_eq_true, decide_eq_true_eq, not_or] at other
        exact ⟨rfl, other.1, other.2, notParent⟩
      · exact fun same => same.1

theorem firstComponent?_eq_normal_iff {piece name : Text} {others : List Text} :
    firstComponent? piece others = some (.normal name) ↔
      innerComponent? piece = some (.normal name) := by
  unfold firstComponent?
  split
  next empty => subst empty; split <;> simp [innerComponent?]
  next =>
    split
    next current => simp [current, innerComponent?]
    next => rfl

/-- The components of a path of which the pieces between slashes are known. -/
theorem components_eq {p : Path} {first : Text} {others : List Text}
    (pieces : Text.splitAll '/' p.text = first :: others) :
    p.components =
      (firstComponent? first others).toList ++ others.filterMap innerComponent? := by
  rw [components, pieces]

theorem exists_pieces (p : Path) : ∃ first others, Text.splitAll '/' p.text = first :: others :=
  List.exists_cons_of_ne_nil (Text.splitAll_ne_nil _ _)

/-- The plain components of a path are names. -/
theorem isName_of_mem_components {p : Path} {name : Text} (member : .normal name ∈ p.components) :
    IsName name := by
  obtain ⟨first, others, pieces⟩ := exists_pieces p
  rw [components_eq pieces, List.mem_append, Option.mem_toList,
    firstComponent?_eq_normal_iff, List.mem_filterMap] at member
  obtain ⟨piece, isPiece, made⟩ : ∃ piece ∈ first :: others,
      innerComponent? piece = some (.normal name) := by
    rcases member with atFront | ⟨piece, inside, made⟩
    · exact ⟨first, List.mem_cons_self, atFront⟩
    · exact ⟨piece, List.mem_cons_of_mem _ inside, made⟩
  obtain ⟨rfl, nonempty, notCurrent, notParent⟩ := innerComponent?_eq_normal_iff.mp made
  exact ⟨nonempty, notCurrent, notParent, Text.not_mem_of_mem_splitAll (pieces ▸ isPiece)⟩

/-- The names after the components of another path are names. -/
theorem isName_of_components {p : Path} {base : List Component} {names : List Text}
    (components : p.components = base ++ names.map .normal) : ∀ name ∈ names, IsName name := by
  intro name member
  have isComponent : .normal name ∈ p.components := by
    rw [components]
    exact List.mem_append_right _ (List.mem_map_of_mem member)
  exact isName_of_mem_components isComponent

/-! ### Paths read on -/

/-- What the first piece stands for depends on the others only in that there are some, and on that
only if it is empty. -/
theorem firstComponent?_congr {piece : Text} {others others' : List Text}
    (same : piece = [] → (others = [] ↔ others' = [])) :
    firstComponent? piece others = firstComponent? piece others' := by
  unfold firstComponent?
  split
  next empty => simp only [same empty]
  next => rfl

/-- A path of the pieces of another and more pieces after them. -/
theorem components_of_pieces {p q : Path} {first : Text} {others others' : List Text}
    {more : List Component} (pieces : Text.splitAll '/' p.text = first :: others)
    (pieces' : Text.splitAll '/' q.text = first :: others')
    (same : first = [] → (others = [] ↔ others' = []))
    (longer : others'.filterMap innerComponent? = others.filterMap innerComponent? ++ more) :
    q.components = p.components ++ more := by
  rw [components_eq pieces, components_eq pieces', firstComponent?_congr same, longer,
    List.append_assoc]

theorem innerComponent?_ne_current {piece : Text} : innerComponent? piece ≠ some .current := by
  unfold innerComponent?
  split
  · simp
  · split <;> simp

theorem isAbsolute_of_pieces {p : Path} {next : Text} {more : List Text}
    (pieces : Text.splitAll '/' p.text = [] :: next :: more) : p.isAbsolute = true := by
  have whole := Text.join_splitAll '/' p.text
  rw [pieces] at whole
  rw [isAbsolute, ← whole]
  rfl

/-- After a slash a relative path has all its components but a `.` in front. -/
theorem filterMap_pieces {q : Path} (relative : q.isAbsolute = false) :
    (Text.splitAll '/' q.text).filterMap innerComponent? =
      q.components.filter (· ≠ .current) := by
  obtain ⟨first, others, pieces⟩ := exists_pieces q
  have inner : (others.filterMap innerComponent?).filter (· ≠ .current) =
      others.filterMap innerComponent? := by
    apply List.filter_eq_self.mpr
    intro c member
    obtain ⟨piece, _, made⟩ := List.mem_filterMap.mp member
    have differs : c ≠ .current := fun same => innerComponent?_ne_current (same ▸ made)
    simpa using differs
  have front : (firstComponent? first others).toList.filter (· ≠ .current) =
      (innerComponent? first).toList := by
    unfold firstComponent?
    split
    next empty =>
      cases others with
      | nil => simp [empty, innerComponent?]
      | cons next more =>
        rw [empty] at pieces
        simp [isAbsolute_of_pieces pieces] at relative
    next =>
      split
      next current => simp [current, innerComponent?]
      next =>
        cases made : innerComponent? first with
        | none => rfl
        | some c =>
          have differs : c ≠ .current := fun same => innerComponent?_ne_current (same ▸ made)
          simp [differs]
  rw [components_eq pieces, pieces, List.filter_append, inner, front, List.filterMap_cons]
  cases innerComponent? first <;> rfl

/-- A relative path that another is read on by adds its components, but for a `.` in front. -/
theorem components_join_relative {p q : Path} (nonempty : p.text ≠ [])
    (relative : q.isAbsolute = false) :
    (p.join q).components = p.components ++ q.components.filter (· ≠ .current) := by
  have isMore := filterMap_pieces relative
  have isSome := Text.splitAll_ne_nil '/' q.text
  unfold join
  rw [if_neg (by simp [relative, nonempty])]
  by_cases ended : p.text.getLast? = some '/'
  · -- The slash that is there takes the pieces of `q` in place of an empty one.
    obtain ⟨front, text⟩ := List.getLast?_eq_some_iff.mp ended
    obtain ⟨first, others, pieces⟩ := List.exists_cons_of_ne_nil (Text.splitAll_ne_nil '/' front)
    have before : Text.splitAll '/' p.text = first :: (others ++ [[]]) := by
      rw [text, Text.splitAll_append_separator, pieces]
      rfl
    have after : Text.splitAll '/' (p.text ++ q.text) =
        first :: (others ++ Text.splitAll '/' q.text) := by
      rw [text, List.append_assoc, List.singleton_append, Text.splitAll_append_separator, pieces]
      rfl
    rw [if_pos (by simp [ended])]
    refine components_of_pieces before after (by simp [isSome]) ?_
    simp [innerComponent?, isMore]
  · obtain ⟨first, others, pieces⟩ := exists_pieces p
    have after : Text.splitAll '/' (p.text ++ '/' :: q.text) =
        first :: (others ++ Text.splitAll '/' q.text) := by
      rw [Text.splitAll_append_separator, pieces]
      rfl
    rw [if_neg (by simp [ended])]
    refine components_of_pieces pieces after ?_ (by rw [List.filterMap_append, isMore])
    rintro rfl
    have several : others ≠ [] := by
      rintro rfl
      have whole := Text.join_splitAll '/' p.text
      rw [pieces] at whole
      exact nonempty whole.symm
    simp [several]

theorem components_of_empty {p : Path} (empty : p.text = []) : p.components = [] := by
  have pieces : Text.splitAll '/' p.text = [[]] := by rw [empty]; rfl
  rw [components_eq pieces]
  rfl

theorem join_of_empty {p : Path} (q : Path) (empty : p.text = []) : p.join q = q := by
  rw [join, if_pos (by simp [empty])]

theorem join_of_absolute {q : Path} (p : Path) (absolute : q.isAbsolute = true) : p.join q = q := by
  rw [join, if_pos (by simp [absolute])]

theorem IsName.isRelative {name : Text} (isName : IsName name) :
    (⟨name⟩ : Path).isAbsolute = false := by
  apply Bool.eq_false_iff.mpr
  intro absolute
  exact isName.withoutSlash (List.mem_of_head? (beq_iff_eq.mp absolute))

theorem IsName.components {name : Text} (isName : IsName name) :
    (⟨name⟩ : Path).components = [.normal name] := by
  have alone : Text.splitAll '/' name = [name] := Text.splitAll_of_not_mem isName.withoutSlash
  have made : firstComponent? name [] = some (.normal name) := by
    apply firstComponent?_eq_normal_iff.mpr
    exact innerComponent?_eq_normal_iff.mpr
      ⟨rfl, isName.nonempty, isName.notCurrent, isName.notParent⟩
  rw [components_eq alone, made]
  rfl

/-- A relative path without `.` is added whole, whatever it is read on from. -/
theorem components_join_plain {p q : Path} (relative : q.isAbsolute = false)
    (plain : .current ∉ q.components) : (p.join q).components = p.components ++ q.components := by
  by_cases empty : p.text = []
  · rw [join_of_empty _ empty, components_of_empty empty, List.nil_append]
  · have kept : q.components.filter (· ≠ .current) = q.components := by
      apply List.filter_eq_self.mpr
      intro c member
      have differs : c ≠ .current := fun same => plain (same ▸ member)
      simpa using differs
    rw [components_join_relative empty relative, kept]

theorem components_join {p : Path} {name : Text} (isName : IsName name) :
    (p.join ⟨name⟩).components = p.components ++ [.normal name] := by
  rw [components_join_plain isName.isRelative (by simp [isName.components]), isName.components]

/-! ### Relative paths -/

theorem dropPrefix?_eq_some_iff {base cs rest : List Component} :
    dropPrefix? base cs = some rest ↔ cs = base ++ rest := by
  induction base generalizing cs with
  | nil => simp [dropPrefix?]
  | cons a base ih =>
    cases cs with
    | nil => simp [dropPrefix?]
    | cons b cs =>
      rw [dropPrefix?]
      split
      next same => rw [ih, same, List.cons_append, List.cons.injEq, and_iff_right rfl]
      next differs =>
        simp only [reduceCtorEq, List.cons_append, List.cons.injEq, false_iff, not_and]
        rintro rfl
        exact absurd rfl differs

theorem names?_eq_some_iff {cs : List Component} {names : List Text} :
    names? cs = some names ↔ cs = names.map .normal := by
  unfold names?
  induction cs generalizing names with
  | nil => simp [eq_comm]
  | cons c rest ih =>
    rw [List.mapM_cons]
    cases c with
    | normal name =>
      have tail (others : List Text) : rest.mapM Component.name? = some others ↔
          rest = others.map .normal := ih
      cases names <;> simp [Component.name?, Option.bind_eq_some_iff, tail, and_comm]
    | root | current | parent => cases names <;> simp [Component.name?]

/-! ### Directories on the way to a file -/

/-- There is a way to a target if the components of the root and then names lead there; it visits
the directories of all these names but the last. -/
theorem cascade?_eq_some_iff {root target : Path} {directories : List Path} :
    cascade? root target = some directories ↔
      ∃ names, names ≠ [] ∧ target.components = root.components ++ names.map .normal ∧
        descend root names.dropLast = directories := by
  unfold cascade? relativeTo?
  constructor
  · intro found
    split at found
    · cases found
    · cases found
    next name others isRest =>
      obtain ⟨rest, dropped, areNames⟩ := Option.bind_eq_some_iff.mp isRest
      refine ⟨name :: others, by simp, ?_, Option.some.inj found⟩
      rw [← names?_eq_some_iff.mp areNames]
      exact dropPrefix?_eq_some_iff.mp dropped
  · rintro ⟨names, nonempty, components, rfl⟩
    obtain ⟨name, others, rfl⟩ := List.exists_cons_of_ne_nil nonempty
    rw [dropPrefix?_eq_some_iff.mpr components, Option.bind_some, names?_eq_some_iff.mpr rfl]

theorem descend_from {root directory : Path} {names : List Text} {k : Nat}
    (areNames : ∀ name ∈ names, IsName name) (reached : (descend root names)[k]? = some directory) :
    k ≤ names.length ∧ directory.components = root.components ++ (names.take k).map .normal ∧
      descend directory (names.drop k) = (descend root names).drop k := by
  -- By the names: below the first directory lies the way from the root read on by the first name.
  induction names generalizing root k with
  | nil =>
    cases k with
    | zero => cases reached; simp
    | succ k => simp [descend] at reached
  | cons name rest ih =>
    cases k with
    | zero => cases reached; simp
    | succ k =>
      obtain ⟨isName, areNamesRest⟩ := List.forall_mem_cons.mp areNames
      have below : (descend (root.join ⟨name⟩) rest)[k]? = some directory := reached
      obtain ⟨inside, components, same⟩ := ih areNamesRest below
      refine ⟨Nat.succ_le_succ inside, ?_, same⟩
      rw [components, components_join isName]
      simp

/-- From a directory on the way the way goes on as it did. -/
theorem cascade?_from {root target directory : Path} {directories : List Path} {k : Nat}
    (below : cascade? root target = some directories)
    (isDirectory : directories[k]? = some directory) :
    cascade? directory target = some (directories.drop k) := by
  obtain ⟨names, nonempty, components, rfl⟩ := cascade?_eq_some_iff.mp below
  have areNames : ∀ name ∈ names.dropLast, IsName name := fun name inside =>
    isName_of_components components name ((List.dropLast_prefix _).mem inside)
  obtain ⟨inside, reached, same⟩ := descend_from areNames isDirectory
  -- The last name is the file's own, so the directory stands before it and a name is left.
  rw [List.length_dropLast] at inside
  have length := List.length_pos_iff.mpr nonempty
  refine cascade?_eq_some_iff.mpr ⟨names.drop k, ?_, ?_, ?_⟩
  · rw [Ne, List.drop_eq_nil_iff]
    omega
  · have front : names.dropLast.take k = names.take k := by
      rw [List.dropLast_eq_take, List.take_take, Nat.min_eq_left inside]
    rw [reached, front, components, List.append_assoc, ← List.map_append, List.take_append_drop]
  · rw [← same, List.dropLast_drop_eq_drop_dropLast]

/-! ### Paths within a directory -/

/-- The path has the components of the base and then only names. -/
def IsWithin (p base : Path) : Prop :=
  ∃ names : List Text, p.components = base.components ++ names.map .normal

/-- The path adds a name to those of a directory. -/
def IsChildOf (p directory : Path) (name : Text) : Prop :=
  p.components = directory.components ++ [.normal name]

theorem IsChildOf.isWithin {p directory base : Path} {name : Text}
    (isChild : p.IsChildOf directory name) (within : directory.IsWithin base) :
    p.IsWithin base := by
  obtain ⟨names, components⟩ := within
  refine ⟨names ++ [name], ?_⟩
  rw [isChild, components, List.append_assoc, List.map_append]
  rfl

/-- The directories on the way to a target lie within the root. -/
theorem isWithin_of_mem_cascade? {root target directory : Path}
    (member : directory ∈ (cascade? root target).getD []) : directory.IsWithin root := by
  cases below : cascade? root target with
  | none => simp [below] at member
  | some directories =>
    rw [below, Option.getD_some] at member
    obtain ⟨names, _, components, rfl⟩ := cascade?_eq_some_iff.mp below
    obtain ⟨k, reached⟩ := List.mem_iff_getElem?.mp member
    have areNames : ∀ name ∈ names.dropLast, IsName name := fun name inside =>
      isName_of_components components name ((List.dropLast_prefix _).mem inside)
    obtain ⟨_, components, _⟩ := descend_from areNames reached
    exact ⟨_, components⟩

end Path
end HttpCascade

import HttpCascade.Cascade.Basic
import HttpCascade.Proofs.Path.Components

/-!
# The directories above a file

Which directories a resolution goes through is decided by components alone: those of the root have
to come first in those of the file, and only names may follow. So `..` after the root, an empty way
and a sibling whose name goes on where that of the root ends lead nowhere.

## Main result

`directories_are_ancestors`: there are directories exactly for a file below the root, and they are
the root, its child on the way, and so on down to the parent of the file.
-/

namespace HttpCascade

namespace Path

variable {p : Path} {base : List Component} {names : List Text}

theorem length_descend (directory : Path) (names : List Text) :
    (descend directory names).length = names.length + 1 := by
  induction names generalizing directory with
  | nil => rfl
  | cons name rest ih => rw [descend, List.length_cons, ih, List.length_cons]

theorem head?_descend (directory : Path) (names : List Text) :
    (descend directory names).head? = some directory := by
  cases names <;> rfl

theorem parentComponents?_of_name {name : Text} (components : p.components = base ++ [.normal name]) :
    p.parentComponents? = some base := by
  simp [parentComponents?, components]

/-- The parent of a path along some names stands before the last of them. -/
theorem parentComponents?_take {k : Nat} (inside : k < names.length)
    (components : p.components = base ++ (names.take (k + 1)).map .normal) :
    p.parentComponents? = some (base ++ (names.take k).map .normal) := by
  have last : p.components = base ++ (names.take k).map .normal ++ [.normal names[k]] := by
    rw [components, List.take_succ_eq_append_getElem inside, List.map_append, List.append_assoc]
    rfl
  exact parentComponents?_of_name last

end Path

namespace Cascade

variable {root target : Path} {names : List Text} {way : List Path}

/-- The directories from the root on, each the parent of the next, down to the parent of a file that
the names lead to. -/
structure IsWay (root target : Path) (names : List Text) (way : List Path) : Prop where
  length : way.length = names.length
  components : ∀ i directory, way[i]? = some directory →
    directory.components = root.components ++ (names.take i).map .normal
  first : way.head? = some root
  parents : ∀ i directory next, way[i]? = some directory → way[i + 1]? = some next →
    next.parentComponents? = some directory.components
  last : ∃ directory, way.getLast? = some directory ∧
    target.parentComponents? = some directory.components

theorem directories_eq_ok_iff :
    directories root target = .ok way ↔ Path.cascade? root target = some way := by
  unfold directories
  cases Path.cascade? root target <;> simp

theorem directories_eq_error_iff {e : ResolveError} :
    directories root target = .error e ↔
      Path.cascade? root target = none ∧ e = .notUnderRoot root target := by
  unfold directories
  cases Path.cascade? root target <;> simp [eq_comm]

theorem isWay_descend (nonempty : names ≠ [])
    (components : target.components = root.components ++ names.map .normal) :
    IsWay root target names (Path.descend root names.dropLast) := by
  have areNames : ∀ name ∈ names.dropLast, Path.IsName name := fun name inside =>
    Path.isName_of_components components name ((List.dropLast_prefix _).mem inside)
  have count : 0 < names.length := List.length_pos_iff.mpr nonempty
  have length : (Path.descend root names.dropLast).length = names.length := by
    rw [Path.length_descend, List.length_dropLast]
    omega
  -- The names before the last one are as good as all of them, as no directory takes the last.
  have reached : ∀ i directory, (Path.descend root names.dropLast)[i]? = some directory →
      i < names.length ∧
        directory.components = root.components ++ (names.take i).map .normal := by
    intro i directory found
    obtain ⟨inside, components, _⟩ := Path.descend_from areNames found
    rw [List.length_dropLast] at inside
    refine ⟨by omega, ?_⟩
    rw [components, List.dropLast_eq_take, List.take_take, Nat.min_eq_left inside]
  refine ⟨length, fun i directory found => (reached i directory found).2,
    Path.head?_descend _ _, fun i directory next found foundNext => ?_, ?_⟩
  · obtain ⟨inside, here⟩ := reached i directory found
    obtain ⟨_, below⟩ := reached (i + 1) next foundNext
    rw [here]
    exact Path.parentComponents?_take inside below
  · obtain ⟨directory, found⟩ : ∃ directory,
        (Path.descend root names.dropLast)[names.length - 1]? = some directory :=
      ⟨_, List.getElem?_eq_getElem (by omega)⟩
    refine ⟨directory, by rw [List.getLast?_eq_getElem?, length, found], ?_⟩
    rw [(reached _ directory found).2]
    apply Path.parentComponents?_take (by omega)
    rw [components, Nat.sub_add_cancel count, List.take_length]

/-- There are directories exactly if the components of the file are those of the root and then one
or more names, and they are the way along these names; otherwise the file is not below the root. A
name that goes on where the last one of the root ends is another name. -/
theorem directories_are_ancestors (root target : Path) :
    ((∃ way, directories root target = .ok way) ↔
      ∃ names, names ≠ [] ∧ target.components = root.components ++ names.map .normal) ∧
    (∀ way, directories root target = .ok way →
      ∃ names, target.components = root.components ++ names.map .normal ∧
        IsWay root target names way) ∧
    (∀ e, directories root target = .error e → e = .notUnderRoot root target) ∧
    (∀ base name more rest, more ≠ [] → root.components = base ++ [.normal name] →
      target.components = base ++ .normal (name ++ more) :: rest →
      directories root target = .error (.notUnderRoot root target)) := by
  have found : ∀ way, directories root target = .ok way ↔
      ∃ names, names ≠ [] ∧ target.components = root.components ++ names.map .normal ∧
        Path.descend root names.dropLast = way :=
    fun way => directories_eq_ok_iff.trans Path.cascade?_eq_some_iff
  refine ⟨?_, fun way isWay => ?_, fun e failed => (directories_eq_error_iff.mp failed).2, ?_⟩
  · constructor
    · rintro ⟨way, isWay⟩
      obtain ⟨names, nonempty, components, _⟩ := (found way).mp isWay
      exact ⟨names, nonempty, components⟩
    · rintro ⟨names, nonempty, components⟩
      exact ⟨_, (found _).mpr ⟨names, nonempty, components, rfl⟩⟩
  · obtain ⟨names, nonempty, components, rfl⟩ := (found way).mp isWay
    exact ⟨names, components, isWay_descend nonempty components⟩
  · intro base name more rest nonempty atRoot atTarget
    refine directories_eq_error_iff.mpr ⟨?_, rfl⟩
    apply Option.eq_none_iff_forall_ne_some.mpr
    intro way below
    obtain ⟨names, _, components, _⟩ := Path.cascade?_eq_some_iff.mp below
    -- At the place of the root's last name the file has the longer one.
    rw [atTarget, atRoot, List.append_assoc, List.append_cancel_left_eq] at components
    obtain ⟨same, _⟩ := List.cons.inj components
    exact nonempty (by simpa using same)

/-- Slashes and inner dots make no difference to what is above a file; `..` is a part of the way. -/
example : directories "./a//.." "./a/../b/.//q" = .ok ["./a//..", "./a//../b"] := by decide

end Cascade

end HttpCascade

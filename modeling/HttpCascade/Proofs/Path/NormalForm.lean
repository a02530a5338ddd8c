import HttpCascade.Proofs.Cascade.Ancestors
import Mathlib.Data.Set.List

/-!
# Normal forms of paths

Folding the components of a path keeps a stack: a root or some `..`, and names on top of them
(`isStack_stack`). Such a stack is read back from the path that is written for it
(`components_normalize`), so a path may be normalized at any time before it is read on
(`normalize_join`).

## Main result

`normal_forms_are_canonical`: what a normal form looks like, that it stands for the path wherever it
is read on from, and that between normal forms the directories above a file are told by components
alone.

## Proof strategy

1. A step of the fold is a case analysis on the top of the stack (`IsStack.fold`), and a path is a
   start and some steps.
2. Folding a stack again gives it back, and reading on folds further (`stack_join`).
3. Writing one more component is reading on by it (`ofComponents_append`), so normal forms are
   closed under names.
-/

namespace HttpCascade

namespace Path

variable {p q : Path} {s : List Component} {absolute : Bool}

/-! ### Starts and steps -/

/-- A component that may follow others. -/
inductive IsStep : Component → Prop
  | parent : IsStep .parent
  | name {name : Text} (isName : IsName name) : IsStep (.normal name)

theorem isStep_of_piece {piece : Text} {c : Component} (free : '/' ∉ piece)
    (made : innerComponent? piece = some c) : IsStep c := by
  unfold innerComponent? at made
  split at made
  · cases made
  next other =>
    simp only [Bool.or_eq_true, decide_eq_true_eq, not_or] at other
    split at made
    · cases made
      exact .parent
    next notParent =>
      cases made
      exact .name ⟨other.1, other.2, notParent, free⟩

theorem isStep_of_pieces {t : Text} :
    ∀ c ∈ (Text.splitAll '/' t).filterMap innerComponent?, IsStep c := by
  intro c member
  obtain ⟨piece, isPiece, made⟩ := List.mem_filterMap.mp member
  exact isStep_of_piece (Text.not_mem_of_mem_splitAll isPiece) made

theorem components_of_absolute (isAbsolute : p.isAbsolute = true) :
    ∃ steps, p.components = .root :: steps ∧ ∀ c ∈ steps, IsStep c := by
  obtain ⟨rest, text⟩ := List.head?_eq_some_iff.mp (beq_iff_eq.mp isAbsolute)
  have pieces : Text.splitAll '/' p.text = [] :: Text.splitAll '/' rest := by
    rw [text, Text.splitAll, if_pos rfl]
  have start : firstComponent? [] (Text.splitAll '/' rest) = some .root := by
    rw [firstComponent?, if_pos rfl, if_neg (Text.splitAll_ne_nil _ _)]
  refine ⟨(Text.splitAll '/' rest).filterMap innerComponent?, ?_, isStep_of_pieces⟩
  rw [components_eq pieces, start]
  rfl

theorem isStep_of_mem_components {c : Component} (relative : p.isAbsolute = false)
    (member : c ∈ p.components) (notCurrent : c ≠ .current) : IsStep c := by
  have kept : c ∈ p.components.filter (· ≠ .current) :=
    List.mem_filter.mpr ⟨member, by simpa using notCurrent⟩
  rw [← filterMap_pieces relative] at kept
  exact isStep_of_pieces c kept

theorem root_mem_components_iff : .root ∈ p.components ↔ p.isAbsolute = true := by
  constructor
  · intro member
    apply Bool.of_not_eq_false
    intro relative
    cases isStep_of_mem_components relative member (by simp)
  · intro isAbsolute
    obtain ⟨steps, components, _⟩ := components_of_absolute isAbsolute
    simp [components]

/-! ### Stacks -/

/-- What folding keeps, with the last component on top: a root or some `..`, and names. -/
inductive IsStack : Bool → List Component → Prop
  | root : IsStack true [.root]
  | parents {s : List Component} (all : ∀ c ∈ s, c = .parent) : IsStack false s
  | name {absolute : Bool} {s : List Component} {name : Text} (below : IsStack absolute s)
      (isName : IsName name) : IsStack absolute (.normal name :: s)

theorem IsStack.fold {c : Component} (stack : IsStack absolute s) (step : IsStep c) :
    IsStack absolute (fold s c) := by
  cases step with
  | name isName => exact .name stack isName
  | parent =>
    cases stack with
    | root => exact .root
    | name below _ => exact below
    | parents all =>
      -- On `..` another one is put, as on nothing.
      cases s with
      | nil => exact .parents (by simp [Path.fold])
      | cons top rest =>
        obtain ⟨rfl, _⟩ := List.forall_mem_cons.mp all
        exact .parents (List.forall_mem_cons.mpr ⟨rfl, all⟩)

theorem IsStack.foldl {steps : List Component} (stack : IsStack absolute s)
    (areSteps : ∀ c ∈ steps, IsStep c) : IsStack absolute (steps.foldl Path.fold s) := by
  induction steps generalizing s with
  | nil => exact stack
  | cons c rest ih =>
    obtain ⟨step, others⟩ := List.forall_mem_cons.mp areSteps
    exact ih (stack.fold step) others

theorem foldl_fold_filter (cs s : List Component) :
    (cs.filter (· ≠ .current)).foldl fold s = cs.foldl fold s := by
  induction cs generalizing s with
  | nil => rfl
  | cons c rest ih =>
    by_cases current : c = .current
    · subst current
      exact ih s
    · rw [List.filter_cons_of_pos (by simpa using current), List.foldl_cons, List.foldl_cons, ih]

/-- The components of a path after folding, the last one first. -/
def stack (p : Path) : List Component := p.components.foldl fold []

theorem isStack_stack (p : Path) : IsStack p.isAbsolute p.stack := by
  cases start : p.isAbsolute with
  | true =>
    obtain ⟨steps, components, areSteps⟩ := components_of_absolute start
    rw [stack, components]
    exact IsStack.root.foldl areSteps
  | false =>
    have nothing : IsStack false [] := .parents (by simp)
    rw [stack, ← foldl_fold_filter, ← filterMap_pieces start]
    exact nothing.foldl isStep_of_pieces

/-- A path that is read on is folded on. -/
theorem stack_join (p : Path) (relative : q.isAbsolute = false) :
    (p.join q).stack = q.components.foldl fold p.stack := by
  by_cases empty : p.text = []
  · -- No slash is put after an empty path, so a `.` at the start of the other one stays.
    rw [join_of_empty q empty, stack, stack, components_of_empty empty]
    rfl
  · rw [stack, components_join_relative empty relative, List.foldl_append, foldl_fold_filter, stack]

/-- Nothing is left to fold in a stack. -/
theorem IsStack.foldl_reverse (stack : IsStack absolute s) :
    s.reverse.foldl Path.fold [] = s := by
  induction stack with
  | root => rfl
  | name _ _ ih =>
    rw [List.reverse_cons, List.foldl_append, ih]
    rfl
  | @parents s all =>
    induction s with
    | nil => rfl
    | cons top rest ih =>
      obtain ⟨rfl, others⟩ := List.forall_mem_cons.mp all
      rw [List.reverse_cons, List.foldl_append, ih others]
      -- `fold` looks at the top before it puts a `..` on it.
      cases rest with
      | nil => rfl
      | cons next more =>
        obtain ⟨rfl, _⟩ := List.forall_mem_cons.mp others
        rfl

theorem IsStack.root_mem_iff (stack : IsStack absolute s) : .root ∈ s ↔ absolute = true := by
  induction stack with
  | root => simp
  | name _ _ ih => simpa using ih
  | parents all =>
    simp only [Bool.false_eq_true, iff_false]
    intro member
    cases all _ member

/-! ### Written stacks -/

theorem IsStep.written_nonempty {c : Component} (step : IsStep c) : c.written ≠ [] := by
  cases step with
  | parent => decide
  | name isName => exact isName.nonempty

theorem IsStep.written_free {c : Component} (step : IsStep c) : '/' ∉ c.written := by
  cases step with
  | parent => decide
  | name isName => exact isName.withoutSlash

theorem IsStep.isRelative {c : Component} (step : IsStep c) :
    (⟨c.written⟩ : Path).isAbsolute = false := by
  cases step with
  | parent => decide
  | name isName => exact isName.isRelative

theorem IsStep.components {c : Component} (step : IsStep c) :
    (⟨c.written⟩ : Path).components = [c] := by
  cases step with
  | parent => decide
  | name isName => exact isName.components

theorem IsStep.components_join {c : Component} (p : Path) (step : IsStep c) :
    (p.join ⟨c.written⟩).components = p.components ++ [c] := by
  have plain : .current ∉ (⟨c.written⟩ : Path).components := by
    rw [step.components]
    cases step <;> simp
  rw [components_join_plain step.isRelative plain, step.components]

/-- The text of a root, if there is one, and some steps. -/
theorem ofComponents_eq {steps : List Component} (absolute : Bool)
    (areSteps : ∀ c ∈ steps, IsStep c) :
    ofComponents ((if absolute then [.root] else []) ++ steps) =
      ⟨(if absolute then ['/'] else []) ++ Text.join ['/'] (steps.map Component.written)⟩ := by
  cases absolute with
  | true => rfl
  | false =>
    cases steps with
    | nil => rfl
    | cons c rest =>
      obtain ⟨step, _⟩ := List.forall_mem_cons.mp areSteps
      cases step <;> rfl

theorem getLast?_append_of_nonempty {t : Text} (front : Text) (nonempty : t ≠ []) :
    (front ++ t).getLast? = t.getLast? := by
  rw [List.getLast?_append, List.getLast?_eq_some_getLast nonempty, Option.some_or]

theorem join_ends {pieces : List Text} (nonempty : pieces ≠ [])
    (arePieces : ∀ piece ∈ pieces, piece ≠ [] ∧ '/' ∉ piece) :
    Text.join ['/'] pieces ≠ [] ∧ (Text.join ['/'] pieces).getLast? ≠ some '/' := by
  obtain ⟨front, last, rfl⟩ : ∃ front last, pieces = front ++ [last] :=
    ⟨_, _, (List.dropLast_concat_getLast nonempty).symm⟩
  obtain ⟨lastNonempty, free⟩ := arePieces last (by simp)
  obtain ⟨before, whole⟩ : ∃ before, Text.join ['/'] (front ++ [last]) = before ++ last := by
    by_cases alone : front = []
    · exact ⟨[], by simp [alone, Text.join]⟩
    · exact ⟨Text.join ['/'] front ++ ['/'], by simp [Text.join_append_last alone]⟩
  rw [whole]
  constructor
  · simp [lastNonempty]
  · rw [getLast?_append_of_nonempty _ lastNonempty]
    exact fun ended => free (List.mem_of_getLast? ended)

/-- Writing one more piece is reading on by it. -/
theorem join_piece {pieces : List Text} {w : Text} (slash : Text)
    (isSlash : slash = [] ∨ slash = ['/'])
    (arePieces : ∀ piece ∈ pieces, piece ≠ [] ∧ '/' ∉ piece)
    (relative : (⟨w⟩ : Path).isAbsolute = false) :
    (⟨slash ++ Text.join ['/'] pieces⟩ : Path).join ⟨w⟩ =
      ⟨slash ++ Text.join ['/'] (pieces ++ [w])⟩ := by
  by_cases first : pieces = []
  · subst first
    rcases isSlash with rfl | rfl <;> simp [join, relative, Text.join]
  · obtain ⟨nonempty, ends⟩ := join_ends first arePieces
    have text : slash ++ Text.join ['/'] pieces ≠ [] := by simp [nonempty]
    have unended : (slash ++ Text.join ['/'] pieces).getLast? ≠ some '/' := by
      rwa [getLast?_append_of_nonempty _ nonempty]
    rw [join, if_neg (by simpa [relative] using text), if_neg (by simpa using unended),
      Text.join_append_last first, ← List.append_assoc]

theorem IsStack.exists_steps (stack : IsStack absolute s) :
    ∃ steps, s.reverse = (if absolute then [.root] else []) ++ steps ∧ ∀ c ∈ steps, IsStep c := by
  induction stack with
  | root => exact ⟨[], rfl, by simp⟩
  | @parents s all =>
    refine ⟨s.reverse, rfl, fun c member => ?_⟩
    rw [all c (List.mem_reverse.mp member)]
    exact .parent
  | @name absolute s name _ isName ih =>
    obtain ⟨steps, eq, areSteps⟩ := ih
    refine ⟨steps ++ [.normal name], by rw [List.reverse_cons, eq, List.append_assoc], ?_⟩
    exact List.forall_mem_append.mpr ⟨areSteps, by simpa using .name isName⟩

theorem ofComponents_append {c : Component} (stack : IsStack absolute s) (step : IsStep c) :
    ofComponents (s.reverse ++ [c]) = (ofComponents s.reverse).join ⟨c.written⟩ := by
  obtain ⟨steps, eq, areSteps⟩ := stack.exists_steps
  have longer : ∀ d ∈ steps ++ [c], IsStep d :=
    List.forall_mem_append.mpr ⟨areSteps, by simpa using step⟩
  have arePieces : ∀ piece ∈ steps.map Component.written, piece ≠ [] ∧ '/' ∉ piece := by
    rw [List.forall_mem_map]
    exact fun d member => ⟨(areSteps d member).written_nonempty, (areSteps d member).written_free⟩
  have isSlash : (if absolute then ['/'] else [] : Text) = [] ∨
      (if absolute then ['/'] else [] : Text) = ['/'] := by cases absolute <;> simp
  rw [eq, List.append_assoc, ofComponents_eq absolute areSteps, ofComponents_eq absolute longer,
    join_piece _ isSlash arePieces step.isRelative, List.map_append]
  rfl

theorem components_ofComponents (stack : IsStack absolute s) :
    (ofComponents s.reverse).components = s.reverse := by
  induction stack with
  | root => decide
  | name below isName ih =>
    rw [List.reverse_cons, ofComponents_append below (.name isName),
      (IsStep.name isName).components_join, ih]
  | @parents s all =>
    induction s with
    | nil => rfl
    | cons top rest ih =>
      obtain ⟨rfl, others⟩ := List.forall_mem_cons.mp all
      rw [List.reverse_cons, ofComponents_append (.parents others) .parent,
        IsStep.parent.components_join, ih others]

/-! ### Normal forms -/

theorem components_normalize (p : Path) : p.normalize.components = p.stack.reverse :=
  components_ofComponents (isStack_stack p)

theorem stack_normalize (p : Path) : p.normalize.stack = p.stack := by
  rw [stack, components_normalize, (isStack_stack p).foldl_reverse]

theorem normalize_congr (same : p.stack = q.stack) : p.normalize = q.normalize :=
  congrArg (fun s : List Component => ofComponents s.reverse) same

theorem normalize_normalize (p : Path) : p.normalize.normalize = p.normalize :=
  normalize_congr (stack_normalize p)

theorem isAbsolute_normalize (p : Path) : p.normalize.isAbsolute = p.isAbsolute := by
  apply Bool.eq_iff_iff.mpr
  rw [← root_mem_components_iff, components_normalize, List.mem_reverse,
    (isStack_stack p).root_mem_iff]

theorem normalize_join (p q : Path) : (p.join q).normalize = (p.normalize.join q).normalize := by
  cases start : q.isAbsolute with
  | true => rw [join_of_absolute p start, join_of_absolute _ start]
  | false =>
    apply normalize_congr
    rw [stack_join p start, stack_join _ start, stack_normalize]

theorem normalize_join_name {name : Text} (p : Path) (isName : IsName name) :
    (p.join ⟨name⟩).normalize = p.normalize.join ⟨name⟩ := by
  have pushed : (p.join ⟨name⟩).stack = .normal name :: p.stack := by
    rw [stack_join p isName.isRelative, isName.components]
    rfl
  calc (p.join ⟨name⟩).normalize = ofComponents (.normal name :: p.stack).reverse := by
        rw [← pushed]
        rfl
    _ = ofComponents (p.stack.reverse ++ [.normal name]) := by rw [List.reverse_cons]
    _ = p.normalize.join ⟨name⟩ := ofComponents_append (isStack_stack p) (.name isName)

theorem normalize_join_parent {name : Text} (p : Path) (isName : IsName name) :
    ((p.join ⟨name⟩).join "..").normalize = p.normalize := by
  apply normalize_congr
  rw [stack_join _ (by decide), stack_join p isName.isRelative, isName.components]
  rfl

/-- A path without `.`, and with `..` only in front of all else. -/
structure IsNormal (p : Path) : Prop where
  withoutCurrent : .current ∉ p.components
  parentsFirst : ∀ front back, p.components = front ++ .parent :: back →
    p.isAbsolute = false ∧ ∀ c ∈ front, c = .parent

theorem IsStack.current_not_mem (stack : IsStack absolute s) : .current ∉ s := by
  induction stack with
  | root => simp
  | name _ _ ih => simpa using ih
  | parents all =>
    intro member
    cases all _ member

theorem IsStack.parents_last {above below : List Component} (stack : IsStack absolute s)
    (cut : s = above ++ .parent :: below) : absolute = false ∧ ∀ c ∈ below, c = .parent := by
  induction stack generalizing above with
  | root => cases above <;> simp at cut
  | parents all =>
    subst cut
    exact ⟨rfl, fun c member => all c (by simp [member])⟩
  | name _ _ ih =>
    cases above with
    | nil => cases cut
    | cons top others =>
      obtain ⟨_, rest⟩ := List.cons.inj cut
      exact ih rest

theorem isNormal_normalize (p : Path) : p.normalize.IsNormal := by
  have isStack := isStack_stack p
  refine ⟨?_, fun front back cut => ?_⟩
  · rw [components_normalize, List.mem_reverse]
    exact isStack.current_not_mem
  · rw [components_normalize, List.reverse_eq_iff, List.reverse_append, List.reverse_cons,
      List.append_assoc] at cut
    rw [isAbsolute_normalize]
    obtain ⟨relative, parents⟩ := isStack.parents_last cut
    exact ⟨relative, fun c member => parents c (List.mem_reverse.mpr member)⟩

theorem IsStack.append {steps : List Component} (stack : IsStack absolute s)
    (areSteps : ∀ c ∈ steps, IsStep c)
    (parentsFirst : ∀ front back, s.reverse ++ steps = front ++ .parent :: back →
      absolute = false ∧ ∀ c ∈ front, c = .parent) :
    IsStack absolute (steps.reverse ++ s) := by
  induction steps generalizing s with
  | nil => exact stack
  | cons c rest ih =>
    obtain ⟨step, others⟩ := List.forall_mem_cons.mp areSteps
    have longer : IsStack absolute (c :: s) := by
      cases step with
      | name isName => exact .name stack isName
      | parent =>
        obtain ⟨rfl, parents⟩ := parentsFirst s.reverse rest rfl
        refine .parents (List.forall_mem_cons.mpr ⟨rfl, fun d member => ?_⟩)
        exact parents d (List.mem_reverse.mpr member)
    rw [List.reverse_cons, List.append_assoc]
    exact ih longer others (by simpa using parentsFirst)

/-- A normal path is folded into what it is. -/
theorem components_normalize_of_isNormal (normal : p.IsNormal) :
    p.normalize.components = p.components := by
  have isStack : IsStack p.isAbsolute p.components.reverse := by
    have parentsFirst := normal.parentsFirst
    -- A root is no step: the stack of an absolute path grows from it, that of others from nothing.
    cases start : p.isAbsolute with
    | true =>
      obtain ⟨steps, components, areSteps⟩ := components_of_absolute start
      rw [components, start] at parentsFirst
      rw [components, List.reverse_cons]
      exact IsStack.root.append areSteps parentsFirst
    | false =>
      have nothing : IsStack false [] := .parents (by simp)
      have areSteps : ∀ c ∈ p.components, IsStep c := fun c member =>
        isStep_of_mem_components start member fun current =>
          normal.withoutCurrent (current ▸ member)
      rw [start] at parentsFirst
      simpa using nothing.append areSteps parentsFirst
  have folded := isStack.foldl_reverse
  rw [List.reverse_reverse] at folded
  rw [components_normalize, stack, folded, List.reverse_reverse]

/-! ### Normal forms below each other -/

theorem normalize_of_mem_descend {names : List Text} (areNames : ∀ name ∈ names, IsName name)
    (normal : p.normalize = p) :
    ∀ directory ∈ descend p names, directory.normalize = directory := by
  induction names generalizing p with
  | nil => simpa [descend] using normal
  | cons name rest ih =>
    obtain ⟨isName, others⟩ := List.forall_mem_cons.mp areNames
    have below : (p.join ⟨name⟩).normalize = p.join ⟨name⟩ := by
      rw [normalize_join_name p isName, normal]
    exact List.forall_mem_cons.mpr ⟨normal, ih others below⟩

/-- What an absolute normal form has more than another are names. -/
theorem IsNormal.names_of_append {rest : List Component} (normal : q.IsNormal)
    (startsAbove : p.isAbsolute = true) (starts : q.isAbsolute = true)
    (longer : p.components ++ rest = q.components) :
    ∃ names : List Text, rest = names.map .normal := by
  obtain ⟨above, componentsAbove, _⟩ := components_of_absolute startsAbove
  obtain ⟨steps, components, areSteps⟩ := components_of_absolute starts
  have isRest : above ++ rest = steps := by
    rw [componentsAbove, components] at longer
    exact (List.cons.inj longer).2
  have named : rest ∈ Set.range (List.map Component.normal) := by
    rw [Set.range_list_map]
    intro c member
    cases areSteps c (by simp [← isRest, member]) with
    | @name name _ => exact ⟨name, rfl⟩
    | parent =>
      -- Nothing can be above a root.
      obtain ⟨front, back, rfl⟩ := List.append_of_mem member
      obtain ⟨relative, _⟩ := normal.parentsFirst (p.components ++ front) back
        (by rw [← longer, List.append_assoc])
      cases starts.symm.trans relative
  obtain ⟨names, same⟩ := named
  exact ⟨names, same.symm⟩

end Path

namespace Cascade

variable {root target : Path}

theorem directories_of_normal_forms (rootStarts : root.isAbsolute = true)
    (targetStarts : target.isAbsolute = true) :
    (∃ way, directories root.normalize target.normalize = .ok way) ↔
      root.normalize.components <+: target.normalize.components ∧
        root.normalize.components ≠ target.normalize.components := by
  simp only [directories_eq_ok_iff, Path.cascade?_eq_some_iff]
  constructor
  · rintro ⟨_, names, nonempty, components, _⟩
    rw [components]
    exact ⟨List.prefix_append _ _, by simpa using nonempty⟩
  · rintro ⟨⟨rest, longer⟩, proper⟩
    -- The way may only lead through names, so no `..` may be left in what the target has more.
    obtain ⟨names, rfl⟩ := (Path.isNormal_normalize target).names_of_append
      (by rw [Path.isAbsolute_normalize, rootStarts])
      (by rw [Path.isAbsolute_normalize, targetStarts]) longer
    refine ⟨_, names, ?_, longer.symm, rfl⟩
    rintro rfl
    exact proper (by simpa using longer)

theorem normalize_of_mem_directories {way : List Path}
    (found : directories root.normalize target.normalize = .ok way) :
    ∀ directory ∈ way, directory.normalize = directory := by
  obtain ⟨names, _, components, rfl⟩ :=
    Path.cascade?_eq_some_iff.mp (directories_eq_ok_iff.mp found)
  have areNames : ∀ name ∈ names.dropLast, Path.IsName name := fun name inside =>
    Path.isName_of_components components name ((List.dropLast_prefix _).mem inside)
  exact Path.normalize_of_mem_descend areNames (Path.normalize_normalize root)

/-- A normal form has no `.` and has `..` only in front, none if it is absolute, and it is absolute
if the path is. It is its own normal form, it is as good as the path to read on from, and
normalizing leaves normal paths alone and takes a name away for a `..` after it. Of two absolute
normal forms one is below the other exactly if its components go on, and all directories on the way
are normal forms. -/
theorem normal_forms_are_canonical :
    (∀ p : Path, p.normalize.IsNormal ∧ p.normalize.isAbsolute = p.isAbsolute ∧
      p.normalize.normalize = p.normalize) ∧
    (∀ p q : Path, (p.join q).normalize = (p.normalize.join q).normalize) ∧
    (∀ p : Path, p.IsNormal → p.normalize.components = p.components) ∧
    (∀ (p : Path) (name : Text), Path.IsName name →
      ((p.join ⟨name⟩).join "..").normalize = p.normalize) ∧
    ∀ root target : Path, root.isAbsolute = true → target.isAbsolute = true →
      ((∃ way, directories root.normalize target.normalize = .ok way) ↔
        root.normalize.components <+: target.normalize.components ∧
          root.normalize.components ≠ target.normalize.components) ∧
      ∀ way, directories root.normalize target.normalize = .ok way →
        ∀ directory ∈ way, directory.normalize = directory := by
  refine ⟨fun p => ?_, Path.normalize_join, fun _ => Path.components_normalize_of_isNormal,
    fun p _ => Path.normalize_join_parent p, fun root target rootStarts targetStarts => ?_⟩
  · exact ⟨Path.isNormal_normalize p, Path.isAbsolute_normalize p, Path.normalize_normalize p⟩
  · exact ⟨directories_of_normal_forms rootStarts targetStarts,
      fun _ => normalize_of_mem_directories⟩

/-- A root and a file that are written with dots, `..` at the root and slashes at the end. -/
theorem normal_forms_are_canonical_nested :
    let root : Path := "/../a//b/../"
    let target : Path := "/a/./c/x/../d.http"
    root.isAbsolute = true ∧ target.isAbsolute = true ∧
    (∃ way, directories root.normalize target.normalize = .ok way ∧
      ∀ directory ∈ way, directory.normalize = directory) := by
  intro root target
  have rootStarts : root.isAbsolute = true := by decide
  have targetStarts : target.isAbsolute = true := by decide
  obtain ⟨below, normal⟩ :=
    normal_forms_are_canonical.2.2.2.2 root target rootStarts targetStarts
  have isBelow : root.normalize.components <+: target.normalize.components ∧
      root.normalize.components ≠ target.normalize.components := by decide
  obtain ⟨way, found⟩ := below.mpr isBelow
  exact ⟨rootStarts, targetStarts, way, found, normal way found⟩

/-- A relative path may climb above its start, an absolute one may not. -/
example : Path.normalize "a/../../b/./.." = ".." ∧ Path.normalize "/../b//c/" = "/b/c" ∧
    (Path.join "a/b" "../..").normalize = ⟨[]⟩ := by decide

end Cascade

end HttpCascade

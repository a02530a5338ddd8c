import HttpCascade.Cascade.MemoryTree
import HttpCascade.Proofs.Cascade.CallOrder
import HttpCascade.Proofs.Path.Components

/-!
# Resolutions stay below their root

A resolution asks for nothing but the directories on the way to its target, the two reserved files
in them and the target. A valid configuration reserves two plain names (`Config.areNames`), and a
plain name added to a directory on the way leads to a child of that directory, so no path that is
asked for leaves the root.

## Main result

`resolve_confined`: every path that is asked for consists of the components of the root and of
names.
-/

namespace HttpCascade

/-! ### The reserved names -/

theorem Config.isName_of_isPlainName {name : Text} (plain : isPlainName name = true) :
    Path.IsName name := by
  simp only [isPlainName, Bool.and_eq_true, decide_eq_true_eq] at plain
  obtain ⟨⟨⟨⟨nonempty, noSlash⟩, _⟩, notCurrent⟩, notParent⟩ := plain
  exact ⟨nonempty, notCurrent, notParent, noSlash⟩

theorem Config.isName_of_nameFault? {setting : String} {name : Text}
    (faultless : nameFault? setting name = none) : Path.IsName name := by
  unfold nameFault? at faultless
  split at faultless
  · cases faultless
  · split at faultless
    next plain => exact isName_of_isPlainName plain
    next => cases faultless

/-- The names that a valid configuration reserves are two, and they are plain. -/
theorem Config.areNames {c : Config} (valid : c.isValid = true) :
    Path.IsName c.headersFileName ∧ Path.IsName c.beforeScriptFileName ∧
      c.headersFileName ≠ c.beforeScriptFileName := by
  simp only [isValid, fault?, Option.isNone_iff_eq_none, Option.or_eq_none_iff] at valid
  obtain ⟨headers, script, others⟩ := valid
  refine ⟨isName_of_nameFault? headers, isName_of_nameFault? script, fun same => ?_⟩
  rw [if_pos same] at others
  cases others

namespace Cascade

variable {w : World} {config : Config}

theorem scriptOf_isChildOf (valid : config.isValid = true) (directory : Path) :
    (scriptOf config directory).IsChildOf directory config.beforeScriptFileName :=
  Path.components_join (Config.areNames valid).2.1

theorem headersFileOf_isChildOf (valid : config.isValid = true) (directory : Path) :
    (headersFileOf config directory).IsChildOf directory config.headersFileName :=
  Path.components_join (Config.areNames valid).1

/-! ### The planned calls -/

/-- A call that a visit of a directory may make. -/
def IsCallIn (config : Config) (directory : Path) (call : Call) : Prop :=
  call = .list directory ∨ call = .run (scriptOf config directory) ∨
    call = .read (headersFileOf config directory)

theorem isCallIn_of_mem {history : List Call} {directory : Path} {call : Call}
    (member : call ∈ directoryCalls w config history directory) :
    IsCallIn config directory call := by
  unfold directoryCalls at member
  rcases List.mem_cons.mp member with isList | later
  · exact .inl isList
  · split at later
    next files _ =>
      simp only [scriptCalls, headersCalls, List.mem_append, List.mem_ite_nil_right,
        List.mem_singleton] at later
      rcases later with ⟨_, isRun⟩ | ⟨_, isRead⟩
      · exact .inr (.inl isRun)
      · exact .inr (.inr isRead)
    next => cases later

theorem exists_of_mem_walkCalls {history : List Call} {directories : List Path} {call : Call}
    (member : call ∈ walkCalls w config history directories) :
    ∃ directory ∈ directories, IsCallIn config directory call := by
  induction directories generalizing history with
  | nil => cases member
  | cons directory rest ih =>
    rcases List.mem_append.mp member with here | later
    · exact ⟨directory, List.mem_cons_self, isCallIn_of_mem here⟩
    · obtain ⟨other, among, isCall⟩ := ih later
      exact ⟨other, List.mem_cons_of_mem _ among, isCall⟩

/-- What is planned is the reading of a target below the root, or a call in a directory on the
way. -/
theorem isCallIn_of_mem_plan {root target : Path} {call : Call}
    (member : call ∈ plan w config root target) :
    (call = .read target ∧ target.IsWithin root) ∨
      ∃ directory ∈ (Path.cascade? root target).getD [], IsCallIn config directory call := by
  unfold plan at member
  cases below : Path.cascade? root target with
  | none => simp [below] at member
  | some directories =>
    simp only [below, List.mem_append, List.mem_singleton] at member
    rcases member with onWay | last
    · exact .inr (exists_of_mem_walkCalls onWay)
    · obtain ⟨names, _, components, _⟩ := Path.cascade?_eq_some_iff.mp below
      exact .inl ⟨last, names, components⟩

theorem IsCallIn.isWithin (valid : config.isValid = true) {root directory : Path} {call : Call}
    (isCall : IsCallIn config directory call) (within : directory.IsWithin root) :
    call.path.IsWithin root := by
  rcases isCall with rfl | rfl | rfl
  · exact within
  · exact (scriptOf_isChildOf valid directory).isWithin within
  · exact (headersFileOf_isChildOf valid directory).isWithin within

/-! ### The calls that are made -/

/-- Every path that is asked for lies within the root. Only the directories on the way are listed;
what is run is a child of one of them, and so is what is read, the target apart. The two reserved
paths of a directory differ. -/
theorem resolve_confined (valid : config.isValid = true) (w : World) (root target : Path)
    (initial : Variables) (expandBody : Bool) :
    let calls := (w.resolve config root target initial expandBody).2.calls
    let directories := (Path.cascade? root target).getD []
    (∀ call ∈ calls, call.path.IsWithin root) ∧
      (∀ directory, .list directory ∈ calls → directory ∈ directories) ∧
      (∀ script, .run script ∈ calls →
        ∃ directory ∈ directories, script.IsChildOf directory config.beforeScriptFileName) ∧
      (∀ file, .read file ∈ calls →
        file = target ∨ ∃ directory ∈ directories, file.IsChildOf directory config.headersFileName) ∧
      ∀ directory,
        (scriptOf config directory).components ≠ (headersFileOf config directory).components := by
  intro calls directories
  have planned : ∀ call ∈ calls, (call = .read target ∧ target.IsWithin root) ∨
      ∃ directory ∈ directories, IsCallIn config directory call := fun call made =>
    isCallIn_of_mem_plan ((calls_begin_plan w config root target initial expandBody).mem made)
  refine ⟨fun call made => ?_, fun directory made => ?_, fun script made => ?_,
    fun file made => ?_, fun directory same => ?_⟩
  · rcases planned call made with ⟨rfl, within⟩ | ⟨directory, among, isCall⟩
    · exact within
    · exact isCall.isWithin valid (Path.isWithin_of_mem_cascade? among)
  -- Of the planned calls only those of the same kind can be the one that was made.
  · rcases planned _ made with ⟨same, _⟩ | ⟨other, among, same | same | same⟩ <;> cases same
    exact among
  · rcases planned _ made with ⟨same, _⟩ | ⟨directory, among, same | same | same⟩ <;> cases same
    exact ⟨directory, among, scriptOf_isChildOf valid directory⟩
  · rcases planned _ made with ⟨same, _⟩ | ⟨directory, among, same | same | same⟩ <;> cases same
    · exact .inl rfl
    · exact .inr ⟨directory, among, headersFileOf_isChildOf valid directory⟩
  · -- Equal components would end with equal names.
    rw [scriptOf_isChildOf valid directory, headersFileOf_isChildOf valid directory] at same
    have names := List.append_cancel_left same
    simp only [List.cons.injEq, Component.normal.injEq, and_true] at names
    exact (Config.areNames valid).2.2 names.symm

/-- Names that look like no names, and paths with more slashes and dots than they need. -/
theorem resolve_confined_odd_spelling :
    let tree : MemoryTree := ⟨[("./r/...", .ok "A: {{v}}"), ("./r/ ", .ok "v=2"),
      ("./r/s/ ", .ok []), ("./r/s/q", .ok "GET /{{v}}")], [], []⟩
    let config : Config := { headersFileName := "...", beforeScriptFileName := " " }
    let calls := (tree.world.resolve config "./r//" "./r/s/./q" ∅ false).2.calls
    config.isValid = true ∧
      calls = [.list "./r//", .run "./r// ", .read "./r//...", .list "./r//s", .run "./r//s/ ",
        .read "./r/s/./q"] ∧
      ∀ call ∈ calls, call.path.IsWithin "./r//" := by
  intro tree config calls
  have valid : config.isValid = true := by decide
  exact ⟨valid, by decide +kernel, (resolve_confined valid tree.world _ _ _ _).1⟩

end Cascade

end HttpCascade

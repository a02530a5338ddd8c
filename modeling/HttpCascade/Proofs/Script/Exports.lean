import HttpCascade.Proofs.NameMap
import HttpCascade.Proofs.Text.Lines
import HttpCascade.Script

/-!
# Exports of scripts

The variables that a script's output exports are told from its lines, each for itself, and of two
lines with one name the later counts. So output after output is map over map, and variables whose
lines can be told apart are read back from them in whatever order they are written.

## Main result

`exports_compose`: what an output exports, what two outputs export one after the other, and what is
exported by the lines of given variables.
-/

namespace HttpCascade

/-- The line is the name, a `=` that is the first one, and the value. -/
def IsExport (line name value : Text) : Prop := line = name ++ '=' :: value ∧ '=' ∉ name

/-- The line that exports a variable, with its ending. -/
def exportedLine (entry : Text × Text) : Text := entry.1 ++ '=' :: entry.2 ++ ['\n']

/-- A variable whose line is found again: its name ends at the first `=`, the line ends at the first
line feed, and no carriage return is taken for part of the ending. -/
structure Exportable (entry : Text × Text) : Prop where
  nameWithoutEquals : '=' ∉ entry.1
  nameOnOneLine : '\n' ∉ entry.1
  valueOnOneLine : '\n' ∉ entry.2
  valueKept : entry.2.getLast? ≠ some '\r'

instance (entry : Text × Text) : Decidable (Exportable entry) :=
  decidable_of_iff ('=' ∉ entry.1 ∧ '\n' ∉ entry.1 ∧ '\n' ∉ entry.2 ∧ entry.2.getLast? ≠ some '\r')
    ⟨fun ⟨equals, name, value, kept⟩ => ⟨equals, name, value, kept⟩,
      fun ⟨equals, name, value, kept⟩ => ⟨equals, name, value, kept⟩⟩

/-! ### Lines -/

theorem exportLine?_eq_some_iff {line name value : Text} :
    exportLine? line = some (name, value) ↔ IsExport line name value :=
  Text.splitOnce_eq_some_iff

/-- The last entry of a name comes from the last line that exports it. -/
theorem get?_exports_iff {s name value : Text} :
    (exports s).get? name = some value ↔
      ∃ before line after, s.lines = before ++ line :: after ∧ IsExport line name value ∧
        ∀ later ∈ after, ∀ other, ¬ IsExport later name other := by
  have holds := NameMap.holdsLast_ofList (s.lines.filterMap exportLine?) name value
  refine holds.trans ⟨?_, ?_⟩
  · rintro ⟨earlier, others, eq, none⟩
    -- The entry was read from a line, and the entries after it from lines after that.
    obtain ⟨front, back, lines, _, entries⟩ := List.filterMap_eq_append_iff.mp eq
    obtain ⟨silent, line, after, rfl, _, isExport, rest⟩ := List.filterMap_eq_cons_iff.mp entries
    refine ⟨front ++ silent, line, after, by simp [lines], exportLine?_eq_some_iff.mp isExport, ?_⟩
    intro later inside other alsoExport
    have entry : (name, other) ∈ after.filterMap exportLine? :=
      List.mem_filterMap.mpr ⟨later, inside, exportLine?_eq_some_iff.mpr alsoExport⟩
    rw [rest] at entry
    exact none _ entry rfl
  · rintro ⟨before, line, after, lines, isExport, none⟩
    refine ⟨before.filterMap exportLine?, after.filterMap exportLine?, ?_, ?_⟩
    · rw [lines, List.filterMap_append,
        List.filterMap_cons_some (exportLine?_eq_some_iff.mpr isExport)]
    · rintro ⟨found, other⟩ member rfl
      obtain ⟨later, inside, alsoExport⟩ := List.mem_filterMap.mp member
      exact none later inside other (exportLine?_eq_some_iff.mp alsoExport)

/-! ### One output after another -/

theorem exports_append {a : Text} (ended : a = [] ∨ a.getLast? = some '\n') (b : Text) :
    exports (a ++ b) = (exports a).merge (exports b) := by
  rw [exports, Text.lines_append ended, List.filterMap_append, NameMap.ofList_append]
  rfl

/-! ### Lines of variables -/

theorem Exportable.lines_append {entry : Text × Text} (exportable : Exportable entry)
    (rest : Text) :
    (exportedLine entry ++ rest).lines = (entry.1 ++ '=' :: entry.2) :: rest.lines := by
  have free : '\n' ∉ entry.1 ++ '=' :: entry.2 := by
    simp [exportable.nameOnOneLine, exportable.valueOnOneLine]
  -- The line ends with the value, or with the `=` if that is empty.
  have kept : (entry.1 ++ '=' :: entry.2).getLast? ≠ some '\r' := by
    have valueKept := exportable.valueKept
    cases value : entry.2 with
    | nil => simp
    | cons c more =>
      rw [value] at valueKept
      simpa [List.getLast?_append] using valueKept
  have shape : exportedLine entry ++ rest = (entry.1 ++ '=' :: entry.2) ++ '\n' :: rest := by
    simp [exportedLine]
  rw [shape, Text.lines_append_lf rest free, Text.dropCr_eq_self_iff.mpr kept]

theorem filterMap_exportedLines {entries : List (Text × Text)}
    (exportable : ∀ entry ∈ entries, Exportable entry) :
    (Text.lines (entries.flatMap exportedLine)).filterMap exportLine? = entries := by
  induction entries with
  | nil => rfl
  | cons entry rest ih =>
    obtain ⟨first, others⟩ := List.forall_mem_cons.mp exportable
    have read : exportLine? (entry.1 ++ '=' :: entry.2) = some entry :=
      exportLine?_eq_some_iff.mpr ⟨rfl, first.nameWithoutEquals⟩
    rw [List.flatMap_cons, first.lines_append, List.filterMap_cons_some read, ih others]

theorem exports_exportedLines {m : Variables} {entries : List (Text × Text)}
    (perm : entries.Perm m.entries) (exportable : ∀ entry ∈ m.entries, Exportable entry) :
    exports (entries.flatMap exportedLine) = m := by
  have each : ∀ entry ∈ entries, Exportable entry := fun entry member =>
    exportable entry (perm.mem_iff.mp member)
  rw [exports, filterMap_exportedLines each, NameMap.ofList_of_perm perm]

/-! ### All together -/

/-- An output exports a value for a name exactly if it is that of the last line that exports the
name. Outputs of whole lines one after the other export what the later exports over what the earlier
does, also when they come from two scripts, and variables are exported by their lines in whatever
order these come. -/
theorem exports_compose :
    (∀ s name value, (exports s).get? name = some value ↔
      ∃ before line after, Text.lines s = before ++ line :: after ∧ IsExport line name value ∧
        ∀ later ∈ after, ∀ other, ¬ IsExport later name other) ∧
    (∀ a b : Text, a = [] ∨ a.getLast? = some '\n' →
      exports (a ++ b) = (exports a).merge (exports b) ∧
        ∀ bindings : Variables, bindings.merge (exports (a ++ b)) =
          (bindings.merge (exports a)).merge (exports b)) ∧
    ∀ (m : Variables) (entries : List (Text × Text)), entries.Perm m.entries →
      (∀ entry ∈ m.entries, Exportable entry) → exports (entries.flatMap exportedLine) = m := by
  refine ⟨fun s name value => get?_exports_iff, fun a b ended => ?_, fun m entries => ?_⟩
  · have both := exports_append ended b
    exact ⟨both, fun bindings => by rw [both, NameMap.merge_assoc]⟩
  · exact exports_exportedLines

/-- A name that comes twice, a line without `=`, one without a name, and a `=` in a value. -/
theorem exports_compose_two_outputs :
    exports ("A=1\r\nnone\n=x\n" ++ "A=2=\n" : Text) =
        (exports "A=1\r\nnone\n=x\n").merge (exports "A=2=\n") ∧
      exports ("B=\nA=2=\n=x\n" : Text) = .ofList [([], "x"), ("A", "2="), ("B", [])] := by
  have lines : ([("B", []), ("A", "2="), ([], "x")] : List (Text × Text)).flatMap exportedLine =
      "B=\nA=2=\n=x\n" := by decide
  have exportable : ∀ entry ∈ (NameMap.ofList [([], "x"), ("A", "2="), ("B", [])] :
      Variables).entries, Exportable entry := by decide
  refine ⟨(exports_compose.2.1 _ _ (.inr (by decide))).1, ?_⟩
  rw [← lines]
  exact exports_compose.2.2 _ _ (by decide) exportable

end HttpCascade

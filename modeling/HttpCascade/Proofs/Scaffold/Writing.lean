import HttpCascade.Proofs.Cascade.Confinement
import HttpCascade.Proofs.Files.Directories
import HttpCascade.Proofs.Scaffold.Refusal

/-!
# Written starter trees

A starter file is made where nothing stands and changes nothing else (`writeFile_cases`), so no run
loses a file, wherever it stops (`initOn_keeps`). The files that are written stand side by side in
one directory (`WroteAll`), which tells when all of them can be written.

## Main result

`init_only_adds`: whatever a run gives, all that was on the disk still is; and with a valid
configuration the run succeeds exactly if its paths are new and different, and then it adds the
starter files and nothing else.
-/

namespace HttpCascade

namespace Scaffold

open Machine (files log)

variable {here inside place : Place} {directory path : Path} {c : Config} {f : StarterFile}
  {starters : List StarterFile} {m m' : Machine} {paths : List Path}

/-! ### One file -/

/-- The machine on which a starter file was made at a place. -/
def withFile (m : Machine) (directory : Path) (place : Place) (f : StarterFile) : Machine :=
  { m with
    disk := m.disk.put place (.file (Utf8.encode f.content) f.executable)
    records := m.records ++ [created (directory.join ⟨f.name⟩)] }

/-- A starter file is made with its whole text where nothing stands, or nothing is changed. -/
theorem writeFile_cases (here : Place) (directory : Path) (f : StarterFile) (m : Machine) :
    (∃ place, m.disk.locateNew false here (directory.join ⟨f.name⟩) = .ok place ∧
      m.disk.get? place = none ∧
      (writeFile (files here) log directory f).run.run m =
        (.ok (directory.join ⟨f.name⟩), withFile m directory place f)) ∨
    ∃ cause, m.disk.create here (directory.join ⟨f.name⟩) f.executable = .error cause ∧
      (writeFile (files here) log directory f).run.run m =
        (.error (.ofCause (directory.join ⟨f.name⟩) cause), m) := by
  rw [run_writeFile]
  cases making : m.disk.create here (directory.join ⟨f.name⟩) f.executable with
  | error cause => exact .inr ⟨cause, rfl, rfl⟩
  | ok made =>
    -- What was just made takes bytes, so the second command cannot fail.
    obtain ⟨place, located, free, filled⟩ := Disk.append_of_create making (Utf8.encode f.content)
    refine .inl ⟨place, located, free, ?_⟩
    simp only [filled, withFile]

theorem keeps_of_writeFile {result : Except ScaffoldError Path}
    (ran : (writeFile (files here) log directory f).run.run m = (result, m')) :
    m.disk.Keeps m'.disk := by
  obtain ⟨place, _, free, made⟩ | ⟨cause, _, refused⟩ := writeFile_cases here directory f m
  · cases made.symm.trans ran
    exact Disk.keeps_put free _ _
  · cases refused.symm.trans ran
    exact Disk.Keeps.refl _

/-- A new file is not in the way of the directory that names are read on from. -/
theorem enter_withFile (f : StarterFile) (free : m.disk.get? place = none)
    (entered : m.disk.enter here directory = .ok inside) :
    (withFile m directory place f).disk.enter here directory = .ok inside :=
  Disk.enter_put (Disk.takesFile_of_none free) entered

/-! ### All files -/

theorem keeps_of_writeFiles {result : Except ScaffoldError (List Path)}
    (ran : (starters.mapM (writeFile (files here) log directory)).run.run m = (result, m')) :
    m.disk.Keeps m'.disk := by
  induction starters generalizing m result with
  | nil =>
    cases ran
    exact Disk.Keeps.refl _
  | cons f rest ih =>
    rw [run_writeFiles_cons] at ran
    split at ran
    next e m₁ first =>
      cases ran
      exact keeps_of_writeFile first
    next p m₁ first =>
      have kept := keeps_of_writeFile first
      split at ran
      all_goals
        next others =>
          cases ran
          exact kept.trans (ih others)

/-- No run loses what was on the disk, wherever it stops. -/
theorem initOn_keeps (here : Place) (directory : Path) (c : Config) (m : Machine) :
    m.disk.Keeps (initOn here directory c m).2.disk := by
  obtain ⟨_, _, _, ran⟩ | ⟨_, ran⟩ := initOn_cases here directory c m
  · rw [ran]
    exact Disk.Keeps.refl _
  · rw [ran]
    exact keeps_of_writeFiles rfl

/-- Files that were all written stand side by side in a directory where they were new. -/
structure WroteAll (here inside : Place) (directory : Path) (starters : List StarterFile)
    (m m' : Machine) : Prop where
  entered : m'.disk.enter here directory = .ok inside
  names : (starters.map (·.name)).Nodup
  fits : ∀ f ∈ starters, Disk.Fits directory f.name
  free : ∀ f ∈ starters, m.disk.get? (inside ++ [f.name]) = none
  stand : ∀ f ∈ starters, m'.disk.get? (inside ++ [f.name]) =
    some (.file (Utf8.encode f.content) f.executable)
  others : ∀ place, (∀ f ∈ starters, place ≠ inside ++ [f.name]) →
    m'.disk.get? place = m.disk.get? place
  rest : m' = { m with disk := m'.disk, records := m'.records }

theorem WroteAll.cons {rest : List StarterFile}
    (fits : Disk.Fits directory f.name) (free : m.disk.get? (inside ++ [f.name]) = none)
    (wrote : WroteAll here inside directory rest (withFile m directory (inside ++ [f.name]) f) m') :
    WroteAll here inside directory (f :: rest) m m' := by
  have other {place : Place} (different : place ≠ inside ++ [f.name]) :
      (withFile m directory (inside ++ [f.name]) f).disk.get? place = m.disk.get? place :=
    Disk.get?_put_other m.disk different _
  have isThere : (withFile m directory (inside ++ [f.name]) f).disk.get? (inside ++ [f.name]) =
      some (.file (Utf8.encode f.content) f.executable) :=
    Disk.get?_put_same m.disk (by simp) _
  -- The first file stands when the others are written, which are new: its name is none of theirs.
  have different (g : StarterFile) (among : g ∈ rest) :
      inside ++ [f.name] ≠ inside ++ [g.name] := by
    intro same
    have isFree := wrote.free g among
    rw [← same, isThere] at isFree
    cases isFree
  exact {
    entered := wrote.entered
    names := by
      refine List.nodup_cons.mpr ⟨fun again => ?_, wrote.names⟩
      obtain ⟨g, among, same⟩ := List.mem_map.mp again
      exact different g among (by rw [same])
    fits := List.forall_mem_cons.mpr ⟨fits, wrote.fits⟩
    free := by
      refine List.forall_mem_cons.mpr ⟨free, fun g among => ?_⟩
      rw [← wrote.free g among, other (different g among).symm]
    stand := by
      refine List.forall_mem_cons.mpr ⟨?_, wrote.stand⟩
      rw [wrote.others _ different, isThere]
    others := by
      intro place away
      obtain ⟨notFirst, notLater⟩ := List.forall_mem_cons.mp away
      rw [wrote.others place notLater, other notFirst]
    rest := wrote.rest }

theorem wroteAll_of_writeFiles (areNames : ∀ f ∈ starters, Path.IsName f.name)
    (entered : m.disk.enter here directory = .ok inside)
    (ran : (starters.mapM (writeFile (files here) log directory)).run.run m = (.ok paths, m')) :
    paths = starters.map (fun f => directory.join ⟨f.name⟩) ∧
      WroteAll here inside directory starters m m' := by
  -- Each file is written in the directory that the first one is written in.
  induction starters generalizing m paths with
  | nil =>
    cases ran
    exact ⟨rfl, entered, List.nodup_nil, by simp, by simp, by simp, fun _ _ => rfl, rfl⟩
  | cons f rest ih =>
    obtain ⟨isName, restNames⟩ := List.forall_mem_cons.mp areNames
    rw [run_writeFiles_cons] at ran
    obtain ⟨place, located, free, made⟩ | ⟨cause, _, refused⟩ := writeFile_cases here directory f m
    · obtain ⟨fits, there, alsoEntered, rfl⟩ := (Disk.locateNew_join_iff isName).mp located
      cases entered.symm.trans alsoEntered
      have stays := enter_withFile f free entered
      simp only [made] at ran
      split at ran
      · cases ran
      · next written m₂ others =>
        cases ran
        obtain ⟨rfl, wrote⟩ := ih restNames stays others
        exact ⟨rfl, wrote.cons fits free⟩
    · simp only [refused] at ran
      cases ran

theorem hasEntry_of_withFile {g : StarterFile} (isName : Path.IsName g.name)
    (different : g.name ≠ f.name) (free : m.disk.get? (inside ++ [f.name]) = none)
    (entered : m.disk.enter here directory = .ok inside)
    (stands : (withFile m directory (inside ++ [f.name]) f).disk.HasEntry here
      (directory.join ⟨g.name⟩)) :
    m.disk.HasEntry here (directory.join ⟨g.name⟩) := by
  obtain ⟨fits, there, n, alsoEntered, stands⟩ := (Disk.hasEntry_join_iff isName).mp stands
  cases (enter_withFile f free entered).symm.trans alsoEntered
  have other : inside ++ [g.name] ≠ inside ++ [f.name] := by simpa using different
  have stood := (Disk.get?_put_other m.disk other _).symm.trans stands
  exact (Disk.hasEntry_join_iff isName).mpr ⟨fits, inside, n, entered, stood⟩

/-- Files with different names under which nothing stands are not refused for their names. -/
theorem writeFiles_ne_alreadyExists (areNames : ∀ f ∈ starters, Path.IsName f.name)
    (different : (starters.map (·.name)).Nodup)
    (new : ∀ f ∈ starters, ¬ m.disk.HasEntry here (directory.join ⟨f.name⟩)) :
    ((starters.mapM (writeFile (files here) log directory)).run.run m).1 ≠
      .error (.alreadyExists path) := by
  induction starters generalizing m with
  | nil => rintro ⟨⟩
  | cons f rest ih =>
    obtain ⟨isName, restNames⟩ := List.forall_mem_cons.mp areNames
    obtain ⟨isNew, restNew⟩ := List.forall_mem_cons.mp new
    obtain ⟨once, restDifferent⟩ := List.nodup_cons.mp different
    rw [run_writeFiles_cons]
    obtain ⟨place, located, free, made⟩ | ⟨cause, fails, refused⟩ :=
      writeFile_cases here directory f m
    · obtain ⟨fits, inside, entered, rfl⟩ := (Disk.locateNew_join_iff isName).mp located
      -- What stands under a later name stood there before, for the new file has another name.
      have stillNew : ∀ g ∈ rest, ¬ (withFile m directory (inside ++ [f.name]) f).disk.HasEntry here
          (directory.join ⟨g.name⟩) := by
        intro g among stands
        have other : g.name ≠ f.name := by
          intro same
          exact once (List.mem_map.mpr ⟨g, among, same⟩)
        exact restNew g among
          (hasEntry_of_withFile (restNames g among) other free entered stands)
      have later := ih restNames restDifferent stillNew
      simp only [made]
      split
      next e m₂ others =>
        rw [others] at later
        rintro ⟨⟩
        exact later rfl
      next => rintro ⟨⟩
    · simp only [refused]
      have other : cause ≠ .alreadyExists := by
        rintro rfl
        exact isNew (Disk.create_eq_alreadyExists_iff.mp fails)
      cases cause <;> first | exact absurd rfl other | rintro ⟨⟩

/-! ### The tree -/

/-- The paths of a starter tree in a directory, in the order in which they are written. -/
def starterPaths (directory : Path) (c : Config) : List Path :=
  [directory.join ⟨".env"⟩, directory.join ⟨c.headersFileName⟩,
    directory.join ⟨c.beforeScriptFileName⟩, directory.join ⟨"hello.http"⟩]

theorem starterPaths_eq (directory : Path) (c : Config) :
    starterPaths directory c = (starterFiles c).map fun f => directory.join ⟨f.name⟩ := rfl

theorem mem_starterPaths :
    path ∈ starterPaths directory c ↔ ∃ f ∈ starterFiles c, directory.join ⟨f.name⟩ = path := by
  rw [starterPaths_eq, List.mem_map]

theorem areNames_of_isValid (valid : c.isValid = true) :
    ∀ f ∈ starterFiles c, Path.IsName f.name := by
  obtain ⟨headers, script, _⟩ := Config.areNames valid
  have plain (name : Text) (isPlain : Config.isPlainName name = true) : Path.IsName name :=
    Config.isName_of_isPlainName isPlain
  simp only [starterFiles, List.forall_mem_cons]
  exact ⟨plain ".env" (by decide), headers, script, plain "hello.http" (by decide), by simp⟩

theorem nodup_starterPaths (valid : c.isValid = true) :
    (starterPaths directory c).Nodup ↔ ((starterFiles c).map (·.name)).Nodup := by
  have areNames := areNames_of_isValid valid
  have paths : starterPaths directory c =
      ((starterFiles c).map (·.name)).map fun name => directory.join ⟨name⟩ := by
    rw [starterPaths_eq, List.map_map]
    rfl
  rw [paths]
  refine ⟨List.Nodup.of_map _, fun different => different.map_on ?_⟩
  intro name among other alsoAmong same
  obtain ⟨f, isFile, rfl⟩ := List.mem_map.mp among
  obtain ⟨g, alsoFile, rfl⟩ := List.mem_map.mp alsoAmong
  exact (Path.join_inj (areNames f isFile) (areNames g alsoFile)).mp same

/-- A run that succeeds writes the whole tree into one directory. -/
theorem wroteAll_of_initOn (valid : c.isValid = true)
    (ran : initOn here directory c m = (.ok paths, m')) :
    paths = starterPaths directory c ∧
      ∃ inside, m.disk.enter here directory = .ok inside ∧
        WroteAll here inside directory (starterFiles c) m m' := by
  have areNames := areNames_of_isValid valid
  obtain ⟨_, _, _, refused⟩ | ⟨_, wrote⟩ := initOn_cases here directory c m
  · cases refused.symm.trans ran
  · rw [wrote] at ran
    -- The directory is the one in which the first file is made.
    have entered : ∃ inside, m.disk.enter here directory = .ok inside := by
      rw [starterFiles, run_writeFiles_cons] at ran
      obtain ⟨place, located, _⟩ | ⟨cause, _, refused⟩ :=
        writeFile_cases here directory ⟨".env", environmentFile, false⟩ m
      · have isName := areNames ⟨".env", environmentFile, false⟩ List.mem_cons_self
        obtain ⟨_, inside, entered, _⟩ := (Disk.locateNew_join_iff isName).mp located
        exact ⟨inside, entered⟩
      · simp only [refused] at ran
        cases ran
    obtain ⟨inside, entered⟩ := entered
    obtain ⟨rfl, wroteAll⟩ := wroteAll_of_writeFiles areNames entered ran
    exact ⟨rfl, inside, entered, wroteAll⟩

/-- A run is not refused for names that are different and under which nothing stands. -/
theorem initOn_ne_alreadyExists (valid : c.isValid = true)
    (different : (starterPaths directory c).Nodup)
    (new : ∀ p ∈ starterPaths directory c, ¬ m.disk.HasEntry here p) :
    (initOn here directory c m).1 ≠ .error (.alreadyExists path) := by
  have areNames := areNames_of_isValid valid
  obtain ⟨f, among, leads, _⟩ | ⟨_, ran⟩ := initOn_cases here directory c m
  · exact absurd (Disk.hasEntry_of_leadsSomewhere (areNames f among) leads)
      (new _ (mem_starterPaths.mpr ⟨f, among, rfl⟩))
  · rw [ran]
    exact writeFiles_ne_alreadyExists areNames ((nodup_starterPaths valid).mp different)
      fun f among => new _ (mem_starterPaths.mpr ⟨f, among, rfl⟩)

/-- Each of the paths holds its text and may be run or not, and nothing else is different. -/
structure Written (here : Place) (tree : List (Path × Text × Bool)) (before after : Machine) :
    Prop where
  files : ∀ path text executable, (path, text, executable) ∈ tree →
    ∃ place, after.disk.find here path = .ok (place, .file (Utf8.encode text) executable)
  others : ∀ place, (∀ file ∈ tree, before.disk.locateNew false here file.1 ≠ .ok place) →
    after.disk.get? place = before.disk.get? place
  rest : after = { before with disk := after.disk, records := after.records }

theorem WroteAll.find (wrote : WroteAll here inside directory (starterFiles c) m m')
    (valid : c.isValid = true) (among : f ∈ starterFiles c) :
    m'.disk.find here (directory.join ⟨f.name⟩) =
      .ok (inside ++ [f.name], .file (Utf8.encode f.content) f.executable) :=
  Disk.find_join (areNames_of_isValid valid f among) wrote.entered (wrote.fits f among)
    (wrote.stand f among) (by simp)

theorem WroteAll.written (wrote : WroteAll here inside directory (starterFiles c) m m')
    (valid : c.isValid = true) (entered : m.disk.enter here directory = .ok inside) :
    Written here ((starterFiles c).map fun f => (directory.join ⟨f.name⟩, f.content, f.executable))
      m m' := by
  refine ⟨fun path text executable member => ?_, fun place away => ?_, wrote.rest⟩
  · obtain ⟨f, among, same⟩ := List.mem_map.mp member
    cases same
    exact ⟨_, wrote.find valid among⟩
  · refine wrote.others place fun f among same => ?_
    have isName := areNames_of_isValid valid f among
    exact away _ (List.mem_map_of_mem among)
      ((Disk.locateNew_join_iff isName).mpr ⟨wrote.fits f among, inside, entered, same⟩)

/-- A run succeeds exactly if its paths are different and there is an entry at none of them, where
nothing else is in its way. -/
theorem initOn_succeeds_iff (valid : c.isValid = true)
    (noOther : ∀ path cause, (initOn here directory c m).1 ≠ .error (.io path cause)) :
    (∃ paths, (initOn here directory c m).1 = .ok paths) ↔
      (starterPaths directory c).Nodup ∧
        ∀ p ∈ starterPaths directory c, ¬ m.disk.HasEntry here p := by
  constructor
  · rintro ⟨paths, ran⟩
    -- Each file was new in the directory, so nothing stood under its name before.
    obtain ⟨_, inside, entered, wrote⟩ := wroteAll_of_initOn valid (Prod.ext ran rfl)
    refine ⟨(nodup_starterPaths valid).mpr wrote.names, fun p among stands => ?_⟩
    obtain ⟨f, isFile, rfl⟩ := mem_starterPaths.mp among
    obtain ⟨_, there, n, alsoEntered, stands⟩ :=
      (Disk.hasEntry_join_iff (areNames_of_isValid valid f isFile)).mp stands
    cases entered.symm.trans alsoEntered
    cases (wrote.free f isFile).symm.trans stands
  · rintro ⟨different, new⟩
    cases result : (initOn here directory c m).1 with
    | ok paths => exact ⟨paths, rfl⟩
    | error e =>
      cases e with
      | alreadyExists path => exact absurd result (initOn_ne_alreadyExists valid different new)
      | io path cause => exact absurd result (noOther path cause)

/-- No run changes what was on the disk. With a valid configuration, and if nothing but an entry
under a name is in the way, a run succeeds exactly if its four paths are different and there is an
entry at none of them; then it gives these paths, each holds its text, only the script may be run,
and nothing else is changed. -/
theorem init_only_adds (here : Place) (directory : Path) (c : Config) (m : Machine) :
    let environment := directory.join ⟨".env"⟩
    let headers := directory.join ⟨c.headersFileName⟩
    let script := directory.join ⟨c.beforeScriptFileName⟩
    let request := directory.join ⟨"hello.http"⟩
    m.disk.Keeps (initOn here directory c m).2.disk ∧
      (c.isValid = true →
        (∀ path cause, (initOn here directory c m).1 ≠ .error (.io path cause)) →
          ((∃ paths, (initOn here directory c m).1 = .ok paths) ↔
            [environment, headers, script, request].Nodup ∧
              ∀ p ∈ [environment, headers, script, request], ¬ m.disk.HasEntry here p) ∧
          ∀ paths, (initOn here directory c m).1 = .ok paths →
            paths = [environment, headers, script, request] ∧
            Written here
              [(environment, "host=http://localhost\n", false),
                (headers, "Accept: */*\nCache-Control: no-cache\nConnection: keep-alive\n", false),
                (script, "#!/bin/sh\n\ncat .env\n", true),
                (request, "POST \x7b\x7bhost\x7d\x7d/hello\n\nContent-Type: application/json\n\n" ++
                  "\x7b\n\t\"message\": \"Hello world!\"\n\x7d\n", false)]
              m (initOn here directory c m).2) := by
  intro environment headers script request
  refine ⟨initOn_keeps here directory c m, fun valid noOther => ?_⟩
  refine ⟨initOn_succeeds_iff valid noOther, fun paths ran => ?_⟩
  obtain ⟨named, inside, entered, wrote⟩ := wroteAll_of_initOn valid (Prod.ext ran rfl)
  exact ⟨named, wrote.written valid entered⟩

theorem init_only_adds_to_empty :
    ∃ m', initOn [] ⟨"."⟩ { headersFileName := "common" } { disk := .empty } =
        (.ok [⟨"./.env"⟩, ⟨"./common"⟩, ⟨"./_before.sh"⟩, ⟨"./hello.http"⟩], m') ∧
      Written []
        [(⟨"./.env"⟩, "host=http://localhost\n", false),
          (⟨"./common"⟩, "Accept: */*\nCache-Control: no-cache\nConnection: keep-alive\n", false),
          (⟨"./_before.sh"⟩, "#!/bin/sh\n\ncat .env\n", true),
          (⟨"./hello.http"⟩,
            "POST \x7b\x7bhost\x7d\x7d/hello\n\nContent-Type: application/json\n\n" ++
            "\x7b\n\t\"message\": \"Hello world!\"\n\x7d\n", false)]
        { disk := .empty } m' := by
  have succeeds : (initOn [] ⟨"."⟩ { headersFileName := "common" } { disk := .empty }).1 =
      .ok [⟨"./.env"⟩, ⟨"./common"⟩, ⟨"./_before.sh"⟩, ⟨"./hello.http"⟩] := by cbv
  have notFailed (path : Path) (cause : IoError) :
      (initOn [] ⟨"."⟩ { headersFileName := "common" } { disk := .empty }).1 ≠
        .error (.io path cause) := by
    rw [succeeds]
    rintro ⟨⟩
  have onlyAdds := (init_only_adds [] ⟨"."⟩ { headersFileName := "common" }
    { disk := .empty }).2 (by decide) notFailed
  exact ⟨_, Prod.ext succeeds rfl, (onlyAdds.2 _ succeeds).2⟩

end Scaffold

end HttpCascade

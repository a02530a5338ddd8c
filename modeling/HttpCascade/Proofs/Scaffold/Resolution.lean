import HttpCascade.Proofs.Cascade.Effects
import HttpCascade.Proofs.Cascade.Resolution
import HttpCascade.Proofs.Scaffold.Writing
import HttpCascade.Proofs.Template.Filling

/-!
# Starter trees that resolve

The request of a starter tree is resolved with the tree's own directory as the root, so that one
directory is visited. There the script and the headers file are found under the configured names
(`WroteAll.listed`), and each file gives the text that was written (`WroteAll.text`). The script's
exports come on top of the initial variables, so the starter texts are filled as from the exports
alone.

## Main result

`starter_tree_resolves`: under every valid configuration and from all initial variables the request
of a starter tree resolves, and to one and the same request.
-/

namespace HttpCascade

/-- How a script is run on a machine. -/
abbrev Runner := Path → StateM Machine (Except ScriptError ScriptOutput)

variable {here inside : Place} {directory script file target : Path} {c : Config}
  {m m' : Machine} {runner : Runner}

/-! ### A resolution through one directory -/

namespace Cascade

/-- What a resolution may ask of a machine. -/
def worldOn (here : Place) (runner : Runner) : Capabilities (StateM Machine) :=
  (Machine.files here).capabilities runner Machine.log

variable {scope : Scope} {text stdout stderr : Text} {headers : Headers} {r : Request}

theorem log_yields (here : Place) (runner : Runner) (record : LogRecord) (m : Machine) :
    Yields Machine.disk (liftM ((worldOn here runner).log record) :
      ExceptT ResolveError (StateM Machine) Unit) m () :=
  ⟨{ m with records := m.records ++ [record] }, rfl, rfl⟩

theorem runScript_yields (ran : (runner script).run m = (.ok ⟨stdout, stderr⟩, m'))
    (same : m'.disk = m.disk) :
    Yields Machine.disk (runScript (worldOn here runner) directory script scope) m
      { scope with bindings := scope.bindings.merge (exports stdout) } := by
  refine (Yields.attempted ran same).bind fun m₁ _ => ?_
  have noted (m₂ : Machine) : Yields Machine.disk (do
      (worldOn here runner).log (exported script (exports stdout).size)
      return { scope with bindings := scope.bindings.merge (exports stdout) } :
        ExceptT ResolveError (StateM Machine) Scope) m₂
        { scope with bindings := scope.bindings.merge (exports stdout) } :=
    (log_yields here runner _ m₂).bind fun _ _ => .pure _ _
  dsimp only
  -- What was written as errors is noted first, if it is not blank.
  split
  · exact (log_yields here runner _ m₁).bind fun m₂ _ => noted m₂
  · exact noted m₁

theorem readText_yields {fault : IoError → ResolveError}
    (isRead : m.disk.text here file = .ok text) :
    Yields Machine.disk (attempt fault ((worldOn here runner).readText file)) m text := by
  refine .attempted ?_ rfl
  rw [← isRead]
  exact Machine.run_readText here file m

theorem readHeaders_yields (isRead : m.disk.text here file = .ok text)
    (made : headersOf file text scope.bindings = .ok headers) :
    Yields Machine.disk (readHeaders (worldOn here runner) file scope) m
      { scope with headers := scope.headers.merge headers } := by
  refine (readText_yields isRead).bind fun m₁ _ => (Yields.lift made m₁).bind fun m₂ _ => ?_
  exact (log_yields here runner _ m₂).bind fun _ _ => .pure _ _

theorem readRequest_yields {bindings : Variables} {expandBody : Bool}
    (isRead : m.disk.text here target = .ok text)
    (made : requestOf target text bindings expandBody = .ok r) :
    Yields Machine.disk (readRequest (worldOn here runner) target bindings expandBody) m r :=
  (readText_yields isRead).bind fun m₁ _ => .lift made m₁

/-- The script gives the same output wherever the disk is the same, and leaves it as it is. -/
def Prints (runner : Runner) (script : Path) (d : Disk) (stdout : Text) : Prop :=
  ∀ on : Machine, on.disk = d →
    ∃ stderr after, (runner script).run on = (.ok ⟨stdout, stderr⟩, after) ∧ after.disk = d

theorem visit_yields {names : List Text} (listed : m.disk.regularFiles here directory = .ok names)
    (hasScript : c.beforeScriptFileName ∈ names) (hasHeaders : c.headersFileName ∈ names)
    (prints : Prints runner (directory.join ⟨c.beforeScriptFileName⟩) m.disk stdout)
    (isRead : m.disk.text here (directory.join ⟨c.headersFileName⟩) = .ok text)
    (made : headersOf (directory.join ⟨c.headersFileName⟩) text
      (scope.bindings.merge (exports stdout)) = .ok headers) :
    Yields Machine.disk (visit (worldOn here runner) c scope directory) m
      ⟨scope.bindings.merge (exports stdout), scope.headers.merge headers⟩ := by
  have lists : ((worldOn here runner).listFiles directory).run m = (.ok names, m) := by
    rw [← listed]
    exact Machine.run_regularFiles here directory m
  refine (Yields.attempted lists rfl).bind fun m₁ same₁ => ?_
  dsimp only
  rw [if_pos (List.contains_iff_mem.mpr hasScript)]
  -- Nothing so far has changed the disk, which is all that the script's output depends on.
  obtain ⟨stderr, m₂, ran, same₂⟩ := prints m₁ same₁
  refine (runScript_yields ran (same₂.trans same₁.symm)).bind fun m₃ same₃ => ?_
  rw [if_pos (List.contains_iff_mem.mpr hasHeaders)]
  refine readHeaders_yields ?_ made
  rw [same₃, same₁, isRead]

theorem cascade?_join {name : Text} (isName : Path.IsName name) :
    Path.cascade? directory (directory.join ⟨name⟩) = some [directory] :=
  Path.cascade?_eq_some_iff.mpr ⟨[name], by simp, Path.components_join isName, rfl⟩

theorem resolve_yields {name : Text} {initial : Variables} {expandBody : Bool}
    (isName : Path.IsName name)
    (visited : ∀ on : Machine, on.disk = m.disk →
      Yields Machine.disk (visit (worldOn here runner) c ⟨initial, ∅⟩ directory) on scope)
    (isRead : m.disk.text here (directory.join ⟨name⟩) = .ok text)
    (made : requestOf (directory.join ⟨name⟩) text scope.bindings expandBody = .ok r) :
    Yields Machine.disk
      (resolve (worldOn here runner) c directory (directory.join ⟨name⟩) initial expandBody) m
      (layBeneath scope.headers r) := by
  unfold resolve directories
  rw [cascade?_join isName]
  refine (Yields.lift rfl m).bind fun m₁ same₁ => ?_
  refine (log_yields here runner _ m₁).bind fun m₂ same₂ => ?_
  have walked : Yields Machine.disk
      ([directory].foldlM (visit (worldOn here runner) c) ⟨initial, ∅⟩) m₂ scope := by
    rw [List.foldlM_cons]
    exact (visited m₂ (same₂.trans same₁)).bind fun _ _ => .pure _ _
  refine walked.bind fun m₃ same₃ => ?_
  -- The request file is read last, when the disk is still as it was at first.
  have stillRead : m₃.disk.text here (directory.join ⟨name⟩) = .ok text := by
    rw [same₃, same₂, same₁, isRead]
  exact (readRequest_yields stillRead made).bind fun _ _ => .pure _ _

end Cascade

namespace Scaffold

variable {initial : Variables} {f : StarterFile} {paths : List Path}

/-! ### The starter texts -/

/-- The headers of the starter headers file. -/
def starterHeaders : Headers :=
  .ofList [("Accept", "*/*"), ("Cache-Control", "no-cache"), ("Connection", "keep-alive")]

/-- The request of the starter request file, filled. -/
def sampleRequest : Request where
  method := "POST"
  url := "http://localhost/hello"
  headers := .ofList [("Content-Type", "application/json")]
  body := "\x7b\n\t\"message\": \"Hello world!\"\n\x7d"

/-- The request that a starter tree resolves to. -/
def starterRequest : Request where
  method := "POST"
  url := "http://localhost/hello"
  headers := .ofList [("Accept", "*/*"), ("Cache-Control", "no-cache"),
    ("Connection", "keep-alive"), ("Content-Type", "application/json")]
  body := "\x7b\n\t\"message\": \"Hello world!\"\n\x7d"

theorem layBeneath_sampleRequest :
    Cascade.layBeneath starterHeaders sampleRequest = starterRequest := by decide +kernel

theorem headersOf_headersFile (file : Path) (values : Variables) :
    Cascade.headersOf file headersFile values = .ok starterHeaders := by
  have filled : expand headersFile values = .ok headersFile :=
    Template.expand_of_no_names (by decide +kernel) values
  have parsed : RequestText.parseHeaders headersFile = .ok starterHeaders := by decide +kernel
  rw [Cascade.headersOf, bind_eq_ok_iff]
  exact ⟨headersFile, mapError_eq_ok_iff.mpr filled, mapError_eq_ok_iff.mpr parsed⟩

theorem requestOf_requestFile (file : Path) (initial : Variables) (expandBody : Bool) :
    Cascade.requestOf file requestFile (initial.merge (exports environmentFile)) expandBody =
      .ok sampleRequest := by
  -- What the environment file exports wins over the initial variables.
  have part : (exports environmentFile).IsPartOf (initial.merge (exports environmentFile)) := by
    intro name value found
    rw [NameMap.get?_merge, found, Option.some_or]
  have parsed : RequestText.parse requestFile =
      .ok { sampleRequest with url := "\x7b\x7bhost\x7d\x7d/hello" } := by decide +kernel
  -- The exports alone fill the request, so the initial variables are not met.
  have filled : ({ sampleRequest with url := "\x7b\x7bhost\x7d\x7d/hello" } : Request).expand
      (exports environmentFile) expandBody = .ok sampleRequest := by
    cases expandBody <;> decide +kernel
  have valid : Url.validate sampleRequest.url = .ok () := by decide +kernel
  exact Cascade.requestOf_eq_ok_iff.mpr
    ⟨_, parsed, Request.expand_of_larger filled part, valid⟩

/-! ### The starter files -/

theorem decode?_content :
    ∀ f ∈ starterFiles c, Utf8.decode? (Utf8.encode f.content) = some f.content := by
  simp only [starterFiles, List.forall_mem_cons]
  refine ⟨?_, ?_, ?_, ?_, by simp⟩ <;> decide +kernel

theorem WroteAll.text (wrote : WroteAll here inside directory (starterFiles c) m m')
    (valid : c.isValid = true) (among : f ∈ starterFiles c) :
    m'.disk.text here (directory.join ⟨f.name⟩) = .ok f.content := by
  simp only [Disk.text, Disk.read, wrote.find valid among, decode?_content f among]

theorem WroteAll.listed (wrote : WroteAll here inside directory (starterFiles c) m m')
    (valid : c.isValid = true)
    (isDirectory : m'.disk.find here directory = .ok (inside, .directory)) :
    ∃ names, m'.disk.regularFiles here directory = .ok names ∧
      ∀ f ∈ starterFiles c, f.name ∈ names := by
  have names : m'.disk.names here directory = .ok (m'.disk.namesBelow inside) := by
    rw [Disk.names, isDirectory]
  rw [Disk.regularFiles, names]
  refine ⟨_, rfl, fun f among => ?_⟩
  have isBelow := Disk.mem_namesBelow (wrote.stand f among)
  refine List.mem_filter.mpr ⟨isBelow, ?_⟩
  simp only [Disk.isRegular, Disk.kind, wrote.find valid among, Except.map, Disk.kindOf]

/-- The script of a starter tree writes what the environment file beside it holds. -/
def PrintsEnvironment (runner : Runner) (here : Place) (directory : Path) (c : Config) (d : Disk) :
    Prop :=
  ∃ stdout, d.text here (directory.join ⟨".env"⟩) = .ok stdout ∧
    Cascade.Prints runner (directory.join ⟨c.beforeScriptFileName⟩) d stdout

/-- A starter tree in a directory resolves under the configuration that it was made with, from all
initial variables, whether or not bodies are filled. (Files can be read on from the empty path, too,
but that leads to no directory.) -/
theorem starter_tree_resolves {place : Place} (valid : c.isValid = true)
    (isDirectory : m.disk.find here directory = .ok (place, .directory))
    (ran : initOn here directory c m = (.ok paths, m'))
    (prints : PrintsEnvironment runner here directory c m'.disk)
    (initial : Variables) (expandBody : Bool) :
    ∃ after, (Cascade.resolve (Cascade.worldOn here runner) c directory
        (directory.join ⟨"hello.http"⟩) initial expandBody).run.run m' =
      (.ok starterRequest, after) := by
  obtain ⟨_, inside, entered, wrote⟩ := wroteAll_of_initOn valid ran
  have kept : m.disk.Keeps m'.disk := by
    have keeps := initOn_keeps here directory c m
    rwa [ran] at keeps
  -- The directory in which the files are found is the one that is listed.
  have stillDirectory : m'.disk.find here directory = .ok (inside, .directory) := by
    cases entered.symm.trans (Disk.enter_of_find isDirectory)
    exact kept.paths here directory _ isDirectory
  obtain ⟨names, listed, all⟩ := wrote.listed valid stillDirectory
  have isFile (f : StarterFile) (among : f ∈ starterFiles c) := wrote.text valid among
  simp only [starterFiles, List.forall_mem_cons] at all isFile
  obtain ⟨_, headersListed, scriptListed, _⟩ := all
  obtain ⟨environment, headers, _, request, _⟩ := isFile
  obtain ⟨stdout, isPrinted, prints⟩ := prints
  cases environment.symm.trans isPrinted
  have visited (on : Machine) (same : on.disk = m'.disk) :
      Yields Machine.disk (Cascade.visit (Cascade.worldOn here runner) c ⟨initial, ∅⟩ directory) on
        ⟨initial.merge (exports environmentFile), starterHeaders⟩ := by
    rw [← same] at listed headers prints
    exact Cascade.visit_yields listed scriptListed headersListed prints headers
      (headersOf_headersFile _ _)
  have isName : Path.IsName "hello.http" := Config.isName_of_isPlainName (by decide)
  obtain ⟨after, resolved, _⟩ := Cascade.resolve_yields isName visited request
    (requestOf_requestFile _ initial expandBody)
  rw [← layBeneath_sampleRequest]
  exact ⟨after, resolved⟩

/-- A runner that gives what the script of a starter tree writes. -/
def echoing : Runner := fun _ => return .ok ⟨environmentFile, []⟩

theorem starter_tree_resolves_in_empty :
    let c : Config := { headersFileName := "common", beforeScriptFileName := "setup" }
    let m : Machine := { disk := .empty }
    let initial : Variables := .ofList [("host", "elsewhere")]
    ∃ m' after, initOn [] ⟨"."⟩ c m = (.ok (starterPaths ⟨"."⟩ c), m') ∧
      (Cascade.resolve (Cascade.worldOn [] echoing) c ⟨"."⟩ ⟨"./hello.http"⟩ initial true).run.run m' =
        (.ok starterRequest, after) := by
  intro c m initial
  have isDirectory : m.disk.find [] ⟨"."⟩ = .ok ([], .directory) := by cbv
  have succeeds : (initOn [] ⟨"."⟩ c m).1 = .ok (starterPaths ⟨"."⟩ c) := by cbv
  have prints : PrintsEnvironment echoing [] ⟨"."⟩ c (initOn [] ⟨"."⟩ c m).2.disk :=
    ⟨environmentFile, by cbv, fun on same => ⟨[], on, rfl, same⟩⟩
  obtain ⟨after, resolved⟩ :=
    starter_tree_resolves (by decide) isDirectory (Prod.ext succeeds rfl) prints initial true
  exact ⟨_, after, Prod.ext succeeds rfl, resolved⟩

end Scaffold

end HttpCascade

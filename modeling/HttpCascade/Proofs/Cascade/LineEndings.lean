import HttpCascade.Cascade.MemoryTree
import HttpCascade.Proofs.Cascade.Resolution
import HttpCascade.Proofs.Request.Endings

/-!
# Resolutions and line endings

Line feeds and carriage returns with line feeds end lines alike: if the files and the outputs of the
scripts get the other endings, a resolution does not notice. It has the same scope after every
directory, and where it stops it stops for the same reason at the same place; only the details of
the failure may show the endings of the text.

## Main result

`resolve_line_endings`: with other line endings there is the same request, or an error of the same
kind about the same path, after the same calls.
-/

namespace HttpCascade

/-! ### Failures without their details -/

/-- What sort of failure ended a resolution. -/
inductive ResolveError.Kind where
  | notUnderRoot
  | filesystem
  | script
  | expansion
  | parse
  | invalidUrl
  deriving DecidableEq, Repr

def ResolveError.kind : ResolveError → Kind
  | notUnderRoot _ _ => .notUnderRoot
  | filesystem _ _ => .filesystem
  | script _ _ _ => .script
  | expansion _ _ _ => .expansion
  | parse _ _ => .parse
  | invalidUrl _ _ _ => .invalidUrl

namespace Cascade

variable {α β : Type}

/-- The same value, or errors of the same kind about the same path. -/
inductive SameButDetails : Except ResolveError α → Except ResolveError α → Prop
  | ok (a) : SameButDetails (.ok a) (.ok a)
  | error {e e' : ResolveError} (kind : e.kind = e'.kind) (path : e.path = e'.path) :
      SameButDetails (.error e) (.error e')

theorem SameButDetails.refl (x : Except ResolveError α) : SameButDetails x x := by
  cases x with
  | ok a => exact .ok a
  | error e => exact .error rfl rfl

theorem SameButDetails.bind {x x' : Except ResolveError α} {f f' : α → Except ResolveError β}
    (first : SameButDetails x x') (each : ∀ a, SameButDetails (f a) (f' a)) :
    SameButDetails (x >>= f) (x' >>= f') := by
  cases first with
  | ok a => exact each a
  | error kind path => exact .error kind path

/-- Answers of the world that agree, each with what is made of it. -/
theorem SameButDetails.of_answers {ε : Type} {related : α → α → Prop} {x x' : Except ε α}
    {fault : ε → ResolveError} {f f' : α → Except ResolveError β}
    (alike : SucceedAlike related x x')
    (faults : ∀ e e', (fault e).kind = (fault e').kind ∧ (fault e).path = (fault e').path)
    (each : ∀ a a', related a a' → SameButDetails (f a) (f' a')) :
    SameButDetails (x.mapError fault >>= f) (x'.mapError fault >>= f') := by
  cases alike with
  | ok holds => exact each _ _ holds
  | error e e' => exact .error (faults e e').1 (faults e e').2

/-! ### Actions -/

/-- After every history the two actions make the same calls and have the same result but for the
details of a failure. -/
def RunAlike (action action' : ExceptT ResolveError (StateM Journal) α) : Prop :=
  ∀ history, ∃ calls x x', SameButDetails x x' ∧ Performs action history calls x ∧
    Performs action' history calls x'

namespace RunAlike

variable {action action' : ExceptT ResolveError (StateM Journal) α}
  {next next' : α → ExceptT ResolveError (StateM Journal) β}

theorem pure (a : α) : RunAlike (pure a) (pure a) :=
  fun history => ⟨[], _, _, .ok a, .pure a history, .pure a history⟩

theorem bind (first : RunAlike action action') (second : ∀ a, RunAlike (next a) (next' a)) :
    RunAlike (action >>= next) (action' >>= next') := by
  intro history
  obtain ⟨calls, x, x', same, performs, performs'⟩ := first history
  cases same with
  -- Both go on with the same value, after the same calls.
  | ok a =>
    obtain ⟨later, y, y', sameNext, goesOn, goesOn'⟩ := second a (history ++ calls)
    exact ⟨calls ++ later, y, y', sameNext, performs.bind_ok goesOn, performs'.bind_ok goesOn'⟩
  | error kind path =>
    exact ⟨calls, _, _, .error kind path, performs.bind_error, performs'.bind_error⟩

theorem foldlM {γ : Type} {step step' : β → γ → ExceptT ResolveError (StateM Journal) β}
    {items : List γ} (each : ∀ item ∈ items, ∀ b, RunAlike (step b item) (step' b item)) (b : β) :
    RunAlike (items.foldlM step b) (items.foldlM step' b) := by
  induction items generalizing b with
  | nil => exact .pure b
  | cons item rest ih =>
    obtain ⟨here, later⟩ := List.forall_mem_cons.mp each
    rw [List.foldlM_cons, List.foldlM_cons]
    exact (here b).bind (ih later)

end RunAlike

/-! ### Worlds with other line endings -/

/-- A listing of the directory can hold the name. -/
def World.MayList (w : World) (directory : Path) (name : Text) : Prop :=
  ∃ history files, w.list history directory = .ok files ∧ name ∈ files

variable {config : Config} {w w' : World} {directory : Path} {target : Path}

/-- In the directory, the second world has the files of the first with other line endings: both list
the same of the two reserved names, and a script or a headers file that is listed gives texts that
differ in their line endings, or fails in both. -/
structure OtherEndingsIn (config : Config) (w w' : World) (directory : Path) : Prop where
  listing : ∀ history, SucceedAlike (fun files files' =>
    (config.beforeScriptFileName ∈ files ↔ config.beforeScriptFileName ∈ files') ∧
      (config.headersFileName ∈ files ↔ config.headersFileName ∈ files'))
    (w.list history directory) (w'.list history directory)
  script : w.MayList directory config.beforeScriptFileName → ∀ history,
    SucceedAlike (fun output output' => output.stdout.SameButEndings output'.stdout)
      (w.run history (scriptOf config directory)) (w'.run history (scriptOf config directory))
  headersFile : w.MayList directory config.headersFileName → ∀ history,
    SucceedAlike Text.SameButEndings (w.read history (headersFileOf config directory))
      (w'.read history (headersFileOf config directory))

/-- All that the second world answers on the way to the target is what the first does, with other
line endings. -/
structure OtherEndings (config : Config) (w w' : World) (root target : Path) : Prop where
  inDirectories : ∀ directories, Path.cascade? root target = some directories →
    ∀ directory ∈ directories, OtherEndingsIn config w w' directory
  requestFile : ∀ history,
    SucceedAlike Text.SameButEndings (w.read history target) (w'.read history target)

/-! ### The parts of a resolution -/

/-- The headers of a headers file are the same with other line endings, for the filled texts are
read alike; if there are none, the failure is of the same kind. -/
theorem headersOf_sameButDetails {text text' : Text} (same : text.SameButEndings text')
    (file : Path) (bindings : Variables) :
    SameButDetails (headersOf file text bindings) (headersOf file text' bindings) := by
  unfold headersOf
  rw [same.withReturns]
  rcases expand_withCrLf text bindings with
    ⟨filled, filled', filling, filling', returned⟩ | ⟨e, e', failed, failed'⟩
  · rw [filling, filling']
    simp only [Except.mapError, bind, Except.bind]
    rw [RequestText.parseHeaders_of_returned returned]
    exact .refl _
  · rw [failed, failed']
    exact .error rfl rfl

theorem takeExports_runAlike {files files' : List Text}
    (listed : config.beforeScriptFileName ∈ files ↔ config.beforeScriptFileName ∈ files')
    (other : config.beforeScriptFileName ∈ files → ∀ history,
      SucceedAlike (fun output output' => output.stdout.SameButEndings output'.stdout)
        (w.run history (scriptOf config directory)) (w'.run history (scriptOf config directory)))
    (scope : Scope) :
    RunAlike (takeExports w config directory files scope)
      (takeExports w' config directory files' scope) := by
  unfold takeExports
  by_cases present : config.beforeScriptFileName ∈ files
  · simp only [List.contains_iff_mem, present, listed.mp present, if_true]
    intro history
    refine ⟨_, _, _, ?_, performs_runScript directory _ scope history,
      performs_runScript directory _ scope history⟩
    refine .of_answers (other present history) (fun _ _ => ⟨rfl, rfl⟩) fun output output' same => ?_
    rw [exports_of_sameButEndings same]
    exact .refl _
  · simp only [List.contains_iff_mem, present, mt listed.mpr present, if_false]
    exact .pure scope

theorem takeHeaders_runAlike {files files' : List Text}
    (listed : config.headersFileName ∈ files ↔ config.headersFileName ∈ files')
    (other : config.headersFileName ∈ files → ∀ history,
      SucceedAlike Text.SameButEndings (w.read history (headersFileOf config directory))
        (w'.read history (headersFileOf config directory))) (scope : Scope) :
    RunAlike (takeHeaders w config directory files scope)
      (takeHeaders w' config directory files' scope) := by
  unfold takeHeaders
  by_cases present : config.headersFileName ∈ files
  · simp only [List.contains_iff_mem, present, listed.mp present, if_true]
    intro history
    refine ⟨_, _, _, ?_, performs_readHeaders _ scope history,
      performs_readHeaders _ scope history⟩
    refine .of_answers (other present history) (fun _ _ => ⟨rfl, rfl⟩) fun text text' same => ?_
    exact (headersOf_sameButDetails same _ _).bind fun _ => .ok _
  · simp only [List.contains_iff_mem, present, mt listed.mpr present, if_false]
    exact .pure scope

theorem visit_runAlike (other : OtherEndingsIn config w w' directory) (scope : Scope) :
    RunAlike (visit w.capabilities config scope directory)
      (visit w'.capabilities config scope directory) := by
  obtain ⟨listing, script, headersFile⟩ := other
  intro history
  have lists := Performs.list w (.filesystem directory) directory history
  have lists' := Performs.list w' (.filesystem directory) directory history
  rw [visit_eq, visit_eq]
  have listings := listing history
  generalize listed : w.list history directory = answer at lists listings
  generalize w'.list history directory = answer' at lists' listings
  cases listings with
  | error cause cause' =>
    exact ⟨_, .error (.filesystem directory cause), .error (.filesystem directory cause'),
      .error rfl rfl, lists.bind_error, lists'.bind_error⟩
  | @ok files files' holds =>
    obtain ⟨scripts, headersFiles⟩ := holds
    -- From here on the worlds are asked about the same two files.
    have takes := (takeExports_runAlike scripts
      (fun present => script ⟨history, files, listed, present⟩) scope).bind fun scope =>
        takeHeaders_runAlike headersFiles
          (fun present => headersFile ⟨history, files, listed, present⟩) scope
    obtain ⟨calls, x, x', same, goesOn, goesOn'⟩ := takes (history ++ [.list directory])
    exact ⟨_, x, x', same, lists.bind_ok goesOn, lists'.bind_ok goesOn'⟩

theorem readRequest_runAlike
    (other : ∀ history,
      SucceedAlike Text.SameButEndings (w.read history target) (w'.read history target))
    (bindings : Variables) (expandBody : Bool) :
    RunAlike (readRequest w.capabilities target bindings expandBody)
      (readRequest w'.capabilities target bindings expandBody) := by
  intro history
  refine ⟨_, _, _, ?_, performs_readRequest target bindings expandBody history,
    performs_readRequest target bindings expandBody history⟩
  refine .of_answers (other history) (fun _ _ => ⟨rfl, rfl⟩) fun text text' same => ?_
  rw [requestOf, requestOf, RequestText.parse_of_sameButEndings same]
  exact .refl _

/-! ### Trees in memory -/

namespace MemoryTree

def textWithCrLf (answer : Except IoError Text) : Except IoError Text := answer.map Text.withCrLf

def outputWithCrLf (outcome : Except ScriptError ScriptOutput) : Except ScriptError ScriptOutput :=
  outcome.map fun output => { output with stdout := output.stdout.withCrLf }

/-- The tree with a carriage return put in front of every line feed of its texts and outputs. -/
def withCrLf (t : MemoryTree) : MemoryTree where
  files := t.files.map fun file => (file.1, textWithCrLf file.2)
  directoryErrors := t.directoryErrors
  scripts := t.scripts.map fun script => (script.1, outputWithCrLf script.2)

/-- In no text and no output of the tree a carriage return stands directly before a line feed. -/
structure HasLineFeeds (t : MemoryTree) : Prop where
  files : ∀ file ∈ t.files, ∀ text, file.2 = .ok text → ¬ ['\r', '\n'] <:+: text
  scripts : ∀ script ∈ t.scripts, ∀ output, script.2 = .ok output →
    ¬ ['\r', '\n'] <:+: output.stdout

theorem find?_map {entries : List (Path × α)} {f : α → α} (p : Path) :
    find? (entries.map fun entry => (entry.1, f entry.2)) p = (find? entries p).map f := by
  rw [find?, ← List.map_reverse, List.find?_map, find?, Option.map_map, Option.map_map]
  rfl

theorem mem_of_find? {entries : List (Path × α)} {p : Path} {a : α}
    (found : find? entries p = some a) : ∃ entry ∈ entries, entry.2 = a := by
  obtain ⟨entry, isFound, rfl⟩ := Option.map_eq_some_iff.mp found
  exact ⟨entry, List.mem_reverse.mp (List.mem_of_find?_eq_some isFound), rfl⟩

variable {t : MemoryTree}

theorem list_withCrLf (t : MemoryTree) (directory : Path) :
    t.withCrLf.list directory = t.list directory := by
  have sameNames : t.withCrLf.files.filterMap (fun file => nameIn? directory file.1) =
      t.files.filterMap fun file => nameIn? directory file.1 := by
    rw [withCrLf, List.filterMap_map]
    rfl
  rw [list, list, sameNames]
  rfl

theorem read_withCrLf (lineFeeds : t.HasLineFeeds) (file : Path) :
    SucceedAlike Text.SameButEndings (t.read file) (t.withCrLf.read file) := by
  rw [read, read, withCrLf, find?_map]
  cases found : find? t.files file with
  | none => exact .error _ _
  | some answer =>
    obtain ⟨entry, member, rfl⟩ := mem_of_find? found
    have lineFeedsHere := lineFeeds.files entry member
    rw [Option.map_some, Option.getD_some, Option.getD_some]
    generalize entry.2 = answer at lineFeedsHere ⊢
    cases answer with
    | error cause => exact .error _ _
    | ok text => exact .ok ⟨lineFeedsHere text rfl, rfl⟩

theorem run_withCrLf (lineFeeds : t.HasLineFeeds) (script : Path) :
    SucceedAlike (fun output output' => output.stdout.SameButEndings output'.stdout)
      (t.run script) (t.withCrLf.run script) := by
  have sameScripts : find? t.withCrLf.scripts script = (find? t.scripts script).map outputWithCrLf :=
    find?_map script
  rw [run, run, sameScripts]
  cases found : find? t.scripts script with
  | none =>
    -- A script without an outcome writes its text, which has the other endings.
    dsimp only [Option.map]
    have reads := read_withCrLf lineFeeds script
    generalize t.read script = answer at reads
    generalize t.withCrLf.read script = answer' at reads
    cases reads with
    | ok same => exact .ok same
    | error cause cause' => exact .error _ _
  | some outcome =>
    obtain ⟨entry, member, rfl⟩ := mem_of_find? found
    have lineFeedsHere := lineFeeds.scripts entry member
    dsimp only [Option.map]
    generalize entry.2 = outcome at lineFeedsHere ⊢
    cases outcome with
    | error cause => exact .error _ _
    | ok output => exact .ok ⟨lineFeedsHere output rfl, rfl⟩

theorem otherEndings_withCrLf (lineFeeds : t.HasLineFeeds) (config : Config) (root target : Path) :
    OtherEndings config t.world t.withCrLf.world root target where
  inDirectories _ _ directory _ := {
    listing := fun _ => by
      show SucceedAlike _ (t.list directory) (t.withCrLf.list directory)
      rw [list_withCrLf]
      cases t.list directory with
      | error cause => exact .error _ _
      | ok files => exact .ok ⟨Iff.rfl, Iff.rfl⟩
    script := fun _ _ => run_withCrLf lineFeeds _
    headersFile := fun _ _ => read_withCrLf lineFeeds _ }
  requestFile _ := read_withCrLf lineFeeds target

end MemoryTree

/-! ### Whole resolutions -/

/-- Line endings do not matter. -/
theorem resolve_line_endings {root : Path} (other : OtherEndings config w w' root target)
    (initial : Variables) (expandBody : Bool) :
    SameButDetails (w.resolve config root target initial expandBody).1
        (w'.resolve config root target initial expandBody).1 ∧
      (w.resolve config root target initial expandBody).2.calls =
        (w'.resolve config root target initial expandBody).2.calls := by
  cases below : Path.cascade? root target with
  | none =>
    obtain ⟨result, made⟩ := World.resolve_of_performs (performs_outside below)
    obtain ⟨result', made'⟩ := World.resolve_of_performs (performs_outside below)
    rw [result, result', made, made']
    exact ⟨.refl _, rfl⟩
  | some directories =>
    have walk := RunAlike.foldlM (fun directory member scope =>
      visit_runAlike (other.inDirectories directories below directory member) scope)
    obtain ⟨calls, x, x', same, performs, performs'⟩ := (walk ⟨initial, ∅⟩).bind (fun scope =>
      (readRequest_runAlike other.requestFile scope.bindings expandBody).bind fun request =>
        .pure (layBeneath scope.headers request)) []
    obtain ⟨result, made⟩ := World.resolve_of_performs (performs_of_directories below performs)
    obtain ⟨result', made'⟩ := World.resolve_of_performs (performs_of_directories below performs')
    rw [result, result', made, made']
    exact ⟨same, rfl⟩

/-- Values that hold line endings of their own, beside those of the file: one makes its line end
with a stray carriage return, another one makes a blank line, which ends the headers. -/
theorem resolve_line_endings_in_values :
    let tree : MemoryTree := ⟨[("r/_before.sh", .ok "exit"),
      ("r/_headers.http", .ok "A: {{v}}\nB: {{u}}{{x}}C: 3\nD: {{y}}\nE: 5\n"),
      ("r/q", .ok "GET /{{u}}\n\nX: 1\n\none\ntwo\n")], [],
      [("r/_before.sh", .ok ⟨"u=2\nz\n", []⟩)]⟩
    let initial : Variables := .ofList [("v", "1\r"), ("x", "\r\n"), ("y", "4\n")]
    let r : Request := ⟨"GET", "/2",
      .ofList [("A", "1"), ("B", "2"), ("C", "3"), ("D", "4"), ("X", "1")], "one\ntwo"⟩
    OtherEndings {} tree.world tree.withCrLf.world "r" "r/q" ∧
      tree.withCrLf.read "r/q" = .ok "GET /{{u}}\r\n\r\nX: 1\r\n\r\none\r\ntwo\r\n".toList ∧
      (tree.world.resolve {} "r" "r/q" initial false).1 = .ok r ∧
      (tree.withCrLf.world.resolve {} "r" "r/q" initial false).1 = .ok r := by
  intro tree initial r
  have lineFeeds : tree.HasLineFeeds := by
    constructor
    · intro file member text eq
      simp only [tree, List.mem_cons, List.not_mem_nil, or_false] at member
      rcases member with rfl | rfl | rfl <;> cases eq <;> decide +kernel
    · intro script member output eq
      obtain rfl := List.mem_singleton.mp member
      cases eq
      decide +kernel
  have other := MemoryTree.otherEndings_withCrLf lineFeeds {} "r" "r/q"
  have resolved : (tree.world.resolve {} "r" "r/q" initial false).1 = .ok r := by decide +kernel
  obtain ⟨same, _⟩ := resolve_line_endings other initial false
  rw [resolved] at same
  refine ⟨other, by decide +kernel, resolved, ?_⟩
  generalize (tree.withCrLf.world.resolve {} "r" "r/q" initial false).1 = result at same ⊢
  cases same
  rfl

end Cascade

end HttpCascade

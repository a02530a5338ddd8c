import HttpCascade.Cascade.MemoryTree
import HttpCascade.Proofs.Cascade.Isolation
import HttpCascade.Proofs.Request.BlankLine
import HttpCascade.Proofs.Request.Parts

/-!
# Text that a resolution ignores

A headers file is filled as a whole before its headers are read, and what stands after its first
blank line is not read. So that text counts only through the names in it: with values for all of
them it may be anything, and a name without a value is a failure, wherever in the file it stands. A
request file goes on after its blank lines, so none of this holds of a headers file that is the
target itself.

## Main result

`resolve_ignores_after_blank_line`: two worlds that differ in what follows a blank line of a headers
file give the same result after the same calls, unless a name of the file has no value.

## Proof strategy

The two resolutions are in lockstep up to the headers file. There, texts that are the same up to a
blank line come to the same headers when they are filled (`headersOf_of_sameToBlankLine`).
-/

namespace HttpCascade.Cascade

variable {w w' : World} {config : Config} {root target file directory : Path} {initial : Variables}
  {bindings : Variables} {history : List Call} {text text' : Text}

/-! ### Headers files -/

theorem headersOf_of_isDefined (defined : Request.IsDefined bindings text) (file : Path) :
    headersOf file text bindings =
      (RequestText.parseHeaders (Template.filled bindings text)).mapError (.parse file) := by
  obtain ⟨filled, filling⟩ := Request.isDefined_iff.mp defined
  obtain ⟨_, rfl⟩ := Template.expand_eq_ok_iff.mp filling
  rw [headersOf, filling]
  rfl

/-- What follows the blank line is filled and then ignored. -/
theorem headersOf_of_sameToBlankLine (same : text.SameToBlankLine text')
    (defined : Request.IsDefined bindings text) (defined' : Request.IsDefined bindings text')
    (file : Path) : headersOf file text bindings = headersOf file text' bindings := by
  rcases same with rfl | ⟨head, after, after'⟩
  · rfl
  have headers {t : Text} (cut : Text.BlankLineAfter head t) :
      RequestText.parseHeaders (Template.filled bindings t) =
        RequestText.parseHeaders (Template.filled bindings head) :=
    RequestText.parseHeaders_of_blankLineAfter (Template.blankLineAfter_filled cut bindings)
  rw [headersOf_of_isDefined defined, headersOf_of_isDefined defined', headers after,
    headers after']

/-- A name without a value is a failure, wherever it stands. -/
theorem headersOf_of_undefined {name : Text} (listed : name ∈ placeholderNames text)
    (absent : bindings.contains name = false) (file : Path) :
    ∃ e, headersOf file text bindings = .error (.expansion file .headers e) ∧
      e.missing = (placeholderNames text).filter fun name => !bindings.contains name := by
  cases filling : expand text bindings with
  | ok filled =>
    have known := Template.exists_expand_iff.mp ⟨filled, filling⟩ name listed
    rw [absent] at known
    cases known
  | error e =>
    refine ⟨e, ?_, Template.missing_of_expand filling⟩
    rw [headersOf, filling]
    rfl

/-! ### Worlds with another text after a blank line -/

/-- The worlds differ at most in what follows a blank line of the file: they list and run alike, any
other file has the same text in both, and the texts of this one are the same up to a blank line, or
it cannot be read in both, for the same reason. Paths with the same components name one file. -/
structure DifferAfterBlankLine (file : Path) (w w' : World) : Prop where
  list : w.list = w'.list
  run : w.run = w'.run
  elsewhere : ∀ history other, other.components ≠ file.components →
    w.read history other = w'.read history other
  there : ∀ history other, other.components = file.components →
    Matches Text.SameToBlankLine (w.read history other) (w'.read history other)

/-- The world in which the file has this text, whatever is asked before. -/
def World.withText (w : World) (file : Path) (text : Text) : World :=
  { w with
    read := fun history other =>
      if other.components = file.components then .ok text else w.read history other }

theorem World.read_withText (w : World) {file other : Path}
    (here : other.components = file.components) (text : Text) (history : List Call) :
    (w.withText file text).read history other = .ok text := if_pos here

theorem differ_withText (w : World) (file : Path) (same : text.SameToBlankLine text') :
    DifferAfterBlankLine file (w.withText file text) (w.withText file text') where
  list := rfl
  run := rfl
  elsewhere history other apart := by simp only [World.withText, if_neg apart]
  there history other here := by
    rw [World.read_withText w here, World.read_withText w here]
    exact .value same

/-! ### Coming to a headers file -/

/-- After the calls `history` and with the variables `bindings`, the resolution comes to the headers
file of the directory: each directory before has its layer, and this one lists the file. -/
def ReachesHeaders (w : World) (config : Config) (root target : Path) (initial : Variables)
    (directory : Path) (history : List Call) (bindings : Variables) : Prop :=
  ∃ passed rest layers files, Path.cascade? root target = some (passed ++ directory :: rest) ∧
    Layers w config [] initial passed layers ∧
    w.list (walkCalls w config [] passed) directory = .ok files ∧ config.headersFileName ∈ files ∧
    Exports w config (walkCalls w config [] passed ++ [.list directory]) directory files
      (lastBindings initial layers) bindings ∧
    history =
      walkCalls w config [] passed ++ [.list directory] ++ scriptCalls config directory files

/-- Whenever the resolution comes to the file as a headers file, the variables have values for all
names in the text that it has then, and in the text that it has in the other world. -/
def DefinedWhenReached (file : Path) (w w' : World) (config : Config) (root target : Path)
    (initial : Variables) : Prop :=
  ∀ directory history bindings,
    ReachesHeaders w config root target initial directory history bindings →
    (headersFileOf config directory).components = file.components →
    ∀ text, w.read history (headersFileOf config directory) = .ok text ∨
        w'.read history (headersFileOf config directory) = .ok text →
      Request.IsDefined bindings text

/-- A headers file that comes to an error ends the visit of its directory. -/
theorem visit_of_headers_error {files : List Text} {scope : Scope} {e : ResolveError}
    (listing : w.list history directory = .ok files) (listed : config.headersFileName ∈ files)
    (exported : Exports w config (history ++ [.list directory]) directory files scope.bindings
      bindings)
    (isRead : w.read (history ++ [.list directory] ++ scriptCalls config directory files)
      (headersFileOf config directory) = .ok text)
    (failed : headersOf (headersFileOf config directory) text bindings = .error e) :
    Performs (visit w.capabilities config scope directory) history
      ([.list directory] ++ (scriptCalls config directory files ++
        [.read (headersFileOf config directory)])) (.error e) := by
  have lists := Performs.list w (.filesystem directory) directory history
  rw [listing] at lists
  have exports :=
    (takeExports_follows directory files scope (history ++ [.list directory])).performs
      ⟨bindings, exported, rfl⟩
  have reads := performs_readHeaders (w := w) (headersFileOf config directory)
    ⟨bindings, scope.headers⟩ (history ++ [.list directory] ++ scriptCalls config directory files)
  rw [isRead] at reads
  simp only [Except.mapError, bind, Except.bind, failed] at reads
  rw [visit_eq]
  refine lists.bind_ok (exports.bind_ok ?_)
  rw [takeHeaders, if_pos (List.contains_iff_mem.mpr listed)]
  exact reads

/-- With it, the resolution ends. -/
theorem performs_of_reachesHeaders
    (reaches : ReachesHeaders w config root target initial directory history bindings)
    (isRead : w.read history (headersFileOf config directory) = .ok text) {e : ResolveError}
    (failed : headersOf (headersFileOf config directory) text bindings = .error e)
    (expandBody : Bool) :
    Performs (resolve w.capabilities config root target initial expandBody) []
      (history ++ [.read (headersFileOf config directory)]) (.error e) := by
  obtain ⟨passed, rest, layers, files, below, isWalk, listing, listed, exported, rfl⟩ := reaches
  have walks : Performs (passed.foldlM (visit w.capabilities config) ⟨initial, ∅⟩) []
      (walkCalls w config [] passed) (.ok ⟨lastBindings initial layers, mergedHeaders ∅ layers⟩) :=
    isWalk.performs
  -- The directories after this one are not visited, and the target is not read.
  have upToHere : Performs ((passed ++ directory :: rest).foldlM (visit w.capabilities config)
      ⟨initial, ∅⟩) [] (walkCalls w config [] passed ++ ([.list directory] ++
        (scriptCalls config directory files ++ [.read (headersFileOf config directory)])))
      (.error e) := by
    rw [List.foldlM_append]
    refine walks.bind_ok ?_
    rw [List.foldlM_cons, List.nil_append]
    exact (visit_of_headers_error listing listed exported isRead failed).bind_error
  simp only [List.append_assoc]
  exact performs_of_directories below upToHere.bind_error

/-! ### Whole resolutions -/

/-- The visits go alike: up to the file everything is the same, and it comes to the same headers. -/
theorem DifferAfterBlankLine.sameVisits (differ : DifferAfterBlankLine file w w')
    (defined : DefinedWhenReached file w w' config root target initial) {directories : List Path}
    (below : Path.cascade? root target = some directories) :
    SameVisits config w [] w' [] initial directories := by
  rintro passed directory rest layers rfl isWalk
  rw [List.nil_append]
  refine ⟨?_, ?_, ?_⟩
  · rw [differ.list]
    exact .refl (fun _ => ⟨Iff.rfl, Iff.rfl⟩) _
  · intro _ _ _
    rw [differ.run]
  · intro files bindings listing listed exported
    have reaches : ReachesHeaders w config root target initial directory _ bindings :=
      ⟨passed, rest, layers, files, below, isWalk, listing, listed, exported, rfl⟩
    generalize walkCalls w config [] passed ++ [.list directory] ++
      scriptCalls config directory files = history at reaches ⊢
    by_cases here : (headersFileOf config directory).components = file.components
    · have known := defined directory history bindings reaches here
      have texts := differ.there history _ here
      rw [headersRead, headersRead]
      generalize w.read history (headersFileOf config directory) = answer at known texts ⊢
      generalize w'.read history (headersFileOf config directory) = answer' at known texts ⊢
      cases texts with
      | error cause => rfl
      | value same =>
        exact headersOf_of_sameToBlankLine same (known _ (.inl rfl)) (known _ (.inr rfl)) _
    · rw [headersRead, headersRead, differ.elsewhere history _ here]

/-- Resolutions whose visits go alike have the same result after the same calls. -/
theorem resolve_eq_of_visits
    (alike : ∀ directories, Path.cascade? root target = some directories →
      SameVisits config w [] w' [] initial directories ∧
        w.read (walkCalls w config [] directories) target =
          w'.read (walkCalls w config [] directories) target) (expandBody : Bool) :
    (w.resolve config root target initial expandBody).1 =
        (w'.resolve config root target initial expandBody).1 ∧
      (w.resolve config root target initial expandBody).2.calls =
        (w'.resolve config root target initial expandBody).2.calls := by
  cases below : Path.cascade? root target with
  | none =>
    obtain ⟨result, made⟩ := World.resolve_of_performs (performs_outside below)
    obtain ⟨result', made'⟩ := World.resolve_of_performs (performs_outside below)
    rw [result, result', made, made']
    exact ⟨rfl, rfl⟩
  | some directories =>
    obtain ⟨same, leaf⟩ := alike directories below
    have above : Over ∅ ⟨initial, ∅⟩ ⟨initial, ∅⟩ := ⟨rfl, rfl⟩
    obtain ⟨calls, x, x', results, performs, performs'⟩ :=
      (finish_lockstep_of_visits above same leaf expandBody).exists_matches
    obtain ⟨result, made⟩ := World.resolve_of_performs (performs_of_directories below performs)
    obtain ⟨result', made'⟩ := World.resolve_of_performs (performs_of_directories below performs')
    rw [result, result', made, made', results.eq_map, layBeneath_empty]
    exact ⟨by cases x' <;> rfl, rfl⟩

/-- If two worlds differ only in what follows a blank line of a file, which is not the target, and
the variables define all names of its texts whenever it is reached as a headers file, the resolutions
in the two worlds have the same result after the same calls. A headers file with a name that is not
defined when it is reached ends the resolution; the error lists all such names, wherever in the file
they stand. -/
theorem resolve_ignores_after_blank_line (config : Config) (root target : Path)
    (initial : Variables) (expandBody : Bool) :
    (∀ (w w' : World) (file : Path), DifferAfterBlankLine file w w' →
      target.components ≠ file.components →
      DefinedWhenReached file w w' config root target initial →
      (w.resolve config root target initial expandBody).1 =
          (w'.resolve config root target initial expandBody).1 ∧
        (w.resolve config root target initial expandBody).2.calls =
          (w'.resolve config root target initial expandBody).2.calls) ∧
    ∀ (w : World) (directory : Path) (history : List Call) (bindings : Variables)
      (text name : Text),
      ReachesHeaders w config root target initial directory history bindings →
      w.read history (headersFileOf config directory) = .ok text →
      name ∈ placeholderNames text → bindings.contains name = false →
      ∃ e, (w.resolve config root target initial expandBody).1 =
          .error (.expansion (headersFileOf config directory) .headers e) ∧
        e.missing = (placeholderNames text).filter (fun name => !bindings.contains name) ∧
        (w.resolve config root target initial expandBody).2.calls =
          history ++ [.read (headersFileOf config directory)] := by
  refine ⟨fun w w' file differ apart defined => ?_, fun w directory history bindings text name
    reaches isRead listed absent => ?_⟩
  · exact resolve_eq_of_visits (fun directories below =>
      ⟨differ.sameVisits defined below, differ.elsewhere _ target apart⟩) expandBody
  · obtain ⟨e, failed, missing⟩ := headersOf_of_undefined listed absent
      (headersFileOf config directory)
    obtain ⟨result, made⟩ := World.resolve_of_performs
      (performs_of_reachesHeaders reaches isRead failed expandBody)
    exact ⟨e, result, missing, made⟩

/-- A value with line feeds and a blank line of its own, and a name that only the ignored text
has. -/
theorem resolve_ignores_after_blank_line_lines_in_value :
    let tree : MemoryTree := ⟨[("r/_before.sh", .ok "u=2"), ("r/_headers.http", .ok []),
      ("r/s/q", .ok "GET /{{u}}")], [], []⟩
    let file : Path := headersFileOf {} "r"
    let world (text : Text) : World := tree.world.withText file text
    let text : Text := "A: {{v}}\n \nB: {{u}}"
    let other : Text := "A: {{v}}\n \n{{v}} is no header\n"
    let lacking : Text := "A: {{v}}\n \n{{x}}"
    let initial : Variables := .ofList [("v", "1\nC: 3\n\nD")]
    let history : List Call := [.list "r", .run "r/_before.sh"]
    let bindings : Variables := .ofList [("u", "2"), ("v", "1\nC: 3\n\nD")]
    DifferAfterBlankLine file (world text) (world other) ∧
    DefinedWhenReached file (world text) (world other) {} "r" "r/s/q" initial ∧
    ((world text).resolve {} "r" "r/s/q" initial false).1 =
      .ok ⟨"GET", "/2", .ofList [("A", "1"), ("C", "3")], []⟩ ∧
    (((world text).resolve {} "r" "r/s/q" initial false).1 =
        ((world other).resolve {} "r" "r/s/q" initial false).1 ∧
      ((world text).resolve {} "r" "r/s/q" initial false).2.calls =
        ((world other).resolve {} "r" "r/s/q" initial false).2.calls) ∧
    ReachesHeaders (world lacking) {} "r" "r/s/q" initial "r" history bindings ∧
    bindings.contains "x" = false ∧
    ∃ e, ((world lacking).resolve {} "r" "r/s/q" initial false).1 =
        .error (.expansion file .headers e) ∧
      e.missing = (placeholderNames lacking).filter (fun name => !bindings.contains name) ∧
      ((world lacking).resolve {} "r" "r/s/q" initial false).2.calls = history ++ [.read file] := by
  intro tree file world text other lacking initial history bindings
  have way : Path.cascade? "r" "r/s/q" = some (["r", "r/s"] : List Path) := by decide
  have listing (t : Text) : (world t).list [] "r" = .ok ["_before.sh", "_headers.http"] := by
    have listed : tree.list "r" = .ok ["_before.sh", "_headers.http"] := by decide
    exact listed
  have ran (t : Text) : (world t).run [.list "r"] "r/_before.sh" = .ok ⟨"u=2", []⟩ := by
    have wrote : tree.run "r/_before.sh" = .ok ⟨"u=2", []⟩ := by decide
    exact wrote
  have exported (t : Text) : Exports (world t) {} [.list "r"] "r" ["_before.sh", "_headers.http"]
      initial bindings := by
    rw [Exports, if_pos (by decide)]
    exact ⟨_, ran t, by decide⟩
  have differ : DifferAfterBlankLine file (world text) (world other) :=
    differ_withText tree.world file (.inr ⟨"A: {{v}}\n",
      ⟨by decide, " ", "\nB: {{u}}", by decide, by decide, by decide, by decide⟩,
      ⟨by decide, " ", "\n{{v}} is no header\n", by decide, by decide, by decide, by decide⟩⟩)
  have defined : DefinedWhenReached file (world text) (world other) {} "r" "r/s/q" initial := by
    rintro directory _ after
      ⟨passed, rest, layers, files, below, isWalk, lists, _, exportedHere, rfl⟩ here t isRead
    have cut := Option.some.inj (below.symm.trans way)
    rcases passed with _ | ⟨first, _ | ⟨second, more⟩⟩
    · cases cut
      cases isWalk
      cases lists.symm.trans (listing text)
      obtain rfl := exportedHere.unique (exported text)
      have known : (∀ name ∈ placeholderNames text, bindings.contains name = true) ∧
          ∀ name ∈ placeholderNames other, bindings.contains name = true := by decide
      rcases isRead with isRead | isRead
      · cases (World.read_withText tree.world here text _).symm.trans isRead
        exact known.1
      · cases (World.read_withText tree.world here other _).symm.trans isRead
        exact known.2
    · -- The second directory has another headers file, and there is no third one.
      cases cut
      exact absurd here (by decide)
    · simp at cut
  have reaches : ReachesHeaders (world lacking) {} "r" "r/s/q" initial "r" history bindings :=
    ⟨[], ["r/s"], [], _, way, .nil _ _, listing lacking, by decide, exported lacking, rfl⟩
  have isRead : (world lacking).read history file = .ok lacking :=
    World.read_withText tree.world rfl lacking history
  obtain ⟨ignores, fails⟩ := resolve_ignores_after_blank_line {} "r" "r/s/q" initial false
  have ignored := ignores (world text) (world other) file differ (by decide) defined
  have ended := fails (world lacking) "r" history bindings lacking "x" reaches isRead (by decide)
    (by decide)
  exact ⟨differ, defined, by decide +kernel, ignored, reaches, by decide, ended⟩

/-- A headers file that is the target as well: its second part holds the headers of the request. -/
theorem not_every_text_after_a_blank_line_is_ignored :
    ¬ ∀ (w w' : World) (config : Config) (root target directory : Path) (initial : Variables)
      (expandBody : Bool), DifferAfterBlankLine (headersFileOf config directory) w w' →
      DefinedWhenReached (headersFileOf config directory) w w' config root target initial →
      (w.resolve config root target initial expandBody).1 =
          (w'.resolve config root target initial expandBody).1 ∧
        (w.resolve config root target initial expandBody).2.calls =
          (w'.resolve config root target initial expandBody).2.calls := by
  intro all
  let tree : MemoryTree := ⟨[("r/_headers.http", .ok [])], [], []⟩
  let world (text : Text) : World := tree.world.withText (headersFileOf {} "r") text
  let text : Text := "GET http://h\n\nA: 1"
  let other : Text := "GET http://h\n\n"
  have differ : DifferAfterBlankLine (headersFileOf {} "r") (world text) (world other) :=
    differ_withText tree.world _ (.inr ⟨"GET http://h\n",
      ⟨by decide, [], "\nA: 1", by decide, by decide, by decide, by decide⟩,
      ⟨by decide, [], "\n", by decide, by decide, by decide, by decide⟩⟩)
  have defined : DefinedWhenReached (headersFileOf {} "r") (world text) (world other) {} "r"
      "r/_headers.http" ∅ := by
    intro directory history bindings _ here t isRead
    have noNames : placeholderNames text = [] ∧ placeholderNames other = [] := by decide
    rcases isRead with isRead | isRead
    · cases (World.read_withText tree.world here text history).symm.trans isRead
      simp [Request.IsDefined, noNames.1]
    · cases (World.read_withText tree.world here other history).symm.trans isRead
      simp [Request.IsDefined, noNames.2]
  obtain ⟨same, _⟩ := all (world text) (world other) {} "r" "r/_headers.http" "r" ∅ false differ
    defined
  revert same
  decide +kernel

end HttpCascade.Cascade

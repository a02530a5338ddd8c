import HttpCascade.Proofs.Cascade.Performing
import HttpCascade.Proofs.NameMap

/-!
# The walk through the directories

What a directory contributes is said by `Contributes`, from the answers of the world alone, and what
a row of directories contributes by `Layers`. `visit_follows` shows that a visit makes the calls
that are planned for its directory and takes over its contribution, and `walk_performs` that the
walk does so for all of them in turn.
-/

namespace HttpCascade.Cascade

/-- What a directory leaves for those below it: the variables after its script, and its headers. -/
structure Layer where
  bindings : Variables
  headers : Headers

def scriptOf (config : Config) (directory : Path) : Path :=
  directory.join ⟨config.beforeScriptFileName⟩

def headersFileOf (config : Config) (directory : Path) : Path :=
  directory.join ⟨config.headersFileName⟩

/-! ### The plan -/

/-- The run of a script that is listed. -/
def scriptCalls (config : Config) (directory : Path) (files : List Text) : List Call :=
  if config.beforeScriptFileName ∈ files then [.run (scriptOf config directory)] else []

/-- The reading of a headers file that is listed. -/
def headersCalls (config : Config) (directory : Path) (files : List Text) : List Call :=
  if config.headersFileName ∈ files then [.read (headersFileOf config directory)] else []

/-- The calls that are planned for a directory: its listing, then its script and then its headers
file if the listing holds them. -/
def directoryCalls (w : World) (config : Config) (history : List Call) (directory : Path) :
    List Call :=
  .list directory ::
    match w.list history directory with
    | .ok files => scriptCalls config directory files ++ headersCalls config directory files
    | .error _ => []

/-- The calls that are planned for directories in order. -/
def walkCalls (w : World) (config : Config) : List Call → List Path → List Call
  | _, [] => []
  | history, directory :: rest =>
    directoryCalls w config history directory ++
      walkCalls w config (history ++ directoryCalls w config history directory) rest

/-! ### Contributions -/

variable (w : World) (config : Config)

/-- The variables after the script of a directory that lists `files`. -/
def Exports (history : List Call) (directory : Path) (files : List Text)
    (before after : Variables) : Prop :=
  if config.beforeScriptFileName ∈ files then
    ∃ output, w.run history (scriptOf config directory) = .ok output ∧
      after = before.merge (exports output.stdout)
  else after = before

/-- The headers of a directory that lists `files`: its headers file is filled and then read. -/
def HasHeaders (history : List Call) (directory : Path) (files : List Text)
    (bindings : Variables) (headers : Headers) : Prop :=
  if config.headersFileName ∈ files then
    ∃ text filled, w.read history (headersFileOf config directory) = .ok text ∧
      expand text bindings = .ok filled ∧ RequestText.parseHeaders filled = .ok headers
  else headers = ∅

/-- After the calls `history`, the directory turns the variables `before` into those of the layer
and has its headers. -/
def Contributes (history : List Call) (before : Variables) (directory : Path) (layer : Layer) :
    Prop :=
  ∃ files, w.list history directory = .ok files ∧
    Exports w config (history ++ [.list directory]) directory files before layer.bindings ∧
    HasHeaders w config (history ++ [.list directory] ++ scriptCalls config directory files)
      directory files layer.bindings layer.headers

/-- The layers of directories in order, each on top of the variables of the one before. -/
inductive Layers : List Call → Variables → List Path → List Layer → Prop
  | nil (history before) : Layers history before [] []
  | cons {history before directory layer rest layers} :
      Contributes w config history before directory layer →
      Layers (history ++ directoryCalls w config history directory) layer.bindings rest layers →
      Layers history before (directory :: rest) (layer :: layers)

/-- The variables after some layers. -/
def lastBindings (initial : Variables) : List Layer → Variables
  | [] => initial
  | layer :: rest => lastBindings layer.bindings rest

/-- The headers of some layers, each over those before. -/
def mergedHeaders (base : Headers) (layers : List Layer) : Headers :=
  layers.foldl (fun headers layer => headers.merge layer.headers) base

variable {w config}

theorem Exports.unique {history : List Call} {directory : Path} {files : List Text}
    {before after other : Variables}
    (exported : Exports w config history directory files before after)
    (exportedOther : Exports w config history directory files before other) : after = other := by
  unfold Exports at exported exportedOther
  split at exported
  next listed =>
    rw [if_pos listed] at exportedOther
    obtain ⟨output, ran, rfl⟩ := exported
    obtain ⟨again, ranAgain, rfl⟩ := exportedOther
    rw [ran] at ranAgain
    cases ranAgain
    rfl
  next unlisted =>
    rw [if_neg unlisted] at exportedOther
    rw [exported, exportedOther]

theorem HasHeaders.unique {history : List Call} {directory : Path} {files : List Text}
    {bindings : Variables} {headers other : Headers}
    (has : HasHeaders w config history directory files bindings headers)
    (hasOther : HasHeaders w config history directory files bindings other) : headers = other := by
  unfold HasHeaders at has hasOther
  split at has
  next listed =>
    rw [if_pos listed] at hasOther
    obtain ⟨text, filled, isRead, filling, parsed⟩ := has
    obtain ⟨text', filled', isRead', filling', parsed'⟩ := hasOther
    cases isRead.symm.trans isRead'
    cases filling.symm.trans filling'
    cases parsed.symm.trans parsed'
    rfl
  next unlisted =>
    rw [if_neg unlisted] at hasOther
    rw [has, hasOther]

theorem Contributes.unique {history : List Call} {before : Variables} {directory : Path}
    {layer other : Layer} (contributes : Contributes w config history before directory layer)
    (contributesOther : Contributes w config history before directory other) : layer = other := by
  obtain ⟨files, listing, exported, has⟩ := contributes
  obtain ⟨files', listing', exported', has'⟩ := contributesOther
  cases listing.symm.trans listing'
  obtain ⟨bindings, headers⟩ := layer
  obtain ⟨bindings', headers'⟩ := other
  obtain rfl : bindings = bindings' := exported.unique exported'
  obtain rfl : headers = headers' := has.unique has'
  rfl

theorem Layers.unique {history : List Call} {before : Variables} {directories : List Path}
    {layers others : List Layer} (isWalk : Layers w config history before directories layers)
    (isWalkOther : Layers w config history before directories others) : layers = others := by
  induction isWalk generalizing others with
  | nil => cases isWalkOther; rfl
  | cons contributes _ ih =>
    cases isWalkOther with
    | cons contributesOther rest =>
      cases contributes.unique contributesOther
      rw [ih rest]

/-! ### A visit -/

theorem performs_runScript (directory script : Path) (scope : Scope) (history : List Call) :
    Performs (runScript w.capabilities directory script scope) history [.run script] (do
      let output ← (w.run history script).mapError (.script directory script)
      return { scope with bindings := scope.bindings.merge (exports output.stdout) }) := by
  refine (Performs.run w _ script history).bind_quiet fun output => ?_
  -- What the script wrote to its standard error is only noted.
  dsimp only
  split
  · exact (Performs.log w _ _).bind_silent ((Performs.log w _ _).bind_silent (.pure _ _))
  · exact (Performs.log w _ _).bind_silent (.pure _ _)

theorem performs_readHeaders (file : Path) (scope : Scope) (history : List Call) :
    Performs (readHeaders w.capabilities file scope) history [.read file] (do
      let text ← (w.read history file).mapError (.filesystem file)
      let headers ← headersOf file text scope.bindings
      return { scope with headers := scope.headers.merge headers }) := by
  refine (Performs.read w _ file history).bind_quiet fun text => ?_
  refine (Performs.lift _ _).bind_quiet fun headers => ?_
  exact (Performs.log w _ _).bind_silent (.pure _ _)

theorem headersOf_eq_ok_iff {file : Path} {text : Text} {bindings : Variables}
    {headers : Headers} :
    headersOf file text bindings = .ok headers ↔
      ∃ filled, expand text bindings = .ok filled ∧
        RequestText.parseHeaders filled = .ok headers := by
  unfold headersOf
  simp only [bind_eq_ok_iff, mapError_eq_ok_iff]

theorem blames_of_headersOf {file : Path} {text : Text} {bindings : Variables}
    {e : ResolveError} (failed : headersOf file text bindings = .error e) :
    Blames e (.read file) := by
  unfold headersOf at failed
  simp only [bind_eq_error_iff, mapError_eq_error_iff] at failed
  rcases failed with ⟨cause, _, rfl⟩ | ⟨_, _, cause, _, rfl⟩
  · exact ⟨rfl, by simp⟩
  · exact ⟨rfl, by simp⟩

/-- The part of a visit that takes over the exports of a script that is listed. -/
def takeExports (w : World) (config : Config) (directory : Path) (files : List Text)
    (scope : Scope) : ExceptT ResolveError (StateM Journal) Scope :=
  if files.contains config.beforeScriptFileName then
    runScript w.capabilities directory (scriptOf config directory) scope
  else pure scope

/-- The part of a visit that takes over the headers of a headers file that is listed. -/
def takeHeaders (w : World) (config : Config) (directory : Path) (files : List Text)
    (scope : Scope) : ExceptT ResolveError (StateM Journal) Scope :=
  if files.contains config.headersFileName then
    readHeaders w.capabilities (headersFileOf config directory) scope
  else pure scope

theorem visit_eq (scope : Scope) (directory : Path) :
    visit w.capabilities config scope directory =
      attempt (.filesystem directory) (w.capabilities.listFiles directory) >>= fun files =>
        takeExports w config directory files scope >>= takeHeaders w config directory files := by
  unfold visit
  congr 1
  funext files
  unfold takeExports
  by_cases listed : files.contains config.beforeScriptFileName
  · simp only [listed, if_true]
    rfl
  · simp only [listed]
    rfl

theorem takeExports_follows (directory : Path) (files : List Text) (scope : Scope)
    (history : List Call) :
    Follows (takeExports w config directory files scope) history
      (scriptCalls config directory files)
      (fun s => ∃ after, Exports w config history directory files scope.bindings after ∧
        s = ⟨after, scope.headers⟩) := by
  unfold takeExports scriptCalls Exports
  by_cases listed : config.beforeScriptFileName ∈ files
  · simp only [List.contains_iff_mem, listed, if_true]
    refine (Follows.single (performs_runScript directory _ scope history) ?_).congr ?_
    · intro e failed
      simp only [bind_eq_error_iff, mapError_eq_error_iff] at failed
      rcases failed with ⟨cause, _, rfl⟩ | ⟨_, _, failed⟩
      · exact ⟨rfl, by simp⟩
      · cases failed
    · intro s
      simp only [bind_eq_ok_iff, mapError_eq_ok_iff, pure_eq_ok_iff]
      constructor
      · rintro ⟨output, ran, rfl⟩
        exact ⟨_, ⟨output, ran, rfl⟩, rfl⟩
      · rintro ⟨_, ⟨output, ran, rfl⟩, rfl⟩
        exact ⟨output, ran, rfl⟩
  · simp only [List.contains_iff_mem, listed, if_false]
    refine (Follows.pure scope history).congr fun s => ?_
    simp

theorem takeHeaders_follows (directory : Path) (files : List Text) (scope : Scope)
    (history : List Call) :
    Follows (takeHeaders w config directory files scope) history
      (headersCalls config directory files)
      (fun s => ∃ headers, HasHeaders w config history directory files scope.bindings headers ∧
        s = ⟨scope.bindings, scope.headers.merge headers⟩) := by
  unfold takeHeaders headersCalls HasHeaders
  by_cases listed : config.headersFileName ∈ files
  · simp only [List.contains_iff_mem, listed, if_true]
    refine (Follows.single (performs_readHeaders _ scope history) ?_).congr ?_
    · intro e failed
      simp only [bind_eq_error_iff, mapError_eq_error_iff] at failed
      rcases failed with ⟨cause, _, rfl⟩ | ⟨text, _, unread | ⟨_, _, failed⟩⟩
      · exact ⟨rfl, by simp⟩
      · exact blames_of_headersOf unread
      · cases failed
    · intro s
      simp only [bind_eq_ok_iff, mapError_eq_ok_iff, pure_eq_ok_iff, headersOf_eq_ok_iff]
      constructor
      · rintro ⟨text, isRead, headers, ⟨filled, filling, parsed⟩, rfl⟩
        exact ⟨headers, ⟨text, filled, isRead, filling, parsed⟩, rfl⟩
      · rintro ⟨headers, ⟨text, filled, isRead, filling, parsed⟩, rfl⟩
        exact ⟨text, isRead, headers, ⟨filled, filling, parsed⟩, rfl⟩
  · simp only [List.contains_iff_mem, listed, if_false]
    refine (Follows.pure scope history).congr fun s => ?_
    simp [NameMap.merge_empty]

/-- A directory that lists `files` makes the calls for them and adds its layer. -/
theorem takes_follows (directory : Path) (files : List Text) (scope : Scope)
    (history : List Call) :
    Follows
      (takeExports w config directory files scope >>= takeHeaders w config directory files) history
      (scriptCalls config directory files ++ headersCalls config directory files)
      (fun s => ∃ layer : Layer,
        Exports w config history directory files scope.bindings layer.bindings ∧
        HasHeaders w config (history ++ scriptCalls config directory files) directory files
          layer.bindings layer.headers ∧
        s = ⟨layer.bindings, scope.headers.merge layer.headers⟩) := by
  refine ((takeExports_follows directory files scope history).bind fun s _ =>
    takeHeaders_follows directory files s _).congr fun s => ?_
  constructor
  · rintro ⟨_, ⟨after, exported, rfl⟩, headers, hasHeaders, rfl⟩
    exact ⟨⟨after, headers⟩, exported, hasHeaders, rfl⟩
  · rintro ⟨⟨after, headers⟩, exported, hasHeaders, rfl⟩
    exact ⟨⟨after, scope.headers⟩, ⟨after, exported, rfl⟩, headers, hasHeaders, rfl⟩

/-- A visit makes the calls of its directory and takes over its contribution. -/
theorem visit_follows (directory : Path) (scope : Scope) (history : List Call) :
    Follows (visit w.capabilities config scope directory) history
      (directoryCalls w config history directory)
      (fun s => ∃ layer, Contributes w config history scope.bindings directory layer ∧
        s = ⟨layer.bindings, scope.headers.merge layer.headers⟩) := by
  rw [visit_eq]
  have lists := Performs.list w (.filesystem directory) directory history
  unfold directoryCalls
  -- The rest of the plan is known only from the listing.
  cases listing : w.list history directory with
  | error cause =>
    rw [listing] at lists
    refine .inr ⟨[.list directory], .filesystem directory cause, ?_, ?_, lists.bind_error⟩
    · exact ⟨List.prefix_refl _, .list directory, rfl, rfl, by simp⟩
    · rintro s ⟨layer, ⟨files, listed, _⟩, _⟩
      rw [listing] at listed
      cases listed
  | ok files =>
    rw [listing] at lists
    refine (Follows.after lists (takes_follows directory files scope _)).congr fun s => ?_
    constructor
    · rintro ⟨layer, exported, hasHeaders, rfl⟩
      exact ⟨layer, ⟨files, listing, exported, hasHeaders⟩, rfl⟩
    · rintro ⟨layer, ⟨found, same, exported, hasHeaders⟩, rfl⟩
      rw [listing] at same
      cases same
      exact ⟨layer, exported, hasHeaders, rfl⟩

/-! ### The walk -/

/-- The walk makes `calls` and ends with an error: every directory before one has its layer, and the
last of the calls is among those planned for that one, which has none. -/
def Halts (w : World) (config : Config) (history : List Call) (before : Variables)
    (directories : List Path) (calls : List Call) (e : ResolveError) : Prop :=
  ∃ passed directory rest layers part, directories = passed ++ directory :: rest ∧
    Layers w config history before passed layers ∧
    StopsIn (directoryCalls w config (history ++ walkCalls w config history passed) directory)
      part e ∧
    calls = walkCalls w config history passed ++ part

theorem Halts.later {history : List Call} {before : Variables} {directory : Path} {layer : Layer}
    {rest : List Path} {calls : List Call} {e : ResolveError}
    (contributes : Contributes w config history before directory layer)
    (halts : Halts w config (history ++ directoryCalls w config history directory) layer.bindings
      rest calls e) :
    Halts w config history before (directory :: rest)
      (directoryCalls w config history directory ++ calls) e := by
  obtain ⟨passed, last, others, layers, part, rfl, isWalk, stops, rfl⟩ := halts
  refine ⟨directory :: passed, last, others, layer :: layers, part, rfl, .cons contributes isWalk,
    ?_, ?_⟩
  · rw [walkCalls, ← List.append_assoc]
    exact stops
  · rw [walkCalls, List.append_assoc]

/-- Either every directory has its layer, and the walk makes all planned calls and ends with the
layers on top of its scope, or the walk halts. -/
theorem walk_performs (directories : List Path) (scope : Scope) (history : List Call) :
    (∃ layers, Layers w config history scope.bindings directories layers ∧
      Performs (directories.foldlM (visit w.capabilities config) scope) history
        (walkCalls w config history directories)
        (.ok ⟨lastBindings scope.bindings layers, mergedHeaders scope.headers layers⟩)) ∨
    (∃ calls e, Halts w config history scope.bindings directories calls e ∧
      (∀ layers, ¬ Layers w config history scope.bindings directories layers) ∧
      Performs (directories.foldlM (visit w.capabilities config) scope) history calls
        (.error e)) := by
  -- What a directory does depends on the variables and on the calls so far, so both stay general.
  induction directories generalizing scope history with
  | nil => exact .inl ⟨[], .nil _ _, .pure scope history⟩
  | cons directory rest ih =>
    rw [List.foldlM_cons]
    rcases visit_follows directory scope history with
      ⟨_, ⟨layer, contributes, rfl⟩, _, visits⟩ | ⟨calls, e, stops, none, visits⟩
    · rcases ih ⟨layer.bindings, scope.headers.merge layer.headers⟩
          (history ++ directoryCalls w config history directory) with
        ⟨layers, isWalk, walks⟩ | ⟨calls, e, halts, none, walks⟩
      · exact .inl ⟨layer :: layers, .cons contributes isWalk, visits.bind_ok walks⟩
      · refine .inr ⟨_, e, halts.later contributes, ?_, visits.bind_ok walks⟩
        rintro layers (_ | ⟨contributesOther, isWalk⟩)
        cases contributes.unique contributesOther
        exact none _ isWalk
    · refine .inr ⟨calls, e, ?_, ?_, visits.bind_error⟩
      · exact ⟨[], directory, rest, [], calls, rfl, .nil _ _, by simpa [walkCalls] using stops, rfl⟩
      · rintro layers (_ | ⟨contributes, isWalk⟩)
        exact none _ ⟨_, contributes, rfl⟩

/-- If every directory has its layer, the walk makes all planned calls. -/
theorem Layers.performs {directories : List Path} {layers : List Layer} {scope : Scope}
    {history : List Call} (isWalk : Layers w config history scope.bindings directories layers) :
    Performs (directories.foldlM (visit w.capabilities config) scope) history
      (walkCalls w config history directories)
      (.ok ⟨lastBindings scope.bindings layers, mergedHeaders scope.headers layers⟩) := by
  rcases walk_performs directories scope history with
    ⟨others, isOther, walks⟩ | ⟨_, _, _, none, _⟩
  · cases isWalk.unique isOther
    exact walks
  · exact absurd isWalk (none layers)

end HttpCascade.Cascade

import HttpCascade.Proofs.Cascade.Resolution

/-!
# Two resolutions in lockstep

Two actions are in lockstep if they make the same calls, each after a history of its own, and then
fail with the same error or end with related values. `Lockstep.bind` carries this through sequences,
so two resolutions are compared part by part, without a look at how either of them ends.

## Main results

`finish_lockstep`: what is left of two resolutions is in lockstep if their scopes have the same
variables and their worlds answer alike in every directory that is still to be visited, at the time
of its visit. Headers that one of the scopes has beneath those of the other stay beneath them.

`finish_lockstep_of_visits`: of the headers files the worlds need not have the same texts, if these
come to the same with the variables of the visit.
-/

namespace HttpCascade.Cascade

variable {ε α α' β β' γ : Type}

/-! ### Results -/

/-- The same error, or related values. -/
inductive Matches (related : α → α' → Prop) : Except ε α → Except ε α' → Prop
  | value {a a'} (holds : related a a') : Matches related (.ok a) (.ok a')
  | error (e) : Matches related (.error e) (.error e)

instance {related : α → α' → Prop} [∀ a a', Decidable (related a a')] [DecidableEq ε] :
    (x : Except ε α) → (x' : Except ε α') → Decidable (Matches related x x')
  | .ok a, .ok a' => decidable_of_iff (related a a') ⟨.value, fun | .value holds => holds⟩
  | .error e, .error e' =>
    decidable_of_iff (e = e') ⟨fun same => same ▸ .error e, fun | .error _ => rfl⟩
  | .ok _, .error _ => .isFalse nofun
  | .error _, .ok _ => .isFalse nofun

theorem Matches.refl {related : α → α → Prop} (reflexive : ∀ a, related a a) (x : Except ε α) :
    Matches related x x := by
  cases x with
  | error e => exact .error e
  | ok a => exact .value (reflexive a)

theorem Matches.bind {related : α → α' → Prop} (x : Except ε γ) {f : γ → Except ε α}
    {f' : γ → Except ε α'} (each : ∀ c, Matches related (f c) (f' c)) :
    Matches related (x >>= f) (x >>= f') := by
  cases x with
  | error e => exact .error e
  | ok c => exact each c

theorem Matches.eq_map {x : Except ε α} {x' : Except ε α'} {f : α' → α}
    (alike : Matches (fun a a' => a = f a') x x') : x = x'.map f := by
  cases alike with
  | value holds => rw [holds, Except.map]
  | error e => rfl

/-! ### Actions -/

/-- After their histories the two actions make the planned calls and end with related values, or
they make the same calls and fail with the same error. -/
def Lockstep (related : α → α' → Prop) (action : ExceptT ResolveError (StateM Journal) α)
    (history : List Call) (action' : ExceptT ResolveError (StateM Journal) α')
    (history' planned : List Call) : Prop :=
  (∃ a a', related a a' ∧ Performs action history planned (.ok a) ∧
    Performs action' history' planned (.ok a')) ∨
  ∃ calls e, Performs action history calls (.error e) ∧ Performs action' history' calls (.error e)

namespace Lockstep

variable {related : α → α' → Prop} {action : ExceptT ResolveError (StateM Journal) α}
  {action' : ExceptT ResolveError (StateM Journal) α'} {history history' planned later : List Call}

theorem pure {a : α} {a' : α'} (holds : related a a') (history history' : List Call) :
    Lockstep related (pure a) history (pure a') history' [] :=
  .inl ⟨a, a', holds, .pure a history, .pure a' history'⟩

theorem of_performs {x : Except ResolveError α} {x' : Except ResolveError α'}
    (performs : Performs action history planned x)
    (performs' : Performs action' history' planned x') (alike : Matches related x x') :
    Lockstep related action history action' history' planned := by
  cases alike with
  | value holds => exact .inl ⟨_, _, holds, performs, performs'⟩
  | error e => exact .inr ⟨planned, e, performs, performs'⟩

theorem bind {relatedNext : β → β' → Prop} {next : α → ExceptT ResolveError (StateM Journal) β}
    {next' : α' → ExceptT ResolveError (StateM Journal) β'}
    (first : Lockstep related action history action' history' planned)
    (second : ∀ a a', related a a' →
      Lockstep relatedNext (next a) (history ++ planned) (next' a') (history' ++ planned) later) :
    Lockstep relatedNext (action >>= next) history (action' >>= next') history'
      (planned ++ later) := by
  rcases first with ⟨a, a', holds, performs, performs'⟩ | ⟨calls, e, performs, performs'⟩
  -- Only after two successes is there a second part; its calls follow those that were planned.
  · rcases second a a' holds with ⟨b, b', holdsNext, goes, goes'⟩ | ⟨calls, e, goes, goes'⟩
    · exact .inl ⟨b, b', holdsNext, performs.bind_ok goes, performs'.bind_ok goes'⟩
    · exact .inr ⟨_, e, performs.bind_ok goes, performs'.bind_ok goes'⟩
  · exact .inr ⟨calls, e, performs.bind_error, performs'.bind_error⟩

/-- What the first action ends with is also what it is known to be wanted for. -/
theorem and_wanted {wanted : α → Prop}
    (lockstep : Lockstep related action history action' history' planned)
    (follows : Follows action history planned wanted) :
    Lockstep (fun a a' => related a a' ∧ wanted a) action history action' history' planned := by
  rcases lockstep with ⟨a, a', holds, performs, performs'⟩ | failed
  · exact .inl ⟨a, a', ⟨holds, follows.wanted_of_performs performs⟩, performs, performs'⟩
  · exact .inr failed

/-- Whatever way the actions end, they have made the same calls, with matching results. -/
theorem exists_matches (lockstep : Lockstep related action history action' history' planned) :
    ∃ calls x x', Matches related x x' ∧ Performs action history calls x ∧
      Performs action' history' calls x' := by
  rcases lockstep with ⟨a, a', holds, performs, performs'⟩ | ⟨calls, e, performs, performs'⟩
  · exact ⟨planned, _, _, .value holds, performs, performs'⟩
  · exact ⟨calls, _, _, .error e, performs, performs'⟩

end Lockstep

/-! ### Worlds that answer alike -/

/-- The same error, or listings that hold the same of the two reserved names. -/
def AlikeListings (config : Config) (listing listing' : Except IoError (List Text)) : Prop :=
  Matches (fun files files' =>
    (config.beforeScriptFileName ∈ files ↔ config.beforeScriptFileName ∈ files') ∧
      (config.headersFileName ∈ files ↔ config.headersFileName ∈ files')) listing listing'

instance (config : Config) (listing listing' : Except IoError (List Text)) :
    Decidable (AlikeListings config listing listing') :=
  inferInstanceAs (Decidable (Matches _ listing listing'))

variable {config : Config} {w w' : World}

/-- In a visit of the directory the worlds answer alike: to its listing, and if that holds them, to
the run of its script and to the reading of its headers file. -/
structure AlikeIn (config : Config) (w : World) (history : List Call) (w' : World)
    (history' : List Call) (directory : Path) : Prop where
  listing : AlikeListings config (w.list history directory) (w'.list history' directory)
  script : ∀ files, w.list history directory = .ok files → config.beforeScriptFileName ∈ files →
    w.run (history ++ [.list directory]) (scriptOf config directory) =
      w'.run (history' ++ [.list directory]) (scriptOf config directory)
  headersFile : ∀ files, w.list history directory = .ok files → config.headersFileName ∈ files →
    w.read (history ++ [.list directory] ++ scriptCalls config directory files)
        (headersFileOf config directory) =
      w'.read (history' ++ [.list directory] ++ scriptCalls config directory files)
        (headersFileOf config directory)

/-- The worlds answer alike in each of the directories when its turn comes. -/
def AlikeAlong (config : Config) (w : World) (history : List Call) (w' : World)
    (history' : List Call) (directories : List Path) : Prop :=
  ∀ passed directory rest, directories = passed ++ directory :: rest →
    AlikeIn config w (history ++ walkCalls w config history passed) w'
      (history' ++ walkCalls w config history passed) directory

/-- What a headers file comes to when it is read and filled with the variables. -/
def headersRead (w : World) (history : List Call) (file : Path) (bindings : Variables) :
    Except ResolveError Headers := do
  let text ← (w.read history file).mapError (.filesystem file)
  headersOf file text bindings

/-- A visit of the directory that starts with the variables `before` goes alike in both worlds: as
in worlds that answer alike, but that the headers files need only come to the same. -/
structure SameVisit (config : Config) (w : World) (history : List Call) (w' : World)
    (history' : List Call) (before : Variables) (directory : Path) : Prop where
  listing : AlikeListings config (w.list history directory) (w'.list history' directory)
  script : ∀ files, w.list history directory = .ok files → config.beforeScriptFileName ∈ files →
    w.run (history ++ [.list directory]) (scriptOf config directory) =
      w'.run (history' ++ [.list directory]) (scriptOf config directory)
  headersFile : ∀ files bindings, w.list history directory = .ok files →
    config.headersFileName ∈ files →
    Exports w config (history ++ [.list directory]) directory files before bindings →
    headersRead w (history ++ [.list directory] ++ scriptCalls config directory files)
        (headersFileOf config directory) bindings =
      headersRead w' (history' ++ [.list directory] ++ scriptCalls config directory files)
        (headersFileOf config directory) bindings

/-- All visits on the way go alike, each when its turn comes and with the variables that the
directories before it have left. -/
def SameVisits (config : Config) (w : World) (history : List Call) (w' : World)
    (history' : List Call) (before : Variables) (directories : List Path) : Prop :=
  ∀ passed directory rest layers, directories = passed ++ directory :: rest →
    Layers w config history before passed layers →
    SameVisit config w (history ++ walkCalls w config history passed) w'
      (history' ++ walkCalls w config history passed) (lastBindings before layers) directory

theorem AlikeIn.sameVisit {history history' : List Call} {directory : Path}
    (alike : AlikeIn config w history w' history' directory) (before : Variables) :
    SameVisit config w history w' history' before directory where
  listing := alike.listing
  script := alike.script
  headersFile files bindings listing listed _ := by
    rw [headersRead, headersRead, alike.headersFile files listing listed]

theorem AlikeAlong.sameVisits {history history' : List Call} {directories : List Path}
    (alike : AlikeAlong config w history w' history' directories) (before : Variables) :
    SameVisits config w history w' history' before directories :=
  fun passed directory rest _ cut _ => (alike passed directory rest cut).sameVisit _

/-- The scope has the variables of the other, and its headers with `base` beneath them. -/
structure Over (base : Headers) (scope scope' : Scope) : Prop where
  bindings : scope.bindings = scope'.bindings
  headers : scope.headers = base.merge scope'.headers

/-! ### A visit -/

section

variable {base : Headers} {scope scope' : Scope} {history history' : List Call} {directory : Path}
  {files files' : List Text}

theorem takeExports_lockstep (above : Over base scope scope')
    (listed : config.beforeScriptFileName ∈ files ↔ config.beforeScriptFileName ∈ files')
    (same : config.beforeScriptFileName ∈ files →
      w.run history (scriptOf config directory) = w'.run history' (scriptOf config directory)) :
    Lockstep (Over base) (takeExports w config directory files scope) history
      (takeExports w' config directory files' scope') history'
      (scriptCalls config directory files) := by
  unfold takeExports scriptCalls
  by_cases present : config.beforeScriptFileName ∈ files
  · simp only [List.contains_iff_mem, present, listed.mp present, if_true]
    refine .of_performs (performs_runScript directory _ scope history)
      (performs_runScript directory _ scope' history') ?_
    rw [same present, above.bindings]
    exact .bind _ fun _ => .value ⟨rfl, above.headers⟩
  · simp only [List.contains_iff_mem, present, mt listed.mpr present, if_false]
    exact .pure above history history'

theorem takeHeaders_lockstep (above : Over base scope scope')
    (listed : config.headersFileName ∈ files ↔ config.headersFileName ∈ files')
    (same : config.headersFileName ∈ files →
      headersRead w history (headersFileOf config directory) scope.bindings =
        headersRead w' history' (headersFileOf config directory) scope.bindings) :
    Lockstep (Over base) (takeHeaders w config directory files scope) history
      (takeHeaders w' config directory files' scope') history'
      (headersCalls config directory files) := by
  unfold takeHeaders headersCalls
  by_cases present : config.headersFileName ∈ files
  · simp only [List.contains_iff_mem, present, listed.mp present, if_true]
    refine .of_performs (performs_readHeaders _ scope history)
      (performs_readHeaders _ scope' history') ?_
    rw [← bind_assoc, ← bind_assoc]
    change Matches _ (headersRead w _ _ _ >>= _) (headersRead w' _ _ _ >>= _)
    rw [same present, above.bindings]
    refine .bind _ fun headers => .value ⟨rfl, ?_⟩
    -- The headers of the directory come on top, over those of both.
    rw [above.headers, NameMap.merge_assoc]
  · simp only [List.contains_iff_mem, present, mt listed.mpr present, if_false]
    exact .pure above history history'

theorem visit_lockstep (above : Over base scope scope')
    (same : SameVisit config w history w' history' scope.bindings directory) :
    Lockstep (Over base) (visit w.capabilities config scope directory) history
      (visit w'.capabilities config scope' directory) history'
      (directoryCalls w config history directory) := by
  obtain ⟨listings, script, headersFile⟩ := same
  have lists := Performs.list w (.filesystem directory) directory history
  have lists' := Performs.list w' (.filesystem directory) directory history'
  rw [visit_eq, visit_eq]
  unfold directoryCalls
  generalize w.list history directory = listing at lists listings script headersFile ⊢
  generalize w'.list history' directory = listing' at lists' listings
  -- From here on the worlds matter through these listings alone.
  cases listings with
  | error cause => exact .inr ⟨_, _, lists.bind_error, lists'.bind_error⟩
  | @value files files' listed =>
    obtain ⟨scripts, headersFiles⟩ := listed
    have listedAlike : Lockstep (fun found found' => found = files ∧ found' = files') _ history _
        history' [.list directory] := .inl ⟨files, files', ⟨rfl, rfl⟩, lists, lists'⟩
    refine listedAlike.bind ?_
    rintro found _ ⟨rfl, rfl⟩
    -- The headers files are compared with the variables that the script has left.
    have exports := (takeExports_lockstep above scripts (script _ rfl)).and_wanted
      (takeExports_follows directory found scope _)
    refine exports.bind ?_
    rintro _ s' ⟨aboveNext, after, exported, rfl⟩
    exact takeHeaders_lockstep aboveNext headersFiles
      fun present => headersFile _ after rfl present exported

end

/-! ### The walk and the request file -/

theorem AlikeAlong.of_forall {history history' : List Call} {directories : List Path}
    (each : ∀ directory ∈ directories, ∀ before before',
      AlikeIn config w before w' before' directory) :
    AlikeAlong config w history w' history' directories := by
  rintro passed directory rest rfl
  exact each directory (by simp) _ _

theorem SameVisits.first {history history' : List Call} {before : Variables} {directory : Path}
    {rest : List Path}
    (same : SameVisits config w history w' history' before (directory :: rest)) :
    SameVisit config w history w' history' before directory := by
  have here := same [] directory rest [] rfl (.nil _ _)
  simp only [walkCalls, List.append_nil] at here
  exact here

theorem SameVisits.rest {history history' : List Call} {before : Variables} {directory : Path}
    {rest : List Path} {layer : Layer}
    (same : SameVisits config w history w' history' before (directory :: rest))
    (contributes : Contributes w config history before directory layer) :
    SameVisits config w (history ++ directoryCalls w config history directory) w'
      (history' ++ directoryCalls w config history directory) layer.bindings rest := by
  rintro passed last others layers rfl isWalk
  have there := same (directory :: passed) last others (layer :: layers) rfl
    (.cons contributes isWalk)
  simp only [walkCalls, ← List.append_assoc] at there
  exact there

theorem walk_lockstep {base : Headers} {directories : List Path} {scope scope' : Scope}
    {history history' : List Call} (above : Over base scope scope')
    (same : SameVisits config w history w' history' scope.bindings directories) :
    Lockstep (Over base) (directories.foldlM (visit w.capabilities config) scope) history
      (directories.foldlM (visit w'.capabilities config) scope') history'
      (walkCalls w config history directories) := by
  -- Both histories grow by the calls of each visit, and the variables by its exports.
  induction directories generalizing scope scope' history history' with
  | nil => exact .pure above history history'
  | cons directory rest ih =>
    rw [List.foldlM_cons, List.foldlM_cons, walkCalls]
    have visits := (visit_lockstep above same.first).and_wanted
      (visit_follows directory scope history)
    refine visits.bind ?_
    rintro _ s' ⟨aboveNext, layer, contributes, rfl⟩
    exact ih aboveNext (same.rest contributes)

/-- The request file is filled alike, and each request is laid over the headers of its scope. -/
theorem leaf_lockstep {base : Headers} {scope scope' : Scope} {history history' : List Call}
    {target : Path} (above : Over base scope scope')
    (same : w.read history target = w'.read history' target) (expandBody : Bool) :
    Lockstep (fun r r' => r = layBeneath base r')
      (readRequest w.capabilities target scope.bindings expandBody >>= fun q =>
        Pure.pure (layBeneath scope.headers q)) history
      (readRequest w'.capabilities target scope'.bindings expandBody >>= fun q =>
        Pure.pure (layBeneath scope'.headers q)) history' [.read target] := by
  refine .of_performs ((performs_readRequest target _ _ _).bind_quiet fun q => .pure _ _)
    ((performs_readRequest target _ _ _).bind_quiet fun q => .pure _ _) ?_
  rw [same, above.bindings, above.headers]
  refine .bind _ fun q => .value ?_
  -- The headers of the request file come on top of both, so what is beneath can be laid last.
  rw [layBeneath, NameMap.merge_assoc]
  rfl

/-- What is left of a resolution when some directories have been passed: the directories after them
and the request file. -/
def finish (w : World) (config : Config) (target : Path) (expandBody : Bool)
    (directories : List Path) (scope : Scope) : ExceptT ResolveError (StateM Journal) Request := do
  let scope ← directories.foldlM (visit w.capabilities config) scope
  let request ← readRequest w.capabilities target scope.bindings expandBody
  return layBeneath scope.headers request

theorem finish_lockstep_of_visits {base : Headers} {directories : List Path} {scope scope' : Scope}
    {history history' : List Call} {target : Path} (above : Over base scope scope')
    (same : SameVisits config w history w' history' scope.bindings directories)
    (leaf : w.read (history ++ walkCalls w config history directories) target =
      w'.read (history' ++ walkCalls w config history directories) target) (expandBody : Bool) :
    Lockstep (fun r r' => r = layBeneath base r')
      (finish w config target expandBody directories scope) history
      (finish w' config target expandBody directories scope') history'
      (walkCalls w config history directories ++ [.read target]) :=
  (walk_lockstep above same).bind fun _ _ aboveLast => leaf_lockstep aboveLast leaf expandBody

theorem finish_lockstep {base : Headers} {directories : List Path} {scope scope' : Scope}
    {history history' : List Call} {target : Path} (above : Over base scope scope')
    (alike : AlikeAlong config w history w' history' directories)
    (leaf : w.read (history ++ walkCalls w config history directories) target =
      w'.read (history' ++ walkCalls w config history directories) target) (expandBody : Bool) :
    Lockstep (fun r r' => r = layBeneath base r')
      (finish w config target expandBody directories scope) history
      (finish w' config target expandBody directories scope') history'
      (walkCalls w config history directories ++ [.read target]) :=
  finish_lockstep_of_visits above (alike.sameVisits _) leaf expandBody

end HttpCascade.Cascade

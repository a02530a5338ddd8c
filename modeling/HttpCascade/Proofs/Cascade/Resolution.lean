import HttpCascade.Proofs.Cascade.Walk
import HttpCascade.Proofs.Request.Filling

/-!
# The four ends of a resolution

A resolution ends with its request after all planned calls, at once for a target that is not below
the root, during the walk, or at the request file. `Ends` lists these ends with the calls that were
made by then, and `resolve_ends` shows that there are no others.
-/

namespace HttpCascade.Cascade

variable {w : World} {config : Config}

/-! ### The request file -/

theorem requestOf_eq_ok_iff {file : Path} {text : Text} {bindings : Variables} {expandBody : Bool}
    {r : Request} :
    requestOf file text bindings expandBody = .ok r ↔
      ∃ q, RequestText.parse text = .ok q ∧ q.expand bindings expandBody = .ok r ∧
        Url.validate r.url = .ok () := by
  unfold requestOf
  simp only [bind_eq_ok_iff, mapError_eq_ok_iff, pure_eq_ok_iff]
  constructor
  · rintro ⟨q, parsed, filled, filling, _, valid, rfl⟩
    exact ⟨q, parsed, filling, valid⟩
  · rintro ⟨q, parsed, filling, valid⟩
    exact ⟨q, parsed, r, filling, (), valid, rfl⟩

theorem blames_of_requestOf {file : Path} {text : Text} {bindings : Variables} {expandBody : Bool}
    {e : ResolveError} (failed : requestOf file text bindings expandBody = .error e) :
    Blames e (.read file) := by
  unfold requestOf at failed
  simp only [bind_eq_error_iff, mapError_eq_error_iff] at failed
  rcases failed with ⟨_, _, rfl⟩ | ⟨_, _, ⟨_, _, rfl⟩ | ⟨_, _, ⟨_, _, rfl⟩ | ⟨_, _, failed⟩⟩⟩
  · exact ⟨rfl, by simp⟩
  · exact ⟨rfl, by simp⟩
  · exact ⟨rfl, by simp⟩
  · cases failed

theorem performs_readRequest (target : Path) (bindings : Variables) (expandBody : Bool)
    (history : List Call) :
    Performs (readRequest w.capabilities target bindings expandBody) history [.read target] (do
      let text ← (w.read history target).mapError (.filesystem target)
      requestOf target text bindings expandBody) :=
  (Performs.read w _ target history).bind_quiet fun _ => .lift _ _

/-- Reading the request file is one call, and its errors are about that file. -/
theorem readRequest_follows (target : Path) (bindings : Variables) (expandBody : Bool)
    (history : List Call) :
    Follows (readRequest w.capabilities target bindings expandBody) history [.read target]
      (fun r => ∃ text, w.read history target = .ok text ∧
        requestOf target text bindings expandBody = .ok r) := by
  refine (Follows.single (performs_readRequest target bindings expandBody history) ?_).congr ?_
  · intro e failed
    simp only [bind_eq_error_iff, mapError_eq_error_iff] at failed
    rcases failed with ⟨_, _, rfl⟩ | ⟨_, _, failed⟩
    · exact ⟨rfl, by simp⟩
    · exact blames_of_requestOf failed
  · intro r
    simp only [bind_eq_ok_iff, mapError_eq_ok_iff]

/-! ### Whole resolutions -/

/-- The request of the request file after the walk, filled with the variables after the layers. -/
def HasLeaf (w : World) (config : Config) (directories : List Path) (target : Path)
    (bindings : Variables) (expandBody : Bool) (r : Request) : Prop :=
  ∃ text, w.read (walkCalls w config [] directories) target = .ok text ∧
    requestOf target text bindings expandBody = .ok r

/-- The calls and the result with which a resolution may end. -/
inductive Ends (w : World) (config : Config) (root target : Path) (initial : Variables)
    (expandBody : Bool) : List Call → Except ResolveError Request → Prop
  | completed {directories layers r} (below : Path.cascade? root target = some directories)
      (isWalk : Layers w config [] initial directories layers)
      (leaf : HasLeaf w config directories target (lastBindings initial layers) expandBody r) :
      Ends w config root target initial expandBody
        (walkCalls w config [] directories ++ [.read target])
        (.ok (layBeneath (mergedHeaders ∅ layers) r))
  | outside (outside : Path.cascade? root target = none) :
      Ends w config root target initial expandBody [] (.error (.notUnderRoot root target))
  | inWalk {directories calls e} (below : Path.cascade? root target = some directories)
      (halts : Halts w config [] initial directories calls e)
      (none : ∀ layers, ¬ Layers w config [] initial directories layers) :
      Ends w config root target initial expandBody calls (.error e)
  | atLeaf {directories layers calls e} (below : Path.cascade? root target = some directories)
      (isWalk : Layers w config [] initial directories layers)
      (stops : StopsIn [.read target] calls e)
      (none : ∀ r,
        ¬ HasLeaf w config directories target (lastBindings initial layers) expandBody r) :
      Ends w config root target initial expandBody (walkCalls w config [] directories ++ calls)
        (.error e)

theorem performs_of_directories {root target : Path} {initial : Variables} {expandBody : Bool}
    {directories : List Path} {calls : List Call} {result : Except ResolveError Request}
    (below : Path.cascade? root target = some directories)
    (performs : Performs (do
      let scope ← directories.foldlM (visit w.capabilities config) ⟨initial, ∅⟩
      let request ← readRequest w.capabilities target scope.bindings expandBody
      return layBeneath scope.headers request) [] calls result) :
    Performs (resolve w.capabilities config root target initial expandBody) [] calls result := by
  unfold resolve Cascade.directories
  rw [below]
  refine (Performs.lift (.ok directories) []).bind_silent ?_
  exact (Performs.log w _ []).bind_silent performs

/-- For a target that is not below the root nothing is asked of the world. -/
theorem performs_outside {root target : Path} {initial : Variables} {expandBody : Bool}
    (outside : Path.cascade? root target = none) :
    Performs (resolve w.capabilities config root target initial expandBody) [] []
      (.error (.notUnderRoot root target)) := by
  unfold resolve directories
  rw [outside]
  exact (Performs.lift (.error (.notUnderRoot root target)) []).bind_error

theorem performs_resolve (w : World) (config : Config) (root target : Path) (initial : Variables)
    (expandBody : Bool) :
    ∃ calls result, Ends w config root target initial expandBody calls result ∧
      Performs (resolve w.capabilities config root target initial expandBody) [] calls result := by
  cases below : Path.cascade? root target with
  | none => exact ⟨[], _, .outside below, performs_outside below⟩
  | some directories =>
    rcases walk_performs directories ⟨initial, ∅⟩ [] with
      ⟨layers, isWalk, walks⟩ | ⟨calls, e, halts, none, walks⟩
    · rcases readRequest_follows target (lastBindings initial layers) expandBody
          (walkCalls w config [] directories) with
        ⟨r, leaf, _, reads⟩ | ⟨calls, e, stops, none, reads⟩
      · refine ⟨_, _, .completed below isWalk leaf, performs_of_directories below ?_⟩
        exact walks.bind_ok (reads.bind_quiet fun _ => .pure _ _)
      · refine ⟨_, _, .atLeaf below isWalk stops none, performs_of_directories below ?_⟩
        exact walks.bind_ok reads.bind_error
    · exact ⟨calls, _, .inWalk below halts none, performs_of_directories below walks.bind_error⟩

/-- Every resolution ends in one of the four ways. -/
theorem resolve_ends (w : World) (config : Config) (root target : Path) (initial : Variables)
    (expandBody : Bool) :
    Ends w config root target initial expandBody
      (w.resolve config root target initial expandBody).2.calls
      (w.resolve config root target initial expandBody).1 := by
  obtain ⟨calls, result, ends, performs⟩ :=
    performs_resolve w config root target initial expandBody
  obtain ⟨sameResult, sameCalls⟩ := World.resolve_of_performs performs
  rw [sameResult, sameCalls]
  exact ends

theorem resolve_eq_ok_iff {root target : Path} {initial : Variables} {expandBody : Bool}
    {r : Request} :
    (w.resolve config root target initial expandBody).1 = .ok r ↔
      ∃ directories layers leaf, Path.cascade? root target = some directories ∧
        Layers w config [] initial directories layers ∧
        HasLeaf w config directories target (lastBindings initial layers) expandBody leaf ∧
        r = layBeneath (mergedHeaders ∅ layers) leaf := by
  have ends := resolve_ends w config root target initial expandBody
  generalize (w.resolve config root target initial expandBody).1 = result at ends ⊢
  generalize (w.resolve config root target initial expandBody).2.calls = calls at ends
  constructor
  · rintro rfl
    cases ends with
    | completed below isWalk leaf => exact ⟨_, _, _, below, isWalk, leaf, rfl⟩
  · rintro ⟨directories, layers, leaf, below, isWalk, ⟨text, isRead, made⟩, rfl⟩
    -- Layers and leaf are unique, so no other end is possible and this one has the same request.
    cases ends with
    | completed below' isWalk' leaf' =>
      cases below.symm.trans below'
      cases isWalk.unique isWalk'
      obtain ⟨text', isRead', made'⟩ := leaf'
      cases isRead.symm.trans isRead'
      cases made.symm.trans made'
      rfl
    | outside outside => cases below.symm.trans outside
    | inWalk below' _ none =>
      cases below.symm.trans below'
      exact absurd isWalk (none layers)
    | atLeaf below' isWalk' _ none =>
      cases below.symm.trans below'
      cases isWalk.unique isWalk'
      exact absurd ⟨text, isRead, made⟩ (none leaf)

end HttpCascade.Cascade

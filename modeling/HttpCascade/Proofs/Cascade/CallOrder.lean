import HttpCascade.Proofs.Cascade.Resolution

/-!
# The order of calls

The calls of a resolution are compared with a plan: each directory from the root downwards is
listed, its script is run and its headers file is read, and the request file is read last. A
resolution with a request carries out the whole plan. One that fails stops at once, so its calls are
the beginning of the plan, and its error is about the path of the last call.
-/

namespace HttpCascade.Cascade

/-- The calls that are planned for a resolution. -/
def plan (w : World) (config : Config) (root target : Path) : List Call :=
  match Path.cascade? root target with
  | some directories => walkCalls w config [] directories ++ [.read target]
  | none => []

/-- The calls that are planned next after `history`, if `directories` are still to be visited. -/
def nextCalls (w : World) (config : Config) (target : Path) (history : List Call) :
    List Path → List Call
  | directory :: _ => directoryCalls w config history directory
  | [] => [.read target]

/-- The calls end among those that are planned for one of the directories or for the request file,
and every directory before has contributed its layer. -/
def EndsAmid (w : World) (config : Config) (root target : Path) (initial : Variables)
    (calls : List Call) : Prop :=
  ∃ passed rest layers part, Path.cascade? root target = some (passed ++ rest) ∧
    Layers w config [] initial passed layers ∧
    part ≠ [] ∧ part <+: nextCalls w config target (walkCalls w config [] passed) rest ∧
    calls = walkCalls w config [] passed ++ part

variable {w : World} {config : Config}

theorem walkCalls_append (history : List Call) (passed rest : List Path) :
    walkCalls w config history (passed ++ rest) =
      walkCalls w config history passed ++
        walkCalls w config (history ++ walkCalls w config history passed) rest := by
  induction passed generalizing history with
  | nil => simp [walkCalls]
  | cons directory passed ih =>
    rw [List.cons_append, walkCalls, walkCalls, ih, List.append_assoc, List.append_assoc]

theorem nextCalls_begin_rest (target : Path) (history : List Call) (rest : List Path) :
    nextCalls w config target history rest <+:
      walkCalls w config history rest ++ [.read target] := by
  cases rest with
  | nil => exact List.prefix_refl _
  | cons directory rest =>
    rw [walkCalls, List.append_assoc]
    exact List.prefix_append _ _

/-- Calls that end amid the plan are a beginning of it. -/
theorem EndsAmid.prefix_plan {root target : Path} {initial : Variables} {calls : List Call}
    (ends : EndsAmid w config root target initial calls) :
    calls <+: plan w config root target := by
  obtain ⟨passed, rest, layers, part, below, _, _, isPrefix, rfl⟩ := ends
  unfold plan
  rw [below]
  dsimp only
  rw [walkCalls_append, List.append_assoc, List.prefix_append_right_inj, List.nil_append]
  exact isPrefix.trans (nextCalls_begin_rest target _ rest)

theorem StopsIn.ne_nil {planned calls : List Call} {e : ResolveError}
    (stops : StopsIn planned calls e) : calls ≠ [] := by
  obtain ⟨_, last, isLast, _⟩ := stops
  rintro rfl
  cases isLast

/-- After calls, those of a part are the last. -/
theorem StopsIn.last_path {planned part : List Call} {e : ResolveError}
    (stops : StopsIn planned part e) (before : List Call) :
    (before ++ part).getLast?.map Call.path = some e.path := by
  obtain ⟨_, last, isLast, blames, _⟩ := stops.append_left before
  rw [isLast, blames]
  rfl

theorem StopsIn.ne_notUnderRoot {planned calls : List Call} {e : ResolveError}
    (stops : StopsIn planned calls e) (root target : Path) : e ≠ .notUnderRoot root target := by
  obtain ⟨_, _, _, _, differs⟩ := stops
  exact differs root target

/-- What is known of the calls of a resolution with the given result. -/
def KeepsToPlan (w : World) (config : Config) (root target : Path) (initial : Variables)
    (calls : List Call) : Except ResolveError Request → Prop
  | .ok _ => calls = plan w config root target
  | .error (.notUnderRoot _ _) => calls = []
  | .error e => calls ≠ [] ∧ calls <+: plan w config root target ∧
      EndsAmid w config root target initial calls ∧ calls.getLast?.map Call.path = some e.path

theorem endsAmid_of_stops {root target : Path} {initial : Variables} {passed rest : List Path}
    {layers : List Layer} {part : List Call} {e : ResolveError}
    (below : Path.cascade? root target = some (passed ++ rest))
    (isWalk : Layers w config [] initial passed layers)
    (stops : StopsIn (nextCalls w config target (walkCalls w config [] passed) rest) part e) :
    EndsAmid w config root target initial (walkCalls w config [] passed ++ part) :=
  ⟨passed, rest, layers, part, below, isWalk, stops.ne_nil, stops.1, rfl⟩

theorem keepsToPlan_of_stops {root target : Path} {initial : Variables} {passed rest : List Path}
    {layers : List Layer} {part : List Call} {e : ResolveError}
    (below : Path.cascade? root target = some (passed ++ rest))
    (isWalk : Layers w config [] initial passed layers)
    (stops : StopsIn (nextCalls w config target (walkCalls w config [] passed) rest) part e) :
    KeepsToPlan w config root target initial (walkCalls w config [] passed ++ part) (.error e) := by
  have ends := endsAmid_of_stops below isWalk stops
  have nonempty : walkCalls w config [] passed ++ part ≠ [] := by simp [stops.ne_nil]
  have attributed := And.intro nonempty
    (And.intro ends.prefix_plan (And.intro ends (stops.last_path (walkCalls w config [] passed))))
  -- The error about the root is never the error of a call.
  cases e with
  | notUnderRoot root target => exact absurd rfl (stops.ne_notUnderRoot root target)
  | filesystem path cause => exact attributed
  | script directory script cause => exact attributed
  | expansion path field cause => exact attributed
  | parse path cause => exact attributed
  | invalidUrl path url cause => exact attributed

/-- Whatever way a resolution ends, it has made the first of the planned calls. -/
theorem calls_begin_plan (w : World) (config : Config) (root target : Path) (initial : Variables)
    (expandBody : Bool) :
    (w.resolve config root target initial expandBody).2.calls <+: plan w config root target := by
  have ends := resolve_ends w config root target initial expandBody
  generalize (w.resolve config root target initial expandBody).1 = result at ends
  generalize (w.resolve config root target initial expandBody).2.calls = calls at ends ⊢
  cases ends with
  | @completed directories layers r below isWalk leaf =>
    have planned : plan w config root target =
        walkCalls w config [] directories ++ [.read target] := by
      unfold plan
      rw [below]
    exact ⟨[], by rw [List.append_nil, planned]⟩
  | outside outside => exact List.nil_prefix
  | inWalk below halts none =>
    obtain ⟨passed, directory, rest, layers, part, rfl, isWalk, stops, rfl⟩ := halts
    have stopsNext : StopsIn (nextCalls w config target (walkCalls w config [] passed)
        (directory :: rest)) part _ := stops
    exact (endsAmid_of_stops below isWalk stopsNext).prefix_plan
  | @atLeaf directories layers calls e below isWalk stops none =>
    rw [← List.append_nil directories] at below
    exact (endsAmid_of_stops below isWalk stops).prefix_plan

/-- The calls of every resolution keep to the plan. -/
theorem resolve_keepsToPlan (w : World) (config : Config) (root target : Path)
    (initial : Variables) (expandBody : Bool) :
    KeepsToPlan w config root target initial
      (w.resolve config root target initial expandBody).2.calls
      (w.resolve config root target initial expandBody).1 := by
  have ends := resolve_ends w config root target initial expandBody
  generalize (w.resolve config root target initial expandBody).1 = result at ends ⊢
  generalize (w.resolve config root target initial expandBody).2.calls = calls at ends ⊢
  cases ends with
  | completed below isWalk leaf =>
    unfold KeepsToPlan plan
    rw [below]
  | outside outside => exact rfl
  | inWalk below halts none =>
    obtain ⟨passed, directory, rest, layers, part, rfl, isWalk, stops, rfl⟩ := halts
    exact keepsToPlan_of_stops below isWalk stops
  | @atLeaf directories layers calls e below isWalk stops none =>
    -- All directories have been passed and none is left.
    rw [← List.append_nil directories] at below
    exact keepsToPlan_of_stops below isWalk stops

end HttpCascade.Cascade

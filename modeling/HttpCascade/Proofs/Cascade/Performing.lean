import HttpCascade.Cascade.World
import HttpCascade.Proofs.Outcome

/-!
# What an action asks of a world

An action of a resolution makes some calls and ends with a result. Both depend on the calls before
it and not on what was noted, so an action in a world is described by `Performs`, and the
descriptions of its parts compose.

`Follows` compares an action with a plan: either it makes all planned calls and ends with the one
value that is wanted, or there is no such value and it stops at a planned call with an error about
the path of that call.
-/

namespace HttpCascade.Cascade

variable {α β : Type}

/-- After the calls `history` the action makes `calls` and ends with `result`, whatever was noted
before. -/
def Performs (action : ExceptT ResolveError (StateM Journal) α) (history calls : List Call)
    (result : Except ResolveError α) : Prop :=
  ∀ records, ∃ noted, action.run.run ⟨history, records⟩ = (result, ⟨history ++ calls, noted⟩)

namespace Performs

/-! ### Single actions -/

theorem pure (a : α) (history : List Call) : Performs (pure a) history [] (.ok a) := by
  intro records
  exact ⟨records, by simp; rfl⟩

theorem lift (result : Except ResolveError α) (history : List Call) :
    Performs (liftM result) history [] result := by
  intro records
  exact ⟨records, by simp; rfl⟩

theorem log (w : World) (record : LogRecord) (history : List Call) :
    Performs (liftM (w.capabilities.log record)) history [] (.ok ()) := by
  intro records
  exact ⟨records ++ [record], by simp; rfl⟩

theorem list (w : World) (fault : IoError → ResolveError) (directory : Path)
    (history : List Call) :
    Performs (attempt fault (w.capabilities.listFiles directory)) history [.list directory]
      ((w.list history directory).mapError fault) := by
  intro records
  exact ⟨records, rfl⟩

theorem read (w : World) (fault : IoError → ResolveError) (file : Path) (history : List Call) :
    Performs (attempt fault (w.capabilities.readText file)) history [.read file]
      ((w.read history file).mapError fault) := by
  intro records
  exact ⟨records, rfl⟩

theorem run (w : World) (fault : ScriptError → ResolveError) (script : Path)
    (history : List Call) :
    Performs (attempt fault (w.capabilities.runScript script)) history [.run script]
      ((w.run history script).mapError fault) := by
  intro records
  exact ⟨records, rfl⟩

/-! ### One after another -/

variable {action : ExceptT ResolveError (StateM Journal) α}
  {next : α → ExceptT ResolveError (StateM Journal) β}
  {history calls later : List Call}

theorem bind_ok {a : α} {result : Except ResolveError β}
    (first : Performs action history calls (.ok a))
    (second : Performs (next a) (history ++ calls) later result) :
    Performs (action >>= next) history (calls ++ later) result := by
  intro records
  obtain ⟨noted, ran⟩ := first records
  obtain ⟨after, continued⟩ := second noted
  refine ⟨after, ?_⟩
  -- The second action sees the calls of the first in its history.
  rw [List.append_assoc] at continued
  rw [ExceptT.run_bind, StateT.run_bind, ran]
  exact continued

/-- A failure is the end. -/
theorem bind_error {e : ResolveError} (first : Performs action history calls (.error e)) :
    Performs (action >>= next) history calls (.error e) := by
  intro records
  obtain ⟨noted, ran⟩ := first records
  refine ⟨noted, ?_⟩
  rw [ExceptT.run_bind, StateT.run_bind, ran]
  rfl

/-- An action without calls leaves it to the next to make some. -/
theorem bind_silent {a : α} {result : Except ResolveError β}
    (first : Performs action history [] (.ok a)) (second : Performs (next a) history later result) :
    Performs (action >>= next) history later result := by
  have rest : Performs (next a) (history ++ []) later result := by
    rw [List.append_nil]
    exact second
  exact bind_ok first rest

/-- What follows an action without calls of its own. -/
theorem bind_quiet {x : Except ResolveError α} {y : α → Except ResolveError β}
    (first : Performs action history calls x)
    (second : ∀ a, Performs (next a) (history ++ calls) [] (y a)) :
    Performs (action >>= next) history calls (x >>= y) := by
  cases x with
  | error e => exact bind_error first
  | ok a =>
    have both := bind_ok first (second a)
    rw [List.append_nil] at both
    exact both

/-- There is one way in which an action goes. -/
theorem unique {result result' : Except ResolveError α}
    (performs : Performs action history calls result)
    (also : Performs action history later result') : result = result' ∧ calls = later := by
  obtain ⟨noted, ran⟩ := performs []
  obtain ⟨noted', ran'⟩ := also []
  obtain ⟨same, journals⟩ := Prod.mk.inj (ran.symm.trans ran')
  exact ⟨same, List.append_cancel_left (Journal.mk.inj journals).1⟩

end Performs

/-! ### Plans -/

/-- An error about the path of a call, which no error about the root is. -/
def Blames (e : ResolveError) (c : Call) : Prop :=
  e.path = c.path ∧ ∀ root target, e ≠ .notUnderRoot root target

/-- Calls that end at a planned one, with an error about its path. -/
def StopsIn (planned calls : List Call) (e : ResolveError) : Prop :=
  calls <+: planned ∧ ∃ last, calls.getLast? = some last ∧ Blames e last

theorem StopsIn.append_right {planned calls : List Call} {e : ResolveError}
    (stops : StopsIn planned calls e) (more : List Call) : StopsIn (planned ++ more) calls e :=
  ⟨stops.1.trans (List.prefix_append _ _), stops.2⟩

theorem StopsIn.append_left {planned calls : List Call} {e : ResolveError}
    (stops : StopsIn planned calls e) (before : List Call) :
    StopsIn (before ++ planned) (before ++ calls) e := by
  obtain ⟨isPrefix, last, isLast, blames⟩ := stops
  refine ⟨(List.prefix_append_right_inj before).mpr isPrefix, last, ?_, blames⟩
  rw [List.getLast?_append, isLast]
  rfl

/-- The action carries out the plan and ends with the wanted value, or nothing is wanted and the
action stops in the plan. -/
def Follows (action : ExceptT ResolveError (StateM Journal) α) (history planned : List Call)
    (wanted : α → Prop) : Prop :=
  (∃ a, wanted a ∧ (∀ b, wanted b → b = a) ∧ Performs action history planned (.ok a)) ∨
  (∃ calls e, StopsIn planned calls e ∧ (∀ a, ¬ wanted a) ∧
    Performs action history calls (.error e))

namespace Follows

variable {action : ExceptT ResolveError (StateM Journal) α}
  {next : α → ExceptT ResolveError (StateM Journal) β}
  {history planned later : List Call} {wanted : α → Prop}

theorem pure (a : α) (history : List Call) : Follows (pure a) history [] (· = a) :=
  .inl ⟨a, rfl, fun _ same => same, .pure a history⟩

/-- An action that makes one call follows the plan of that call if its errors are about it. -/
theorem single {c : Call} {x : Except ResolveError α} (performs : Performs action history [c] x)
    (blames : ∀ e, x = .error e → Blames e c) : Follows action history [c] (x = .ok ·) := by
  cases x with
  | ok a => exact .inl ⟨a, rfl, fun _ same => (Except.ok.inj same).symm, performs⟩
  | error e =>
    have stops : StopsIn [c] [c] e := ⟨List.prefix_refl _, c, rfl, blames e rfl⟩
    refine .inr ⟨[c], e, stops, ?_, performs⟩
    intro a same
    cases same

theorem performs {a : α} (follows : Follows action history planned wanted) (isWanted : wanted a) :
    Performs action history planned (.ok a) := by
  rcases follows with ⟨b, _, only, performs⟩ | ⟨_, _, _, none, _⟩
  · rwa [only a isWanted]
  · exact absurd isWanted (none a)

theorem wanted_of_performs {a : α} {calls : List Call}
    (follows : Follows action history planned wanted)
    (ends : Performs action history calls (.ok a)) : wanted a := by
  rcases follows with ⟨b, isWanted, _, performs⟩ | ⟨_, _, _, _, performs⟩
  · obtain ⟨same, _⟩ := ends.unique performs
    cases same
    exact isWanted
  · obtain ⟨same, _⟩ := ends.unique performs
    cases same

theorem congr {other : α → Prop} (follows : Follows action history planned wanted)
    (same : ∀ a, wanted a ↔ other a) : Follows action history planned other := by
  have eq : wanted = other := funext fun a => propext (same a)
  rw [← eq]
  exact follows

/-- What comes after an action that made all calls of a first plan. -/
theorem after {a : α} {wantedNext : β → Prop}
    (first : Performs action history planned (.ok a))
    (second : Follows (next a) (history ++ planned) later wantedNext) :
    Follows (action >>= next) history (planned ++ later) wantedNext := by
  rcases second with ⟨b, isNext, only, continues⟩ | ⟨calls, e, stops, none, continues⟩
  · exact .inl ⟨b, isNext, only, first.bind_ok continues⟩
  · exact .inr ⟨_, e, stops.append_left planned, none, first.bind_ok continues⟩

theorem bind {wantedNext : α → β → Prop} (first : Follows action history planned wanted)
    (second : ∀ a, wanted a → Follows (next a) (history ++ planned) later (wantedNext a)) :
    Follows (action >>= next) history (planned ++ later)
      (fun b => ∃ a, wanted a ∧ wantedNext a b) := by
  rcases first with ⟨a, isWanted, only, performs⟩ | ⟨calls, e, stops, none, performs⟩
  · refine (after performs (second a isWanted)).congr fun b => ?_
    constructor
    · intro isNext
      exact ⟨a, isWanted, isNext⟩
    · rintro ⟨a', isWanted', isNext⟩
      rw [only a' isWanted'] at isNext
      exact isNext
  · refine .inr ⟨calls, e, stops.append_right later, ?_, performs.bind_error⟩
    rintro b ⟨a, isWanted, _⟩
    exact none a isWanted

end Follows

/-! ### Whole resolutions -/

/-- What a run without calls before it comes to. -/
theorem Performs.eq_of_run {action : ExceptT ResolveError (StateM Journal) α} {calls : List Call}
    {result found : Except ResolveError α} {journal : Journal}
    (performs : Performs action [] calls result)
    (ran : action.run.run .empty = (found, journal)) : found = result ∧ journal.calls = calls := by
  obtain ⟨noted, same⟩ := performs []
  cases ran.symm.trans same
  exact ⟨rfl, rfl⟩

theorem World.resolve_of_performs {w : World} {config : Config} {root target : Path}
    {initial : Variables} {expandBody : Bool} {calls : List Call}
    {result : Except ResolveError Request}
    (performs : Performs (Cascade.resolve w.capabilities config root target initial expandBody) []
      calls result) :
    (w.resolve config root target initial expandBody).1 = result ∧
      (w.resolve config root target initial expandBody).2.calls = calls :=
  performs.eq_of_run rfl

end HttpCascade.Cascade

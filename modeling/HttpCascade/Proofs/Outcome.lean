import Mathlib.Data.List.Forall2

/-!
# Outcomes of sequences

A sequence of steps succeeds if every step does, and it fails with the error of the first step that
does not. If the steps act on a state, each acts on what the one before it left, also on one that
fails (`Leaves`).
-/

namespace HttpCascade

variable {ε ε' α β : Type}

theorem bind_eq_ok_iff {x : Except ε α} {f : α → Except ε β} {b : β} :
    x >>= f = .ok b ↔ ∃ a, x = .ok a ∧ f a = .ok b := by
  cases x <;> simp [bind, Except.bind]

theorem bind_eq_error_iff {x : Except ε α} {f : α → Except ε β} {e : ε} :
    x >>= f = .error e ↔ x = .error e ∨ ∃ a, x = .ok a ∧ f a = .error e := by
  cases x <;> simp [bind, Except.bind]

theorem pure_eq_ok_iff {a b : α} : (pure a : Except ε α) = .ok b ↔ a = b := by
  simp [pure, Except.pure]

theorem map_eq_error_iff {x : Except ε α} {f : α → β} {e : ε} :
    x.map f = .error e ↔ x = .error e := by
  cases x <;> simp [Except.map]

theorem mapError_eq_ok_iff {x : Except ε α} {f : ε → ε'} {a : α} :
    x.mapError f = .ok a ↔ x = .ok a := by
  cases x <;> simp [Except.mapError]

theorem mapError_eq_error_iff {x : Except ε α} {f : ε → ε'} {e : ε'} :
    x.mapError f = .error e ↔ ∃ cause, x = .error cause ∧ f cause = e := by
  cases x <;> simp [Except.mapError]

/-- A traversal succeeds if every element does, and the results stand in the order of the
elements. -/
theorem mapM_eq_ok_iff {f : α → Except ε β} {as : List α} {bs : List β} :
    as.mapM f = .ok bs ↔ List.Forall₂ (fun a b => f a = .ok b) as bs := by
  induction as generalizing bs with
  | nil =>
    rw [List.mapM_nil, pure_eq_ok_iff, List.forall₂_nil_left_iff]
    exact eq_comm
  | cons a rest ih =>
    rw [List.mapM_cons, bind_eq_ok_iff, List.forall₂_cons_left_iff]
    simp only [bind_eq_ok_iff, pure_eq_ok_iff, ih]
    constructor
    · rintro ⟨b, first, more, others, rfl⟩
      exact ⟨b, more, first, others, rfl⟩
    · rintro ⟨b, more, first, others, rfl⟩
      exact ⟨b, first, more, others, rfl⟩

/-- Both succeed, with related values, or both fail, each in its own way. -/
inductive SucceedAlike (related : α → β → Prop) : Except ε α → Except ε' β → Prop
  | ok {a b} (holds : related a b) : SucceedAlike related (.ok a) (.ok b)
  | error (e e') : SucceedAlike related (.error e) (.error e')

theorem mapM_ok_of_forall {f : α → Except ε β} {as : List α}
    (each : ∀ a ∈ as, ∃ b, f a = .ok b) : ∃ bs, as.mapM f = .ok bs := by
  simp only [mapM_eq_ok_iff]
  induction as with
  | nil => exact ⟨[], .nil⟩
  | cons a rest ih =>
    obtain ⟨first, others⟩ := List.forall_mem_cons.mp each
    obtain ⟨b, found⟩ := first
    obtain ⟨bs, pairs⟩ := ih others
    exact ⟨b :: bs, .cons found pairs⟩

/-- A traversal fails at the first element that does. -/
theorem mapM_eq_error_iff {f : α → Except ε β} {as : List α} {e : ε} :
    as.mapM f = .error e ↔
      ∃ before a after, as = before ++ a :: after ∧ (∀ x ∈ before, ∃ b, f x = .ok b) ∧
        f a = .error e := by
  induction as with
  | nil => simp [pure, Except.pure]
  | cons first rest ih =>
    rw [List.mapM_cons, bind_eq_error_iff]
    simp only [bind_eq_error_iff, ih]
    constructor
    · rintro (here | ⟨b, found, ⟨before, a, after, rfl, each, fails⟩ | ⟨_, _, fails⟩⟩)
      · exact ⟨[], first, rest, rfl, by simp, here⟩
      · exact ⟨first :: before, a, after, rfl, List.forall_mem_cons.mpr ⟨⟨b, found⟩, each⟩, fails⟩
      · cases fails
    · rintro ⟨before, a, after, cut, each, fails⟩
      cases before with
      | nil =>
        obtain ⟨rfl, rfl⟩ := List.cons.inj cut
        exact .inl fails
      | cons x others =>
        obtain ⟨rfl, rfl⟩ := List.cons.inj cut
        obtain ⟨⟨b, found⟩, each⟩ := List.forall_mem_cons.mp each
        exact .inr ⟨b, found, .inl ⟨others, a, after, rfl, each, fails⟩⟩

/-! ### Steps that act on a state -/

section

variable {σ γ : Type} {view : σ → γ} {s s' : σ}

theorem run_bind_eq_ok_iff {action : ExceptT ε (StateM σ) α} {next : α → ExceptT ε (StateM σ) β}
    {b : β} :
    (action >>= next).run.run s = (.ok b, s') ↔
      ∃ a between, action.run.run s = (.ok a, between) ∧
        (next a).run.run between = (.ok b, s') := by
  rw [ExceptT.run_bind, StateT.run_bind]
  obtain ⟨result, between⟩ := action.run.run s
  cases result with
  | error e =>
    constructor
    · intro same
      cases same
    · rintro ⟨a, _, same, _⟩
      cases same
  | ok a =>
    constructor
    · exact fun ran => ⟨a, between, rfl, ran⟩
    · rintro ⟨_, _, same, ran⟩
      cases same
      exact ran

theorem run_lift_eq_ok_iff {result : Except ε α} {a : α} :
    (liftM result : ExceptT ε (StateM σ) α).run.run s = (.ok a, s') ↔ result = .ok a ∧ s' = s := by
  show (result, s) = (Except.ok a, s') ↔ _
  rw [Prod.mk.injEq, @eq_comm _ s s']

/-- A step whose own error is replaced. -/
theorem run_attempted (fault : ε → ε') (action : StateM σ (Except ε α)) (s : σ) :
    (ExceptT.mk do return (← action).mapError fault : ExceptT ε' (StateM σ) α).run.run s =
      ((action.run s).1.mapError fault, (action.run s).2) := rfl

theorem run_attempted_eq_ok_iff {action : StateM σ (Except ε α)} {fault : ε → ε'} {a : α} :
    (ExceptT.mk do return (← action).mapError fault : ExceptT ε' (StateM σ) α).run.run s =
        (.ok a, s') ↔
      action.run s = (.ok a, s') := by
  rw [run_attempted, Prod.mk.injEq, mapError_eq_ok_iff]
  exact (@Prod.ext_iff _ _ (action.run s) (Except.ok a, s')).symm

/-- After the action, what is seen of the state is as before. -/
def Leaves (view : σ → γ) (action : ExceptT ε (StateM σ) α) (s : σ) : Prop :=
  view (action.run.run s).2 = view s

namespace Leaves

theorem pure (a : α) (s : σ) : Leaves view (pure a : ExceptT ε (StateM σ) α) s := rfl

theorem lift (result : Except ε α) (s : σ) :
    Leaves view (liftM result : ExceptT ε (StateM σ) α) s := rfl

theorem attempted {action : StateM σ (Except ε α)} {fault : ε → ε'}
    (same : view (action.run s).2 = view s) :
    Leaves view (ExceptT.mk do return (← action).mapError fault : ExceptT ε' (StateM σ) α) s :=
  same

/-- The second action need leave the state only as the first one leaves it. -/
theorem bind {action : ExceptT ε (StateM σ) α} {next : α → ExceptT ε (StateM σ) β}
    (first : Leaves view action s)
    (second : ∀ a s', action.run.run s = (.ok a, s') → Leaves view (next a) s') :
    Leaves view (action >>= next) s := by
  unfold Leaves at first second ⊢
  rw [ExceptT.run_bind, StateT.run_bind]
  generalize ran : action.run.run s = outcome at first
  obtain ⟨result, s'⟩ := outcome
  cases result with
  | error e => exact first
  | ok a => exact (second a s' ran).trans first

end Leaves

/-- The action succeeds with the value, and after it, what is seen of the state is as before. -/
def Yields (view : σ → γ) (action : ExceptT ε (StateM σ) α) (s : σ) (a : α) : Prop :=
  ∃ after, action.run.run s = (.ok a, after) ∧ view after = view s

namespace Yields

theorem pure (a : α) (s : σ) : Yields view (pure a : ExceptT ε (StateM σ) α) s a := ⟨s, rfl, rfl⟩

theorem lift {result : Except ε α} {a : α} (succeeds : result = .ok a) (s : σ) :
    Yields view (liftM result : ExceptT ε (StateM σ) α) s a :=
  ⟨s, run_lift_eq_ok_iff.mpr ⟨succeeds, rfl⟩, rfl⟩

theorem attempted {action : StateM σ (Except ε α)} {fault : ε → ε'} {a : α} {after : σ}
    (ran : action.run s = (.ok a, after)) (same : view after = view s) :
    Yields view (ExceptT.mk do return (← action).mapError fault : ExceptT ε' (StateM σ) α) s a :=
  ⟨after, run_attempted_eq_ok_iff.mpr ran, same⟩

/-- The second action need yield its value only where what is seen is as before the first. -/
theorem bind {action : ExceptT ε (StateM σ) α} {next : α → ExceptT ε (StateM σ) β} {a : α} {b : β}
    (first : Yields view action s a) (second : ∀ s', view s' = view s → Yields view (next a) s' b) :
    Yields view (action >>= next) s b := by
  obtain ⟨between, ran, same⟩ := first
  obtain ⟨after, ranNext, sameAfter⟩ := second between same
  exact ⟨after, run_bind_eq_ok_iff.mpr ⟨a, between, ran, ranNext⟩, sameAfter.trans same⟩

end Yields

end

end HttpCascade

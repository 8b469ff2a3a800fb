import TrustedPlatform.Action

/-!
# What an action keeps

An action keeps a relation if every state is related to the one that the action leaves, whatever its
outcome.  A relation that holds of every state and itself and carries over is kept by a sequence of
actions that keep it.  An action keeps a relation on a fault if it keeps it whenever it fails.  In
the same way it is said of a sequence which values it yields, and which faults it ends with.
-/

set_option autoImplicit false

namespace TrustedPlatform

/-- A relation between a state and a later one. -/
structure Later (σ : Type) where
  related : σ → σ → Prop
  refl : ∀ state, related state state
  trans : ∀ first second third, related first second → related second third →
    related first third

namespace Action

variable {ε σ α β : Type}

/-- The action leaves a state later than the one it began with. -/
def Keeps (later : Later σ) (action : Action ε σ α) : Prop :=
  ∀ state, later.related state (action.run state).2

namespace Keeps

variable {later : Later σ}

theorem pure (value : α) : Keeps later (Pure.pure value : Action ε σ α) :=
  fun state => later.refl state

theorem get : Keeps later (MonadState.get : Action ε σ σ) := fun state => later.refl state

theorem throw (fault : ε) : Keeps later (MonadExcept.throw fault : Action ε σ α) :=
  fun state => later.refl state

theorem ofExcept (outcome : Except ε α) : Keeps later (Action.ofExcept outcome : Action ε σ α) :=
  fun state => later.refl state

theorem bind (first : Action ε σ α) (next : α → Action ε σ β) (firstKeeps : first.Keeps later)
    (nextKeeps : ∀ value, (next value).Keeps later) : (first >>= next).Keeps later := by
  intro state
  have begun := firstKeeps state
  rw [Action.run_bind]
  cases found : first.run state with
  | mk outcome between =>
    rw [found] at begun
    cases outcome with
    | error fault => exact begun
    | ok value => exact later.trans _ _ _ begun (nextKeeps value between)

/-- Nothing happens before an outcome that is known, so only its value need be looked at. -/
theorem bindOutcome (outcome : Except ε α) (next : α → Action ε σ β)
    (nextKeeps : ∀ value, outcome = .ok value → (next value).Keeps later) :
    (Action.ofExcept outcome >>= next).Keeps later := by
  intro state
  rw [Action.run_bind, Action.run_ofExcept]
  cases outcome with
  | error fault => exact later.refl state
  | ok value => exact nextKeeps value rfl state

theorem attempt (action : Action ε σ α) (keeps : action.Keeps later) :
    (action.attempt : Action ε σ (Except ε α)).Keeps later := keeps

theorem mapFault {ε' : Type} (describe : ε → ε') (action : Action ε σ α)
    (keeps : action.Keeps later) : (action.mapFault describe).Keeps later := by
  intro state
  have kept := keeps state
  have same : ((action.mapFault describe).run state).2 = (action.run state).2 := by
    unfold Action.mapFault
    dsimp only
    split <;> simp [*]
  rw [same]
  exact kept

theorem of_returning (action : Action ε σ α) (shows : α → β)
    (keeps : (action >>= fun value => Pure.pure (shows value)).Keeps later) :
    action.Keeps later := by
  intro state
  have kept := keeps state
  rw [Action.run_bind_pure action shows state _ _ rfl] at kept
  exact kept

end Keeps

/-- An action that fails leaves a state later than the one it began with. -/
def KeepsOnFault (later : Later σ) (action : Action ε σ α) : Prop :=
  ∀ state fault after, action.run state = (.error fault, after) → later.related state after

namespace KeepsOnFault

variable {τ : Type} {later : Later σ}

theorem ofKeeps {action : Action ε σ α} (keeps : action.Keeps later) :
    action.KeepsOnFault later := by
  intro state fault after failed
  have kept := keeps state
  rw [failed] at kept
  exact kept

theorem mono {also : Later σ} {action : Action ε σ α} (keeps : action.KeepsOnFault later)
    (implied : ∀ before after, later.related before after → also.related before after) :
    action.KeepsOnFault also :=
  fun state fault after failed => implied state after (keeps state fault after failed)

/-- What comes before the last action has to keep the relation, since that one may fail. -/
theorem bind (first : Action ε σ α) (next : α → Action ε σ β) (firstKeeps : first.Keeps later)
    (nextKeeps : ∀ value, (next value).KeepsOnFault later) :
    (first >>= next).KeepsOnFault later := by
  intro state fault after failed
  have begun := firstKeeps state
  rw [Action.run_bind] at failed
  cases found : first.run state with
  | mk outcome between =>
    rw [found] at begun failed
    cases outcome with
    | error other =>
      cases failed
      exact begun
    | ok value => exact later.trans _ _ _ begun (nextKeeps value between fault after failed)

theorem bindOutcome (outcome : Except ε α) (next : α → Action ε σ β)
    (nextKeeps : ∀ value, outcome = .ok value → (next value).KeepsOnFault later) :
    (Action.ofExcept outcome >>= next).KeepsOnFault later := by
  intro state fault after failed
  rw [Action.run_bind, Action.run_ofExcept] at failed
  cases outcome with
  | error other =>
    cases failed
    exact later.refl state
  | ok value => exact nextKeeps value rfl state fault after failed

theorem returning (action : Action ε σ α) (shows : α → β) (keeps : action.KeepsOnFault later) :
    (action >>= fun value => pure (shows value)).KeepsOnFault later := by
  intro state fault after failed
  rw [Action.run_bind] at failed
  cases found : action.run state with
  | mk outcome between =>
    rw [found] at failed
    cases outcome with
    | error other =>
      cases failed
      exact keeps state fault after found
    | ok value => cases failed

theorem zoom {also : Later τ} (view : τ → σ) (update : σ → τ → τ) (action : Action ε σ α)
    (keeps : action.KeepsOnFault later)
    (updates : ∀ whole part, later.related (view whole) part →
      also.related whole (update part whole)) :
    (action.zoom view update).KeepsOnFault also := by
  intro whole fault after failed
  rw [Action.run_zoom] at failed
  cases found : action.run (view whole) with
  | mk outcome part =>
    rw [found] at failed
    cases failed
    exact updates whole part (keeps _ fault part found)

end KeepsOnFault

/-- Every value that the action returns is as wanted. -/
def Yields (wanted : α → Prop) (action : Action ε σ α) : Prop :=
  ∀ state value after, action.run state = (.ok value, after) → wanted value

namespace Yields

theorem pure {wanted : α → Prop} (value : α) (isWanted : wanted value) :
    Yields wanted (Pure.pure value : Action ε σ α) := by
  rintro state other after ⟨⟩
  exact isWanted

theorem bind {wanted : β → Prop} (first : Action ε σ α) (next : α → Action ε σ β)
    (nextYields : ∀ value, (next value).Yields wanted) : (first >>= next).Yields wanted := by
  intro state value after success
  obtain ⟨middle, between, _, remaining⟩ := (bind_eq_ok_iff _ _ _ _ _).mp success
  exact nextYields middle between value after remaining

end Yields

theorem Keeps.bindYielded {later : Later σ} {wanted : α → Prop} (first : Action ε σ α)
    (next : α → Action ε σ β) (firstKeeps : first.Keeps later) (yields : first.Yields wanted)
    (nextKeeps : ∀ value, wanted value → (next value).Keeps later) :
    (first >>= next).Keeps later := by
  intro state
  have begun := firstKeeps state
  rw [Action.run_bind]
  cases found : first.run state with
  | mk outcome between =>
    rw [found] at begun
    cases outcome with
    | error fault => exact begun
    | ok value =>
      have isWanted := yields state value between found
      exact later.trans _ _ _ begun (nextKeeps value isWanted between)

/-- Every fault of the action is one that is allowed. -/
def FailsOnly (allowed : ε → Prop) (action : Action ε σ α) : Prop :=
  ∀ state fault, (action.run state).1 = .error fault → allowed fault

namespace FailsOnly

variable {allowed : ε → Prop}

theorem pure (value : α) : FailsOnly allowed (Pure.pure value : Action ε σ α) := by
  intro state fault failed
  cases failed

theorem get : FailsOnly allowed (MonadState.get : Action ε σ σ) := by
  intro state fault failed
  cases failed

theorem throw (fault : ε) (isAllowed : allowed fault) :
    FailsOnly allowed (MonadExcept.throw fault : Action ε σ α) := by
  intro state other failed
  cases failed
  exact isAllowed

theorem ofExcept (outcome : Except ε α) (isAllowed : ∀ fault, outcome = .error fault → allowed fault) :
    FailsOnly allowed (Action.ofExcept outcome : Action ε σ α) :=
  fun _ fault failed => isAllowed fault failed

theorem bind (first : Action ε σ α) (next : α → Action ε σ β)
    (firstFails : first.FailsOnly allowed) (nextFails : ∀ value, (next value).FailsOnly allowed) :
    (first >>= next).FailsOnly allowed := by
  intro state fault failed
  rw [Action.run_bind] at failed
  cases found : first.run state with
  | mk outcome after =>
    rw [found] at failed
    cases outcome with
    | ok value => exact nextFails value after fault failed
    | error other =>
      cases failed
      exact firstFails state fault (by rw [found])

end FailsOnly

end Action

end TrustedPlatform

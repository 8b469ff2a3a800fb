/-!
# Actions

An `Action` reads and changes a state and either returns a value or fails.  The state reached is
kept in both cases: a session that was used up, a nonce that was drawn and a byte that was read
stay so after a failure.

* `run_bind`: a sequence stops at its first failure, in the state reached there.
* `run_attempt`: an attempt never fails; it hands the outcome on.
* `run_zoom`: an action on a part leaves the rest of the state alone.
-/

set_option autoImplicit false

namespace TrustedPlatform

/-- A step on a state `σ` that returns an `α` or fails with an `ε`. -/
structure Action (ε σ α : Type) where
  run : σ → Except ε α × σ

namespace Action

variable {ε σ τ α β : Type}

protected def bind (first : Action ε σ α) (next : α → Action ε σ β) : Action ε σ β where
  run state :=
    match first.run state with
    | (.ok value, after) => (next value).run after
    | (.error fault, after) => (.error fault, after)

instance : Monad (Action ε σ) where
  pure value := ⟨fun state => (.ok value, state)⟩
  bind := Action.bind

instance : MonadStateOf σ (Action ε σ) where
  get := ⟨fun state => (.ok state, state)⟩
  set state := ⟨fun _ => (.ok (), state)⟩
  modifyGet change := ⟨fun state => let (value, after) := change state; (.ok value, after)⟩

instance : MonadExceptOf ε (Action ε σ) where
  throw fault := ⟨fun state => (.error fault, state)⟩
  tryCatch action handler := ⟨fun state =>
    match action.run state with
    | (.ok value, after) => (.ok value, after)
    | (.error fault, after) => (handler fault).run after⟩

def attempt (action : Action ε σ α) : Action ε σ (Except ε α) where
  run state :=
    let (outcome, after) := action.run state
    (.ok outcome, after)

def ofExcept (outcome : Except ε α) : Action ε σ α where
  run state := (outcome, state)

def zoom (view : τ → σ) (update : σ → τ → τ) (action : Action ε σ α) : Action ε τ α where
  run whole :=
    let (outcome, part) := action.run (view whole)
    (outcome, update part whole)

def mapFault {ε' : Type} (describe : ε → ε') (action : Action ε σ α) : Action ε' σ α where
  run state :=
    match action.run state with
    | (.ok value, after) => (.ok value, after)
    | (.error fault, after) => (.error (describe fault), after)

@[simp] theorem run_pure (value : α) (state : σ) :
    (pure value : Action ε σ α).run state = (.ok value, state) := rfl

@[simp] theorem run_bind (first : Action ε σ α) (next : α → Action ε σ β) (state : σ) :
    (first >>= next).run state =
      match first.run state with
      | (.ok value, after) => (next value).run after
      | (.error fault, after) => (.error fault, after) := rfl

@[simp] theorem run_map (f : α → β) (action : Action ε σ α) (state : σ) :
    (f <$> action).run state =
      match action.run state with
      | (.ok value, after) => (.ok (f value), after)
      | (.error fault, after) => (.error fault, after) := rfl

theorem run_bind_of_ok (first : Action ε σ α) (next : α → Action ε σ β) (state after : σ) (value : α)
    (ran : first.run state = (.ok value, after)) :
    (first >>= next).run state = (next value).run after := by
  rw [run_bind, ran]

theorem run_bind_pure (action : Action ε σ α) (f : α → β) (state after : σ)
    (outcome : Except ε α) (ran : action.run state = (outcome, after)) :
    (action >>= fun value => pure (f value)).run state = (outcome.map f, after) := by
  rw [run_bind, ran]
  cases outcome with
  | error fault => rfl
  | ok value => rfl

@[simp] theorem run_get (state : σ) :
    (get : Action ε σ σ).run state = (.ok state, state) := rfl

@[simp] theorem run_set (replacement state : σ) :
    (set replacement : Action ε σ Unit).run state = (.ok (), replacement) := rfl

@[simp] theorem run_modify (change : σ → σ) (state : σ) :
    (modify change : Action ε σ Unit).run state = (.ok (), change state) := rfl

@[simp] theorem run_throw (fault : ε) (state : σ) :
    (throw fault : Action ε σ α).run state = (.error fault, state) := rfl

@[simp] theorem run_attempt (action : Action ε σ α) (state : σ) :
    action.attempt.run state = (.ok (action.run state).1, (action.run state).2) := rfl

@[simp] theorem run_ofExcept (outcome : Except ε α) (state : σ) :
    (ofExcept outcome : Action ε σ α).run state = (outcome, state) := rfl

@[simp] theorem run_zoom (view : τ → σ) (update : σ → τ → τ) (action : Action ε σ α)
    (whole : τ) :
    (zoom view update action).run whole =
      ((action.run (view whole)).1, update (action.run (view whole)).2 whole) := rfl

instance : LawfulMonad (Action ε σ) :=
  LawfulMonad.mk' (Action ε σ)
    (by
      intro α action
      cases action with
      | mk step =>
        show Action.mk _ = Action.mk _
        congr
        funext state
        cases found : step state with
        | mk outcome after => cases outcome <;> simp [found])
    (by intro α β value next; rfl)
    (by
      intro α β γ action next last
      show Action.mk _ = Action.mk _
      congr
      funext state
      simp only [bind, Action.bind]
      cases action.run state with
      | mk outcome after => cases outcome <;> rfl)

theorem bind_eq_ok_iff (first : Action ε σ α) (next : α → Action ε σ β)
    (state after : σ) (value : β) :
    (first >>= next).run state = (.ok value, after) ↔
      ∃ middle between, first.run state = (.ok middle, between) ∧
        (next middle).run between = (.ok value, after) := by
  rw [run_bind]
  cases found : first.run state with
  | mk outcome between =>
    cases outcome with
    | error fault => simp
    | ok middle =>
      constructor
      · intro success
        exact ⟨middle, between, rfl, success⟩
      · rintro ⟨_, _, same, success⟩
        cases same
        exact success

end Action

end TrustedPlatform

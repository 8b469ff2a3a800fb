import TrustedPlatform.Client.Execute
import TrustedPlatform.Proofs.Client.Attempt

/-!
# Commands that are sent once

A command that no answer makes a client send again is dispatched by one attempt
(`Dispatch.run_execute_of_once`).  One that is sent for a handle is dispatched like any other, and
then the handle is read from the reply (`Dispatch.askHandle_eq`).
-/

set_option autoImplicit false

namespace TrustedPlatform

theorem Action.eq_of_run {ε σ α : Type} (first second : Action ε σ α)
    (same : ∀ state, first.run state = second.run state) : first = second := by
  cases first
  cases second
  exact congrArg Action.mk (funext same)

def Reply.onlyHandle (reply : Reply) : Except Fault UInt32 := do
  let handle ← reply.handle
  reply.decode (pure ())
  return handle

variable {σ : Type} [Channel σ]

namespace Dispatch

theorem run_execute (command : Command) (dispatch : Dispatch σ) :
    (execute command).run dispatch =
      (((executeUpTo command (furtherAttempts command dispatch.client)).run dispatch).1,
        settle ((executeUpTo command (furtherAttempts command dispatch.client)).run dispatch).2) :=
  rfl

theorem run_execute_of_once (command : Command) (dispatch : Dispatch σ)
    (once : command.ordinal.isRetryable = false) :
    (execute command).run dispatch =
      (((executeOnce command).run dispatch).1, settle ((executeOnce command).run dispatch).2) := by
  have further : furtherAttempts command dispatch.client = 0 := by
    unfold furtherAttempts
    rw [once]
    rfl
  rw [run_execute, further, executeUpTo_zero]

theorem run_execute_once (command : Command) (client after : Client σ)
    (outcome : Except Fault Reply) (once : command.ordinal.isRetryable = false)
    (ran : (executeOnce command).run ⟨client, none⟩ = (outcome, ⟨after, none⟩)) :
    (execute command).run ⟨client, none⟩ = (outcome, ⟨after, none⟩) := by
  rw [run_execute_of_once command _ once, ran]
  rfl

theorem askHandle_eq (command : Command) :
    (askHandle command : Action Fault (Dispatch σ) UInt32) =
      execute { command with outputHandles := 1 } >>= fun reply =>
        Action.ofExcept reply.onlyHandle := by
  have reads : ∀ reply : Reply,
      (Action.ofExcept reply.handle >>= fun handle =>
        Action.ofExcept (reply.decode (pure ())) >>= fun _ =>
          pure handle : Action Fault (Dispatch σ) UInt32) = Action.ofExcept reply.onlyHandle := by
    intro reply
    unfold Reply.onlyHandle
    cases reply.handle with
    | error fault => rfl
    | ok handle => cases reply.decode (pure ()) <;> rfl
  exact congrArg (execute { command with outputHandles := 1 } >>= ·) (funext reads)

theorem run_askHandle (command : Command) (dispatch after : Dispatch σ)
    (outcome : Except Fault Reply)
    (ran : (execute { command with outputHandles := 1 }).run dispatch = (outcome, after)) :
    (askHandle command).run dispatch = (outcome >>= Reply.onlyHandle, after) := by
  rw [askHandle_eq, Action.run_bind, ran]
  cases outcome with
  | error fault => rfl
  | ok reply => rfl

end Dispatch

/-- What is asked for a handle, and nothing else, is asked by a request. -/
theorem Client.unauthorized_askHandle (command : Command) :
    (unauthorized (Dispatch.askHandle command) : Action Fault (Client σ) UInt32) =
      unauthorized (Dispatch.execute { command with outputHandles := 1 }) >>= fun reply =>
        Action.ofExcept reply.onlyHandle := by
  refine Action.eq_of_run _ _ fun client => ?_
  unfold unauthorized
  rw [Dispatch.askHandle_eq, Action.run_zoom, Action.run_bind, Action.run_bind, Action.run_zoom]
  cases (Dispatch.execute { command with outputHandles := 1 }).run ⟨client, none⟩ with
  | mk outcome after =>
    cases outcome with
    | error fault => rfl
    | ok reply => rfl

end TrustedPlatform

import TrustedPlatform.Client.Basic

/-!
# Sessions and retries

How sessions are opened, and how a command that found the module busy is sent again: the module
ended its session, so each further attempt opens a new one of the same kind first.

That an ordinal is given as many sessions as it takes is not tested here. Each call dispatches its
command with no session or with the one it was lent, as the ordinal takes: the signature of the call
leaves no other number (none for a query, one where a secret has to be proved, either where the key
may need no secret), so there is no call that such a test could refuse. The wait between a busy
answer and the next attempt belongs to the program around the client (`Main`).

* `executeUpTo_zero`: without further attempts a command is sent once.
* `executeUpTo_of_fault`: only a busy module is asked again.
-/

set_option autoImplicit false

namespace TrustedPlatform

namespace Client

variable {σ : Type} [Channel σ]

def ask {α : Type} (command : Command) (decoder : Decoder α) : Action Fault (Client σ) α := do
  let reply ← unauthorized (Dispatch.executeOnce command)
  Action.ofExcept (reply.decode decoder)

def openOiap : Action Fault (Client σ) Session := do
  let (handle, nonceEven) ← ask { ordinal := .oiap } do
    let handle ← Decoder.word32
    let nonceEven ← Decoder.digest
    return (handle, nonceEven)
  let session := Session.oiap handle nonceEven
  note fun inventory => inventory.addSession handle session.kind
  return session

def openOsap (entity : Entity) (secret : Secret) : Action Fault (Client σ) Session := do
  let setupOdd ← drawNonce
  let parameters :=
    Bytes.word16 entity.kind.code ++ Bytes.word32 entity.value ++ setupOdd.bytes
  let (handle, nonceEven, setupEven) ← ask { ordinal := .osap, parameters } do
    let handle ← Decoder.word32
    let nonceEven ← Decoder.digest
    let setupEven ← Decoder.digest
    return (handle, nonceEven, setupEven)
  let session := Session.osap handle nonceEven entity secret setupEven setupOdd
  note fun inventory => inventory.addSession handle session.kind
  return session

def openSession (kind : SessionKind) (secret : Secret) : Action Fault (Client σ) Session :=
  match kind with
  | .oiap => openOiap
  | .osap entity => openOsap entity secret

end Client

namespace Dispatch

variable {σ : Type} [Channel σ]

def replaceSession : Action Fault (Dispatch σ) Unit := do
  match (← get).use? with
  | none => return
  | some use =>
    onClient (Client.note fun inventory => inventory.removeSession use.session.handle)
    let fresh ← onClient (Client.openSession use.session.kind use.secret)
    changeSession fun _ => fresh

def executeUpTo (command : Command) : Nat → Action Fault (Dispatch σ) Reply
  | 0 => executeOnce command
  | further + 1 => do
    match ← (executeOnce command).attempt with
    | .ok reply => return reply
    | .error fault =>
      if fault.isRetryable then
        replaceSession
        executeUpTo command further
      else throw fault

def settle (dispatch : Dispatch σ) : Dispatch σ :=
  match dispatch.use? with
  | none => dispatch
  | some use =>
    if use.session.isActive then dispatch
    else
      { dispatch with
        client.inventory := dispatch.client.inventory.removeSession use.session.handle }

def furtherAttempts (command : Command) (client : Client σ) : Nat :=
  if command.ordinal.isRetryable then client.attempts - 1 else 0

def execute (command : Command) : Action Fault (Dispatch σ) Reply := do
  let outcome ← (executeUpTo command (furtherAttempts command (← get).client)).attempt
  modify settle
  Action.ofExcept outcome

def ask {α : Type} (command : Command) (decoder : Decoder α) : Action Fault (Dispatch σ) α := do
  let reply ← execute command
  Action.ofExcept (reply.decode decoder)

def askHandle (command : Command) : Action Fault (Dispatch σ) UInt32 := do
  let reply ← execute { command with outputHandles := 1 }
  let handle ← Action.ofExcept reply.handle
  Action.ofExcept (reply.decode (pure ()))
  return handle

theorem executeUpTo_zero (command : Command) :
    executeUpTo (σ := σ) command 0 = executeOnce command := rfl

theorem executeUpTo_of_fault (command : Command) (further : Nat) (dispatch after : Dispatch σ)
    (fault : Fault) (failed : (executeOnce command).run dispatch = (.error fault, after))
    (final : fault.isRetryable = false) :
    (executeUpTo command further).run dispatch = (.error fault, after) := by
  cases further with
  | zero => exact failed
  | succ further => simp [executeUpTo, failed, final]

end Dispatch

end TrustedPlatform

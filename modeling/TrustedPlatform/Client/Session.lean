import TrustedPlatform.Client.Execute

/-!
# Keeping sessions

Ending sessions, flushing what the module holds, and moving a session out of the module and back.
A saved session is loaded at most once: the claim on it is made before the module is asked, and
taken back when the module does not load it.
-/

set_option autoImplicit false

namespace TrustedPlatform

/-- A client with a session that is moved out of the module or back. -/
structure Custody (σ : Type) where
  client : Client σ
  session : Session

namespace Client

variable {σ : Type} [Channel σ]

/-- Ends a session.  It is forgotten before the module is asked. -/
def terminate (session : Session) : Action Fault (Client σ) Unit := do
  note fun inventory => inventory.removeSession session.handle
  let _ ← unauthorized (Dispatch.execute
    { ordinal := .terminateHandle, parameters := Bytes.word32 session.handle })

def flush (handle : UInt32) (kind : ResourceKind) : Action Fault (Client σ) Unit := do
  let _ ← unauthorized (Dispatch.execute
    { ordinal := .flushSpecific, handles := [handle], parameters := Bytes.word32 kind.code })
  note fun inventory =>
    if kind = .key then inventory.removeKey handle
    else if kind.isSession then inventory.removeSession handle
    else inventory

end Client

namespace Dispatch

variable {σ : Type}

def nextNonceOdd : Action Fault (Dispatch σ) Digest where
  run dispatch :=
    match dispatch.use? with
    | none => (.error (.encoding .secretNeedsSession), dispatch)
    | some use =>
      let (outcome, session, nonces) := use.session.nextNonceOdd dispatch.client.nonces
      (outcome, ⟨{ dispatch.client with nonces }, some { use with session }⟩)

end Dispatch

namespace Custody

variable {σ α : Type}

def onClient (action : Action Fault (Client σ) α) : Action Fault (Custody σ) α :=
  action.zoom Custody.client fun client custody => { custody with client }

def nextNonceOdd : Action Fault (Custody σ) Digest where
  run custody :=
    let (outcome, session, nonces) := custody.session.nextNonceOdd custody.client.nonces
    (outcome, ⟨{ custody.client with nonces }, session⟩)

variable [Channel σ]

/-- Moves a session out of the module.  Until it is loaded again it authorizes nothing. -/
def save : Action Fault (Custody σ) Bytes := do
  let session := (← get).session
  if !session.isActive then throw (.sessionClosed session.handle)
  let blob ← onClient (Client.unauthorized (Dispatch.ask
    { ordinal := .saveAuthContext, handles := [session.handle] } Decoder.sized))
  onClient (Client.note fun inventory => inventory.removeSession session.handle)
  modify fun custody => { custody with session := session.suspend }
  return blob

def loadBlob (blob : Bytes) : Action Fault (Client σ) UInt32 := do
  let parameters ← Action.ofExcept (Bytes.sized blob)
  Client.unauthorized (Dispatch.askHandle { ordinal := .loadAuthContext, parameters })

def claim (blob : Bytes) : Action Fault (Client σ) Unit := do
  let claimed ← Action.ofExcept ((← get).inventory.claim blob)
  Client.note fun _ => claimed

def releasing (blob : Bytes) (action : Action Fault (Client σ) α) : Action Fault (Client σ) α := do
  match ← action.attempt with
  | .ok value => return value
  | .error fault =>
    Client.note fun inventory => inventory.release blob
    throw fault

/-- Claims a saved session and goes on; the claim is taken back if that fails. -/
def claiming (blob : Bytes) (action : Action Fault (Client σ) α) : Action Fault (Client σ) α := do
  claim blob
  releasing blob action

def load (blob : Bytes) : Action Fault (Custody σ) Unit := do
  let session := (← get).session
  if session.status ≠ .suspended then throw (.sessionClosed session.handle)
  let handle ← onClient (claiming blob (loadBlob blob))
  onClient (Client.note fun inventory => inventory.addSession handle session.kind)
  modify fun custody => { custody with session := session.resume handle }

end Custody

end TrustedPlatform

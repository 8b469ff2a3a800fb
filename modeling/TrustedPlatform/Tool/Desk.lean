import TrustedPlatform.Client.Session
import TrustedPlatform.Tool.Input

/-!
# The desk

Where one call of the tool is carried out: a client, the files at hand, and what was printed.
What was printed and written before a failure stays.

A command that needs authorization gets a session of its own, which ends with it.

* `run_authorized_of_fault`: without a session the command is not carried out.
-/

set_option autoImplicit false

namespace TrustedPlatform.Tool

/-- A client at work for one call of the tool. -/
structure Desk (σ : Type) where
  client : Client σ
  files : Files
  -- What was printed, the last piece first.
  printed : List Bytes

/-- A step at a desk. -/
abbrev Work (σ α : Type) := Action Failure (Desk σ) α

def keyEntity (handle : UInt32) : Entity :=
  ⟨if handle = storageRootKey then .srk else .keyHandle, handle⟩

def ownerEntity : Entity := ⟨.owner, ownerHandle⟩

def counterEntity (number : UInt32) : Entity := ⟨.counter, number⟩

namespace Desk

variable {σ α : Type}

def emit (bytes : Bytes) : Work σ Unit :=
  modify fun desk => { desk with printed := bytes :: desk.printed }

def print (line : String) : Work σ Unit := emit (.ofText (line ++ "\n"))

def reject (fault : InputFault) : Work σ α := throw (.ofInput fault)

def input (read : Files → Except InputFault α) : Work σ α := do
  Action.ofExcept ((read (← get).files).mapError .ofInput)

def checked (outcome : Except Fault α) : Work σ α := Action.ofExcept (outcome.mapError .ofFault)

def write (path : String) (contents : Bytes) : Work σ Unit := do
  let files := (← get).files
  match files.create path with
  | .error cause => reject (.cannotCreate path cause)
  | .ok place =>
    if files.node? place = some (.special .output) then emit contents
    match files.store place contents with
    | .error cause => reject (.cannotWrite path cause)
    | .ok files => modify fun desk => { desk with files }

def onClient (action : Action Fault (Client σ) α) : Work σ α :=
  (action.mapFault Failure.ofFault).zoom Desk.client fun client desk => { desk with client }

def during (activity : Activity) (work : Work σ α) : Work σ α :=
  work.mapFault (Failure.during activity)

def lending (use : SessionUse) (action : Action Fault (Dispatch σ) α) :
    Action Fault (Client σ) α :=
  action.zoom (fun client => ⟨client, some use⟩) fun dispatch _ => dispatch.client

variable [Channel σ]

/-- Opens the kind of session that a command needs: one with a shared secret, if the command
carries a secret. -/
def openFor (ordinal : Ordinal) (entity : Entity) (secret : Secret) :
    Action Fault (Client σ) Session :=
  if ordinal.carriesSecret then Client.openOsap entity secret else Client.openOiap

def authorized (ordinal : Ordinal) (entity : Entity) (secret : Secret)
    (action : Action Fault (Dispatch σ) α) : Work σ α := do
  let session ← during (.openingSession ordinal) (onClient (openFor ordinal entity secret))
  during (.performing ordinal) (onClient (lending ⟨session, secret, false⟩ action))

def maybeAuthorized (ordinal : Ordinal) (entity : Entity) (secret? : Option Secret)
    (action : Action Fault (Dispatch σ) α) : Work σ α :=
  match secret? with
  | some secret => authorized ordinal entity secret action
  | none => during (.performing ordinal) (onClient (Client.unauthorized action))

theorem run_authorized_of_fault (ordinal : Ordinal) (entity : Entity) (secret : Secret)
    (action : Action Fault (Dispatch σ) α) (desk : Desk σ) (fault : Fault) (after : Client σ)
    (failed : (openFor ordinal entity secret).run desk.client = (.error fault, after)) :
    (authorized ordinal entity secret action).run desk =
      (.error ⟨[.openingSession ordinal], .module fault⟩, { desk with client := after }) := by
  simp [authorized, during, onClient, Action.zoom, Action.mapFault, failed, Failure.during,
    Failure.ofFault]

end Desk

end TrustedPlatform.Tool

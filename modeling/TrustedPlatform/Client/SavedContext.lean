import TrustedPlatform.Client.Session
import TrustedPlatform.Structure.SavedContext

/-!
# Saving and loading resources

Keys and other resources are moved out of the module as blobs and loaded again.  Saved sessions
among them are claimed like those of `Custody.load`: each is loaded once.
-/

set_option autoImplicit false

namespace TrustedPlatform.Client

variable {σ : Type} [Channel σ]

def saveKey (handle : UInt32) : Action Fault (Client σ) Bytes :=
  ask { ordinal := .saveKeyContext, handles := [handle] } Decoder.sized

def loadSavedKey (blob : Bytes) : Action Fault (Client σ) UInt32 := do
  let parameters ← Action.ofExcept (Bytes.sized blob)
  let handle ← unauthorized (Dispatch.askHandle { ordinal := .loadKeyContext, parameters })
  note fun inventory => inventory.addKey handle none
  return handle

def saveContext (handle : UInt32) (kind : ResourceKind) (label : Block 16) :
    Action Fault (Client σ) SavedContext := do
  let parameters := Bytes.word32 kind.code ++ label.bytes
  let blob ← ask { ordinal := .saveContext, handles := [handle], parameters } Decoder.sized
  let saved ← Action.ofExcept (SavedContext.decode.complete blob)
  if saved.resource? ≠ some kind then
    throw (.malformed (.contextResource kind saved.resource))
  if kind.isSession then note fun inventory => inventory.removeSession handle
  return saved

/-- Asks the module to load a saved resource, given with its length in front, under the handle it
had if that is to be kept. -/
def loadSized (hint : UInt32) (keep : Bool) (sized : Bytes) : Action Fault (Client σ) UInt32 :=
  let parameters := Bytes.word32 hint ++ Bytes.flag keep ++ sized
  unauthorized (Dispatch.askHandle { ordinal := .loadContext, parameters })

/-- Loads the blob of a resource.  That of a session is claimed before it is given its length, and
the claim is taken back only if the module does not load it: one on a blob that is too long to have
a length stays. -/
def loadBlob (kind : ResourceKind) (hint : UInt32) (keep : Bool) (blob : Bytes) :
    Action Fault (Client σ) UInt32 :=
  if kind.isSession then do
    Custody.claim blob
    let sized ← Action.ofExcept (Bytes.sized blob)
    Custody.releasing blob (loadSized hint keep sized)
  else do
    let sized ← Action.ofExcept (Bytes.sized blob)
    loadSized hint keep sized

def loadContext (hint : UInt32) (keep : Bool) (saved : SavedContext) :
    Action Fault (Client σ) UInt32 := do
  let blob ← Action.ofExcept saved.encode
  match saved.resource? with
  | none => throw (.encoding (.unknownResource saved.resource))
  | some kind =>
    let handle ← loadBlob kind hint keep blob
    if kind = .key then note fun inventory => inventory.addKey handle none
    return handle

end TrustedPlatform.Client

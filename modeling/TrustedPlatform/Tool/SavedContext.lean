import TrustedPlatform.Client.SavedContext
import TrustedPlatform.Tool.Desk

/-!
# Saved resources at the desk

Saving keys and sessions to files and loading them again.
-/

set_option autoImplicit false

namespace TrustedPlatform.Tool

variable {σ : Type} [Channel σ]

/-- The blob of a resource; only keys have one for the older commands. -/
def savedBlob (handle : UInt32) (kind : ResourceKind) (text : String) (older : Bool) :
    Work σ Bytes := do
  if older then
    if kind = .key then
      Desk.during (.savingKey handle) (Desk.onClient (Client.saveKey handle))
    else Desk.reject .olderSavesKeysOnly
  else
    let name ← Desk.input fun _ => label 16 text
    let saved ← Desk.during (.savingContext handle)
      (Desk.onClient (Client.saveContext handle kind name))
    Desk.checked saved.encode

def saveContext (handle : UInt32) (kind : ResourceKind) (text : String) (older : Bool)
    (output : String) : Work σ Unit := do
  Desk.write output (← savedBlob handle kind text older)

def loadContext (input : String) (hint : UInt32) (keep older : Bool) : Work σ Unit := do
  let handle ←
    if older then
      let blob ← Desk.input fun files => files.contents input
      Desk.during .loadingKey (Desk.onClient (Client.loadSavedKey blob))
    else
      let saved ← Desk.input fun files => files.structure input SavedContext.decode
      Desk.during .loadingContext (Desk.onClient (Client.loadContext hint keep saved))
  Desk.print s!"New Handle = {displayHandle handle}"

end TrustedPlatform.Tool

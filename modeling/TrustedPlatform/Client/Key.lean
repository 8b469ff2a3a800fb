import TrustedPlatform.Client.Capability
import TrustedPlatform.Client.Session

/-!
# Keys

Loading, evicting, creating and using keys.  The inventory follows what the module reports, and no
key is known before the module has answered.

`evictAll` takes one key after the other until none is listed.  Nothing forces a module to come to
an end with that, so it is given a count of rounds.
-/

set_option autoImplicit false

namespace TrustedPlatform

namespace Dispatch

variable {σ : Type} [Channel σ]

/-- Loads a wrapped key under its parent, by the older command or the newer one.  The
authorization of the older one's response covers the handle. -/
def loadKey (older : Bool) (parent : UInt32) (key : KeyBlob) :
    Action Fault (Dispatch σ) UInt32 := do
  let parameters ← Action.ofExcept key.encode
  let ordinal : Ordinal := if older then .loadKey else .loadKey2
  let handle ← askHandle { ordinal, handles := [parent], parameters, digestsHandles := older }
  onClient (Client.note fun inventory => inventory.addKey handle (some key.publicKey))
  return handle

def publicKey (handle : UInt32) : Action Fault (Dispatch σ) PublicKey := do
  let key ← ask { ordinal := .getPubKey, handles := [handle] } PublicKey.decode
  onClient (Client.note fun inventory => inventory.addKey handle (some key))
  return key

def maskingSecret (entityAllowed : Entity → Bool) (otherwise : EncodingCause) :
    Action Fault (Dispatch σ) (Secret × Digest) := do
  match (← get).use? with
  | some { session := { binding := .osap entity shared, nonceEven, .. }, .. } =>
    if entityAllowed entity then return (shared, nonceEven)
    else throw (.encoding otherwise)
  | _ => throw (.encoding otherwise)

/-- Creates a key under a parent.  Its secrets go masked: the one for its use by the even nonce,
the one for its migration by the odd nonce of the command itself. -/
def createKey (parent : UInt32) (usage migration : Secret) (template : KeyBlob) :
    Action Fault (Dispatch σ) KeyBlob := do
  let (shared, nonceEven) ← maskingSecret (fun _ => true) .keyNeedsParentSession
  let nonceOdd ← nextNonceOdd
  let template ← Action.ofExcept template.encode
  let parameters :=
    (Secret.conceal shared nonceEven usage).bytes ++
      (Secret.conceal shared nonceOdd migration).bytes ++ template
  ask { ordinal := .createWrapKey, handles := [parent], parameters } KeyBlob.decode

def sign (handle : UInt32) (message : Bytes) : Action Fault (Dispatch σ) Bytes := do
  let parameters ← Action.ofExcept (Bytes.sized message)
  ask { ordinal := .sign, handles := [handle], parameters } Decoder.sized

end Dispatch

namespace Client

variable {σ : Type} [Channel σ]

def evictKey (handle : UInt32) : Action Fault (Client σ) Unit := do
  let _ ← unauthorized (Dispatch.execute { ordinal := .evictKey, handles := [handle] })
  note fun inventory => inventory.removeKey handle

/-- The handles of the loaded keys; the inventory takes them over. -/
def listKeys : Action Fault (Client σ) (List UInt32) := do
  let handles ← keyHandles
  note fun inventory => inventory.refreshKeys handles
  return handles

/-- Evicts the first key listed, again and again, as long as the one evicted last is gone.  The
count of evictions, or nothing if the rounds did not suffice. -/
def evictListed (last : Option UInt32) (evicted : Nat) :
    Nat → Action Fault (Client σ) (Option Nat)
  | 0 => return none
  | rounds + 1 => do
    match ← listKeys with
    | [] => return some evicted
    | next :: others =>
      match last.filter (next :: others).contains with
      | some previous => throw (.malformed (.stillListed previous))
      | none =>
        evictKey next
        evictListed (some next) (evicted + 1) rounds

def evictAll (rounds : Nat) : Action Fault (Client σ) (Option Nat) := evictListed none 0 rounds

end Client

end TrustedPlatform

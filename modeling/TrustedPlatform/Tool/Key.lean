import TrustedPlatform.Client.Key
import TrustedPlatform.Tool.Desk

/-!
# Keys at the desk

Loading, listing, evicting, showing, creating and using keys.
-/

set_option autoImplicit false

namespace TrustedPlatform.Tool

variable {σ : Type} [Channel σ]

def loadKey (parent : UInt32) (parentSecret : SecretSource) (input : String) (older : Bool) :
    Work σ Unit := do
  let key ← Desk.input fun files => files.structure input KeyBlob.decode
  let secret? ← Desk.input parentSecret.secret?
  let ordinal : Ordinal := if older then .loadKey else .loadKey2
  let handle ← Desk.maybeAuthorized ordinal (keyEntity parent) secret?
    (Dispatch.loadKey older parent key)
  Desk.print s!"New Key Handle = {displayHandle handle}"

def listKeys : Work σ Unit := do
  let handles ← Desk.during .listingKeys (Desk.onClient Client.listKeys)
  if handles.isEmpty then Desk.print "No keys loaded"
  handles.forM fun handle => Desk.print (displayHandle handle)

def evictKey (handle : UInt32) : Work σ Unit := do
  Desk.during (.evictingKey handle) (Desk.onClient (Client.evictKey handle))
  Desk.print s!"Evicted key {displayHandle handle}"

def evictAll (rounds : Nat) : Work σ Unit := do
  match ← Desk.during .evictingKeys (Desk.onClient (Client.evictAll rounds)) with
  | none => throw ⟨[.evictingKeys], .unfinished⟩
  | some evicted => Desk.print s!"Evicted {evicted} keys"

def showModulus (key : PublicKey) : Work σ Unit :=
  Desk.print s!"Modulus: {Text.Hex.encode key.modulus.bytes}"

def publicKey (handle : UInt32) (keySecret : SecretSource) (output? : Option String) :
    Work σ Unit := do
  let secret? ← Desk.input keySecret.secret?
  let key ← Desk.maybeAuthorized .getPubKey (keyEntity handle) secret? (Dispatch.publicKey handle)
  if let some output := output? then Desk.write output (← Desk.checked key.encode)
  showModulus key

def createKey (parent : UInt32) (parentSecret keySecret : SecretSource)
    (migrationPassword? : Option String) (usage : KeyUsage) (bits : UInt32) (output : String) :
    Work σ Unit := do
  let parentSecret ← Desk.input parentSecret.secret?
  let keySecret ← Desk.input (keySecret.secret "key")
  let flags := if migrationPassword?.isSome then KeyBlob.migratable else 0
  let migration := (migrationPassword?.map Secret.ofPassword).getD .wellKnown
  let template := KeyBlob.template usage bits flags
  let key ← Desk.authorized .createWrapKey (keyEntity parent) (parentSecret.getD .wellKnown)
    (Dispatch.createKey parent keySecret migration template)
  Desk.write output (← Desk.checked key.encode)
  showModulus key.publicKey

def sign (handle : UInt32) (keySecret : SecretSource) (input : String) (output? : Option String) :
    Work σ Unit := do
  let message ← Desk.input fun files => files.contents input
  let secret? ← Desk.input keySecret.secret?
  let signature ← Desk.maybeAuthorized .sign (keyEntity handle) secret?
    (Dispatch.sign handle (Sha1.hash message).bytes)
  match output? with
  | some output => Desk.write output signature
  | none => Desk.print (Text.Hex.encode signature)

end TrustedPlatform.Tool

import TrustedPlatform.Client.Audit
import TrustedPlatform.Tool.Desk

/-!
# Auditing at the desk

Showing the audit digest, as it is or signed, and choosing the commands that are audited.
-/

set_option autoImplicit false

namespace TrustedPlatform.Tool

variable {σ : Type} [Channel σ]

def showAudit (counter : CounterValue) (digest : Digest) : Work σ Unit := do
  Desk.print s!"Audit counter: {counter.count}"
  Desk.print s!"Audit digest: {Text.Hex.encode digest.bytes}"

def auditedLine (ordinal : UInt32) : String :=
  let name := ((Ordinal.ofCode? ordinal).map Ordinal.name).getD ""
  s!"  {hex32 ordinal} {name}"

def auditListing : Work σ Unit := do
  let listing ← Desk.during .readingAudit (Desk.onClient Client.auditListing)
  showAudit listing.counter listing.digest
  listing.ordinals.forM fun ordinal => Desk.print (auditedLine ordinal)

/-- A value against replay: the one given, or else a random one. -/
def antiReplay : Option Digest → Work σ Digest
  | some value => return value
  | none => Desk.onClient Client.drawNonce

def signedAudit (key : UInt32) (keySecret : SecretSource) (antiReplay? : Option Digest)
    (close : Bool) : Work σ Unit := do
  let secret? ← Desk.input keySecret.secret?
  let value ← antiReplay antiReplay?
  let signed ← Desk.maybeAuthorized .getAuditDigestSigned (keyEntity key) secret?
    (Dispatch.signedAudit key close value)
  showAudit signed.counter signed.digest
  Desk.print s!"Ordinal digest: {Text.Hex.encode signed.ordinalDigest.bytes}"
  Desk.print s!"Signature: {Text.Hex.encode signed.signature}"

def setAudited (ordinal : UInt32) (audited : Bool) (ownerSecret : SecretSource) :
    Work σ Unit := do
  let owner ← Desk.input (ownerSecret.secret "owner")
  Desk.authorized .setOrdinalAuditStatus ownerEntity owner (Dispatch.setAudited ordinal audited)
  let shown := if audited then "enabled" else "disabled"
  Desk.print s!"Auditing of {hex32 ordinal} {shown}"

end TrustedPlatform.Tool

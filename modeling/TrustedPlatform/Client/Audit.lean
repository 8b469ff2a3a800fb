import TrustedPlatform.Client.Execute
import TrustedPlatform.Structure.AuditPage

/-!
# Auditing

The module keeps a digest of the commands it was told to audit.  Which commands these are it lists
page by page, in ascending order; a page that does not advance ends the listing with a fault.
-/

set_option autoImplicit false

namespace TrustedPlatform

structure AuditListing where
  counter : CounterValue
  digest : Digest
  ordinals : List UInt32
  deriving DecidableEq

structure SignedAudit where
  counter : CounterValue
  digest : Digest
  ordinalDigest : Digest
  signature : Bytes
  deriving DecidableEq

namespace AuditPage

def next? (page : AuditPage) (start : UInt32) : Option UInt32 :=
  match page.ordinals.getLast? with
  | none => none
  | some last =>
    if start ≤ last ∧ last.toNat + 1 < UInt32.size then some (last + 1) else none

end AuditPage

namespace Client

variable {σ : Type} [Channel σ]

def auditPage (start : UInt32) : Action Fault (Client σ) AuditPage :=
  ask { ordinal := .getAuditDigest, parameters := Bytes.word32 start } AuditPage.decode

/-- The audited commands from a number on, in at most a count of pages.  The digest and the
counter are those of the last page. -/
def auditPages (start : UInt32) : Nat → Action Fault (Client σ) AuditListing
  | 0 => throw (.malformed (.auditStalled start))
  | pages + 1 => do
    let page ← auditPage start
    if !page.more then return ⟨page.counter, page.digest, page.ordinals⟩
    match page.next? start with
    | none => throw (.malformed (.auditStalled start))
    | some next =>
      let others ← auditPages next pages
      return { others with ordinals := page.ordinals ++ others.ordinals }

/-- The audit digest with every audited command.  Each page starts higher than the one before, so
there are at most as many pages as numbers. -/
def auditListing : Action Fault (Client σ) AuditListing := do
  let listing ← auditPages 0 UInt32.size
  note fun inventory =>
    { inventory with audit := .ofListing listing.ordinals listing.digest listing.counter }
  return listing

end Client

namespace Dispatch

variable {σ : Type} [Channel σ]

/-- The audit digest signed by a key, against replay by a value of the caller's; `close` starts a
new digest. -/
def signedAudit (key : UInt32) (close : Bool) (antiReplay : Digest) :
    Action Fault (Dispatch σ) SignedAudit := do
  let parameters := Bytes.flag close ++ antiReplay.bytes
  let signed ← ask { ordinal := .getAuditDigestSigned, handles := [key], parameters } do
    let counter ← CounterValue.decode
    let digest ← Decoder.digest
    let ordinalDigest ← Decoder.digest
    let signature ← Decoder.sized
    return SignedAudit.mk counter digest ordinalDigest signature
  onClient (Client.note fun inventory =>
    { inventory with audit := inventory.audit.report signed.digest signed.counter })
  return signed

def setAudited (ordinal : UInt32) (audited : Bool) : Action Fault (Dispatch σ) Unit := do
  let parameters := Bytes.word32 ordinal ++ Bytes.flag audited
  ask { ordinal := .setOrdinalAuditStatus, parameters } (pure ())
  onClient (Client.note fun inventory =>
    { inventory with audit := inventory.audit.setAudited ordinal audited })

end Dispatch

end TrustedPlatform

import TrustedPlatform.Structure.CounterValue

/-!
# Audit pages

The module lists the commands it audits page by page; each page repeats the audit counter and the
audit digest, and says whether more pages follow.
-/

set_option autoImplicit false

namespace TrustedPlatform

structure AuditPage where
  counter : CounterValue
  digest : Digest
  more : Bool
  ordinals : List UInt32
  deriving DecidableEq

namespace AuditPage

def wordsOf (list : Bytes) : List UInt32 :=
  (Bytes.pieces 4 (list.length / 4) list).map fun word => UInt32.ofNat (Bytes.ofBigEndian word)

def decode : Decoder AuditPage := do
  let counter ← CounterValue.decode
  let digest ← Decoder.digest
  let more ← Decoder.flag
  let list ← Decoder.sized
  if list.length % 4 ≠ 0 then throw (.malformed (.raggedOrdinals list.length))
  return ⟨counter, digest, more, wordsOf list⟩

end AuditPage

end TrustedPlatform

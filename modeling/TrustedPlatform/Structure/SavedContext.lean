import TrustedPlatform.Wire.Reader
import TrustedPlatform.Wire.Writer

/-!
# Saved contexts

A resource that was moved out of the module: what it is, the handle it had, and its encrypted
content.
-/

set_option autoImplicit false

namespace TrustedPlatform

structure SavedContext where
  resource : UInt32
  handle : UInt32
  label : Block 16
  count : UInt32
  integrity : Digest
  additional : Bytes
  sensitive : Bytes
  deriving DecidableEq

def contextTag : UInt16 := 0x01

namespace SavedContext

def resource? (saved : SavedContext) : Option ResourceKind := ResourceKind.ofCode? saved.resource

def encode (saved : SavedContext) : Except Fault Bytes := do
  let additional ← Bytes.sized saved.additional
  let sensitive ← Bytes.sized saved.sensitive
  return Bytes.word16 contextTag ++ Bytes.word32 saved.resource ++ Bytes.word32 saved.handle ++
    saved.label.bytes ++ Bytes.word32 saved.count ++ saved.integrity.bytes ++ additional ++
    sensitive

def decode : Decoder SavedContext := do
  let tag ← Decoder.word16
  if tag ≠ contextTag then throw (.malformed (.contextTag tag))
  let resource ← Decoder.word32
  let handle ← Decoder.word32
  let label ← Decoder.block 16
  let count ← Decoder.word32
  let integrity ← Decoder.digest
  let additional ← Decoder.sized
  let sensitive ← Decoder.sized
  return ⟨resource, handle, label, count, integrity, additional, sensitive⟩

end SavedContext

end TrustedPlatform

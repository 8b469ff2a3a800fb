import TrustedPlatform.Wire.Reader
import TrustedPlatform.Wire.Writer

/-!
# Handle lists

The handles of loaded resources: a count in two bytes, then four bytes for each handle.
-/

set_option autoImplicit false

namespace TrustedPlatform

structure HandleList where
  handles : List UInt32
  deriving DecidableEq, Repr

namespace HandleList

def encode (list : HandleList) : Except Fault Bytes :=
  if list.handles.length < Bytes.capacity 2 then
    .ok (Bytes.bigEndian 2 list.handles.length ++ list.handles.flatMap Bytes.word32)
  else .error (.encoding .tooManyHandles)

def decode : Decoder HandleList := do
  let count ← Decoder.word16
  let reader ← get
  if reader.remaining < count.toNat * 4 then
    throw (.malformed (.handleListTooShort count.toNat reader.remaining))
  let handles ← Decoder.times count.toNat Decoder.word32
  return ⟨handles⟩

end HandleList

end TrustedPlatform

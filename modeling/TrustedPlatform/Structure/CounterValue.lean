import TrustedPlatform.Wire.Reader
import TrustedPlatform.Wire.Writer

/-!
# Counter values

The reading of a monotonic counter: its label and its count, after a tag.
-/

set_option autoImplicit false

namespace TrustedPlatform

structure CounterValue where
  label : Block 4
  count : UInt32
  deriving DecidableEq

def counterTag : UInt16 := 0x0e

namespace CounterValue

def encode (value : CounterValue) : Bytes :=
  Bytes.word16 counterTag ++ value.label.bytes ++ Bytes.word32 value.count

def decode : Decoder CounterValue := do
  let tag ← Decoder.word16
  if tag ≠ counterTag then throw (.malformed (.counterTag tag))
  let label ← Decoder.block 4
  let count ← Decoder.word32
  return ⟨label, count⟩

end CounterValue

end TrustedPlatform

import TrustedPlatform.Client.Execute
import TrustedPlatform.Structure.HandleList

/-!
# Capabilities

What the module says about itself: any area of its capabilities as it is, one number of it, or the
handles it holds.
-/

set_option autoImplicit false

namespace TrustedPlatform.Client

variable {σ : Type} [Channel σ]

def capability (area : Capability) (detail : Bytes) : Action Fault (Client σ) Bytes := do
  let detail ← Action.ofExcept (Bytes.sized detail)
  ask { ordinal := .getCapability, parameters := Bytes.word32 area.code ++ detail } Decoder.sized

def capabilityNumber (area : Capability) (detail : UInt32) : Action Fault (Client σ) UInt32 := do
  let answer ← capability area (Bytes.word32 detail)
  Action.ofExcept (Decoder.word32.complete answer)

def capabilityHandles (area : Capability) (detail : Bytes) :
    Action Fault (Client σ) (List UInt32) := do
  let answer ← capability area detail
  let list ← Action.ofExcept (HandleList.decode.complete answer)
  return list.handles

def resourceHandles (kind : ResourceKind) : Action Fault (Client σ) (List UInt32) :=
  capabilityHandles .handle (Bytes.word32 kind.code)

def keyHandles : Action Fault (Client σ) (List UInt32) := capabilityHandles .keyHandle []

end TrustedPlatform.Client

import TrustedPlatform.Client.Execute
import TrustedPlatform.Structure.RegisterSelection

/-!
# Registers

Platform configuration registers, which are extended, and data integrity registers, which their
owner writes.
-/

set_option autoImplicit false

namespace TrustedPlatform

namespace Client

variable {σ : Type} [Channel σ]

def extend (register : UInt32) (value : Digest) : Action Fault (Client σ) Digest :=
  ask { ordinal := .extend, parameters := Bytes.word32 register ++ value.bytes } Decoder.digest

def readRegister (register : UInt32) : Action Fault (Client σ) Digest :=
  ask { ordinal := .pcrRead, parameters := Bytes.word32 register } Decoder.digest

def resetRegisters (selection : RegisterSelection) : Action Fault (Client σ) Unit := do
  let parameters ← Action.ofExcept selection.encode
  ask { ordinal := .pcrReset, parameters } (pure ())

def readIntegrity (index : UInt32) : Action Fault (Client σ) Digest :=
  ask { ordinal := .dirRead, parameters := Bytes.word32 index } Decoder.digest

end Client

def Dispatch.writeIntegrity {σ : Type} [Channel σ] (index : UInt32) (value : Digest) :
    Action Fault (Dispatch σ) Unit :=
  ask { ordinal := .dirWriteAuth, parameters := Bytes.word32 index ++ value.bytes } (pure ())

end TrustedPlatform

import TrustedPlatform.Client.Execute

/-!
# Random numbers

Random bytes from the module, chunk by chunk, and entropy for it.
-/

set_option autoImplicit false

namespace TrustedPlatform.Client

variable {σ : Type} [Channel σ]

def largestChunk : Nat := 1024

def entropyLimit : Nat := 256

/-- One chunk of random bytes: at least one and no more than wanted. -/
def randomChunk (wanted : Nat) : Action Fault (Client σ) Bytes := do
  let chunk ← ask { ordinal := .getRandom, parameters := Bytes.bigEndian 4 wanted } Decoder.sized
  if chunk.isEmpty then throw (.malformed .noRandomBytes)
  if wanted < chunk.length then throw (.malformed (.tooManyRandomBytes chunk.length wanted))
  return chunk

def randomChunks (missing : Nat) : Nat → Action Fault (Client σ) Bytes
  | 0 => return []
  | chunks + 1 =>
    if missing = 0 then return []
    else do
      let chunk ← randomChunk (min missing largestChunk)
      let others ← randomChunks (missing - chunk.length) chunks
      return chunk ++ others

/-- Random bytes.  Every chunk has at least one, so there are at most as many chunks as bytes. -/
def random (count : Nat) : Action Fault (Client σ) Bytes := randomChunks count count

def stirRandom (entropy : Bytes) : Action Fault (Client σ) Unit := do
  if entropyLimit ≤ entropy.length then throw (.encoding (.tooMuchEntropy entropy.length))
  let parameters ← Action.ofExcept (Bytes.sized entropy)
  ask { ordinal := .stirRandom, parameters } (pure ())

end TrustedPlatform.Client

import TrustedPlatform.Wire.Reader
import TrustedPlatform.Wire.Writer

/-!
# Authorization trailers

What follows the parameters of an authorized request or response: a fresh nonce, whether the
session goes on, and the keyed hash that proves knowledge of the secret.
-/

set_option autoImplicit false

namespace TrustedPlatform

structure RequestTrailer where
  handle : UInt32
  nonceOdd : Digest
  continueSession : Bool
  authorization : Digest
  deriving DecidableEq

namespace RequestTrailer

def size : Nat := 45

def encode (trailer : RequestTrailer) : Bytes :=
  Bytes.word32 trailer.handle ++ trailer.nonceOdd.bytes ++ Bytes.flag trailer.continueSession ++
    trailer.authorization.bytes

def decode : Decoder RequestTrailer := do
  let handle ← Decoder.word32
  let nonceOdd ← Decoder.digest
  let continueSession ← Decoder.flag
  let authorization ← Decoder.digest
  return ⟨handle, nonceOdd, continueSession, authorization⟩

theorem length_encode (trailer : RequestTrailer) : trailer.encode.length = size := by
  simp [encode, size, Bytes.flag]

end RequestTrailer

structure ResponseTrailer where
  nonceEven : Digest
  continueSession : Bool
  authorization : Digest
  deriving DecidableEq

namespace ResponseTrailer

def size : Nat := 41

def encode (trailer : ResponseTrailer) : Bytes :=
  trailer.nonceEven.bytes ++ Bytes.flag trailer.continueSession ++ trailer.authorization.bytes

def decode : Decoder ResponseTrailer := do
  let nonceEven ← Decoder.digest
  let continueSession ← Decoder.flag
  let authorization ← Decoder.digest
  return ⟨nonceEven, continueSession, authorization⟩

theorem length_encode (trailer : ResponseTrailer) : trailer.encode.length = size := by
  simp [encode, size, Bytes.flag]

end ResponseTrailer

end TrustedPlatform

import TrustedPlatform.Digest.Sha1

/-!
# The keyed hash

HMAC with SHA-1 for keys of twenty bytes: the key, filled up to a block, is masked twice, and the
hash of the message under one mask is hashed again under the other.
-/

set_option autoImplicit false

namespace TrustedPlatform.Hmac

def maskedKey (mask : UInt8) (key : Digest) : Bytes :=
  (key.bytes ++ List.replicate 44 0).map (· ^^^ mask)

def authenticate (key : Digest) (message : Bytes) : Digest :=
  Sha1.hash (maskedKey 0x5c key ++ (Sha1.hash (maskedKey 0x36 key ++ message)).bytes)

/-- Whether a tag is the keyed hash of a message; a tag of another length is not. -/
def verify (key : Digest) (message tag : Bytes) : Bool :=
  (authenticate key message).bytes == tag

end TrustedPlatform.Hmac

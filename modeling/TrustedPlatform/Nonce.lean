import TrustedPlatform.Digest.Sha1

/-!
# Nonces

The random numbers of a run, as an endless sequence of draws and the count of draws made.
-/

set_option autoImplicit false

namespace TrustedPlatform

structure NonceSource where
  draw : Nat → Digest
  drawn : Nat

namespace NonceSource

def next (source : NonceSource) : Digest × NonceSource :=
  (source.draw source.drawn, { source with drawn := source.drawn + 1 })

def seeded (first : List Digest) (seed : Bytes) : NonceSource where
  draw number :=
    match first[number]? with
    | some nonce => nonce
    | none => Sha1.hash (seed ++ Bytes.bigEndian 4 number)
  drawn := 0

end NonceSource

end TrustedPlatform

import TrustedPlatform.Digest.Hmac
import TrustedPlatform.Wire.Writer

/-!
# Secrets

What proves the right to use an entity: twenty bytes, often the hash of a password.  A secret is
never sent as it is; it keys a hash, or it travels masked by the hash of another secret and a nonce.

* `reveal_conceal`: the module, which knows the shared secret and the nonce, finds the secret again.
-/

set_option autoImplicit false

namespace TrustedPlatform

structure Secret where
  value : Digest
  deriving DecidableEq

namespace Secret

/-- The secret of a password: the hash of its text. -/
def ofPassword (password : String) : Secret := ⟨Sha1.hash (Bytes.ofText password)⟩

def ofBytes (bytes : Bytes) : Except Fault Secret :=
  match Block.ofBytes? 20 bytes with
  | some value => .ok ⟨value⟩
  | none => .error (.encoding (.secretLength bytes.length))

/-- The secret that everybody knows: twenty zero bytes. -/
def wellKnown : Secret := ⟨Block.replicate 20 0⟩

def display (_ : Secret) : String := "AuthValue(..)"

def mask (shared : Secret) (nonce : Digest) : Digest :=
  Sha1.hash (shared.value.bytes ++ nonce.bytes)

def conceal (shared : Secret) (nonce : Digest) (secret : Secret) : Digest :=
  secret.value.xor (mask shared nonce)

def reveal (shared : Secret) (nonce concealed : Digest) : Secret :=
  ⟨concealed.xor (mask shared nonce)⟩

theorem reveal_conceal (shared : Secret) (nonce : Digest) (secret : Secret) :
    reveal shared nonce (conceal shared nonce secret) = secret := by
  simp [reveal, conceal, Block.xor_xor_cancel]

def requestDigest (ordinal : Ordinal) (parameters : Bytes) : Digest :=
  Sha1.hash (Bytes.word32 ordinal.code ++ parameters)

def responseDigest (code : UInt32) (ordinal : Ordinal) (parameters : Bytes) : Digest :=
  Sha1.hash (Bytes.word32 code ++ Bytes.word32 ordinal.code ++ parameters)

def authorizedBytes (parameters nonceEven nonceOdd : Digest) (continueSession : Bool) : Bytes :=
  parameters.bytes ++ nonceEven.bytes ++ nonceOdd.bytes ++ Bytes.flag continueSession

def authorize (key : Secret) (parameters nonceEven nonceOdd : Digest) (continueSession : Bool) :
    Digest :=
  Hmac.authenticate key.value (authorizedBytes parameters nonceEven nonceOdd continueSession)

end Secret

end TrustedPlatform

import TrustedPlatform.Wire.Reader
import TrustedPlatform.Wire.Writer

/-!
# Keys

A key travels as its parameters, its public modulus and a private part that only its parent can
open.  There are two layouts: the older one begins with the version 1.1, the newer one with a tag
and two zero bytes.
-/

set_option autoImplicit false

namespace TrustedPlatform

structure StructVersion where
  major : UInt8
  minor : UInt8
  revisionMajor : UInt8
  revisionMinor : UInt8
  deriving DecidableEq, Repr

namespace StructVersion

def current : StructVersion := ⟨1, 1, 0, 0⟩

def isCurrent (version : StructVersion) : Bool := version.major = 1 ∧ version.minor = 1

def encode (version : StructVersion) : Bytes :=
  [version.major, version.minor, version.revisionMajor, version.revisionMinor]

def decode : Decoder StructVersion := do
  let fields ← Decoder.block 4
  return ⟨fields.get 0, fields.get 1, fields.get 2, fields.get 3⟩

end StructVersion

structure RsaParameters where
  bits : UInt32
  primes : UInt32
  -- The public exponent; empty stands for 65537.
  exponent : Bytes
  deriving DecidableEq, Repr

namespace RsaParameters

def encode (parameters : RsaParameters) : Except Fault Bytes :=
  if largestModulus * 8 < parameters.bits.toNat then
    .error (.encoding (.keyTooLong parameters.bits))
  else do
    let exponent ← Bytes.sized parameters.exponent
    return Bytes.word32 parameters.bits ++ Bytes.word32 parameters.primes ++ exponent

def decode : Decoder RsaParameters := do
  let bits ← Decoder.word32
  let primes ← Decoder.word32
  let exponent ← Decoder.sized
  return ⟨bits, primes, exponent⟩

end RsaParameters

def rsaAlgorithm : UInt32 := 1

inductive AlgorithmParameters where
  | rsa (parameters : RsaParameters)
  -- The parameters of any other algorithm, as they are.
  | raw (bytes : Bytes)
  deriving DecidableEq, Repr

namespace AlgorithmParameters

def encode : AlgorithmParameters → Except Fault Bytes
  | .rsa parameters => parameters.encode
  | .raw bytes => .ok bytes

def ofBlob (algorithm : UInt32) (blob : Bytes) : Except Fault AlgorithmParameters :=
  if algorithm = rsaAlgorithm then (RsaParameters.decode.complete blob).map .rsa
  else .ok (.raw blob)

end AlgorithmParameters

structure KeyParameters where
  algorithm : UInt32
  encryptionScheme : UInt16
  signatureScheme : UInt16
  details : AlgorithmParameters
  deriving DecidableEq, Repr

namespace KeyParameters

def encode (parameters : KeyParameters) : Except Fault Bytes := do
  let blob ← parameters.details.encode
  let details ← Bytes.sized blob
  return Bytes.word32 parameters.algorithm ++ Bytes.word16 parameters.encryptionScheme ++
    Bytes.word16 parameters.signatureScheme ++ details

def decode : Decoder KeyParameters := do
  let algorithm ← Decoder.word32
  let encryptionScheme ← Decoder.word16
  let signatureScheme ← Decoder.word16
  let blob ← Decoder.sized
  let details ← Action.ofExcept (AlgorithmParameters.ofBlob algorithm blob)
  return ⟨algorithm, encryptionScheme, signatureScheme, details⟩

end KeyParameters

structure PublicModulus where
  bytes : Bytes
  deriving DecidableEq, Repr

namespace PublicModulus

def encode (modulus : PublicModulus) : Except Fault Bytes :=
  if largestModulus < modulus.bytes.length then
    .error (.encoding (.modulusTooLarge modulus.bytes.length))
  else Bytes.sized modulus.bytes

def decode : Decoder PublicModulus := do return ⟨← Decoder.sized⟩

end PublicModulus

structure PublicKey where
  parameters : KeyParameters
  modulus : PublicModulus
  deriving DecidableEq, Repr

namespace PublicKey

def encode (key : PublicKey) : Except Fault Bytes := do
  let parameters ← key.parameters.encode
  let modulus ← key.modulus.encode
  return parameters ++ modulus

def decode : Decoder PublicKey := do
  let parameters ← KeyParameters.decode
  let modulus ← PublicModulus.decode
  return ⟨parameters, modulus⟩

end PublicKey

inductive KeyFormat where
  | older (version : StructVersion)
  | newer
  deriving DecidableEq, Repr

def newerKeyTag : UInt16 := 0x28

namespace KeyFormat

def encode : KeyFormat → Except Fault Bytes
  | .older version =>
    if version.isCurrent then .ok version.encode
    else .error (.encoding (.keyVersion version.major version.minor))
  | .newer => .ok (Bytes.word16 newerKeyTag ++ Bytes.word16 0)

/-- The first two bytes tell the layouts apart: no version begins like the tag. -/
def decode : Decoder KeyFormat := do
  let head ← Decoder.peek 2
  if UInt16.ofNat (Bytes.ofBigEndian head) = newerKeyTag then
    Decoder.skip 2
    let fill ← Decoder.word16
    if fill ≠ 0 then throw (.malformed (.keyFill fill))
    return .newer
  else
    let version ← StructVersion.decode
    if !version.isCurrent then throw (.malformed (.keyVersion version.major version.minor))
    return .older version

end KeyFormat

structure KeyBlob where
  format : KeyFormat
  usage : UInt16
  flags : UInt32
  authDataUsage : UInt8
  parameters : KeyParameters
  registerInfo : Bytes
  modulus : PublicModulus
  -- The private part, which only the module can open.
  wrapped : Bytes
  deriving DecidableEq, Repr

namespace KeyBlob

def migratable : UInt32 := 2

def publicKey (key : KeyBlob) : PublicKey := ⟨key.parameters, key.modulus⟩

def usage? (key : KeyBlob) : Option KeyUsage := KeyUsage.ofCode? key.usage

/-- The schemes of a key for a use: how it encrypts and how it signs. -/
def schemes : KeyUsage → UInt16 × UInt16
  | .signing | .identity => (1, 2)
  | .legacy => (3, 2)
  | _ => (3, 1)

def template (usage : KeyUsage) (bits flags : UInt32) : KeyBlob where
  format := .older .current
  usage := usage.code
  flags := flags
  authDataUsage := 1
  parameters := ⟨rsaAlgorithm, (schemes usage).1, (schemes usage).2, .rsa ⟨bits, 2, []⟩⟩
  registerInfo := []
  modulus := ⟨[]⟩
  wrapped := []

def encode (key : KeyBlob) : Except Fault Bytes := do
  let format ← key.format.encode
  let parameters ← key.parameters.encode
  let registerInfo ← Bytes.sized key.registerInfo
  let modulus ← key.modulus.encode
  let wrapped ← Bytes.sized key.wrapped
  return format ++ Bytes.word16 key.usage ++ Bytes.word32 key.flags ++ [key.authDataUsage] ++
    parameters ++ registerInfo ++ modulus ++ wrapped

def decode : Decoder KeyBlob := do
  let format ← KeyFormat.decode
  let usage ← Decoder.word16
  let flags ← Decoder.word32
  let authDataUsage ← Decoder.byte
  let parameters ← KeyParameters.decode
  let registerInfo ← Decoder.sized
  let modulus ← PublicModulus.decode
  let wrapped ← Decoder.sized
  return ⟨format, usage, flags, authDataUsage, parameters, registerInfo, modulus, wrapped⟩

end KeyBlob

end TrustedPlatform

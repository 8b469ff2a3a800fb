import TrustedPlatform.Duration
import TrustedPlatform.Ordinal
import TrustedPlatform.Registry
import TrustedPlatform.ResultCode
import TrustedPlatform.Tag
import TrustedPlatform.Text.Hex

/-!
# Faults

Everything that can go wrong between a caller and the module, as causes: each has one wording,
given by `message`.  A refusal by the module carries its result code; every other fault is local.

* `resultCode?_eq_some_iff`: only a refusal has a result code.
* `isLocal_iff`: a fault is local exactly when it has none.
-/

set_option autoImplicit false

namespace TrustedPlatform

def hex32 (number : UInt32) : String := "0x" ++ Text.Hex.ofNat 8 number.toNat

def hex16 (number : UInt16) : String := "0x" ++ Text.Hex.ofNat 4 number.toNat

def largestModulus : Nat := 256

def widestSelection : Nat := 4

inductive EncodingCause where
  | blobTooLarge (size : Nat)
  | keyTooLong (bits : UInt32)
  | modulusTooLarge (size : Nat)
  | keyVersion (major minor : UInt8)
  | registerOutOfRange (index : UInt32)
  | selectionTooWide (size : Nat)
  | tooManyHandles
  | secretLength (size : Nat)
  | secretNeedsSession
  | sessionHasNoSecret
  | tooManyTrailers (count : Nat)
  | requestTooLarge
  | counterNeedsOwnerSession
  | keyNeedsParentSession
  | unknownResource (code : UInt32)
  | valueCount (selected given : Nat)
  | tooMuchEntropy (size : Nat)
  | described (text : String)
  deriving DecidableEq, Repr

def EncodingCause.message : EncodingCause → String
  | .blobTooLarge size => s!"blob of {size} bytes is too large"
  | .keyTooLong bits => s!"RSA key length {bits} bits exceeds {largestModulus * 8} bits"
  | .modulusTooLarge size => s!"public key of {size} bytes exceeds {largestModulus} bytes"
  | .keyVersion major minor => s!"TPM_KEY carries version 1.1, not {major}.{minor}"
  | .registerOutOfRange index => s!"PCR index {index} out of range"
  | .selectionTooWide size => s!"PCR selection of {size} bytes exceeds {widestSelection}"
  | .tooManyHandles => "too many handles"
  | .secretLength size => s!"authorization value must be 20 bytes, got {size}"
  | .secretNeedsSession => "an encrypted auth value needs an OSAP session"
  | .sessionHasNoSecret => "OSAP session has no shared secret"
  | .tooManyTrailers count => s!"{count} authorization sessions on one command"
  | .requestTooLarge => "command exceeds 4 GiB"
  | .counterNeedsOwnerSession => "CreateCounter needs an OSAP session on the owner"
  | .keyNeedsParentSession => "CreateWrapKey needs an OSAP session on the parent key"
  | .unknownResource code => s!"unknown context resource type {hex32 code}"
  | .valueCount selected given =>
    s!"selection covers {selected} PCRs but {given} values were given"
  | .tooMuchEntropy size => s!"StirRandom takes less than 256 bytes, got {size}"
  | .described text => text

inductive MalformedCause where
  | underflow (item : String) (needed remaining : Nat)
  | peekUnderflow (needed : Nat)
  | notBoolean (byte : UInt8)
  | trailingBytes (count : Nat)
  | keyFill (fill : UInt16)
  | keyVersion (major minor : UInt8)
  | counterTag (tag : UInt16)
  | contextTag (tag : UInt16)
  | handleListTooShort (declared remaining : Nat)
  | raggedOrdinals (size : Nat)
  | responseTooShort (size : Nat)
  | responseTag (tag : UInt16)
  | responseSize (declared received : Nat)
  | trailerCount (tag : Tag) (announced expected : Nat)
  | noRoomForTrailers (size expected : Nat)
  | missingHandle
  | auditStalled (start : UInt32)
  | noRandomBytes
  | tooManyRandomBytes (received requested : Nat)
  | stillListed (handle : UInt32)
  | contextResource (expected : ResourceKind) (reported : UInt32)
  | frameSmallerThanHeader (declared : Nat)
  | frameTooLarge (declared limit : Nat)
  | described (text : String)
  deriving DecidableEq, Repr

def MalformedCause.message : MalformedCause → String
  | .underflow item needed remaining =>
    s!"buffer underflow reading {item}: need {needed} bytes, {remaining} remaining"
  | .peekUnderflow needed => s!"buffer underflow peeking {needed} bytes"
  | .notBoolean byte => s!"invalid boolean value {byte}"
  | .trailingBytes count => s!"{count} trailing bytes"
  | .keyFill fill => s!"TPM_KEY12 fill is {hex16 fill}, expected zero"
  | .keyVersion major minor => s!"unsupported key structure version {major}.{minor}"
  | .counterTag tag => s!"unexpected counter value tag {hex16 tag}"
  | .contextTag tag => s!"unexpected context blob tag {hex16 tag}"
  | .handleListTooShort declared remaining =>
    s!"handle list declares {declared} entries but only {remaining} bytes remain"
  | .raggedOrdinals size => s!"ordinal list of {size} bytes is not a multiple of 4"
  | .responseTooShort size => s!"TPM response too short: {size} bytes"
  | .responseTag tag => s!"invalid response tag: {hex16 tag}"
  | .responseSize declared received =>
    s!"TPM response size mismatch: declared {declared}, got {received}"
  | .trailerCount tag announced expected =>
    s!"response tag {tag.name} carries {announced} authorization blocks, expected {expected}"
  | .noRoomForTrailers size expected =>
    s!"response of {size} bytes cannot hold {expected} authorization blocks"
  | .missingHandle => "missing output handle"
  | .auditStalled start => s!"audit page from {hex32 start} sets more without advancing"
  | .noRandomBytes => "GetRandom returned no bytes"
  | .tooManyRandomBytes received requested =>
    s!"GetRandom returned {received} bytes, {requested} requested"
  | .stillListed handle => s!"key {hex32 handle} still listed after eviction"
  | .contextResource expected reported =>
    s!"saved {expected.name} context reports resource type {hex32 reported}"
  | .frameSmallerThanHeader declared =>
    s!"declared response size {declared} is smaller than the header"
  | .frameTooLarge declared limit =>
    s!"declared response size {declared} exceeds limit {limit}"
  | .described text => text

inductive SettingsCause where
  | portNotANumber (text : String)
  | timeoutNotANumber (text : String)
  | noAttempts
  | zeroTimeout
  | responseLimit (limit : Nat)
  | socketNotConnected
  | deviceNotOpen (path : String)
  | described (text : String)
  deriving DecidableEq, Repr

def SettingsCause.message : SettingsCause → String
  | .portNotANumber text => s!"TPM_SERVER_PORT is not a port number: {text}"
  | .timeoutNotANumber text => s!"TPM_TIMEOUT is not a number of seconds: {text}"
  | .noAttempts => "retry attempts must be at least 1"
  | .zeroTimeout => "timeout must be nonzero"
  | .responseLimit limit => s!"max response size {limit} is smaller than a response header"
  | .socketNotConnected => "unix socket is not connected"
  | .deviceNotOpen path => s!"{path} is not open"
  | .described text => text

/-- What can go wrong between a caller and the module. -/
inductive Fault where
  -- The channel failed: what was being done, and what the system says.
  | transport (activity cause : String)
  | timeout (limit : Duration)
  | encoding (cause : EncodingCause)
  | malformed (cause : MalformedCause)
  | refused (ordinal : Ordinal) (code : UInt32)
  -- The authorization of the answer does not verify: it must not be trusted.
  | unverified (ordinal : Ordinal)
  | nonceReuse (handle : UInt32)
  | sessionClosed (handle : UInt32)
  | contextReused
  | settings (cause : SettingsCause)
  deriving DecidableEq, Repr

namespace Fault

def message : Fault → String
  | .transport activity cause => s!"transport failure: {activity}: {cause}"
  | .timeout limit => s!"timed out waiting for the TPM after {limit.display}"
  | .encoding cause => s!"encoding error: {cause.message}"
  | .malformed cause => s!"malformed response: {cause.message}"
  | .refused ordinal code =>
    s!"{ordinal.name} failed: {ResultCode.meaning code} ({hex32 code})"
  | .unverified ordinal => s!"{ordinal.name}: response authorization does not verify"
  | .nonceReuse handle => s!"nonce reuse detected on session {hex32 handle}"
  | .sessionClosed handle => s!"session {hex32 handle} is closed"
  | .contextReused => "session context was already loaded once"
  | .settings cause => s!"configuration error: {cause.message}"

def resultCode? : Fault → Option UInt32
  | .refused _ code => some code
  | _ => none

def isRetryable (fault : Fault) : Bool :=
  fault.resultCode? == some ResultCode.retry

def isLocal : Fault → Bool
  | .refused _ _ => false
  | _ => true

theorem resultCode?_eq_some_iff (fault : Fault) (code : UInt32) :
    fault.resultCode? = some code ↔ ∃ ordinal, fault = .refused ordinal code := by
  cases fault <;> simp [resultCode?]

theorem isLocal_iff (fault : Fault) : fault.isLocal = true ↔ fault.resultCode? = none := by
  cases fault <;> simp [isLocal, resultCode?]

end Fault

end TrustedPlatform

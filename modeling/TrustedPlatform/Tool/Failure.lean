import TrustedPlatform.CommandLine.Operand
import TrustedPlatform.Fault
import TrustedPlatform.SystemFault

/-!
# Failures

Why the tool could not do what it was told: its input cannot be used, or something went wrong on
the way to the module or there.  The status it ends with tells the two apart, and names the result
code of a module that refused.

* `exitStatus_of_input`, `exitStatus_of_local`, `exitStatus_of_refused`: the status of each cause.
-/

set_option autoImplicit false

namespace TrustedPlatform.Tool

inductive InputFault where
  | twoSecrets
  | secretMissing (entity : String)
  | labelTooLong (label : String) (width : Nat)
  | operand (fault : Operand.Fault)
  | cannotOpen (path : String) (cause : SystemFault)
  | cannotRead (path : String) (cause : SystemFault)
  | cannotCreate (path : String) (cause : SystemFault)
  | cannotWrite (path : String) (cause : SystemFault)
  | contents (path : String) (fault : Fault)
  | olderSavesKeysOnly
  | unknownResource (number : UInt32)
  deriving DecidableEq, Repr

def InputFault.message : InputFault → String
  | .twoSecrets => "give either a password or a password file, not both"
  | .secretMissing entity => s!"{entity} password is required"
  | .labelTooLong label width => s!"label {Text.Quoted.text label} is longer than {width} bytes"
  | .operand fault => fault.message
  | .cannotOpen path cause => s!"failed to open file `{path}`: {cause.message}"
  | .cannotRead path cause => s!"failed to read from file `{path}`: {cause.message}"
  | .cannotCreate path cause => s!"failed to create file `{path}`: {cause.message}"
  | .cannotWrite path cause => s!"failed to write to file `{path}`: {cause.message}"
  | .contents path fault => s!"{path}: {fault.message}"
  | .olderSavesKeysOnly => "--legacy saves keys only"
  | .unknownResource number => s!"unknown resource type {number}"

def displayHandle (handle : UInt32) : String := Text.Hex.ofNatCapital 8 handle.toNat

inductive Activity where
  | readingSettings
  | connecting
  | openingSession (ordinal : Ordinal)
  | performing (ordinal : Ordinal)
  | listingKeys
  | evictingKeys
  | evictingKey (handle : UInt32)
  | readingCounter (number : UInt32)
  | extendingRegister (register : UInt32)
  | countingRegisters
  | readingRegister (register : UInt32)
  | resettingRegisters
  | readingIntegrity (index : UInt32)
  | savingKey (handle : UInt32)
  | savingContext (handle : UInt32)
  | loadingKey
  | loadingContext
  | continuingSelfTest
  | selfTesting
  | readingTestResult
  | stirring
  | drawingRandom
  | readingAudit
  | starting
  deriving DecidableEq, Repr

def Activity.message : Activity → String
  | .readingSettings => "invalid TPM configuration"
  | .connecting => "failed to open the TPM"
  | .openingSession ordinal => s!"failed to open a session for {ordinal.name}"
  | .performing ordinal => s!"{ordinal.name} failed"
  | .listingKeys => "failed to list keys"
  | .evictingKeys => "failed to evict keys"
  | .evictingKey handle => s!"failed to evict key {displayHandle handle}"
  | .readingCounter number => s!"failed to read counter {number}"
  | .extendingRegister register => s!"failed to extend PCR {register}"
  | .countingRegisters => "failed to read the PCR count"
  | .readingRegister register => s!"failed to read PCR {register}"
  | .resettingRegisters => "failed to reset PCRs"
  | .readingIntegrity index => s!"failed to read DIR {index}"
  | .savingKey handle => s!"failed to save key {displayHandle handle}"
  | .savingContext handle => s!"failed to save {displayHandle handle}"
  | .loadingKey => "failed to load key context"
  | .loadingContext => "failed to load context"
  | .continuingSelfTest => "continue self-test failed"
  | .selfTesting => "self-test failed"
  | .readingTestResult => "failed to read the test result"
  | .stirring => "failed to stir the RNG"
  | .drawingRandom => "failed to get random bytes"
  | .readingAudit => "failed to read the audit digest"
  | .starting => "startup failed"

inductive Cause where
  | input (fault : InputFault)
  | module (fault : Fault)
  | unfinished
  -- A sum is too large for its kind of number, where the program breaks off.
  | overflow
  deriving DecidableEq, Repr

/-- A cause in words.  What the system says about a channel is said once more at the end. -/
def Cause.parts : Cause → List String
  | .input fault => [fault.message]
  | .module (.transport activity cause) => [(Fault.transport activity cause).message, cause]
  | .module fault => [fault.message]
  | .unfinished => ["the TPM does not stop listing keys"]
  | .overflow => ["attempt to add with overflow"]

/-- A cause, under the activities that led to it. -/
structure Failure where
  -- The activities, the widest one first.
  trail : List Activity
  cause : Cause
  deriving DecidableEq, Repr

namespace Failure

def ofInput (fault : InputFault) : Failure := ⟨[], .input fault⟩

def ofFault (fault : Fault) : Failure := ⟨[], .module fault⟩

def ofOverflow : Failure := ⟨[], .overflow⟩

def during (activity : Activity) (failure : Failure) : Failure :=
  { failure with trail := activity :: failure.trail }

def message (failure : Failure) : String :=
  ": ".intercalate (failure.trail.map Activity.message ++ failure.cause.parts)

def isPanic (failure : Failure) : Bool := failure.cause = .overflow

/-- The status that the tool ends with: the result code of a refusal as a signed number, less than
zero for everything else that is reported, and 101 where the program broke off. -/
def exitStatus (failure : Failure) : Int :=
  match failure.cause with
  | .input _ => -2
  | .module fault =>
    match fault.resultCode? with
    | some code => code.toInt32.toInt
    | none => -1
  | .unfinished => -1
  | .overflow => 101

theorem exitStatus_of_input (trail : List Activity) (fault : InputFault) :
    exitStatus ⟨trail, .input fault⟩ = -2 := rfl

theorem exitStatus_of_local (trail : List Activity) (fault : Fault) (isLocal : fault.isLocal = true) :
    exitStatus ⟨trail, .module fault⟩ = -1 := by
  simp [exitStatus, (Fault.isLocal_iff fault).mp isLocal]

theorem exitStatus_of_refused (trail : List Activity) (ordinal : Ordinal) (code : UInt32) :
    exitStatus ⟨trail, .module (.refused ordinal code)⟩ = code.toInt32.toInt := rfl

end Failure

end TrustedPlatform.Tool

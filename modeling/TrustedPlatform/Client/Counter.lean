import TrustedPlatform.Client.Key

/-!
# Counters

Monotonic counters.  The commands that change them are the ones a busy module may ask to send
again.
-/

set_option autoImplicit false

namespace TrustedPlatform

namespace Dispatch

variable {σ : Type} [Channel σ]

/-- Creates a counter with a secret and a label: its number and its first reading.  It takes a
session for the owner. -/
def createCounter (secret : Secret) (label : Block 4) :
    Action Fault (Dispatch σ) (UInt32 × CounterValue) := do
  let _ ← maskingSecret (fun entity => entity.kind = .owner) .counterNeedsOwnerSession
  let command : Command :=
    { ordinal := .createCounter, parameters := label.bytes, newSecret := some secret }
  ask command do
    let number ← Decoder.word32
    let value ← CounterValue.decode
    return (number, value)

def incrementCounter (number : UInt32) : Action Fault (Dispatch σ) CounterValue :=
  ask { ordinal := .incrementCounter, parameters := Bytes.word32 number } CounterValue.decode

def releaseCounter (byOwner : Bool) (number : UInt32) : Action Fault (Dispatch σ) Unit :=
  let ordinal : Ordinal := if byOwner then .releaseCounterOwner else .releaseCounter
  ask { ordinal, parameters := Bytes.word32 number } (pure ())

end Dispatch

def Client.readCounter {σ : Type} [Channel σ] (number : UInt32) :
    Action Fault (Client σ) CounterValue :=
  ask { ordinal := .readCounter, parameters := Bytes.word32 number } CounterValue.decode

end TrustedPlatform

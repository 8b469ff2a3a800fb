import TrustedPlatform.Client.Counter
import TrustedPlatform.Text.Blank
import TrustedPlatform.Text.Lenient
import TrustedPlatform.Tool.Desk

/-!
# Counters at the desk

Creating, incrementing, reading and releasing counters.
-/

set_option autoImplicit false

namespace TrustedPlatform.Tool

variable {σ : Type} [Channel σ]

def createCounter (ownerSecret : SecretSource) (password text : String) : Work σ Unit := do
  let owner ← Desk.input (ownerSecret.secret "owner")
  let name ← Desk.input fun _ => label 4 text
  let (number, value) ← Desk.authorized .createCounter ownerEntity owner
    (Dispatch.createCounter (.ofPassword password) name)
  Desk.print s!"New counter id = {number}, value = {value.count}"

def incrementCounter (number : UInt32) (password : String) : Work σ Unit := do
  let value ← Desk.authorized .incrementCounter (counterEntity number) (.ofPassword password)
    (Dispatch.incrementCounter number)
  Desk.print s!"Counter {number} = {value.count}"

def displayLabel (label : Block 4) : String :=
  Text.dropAtEnd (· == Char.ofNat 0) (Text.Lenient.decode label.bytes)

def readCounter (number : UInt32) : Work σ Unit := do
  let value ← Desk.during (.readingCounter number) (Desk.onClient (Client.readCounter number))
  Desk.print s!"Counter {number} = {value.count} (label {displayLabel value.label})"

def releaseCounter (number : UInt32) (password : String) (byOwner : Bool) : Work σ Unit := do
  let ordinal : Ordinal := if byOwner then .releaseCounterOwner else .releaseCounter
  let entity := if byOwner then ownerEntity else counterEntity number
  Desk.authorized ordinal entity (.ofPassword password) (Dispatch.releaseCounter byOwner number)
  Desk.print s!"Released counter {number}"

end TrustedPlatform.Tool

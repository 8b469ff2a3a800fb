import TrustedPlatform.Client.Capability
import TrustedPlatform.Client.Random
import TrustedPlatform.Client.Startup
import TrustedPlatform.Tool.Desk

/-!
# Upkeep at the desk

Starting and testing the module, asking about its capabilities and drawing random bytes.
-/

set_option autoImplicit false

namespace TrustedPlatform.Tool

variable {σ : Type} [Channel σ]

def startup (kind : StartupKind) : Work σ Unit :=
  Desk.during .starting (Desk.onClient (Client.startup kind))

def selfTest (remaining : Bool) : Work σ Unit := do
  if remaining then
    Desk.during .continuingSelfTest (Desk.onClient Client.continueSelfTest)
  else
    Desk.during .selfTesting (Desk.onClient Client.selfTest)
  let result ← Desk.during .readingTestResult (Desk.onClient Client.testResult)
  Desk.print s!"Self-test result: {Text.Hex.encode result}"

def stirIn (text : String) : Work σ Unit := do
  let entropy ← Desk.input fun _ => (Operand.bytes text).mapError .operand
  Desk.during .stirring (Desk.onClient (Client.stirRandom entropy))

def random (count : Nat) (stir? output? : Option String) : Work σ Unit := do
  if let some text := stir? then stirIn text
  let drawn ← Desk.during .drawingRandom (Desk.onClient (Client.random count))
  match output? with
  | some output => Desk.write output drawn
  | none => Desk.print (Text.Hex.encode drawn)

def showHandles (handles : List UInt32) : Work σ Unit :=
  handles.forM fun handle => Desk.print (displayHandle handle)

/-- Shows a capability: handles as a list, a property as a number, anything else as it is. -/
def capability (area : Capability) (detail? : Option UInt32) : Work σ Unit := do
  match area, detail? with
  | .handle, some number =>
    match ResourceKind.ofCode? number with
    | none => Desk.reject (.unknownResource number)
    | some kind => showHandles (← Desk.onClient (Client.resourceHandles kind))
  | .keyHandle, _ => showHandles (← Desk.onClient Client.keyHandles)
  | .property, some property =>
    let value ← Desk.onClient (Client.capabilityNumber .property property)
    Desk.print s!"{hex32 property} = {value} ({hex32 value})"
  | area, detail? =>
    let detail := (detail?.map Bytes.word32).getD []
    Desk.print (Text.Hex.encode (← Desk.onClient (Client.capability area detail)))

end TrustedPlatform.Tool

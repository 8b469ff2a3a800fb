import TrustedPlatform.Client.Execute

/-!
# Starting and testing

Starting the module, which ends every session, and its tests of itself.
-/

set_option autoImplicit false

namespace TrustedPlatform.Client

variable {σ : Type} [Channel σ]

def startup (kind : StartupKind) : Action Fault (Client σ) Unit := do
  ask { ordinal := .startup, parameters := Bytes.word16 kind.code } (pure ())
  note Inventory.restart

def selfTest : Action Fault (Client σ) Unit := ask { ordinal := .selfTestFull } (pure ())

def continueSelfTest : Action Fault (Client σ) Unit := ask { ordinal := .continueSelfTest } (pure ())

def testResult : Action Fault (Client σ) Bytes := ask { ordinal := .getTestResult } Decoder.sized

end TrustedPlatform.Client

import TrustedPlatform.Fault
import TrustedPlatform.Text.Blank
import TrustedPlatform.Text.Numeral

/-!
# Settings

Where the module is, how long to wait for it, how often to ask a busy one again, and how long a
response may be.  Settings come from the environment or from a document, and are checked before a
connection is made.

* `validate_eq_ok_iff`: exactly which settings can be used.
-/

set_option autoImplicit false

namespace TrustedPlatform

inductive Endpoint where
  | tcp (host : String) (port : UInt16)
  | device (path : String)
  | unix (path : String)
  deriving DecidableEq, Repr

/-- How a client connects to a module. -/
structure Settings where
  endpoint : Endpoint
  timeout : Duration
  -- How often, in all, a command is sent to a busy module.
  attempts : UInt32
  delay : Duration
  dumpWire : Bool
  responseLimit : Nat
  deriving DecidableEq, Repr

namespace Settings

def defaultPort : UInt16 := 6545

def defaultDevice : String := "/dev/tpm0"

def ofEndpoint (endpoint : Endpoint) : Settings where
  endpoint := endpoint
  timeout := .ofSeconds 120
  attempts := 7
  delay := .ofSeconds 1
  dumpWire := false
  responseLimit := 1024 * 1024

def standard : Settings := ofEndpoint (.device defaultDevice)

def variableNames : List String :=
  ["TPM_UNIX_SOCKET", "TPM_SERVER_NAME", "TPM_SERVER_PORT", "TPM_DEVICE", "TPM_TIMEOUT"]

/-- The endpoint that an environment names.  A socket goes before a server, and a server before a
device. -/
def endpointOf (lookup : String → Option String) : Except Fault Endpoint :=
  match lookup "TPM_UNIX_SOCKET", lookup "TPM_SERVER_NAME" with
  | some path, _ => .ok (.unix path)
  | none, some host =>
    match lookup "TPM_SERVER_PORT" with
    | none => .ok (.tcp host defaultPort)
    | some text =>
      match Text.Numeral.natural 10 (UInt16.size - 1) (Text.trim text) with
      | .ok port => .ok (.tcp host (UInt16.ofNat port))
      | .error _ => .error (.settings (.portNotANumber text))
  | none, none => .ok (.device ((lookup "TPM_DEVICE").getD defaultDevice))

def ofEnvironment (lookup : String → Option String) : Except Fault Settings := do
  let settings := ofEndpoint (← endpointOf lookup)
  match lookup "TPM_TIMEOUT" with
  | none => return settings
  | some text =>
    match Text.Numeral.natural 10 (UInt64.size - 1) (Text.trim text) with
    | .ok seconds => return { settings with timeout := .ofSeconds seconds }
    | .error _ => .error (.settings (.timeoutNotANumber text))

def smallestResponse : Nat := 10

def validate (settings : Settings) : Except Fault Unit :=
  if settings.attempts = 0 then .error (.settings .noAttempts)
  else if settings.timeout = ⟨0⟩ then .error (.settings .zeroTimeout)
  else if settings.responseLimit < smallestResponse then
    .error (.settings (.responseLimit settings.responseLimit))
  else .ok ()

theorem validate_eq_ok_iff (settings : Settings) :
    settings.validate = .ok () ↔
      settings.attempts ≠ 0 ∧ settings.timeout ≠ ⟨0⟩ ∧
        smallestResponse ≤ settings.responseLimit := by
  unfold validate
  by_cases attempts : settings.attempts = 0
  · simp [attempts]
  · by_cases timeout : settings.timeout = ⟨0⟩
    · simp [attempts, timeout]
    · by_cases limit : settings.responseLimit < smallestResponse
      · simp [attempts, timeout, limit, Nat.not_le.mpr limit]
      · simp [attempts, timeout, limit, Nat.not_lt.mp limit]

end Settings

end TrustedPlatform

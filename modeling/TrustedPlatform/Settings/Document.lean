import TrustedPlatform.Duration.Seconds
import TrustedPlatform.Settings
import TrustedPlatform.Text.Json

/-!
# Settings documents

Settings as a JSON record, or as a list of its fields in order.  What is not given keeps its usual
value; what nobody knows is passed over, unless it belongs to the endpoint, which must be sound in
every part.  A field that is given twice is refused.
-/

set_option autoImplicit false

namespace TrustedPlatform.Settings

open Text.Json

def deepest : Nat := 127

/-- The only value of a name among members, or none; two are refused. -/
def only? (members : List (String × Value)) (name : String) : Option (Option Value) :=
  match members.filter fun member => member.1 == name with
  | [] => some none
  | [(_, value)] => some (some value)
  | _ => none

def named? (members : List (List Symbol × Value)) : Option (List (String × Value)) :=
  members.mapM fun (name, value) => (text? name).map fun name => (name, value)

/-- The values of named fields: from the record that gives them by name, or from the list that
gives them in order. -/
def fields? (names : List String) : Value → Option (List (Option Value))
  | .record members => do
    let members ← named? members
    names.mapM (only? members)
  | .list items =>
    if names.length < items.length then none
    else some (items.map some ++ List.replicate (names.length - items.length) none)
  | _ => none

def string? : Value → Option String
  | .text symbols => text? symbols
  | _ => none

def number? : Value → Option Number
  | .number literal => literal.value?
  | _ => none

def natural? (bound : Nat) (value : Value) : Option Nat := do
  let number ← number? value
  number.natural? bound

def flag? : Value → Option Bool
  | .flag value => some value
  | _ => none

def span? (value : Value) : Option Duration := do
  let number ← number? value
  Duration.ofFraction? number.toFloat

def endpointOfKind? (kind : String) (rest : Value) : Option Endpoint :=
  match kind with
  | "tcp" => do
    match ← fields? ["host", "port"] rest with
    | [some host, some port] =>
      return .tcp (← string? host) (UInt16.ofNat (← natural? (UInt16.size - 1) port))
    | _ => none
  | "device" => do
    match ← fields? ["path"] rest with
    | [some path] => return .device (← string? path)
    | _ => none
  | "unix" => do
    match ← fields? ["path"] rest with
    | [some path] => return .unix (← string? path)
    | _ => none
  | _ => none

/-- An endpoint.  Its kind is a member of the record, or the first item of the list. -/
def endpoint? (value : Value) : Option Endpoint := do
  let depth ← value.depth?
  if deepest ≤ depth then none
  match value with
  | .record members =>
    let kind ← only? (← named? members) "kind"
    endpointOfKind? (← string? (← kind)) value
  | .list (kind :: rest) => endpointOfKind? (← string? kind) (.list rest)
  | _ => none

def retry? (value : Value) : Option (UInt32 × Duration) := do
  match ← fields? ["attempts", "delay"] value with
  | [some attempts, some delay] =>
    return (UInt32.ofNat (← natural? (UInt32.size - 1) attempts), ← span? delay)
  | _ => none

def log? (value : Value) : Option Bool := do
  match ← fields? ["dump_wire"] value with
  | [some dumpWire] => flag? dumpWire
  | _ => none

def orUsual {α : Type} (usual : α) (read : Value → Option α) : Option Value → Option α
  | none => some usual
  | some value => read value

def ofDocument? (document : String) : Option Settings := do
  let names := ["transport", "timeout", "retry", "log", "max_response_size"]
  match ← fields? names (← parse document) with
  | [endpoint, timeout, retry, log, limit] =>
    let endpoint ← orUsual standard.endpoint endpoint? endpoint
    let timeout ← orUsual standard.timeout span? timeout
    let (attempts, delay) ← orUsual (standard.attempts, standard.delay) retry? retry
    let dumpWire ← orUsual standard.dumpWire log? log
    let responseLimit ← orUsual standard.responseLimit (natural? (UInt64.size - 1)) limit
    return { endpoint, timeout, attempts, delay, dumpWire, responseLimit }
  | _ => none

end TrustedPlatform.Settings

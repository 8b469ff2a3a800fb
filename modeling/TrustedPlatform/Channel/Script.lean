import TrustedPlatform.Channel.Basic

/-!
# Scripted channels

A channel whose behaviour is written down beforehand: each entry of the script answers one step.
It serves to rehearse a run.
-/

set_option autoImplicit false

namespace TrustedPlatform

inductive ScriptEntry where
  | answer (response : Bytes)
  | sendFails (fault : Fault)
  -- The request is sent, and waiting for its answer fails.
  | receiveFails (fault : Fault)
  | reopenFails (fault : Fault)
  deriving DecidableEq, Repr

structure Script where
  entries : List ScriptEntry
  pending : Except Fault Bytes
  -- The requests sent, the last one first.
  sent : List Bytes
  reopens : Nat

namespace Script

def exhausted : Fault := .transport "reading response" "script exhausted"

def ofEntries (entries : List ScriptEntry) : Script := ⟨entries, .error exhausted, [], 0⟩

/-- What the answer to a request will be, or why the request cannot be sent.  An entry about
opening anew is no answer. -/
def reaction : ScriptEntry → Except Fault (Except Fault Bytes)
  | .answer response => .ok (.ok response)
  | .sendFails fault => .error fault
  | .receiveFails fault => .ok (.error fault)
  | .reopenFails _ => .ok (.error exhausted)

def send (request : Bytes) : Action Fault Script Unit where
  run script :=
    match script.entries with
    | [] => (.ok (), { script with pending := .error exhausted, sent := request :: script.sent })
    | entry :: entries =>
      match reaction entry with
      | .error fault => (.error fault, { script with entries })
      | .ok pending =>
        (.ok (), { script with entries, pending, sent := request :: script.sent })

def receive : Action Fault Script Bytes where
  run script := (script.pending, { script with pending := .error exhausted })

def reopen : Action Fault Script Unit where
  run script :=
    let script := { script with reopens := script.reopens + 1 }
    match script.entries with
    | .reopenFails fault :: entries => (.error fault, { script with entries })
    | _ => (.ok (), script)

instance : Channel Script where
  send := send
  receive := receive
  reopen := reopen
  endpoint _ := "script"

end Script

end TrustedPlatform

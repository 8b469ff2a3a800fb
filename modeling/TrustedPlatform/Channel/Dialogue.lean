import TrustedPlatform.Channel.Framing
import TrustedPlatform.Channel.Basic

/-!
# Dialogues

A stream to a far end whose answers are known beforehand: each request brings the next of them, and
the first request for which there is none ends the stream.  An answer need not be a response: it is
read from the stream as any bytes are.

* `sent_send`: every request is sent, answered or not.
-/

set_option autoImplicit false

namespace TrustedPlatform

/-- A stream to a far end with prepared answers. -/
structure Dialogue where
  answers : List Bytes
  inflow : Inflow
  -- The requests sent, the last one first.
  sent : List Bytes
  patience : Duration
  limit : Nat

namespace Dialogue

def ofAnswers (answers : List Bytes) (patience : Duration) (limit : Nat) : Dialogue :=
  ⟨answers, ⟨[], false⟩, [], patience, limit⟩

def send (request : Bytes) : Action Fault Dialogue Unit := modify fun dialogue =>
  let asked := { dialogue with sent := request :: dialogue.sent }
  match dialogue.answers with
  | [] => { asked with inflow.closed := true }
  | answer :: answers =>
    { asked with answers, inflow.bytes := dialogue.inflow.bytes ++ answer }

def receive : Action Fault Dialogue Bytes := do
  let dialogue ← get
  (Inflow.readFrame dialogue.limit dialogue.patience).zoom Dialogue.inflow
    fun inflow dialogue => { dialogue with inflow }

def reopen : Action Fault Dialogue Unit :=
  modify fun dialogue => { dialogue with inflow := ⟨[], false⟩ }

instance : Channel Dialogue where
  send := send
  receive := receive
  reopen := reopen
  endpoint _ := "dialogue"

theorem sent_send (request : Bytes) (dialogue : Dialogue) :
    ((send request).run dialogue).2.sent = request :: dialogue.sent := by
  simp only [send, Action.run_modify]
  cases dialogue.answers <;> rfl

end Dialogue

end TrustedPlatform

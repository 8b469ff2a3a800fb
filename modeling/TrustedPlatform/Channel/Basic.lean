import TrustedPlatform.Frame.Response

/-!
# Channels

A channel moves one request to the module and one response back, and can be dropped and opened
anew.  A link is a channel that remembers when an exchange was given up: the answer to it may still
be under way, so the next exchange opens the channel anew first.

* `Link.transmit_of_clean`: a clean link sends and receives once, and a failure spoils it.
* `Link.transmit_of_reopen_error`: while opening anew fails, nothing is sent.
-/

set_option autoImplicit false

namespace TrustedPlatform

class Channel (σ : Type) where
  send : Bytes → Action Fault σ Unit
  receive : Action Fault σ Bytes
  reopen : Action Fault σ Unit
  endpoint : σ → String

/-- A channel, and whether an exchange on it was given up. -/
structure Link (σ : Type) where
  channel : σ
  spoiled : Bool
  deriving DecidableEq, Repr

namespace Link

variable {σ : Type}

def fresh (channel : σ) : Link σ := ⟨channel, false⟩

def onChannel {α : Type} (action : Action Fault σ α) : Action Fault (Link σ) α :=
  action.zoom Link.channel fun channel link => { link with channel }

variable [Channel σ]

def endpoint (link : Link σ) : String := Channel.endpoint link.channel

def renew : Action Fault (Link σ) Unit := do
  if (← get).spoiled then
    onChannel Channel.reopen
    modify fun link => { link with spoiled := false }

/-- One request and its response.  A failure spoils the link. -/
def exchange (request : Bytes) : Action Fault (Link σ) Bytes := do
  let outcome ← (onChannel do
    Channel.send request
    Channel.receive).attempt
  match outcome with
  | .ok response => return response
  | .error fault =>
    modify fun link => { link with spoiled := true }
    throw fault

def transmit (request : Bytes) : Action Fault (Link σ) Bytes := do
  renew
  exchange request

def execute (request : Bytes) : Action Fault (Link σ) Response := do
  let frame ← transmit request
  Action.ofExcept (Response.parse frame)

theorem transmit_of_clean (request : Bytes) (link : Link σ) (clean : link.spoiled = false) :
    (transmit request).run link = (exchange request).run link := by
  simp [transmit, renew, clean]

theorem transmit_of_reopen_error (request : Bytes) (link : Link σ) (fault : Fault) (after : σ)
    (spoiled : link.spoiled = true)
    (failed : (Channel.reopen : Action Fault σ Unit).run link.channel = (.error fault, after)) :
    (transmit request).run link = (.error fault, { link with channel := after }) := by
  simp [transmit, renew, onChannel, spoiled, failed]

end Link

end TrustedPlatform

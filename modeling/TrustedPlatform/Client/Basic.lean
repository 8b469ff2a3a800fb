import TrustedPlatform.Channel.Basic
import TrustedPlatform.Inventory

/-!
# Clients

A client talks to one module over one link.  A command that needs authorization is dispatched
together with a session lent by its holder; whatever happens to the session is seen by the holder
afterwards.

* `executeOnce` is one attempt: mask, authorize, exchange, validate.  Up to the exchange a fault
  leaves the session open; from the exchange on every fault ends it.
-/

set_option autoImplicit false

namespace TrustedPlatform

structure Client (σ : Type) where
  link : Link σ
  inventory : Inventory
  nonces : NonceSource
  -- How often, in all, a command is sent to a busy module.
  attempts : Nat

/-- A session lent for one command. -/
structure SessionUse where
  session : Session
  secret : Secret
  continueSession : Bool

/-- A client with the session, if any, that authorizes the command at hand. -/
structure Dispatch (σ : Type) where
  client : Client σ
  use? : Option SessionUse

/-- A command ready for dispatch. -/
structure Command where
  ordinal : Ordinal
  -- The handles the command works on; no authorization covers them.
  handles : List UInt32 := []
  parameters : Bytes := []
  -- A new secret, which goes masked in front of the parameters.
  newSecret : Option Secret := none
  outputHandles : Nat := 0
  digestsHandles : Bool := false

structure Reply where
  handles : List UInt32
  parameters : Bytes
  deriving DecidableEq, Repr

namespace Reply

def handle (reply : Reply) : Except Fault UInt32 :=
  match reply.handles with
  | [] => .error (.malformed .missingHandle)
  | handle :: _ => .ok handle

def decode {α : Type} (reply : Reply) (decoder : Decoder α) : Except Fault α :=
  decoder.complete reply.parameters

end Reply

namespace Command

/-- The parameters as they are sent: a new secret is masked for the session at hand. -/
def sealedParameters (command : Command) (use? : Option SessionUse) : Except Fault Bytes :=
  match command.newSecret, use? with
  | none, _ => .ok command.parameters
  | some _, none => .error (.encoding .secretNeedsSession)
  | some secret, some use =>
    match use.session.binding.shared? with
    | none => .error (.encoding .sessionHasNoSecret)
    | some shared =>
      .ok ((Secret.conceal shared use.session.nonceEven secret).bytes ++ command.parameters)

def readBody (command : Command) (body : Bytes) : Except Fault Reply :=
  ((do
    let handles ← Decoder.times command.outputHandles Decoder.word32
    let parameters ← Decoder.rest
    return ⟨handles, parameters⟩ : Decoder Reply).run (Reader.ofBytes body)).1

def authorizedBody (command : Command) (body : Bytes) (reply : Reply) : Bytes :=
  if command.digestsHandles then body else reply.parameters

end Command

namespace Client

variable {σ α : Type}

def fresh (channel : σ) (nonces : NonceSource) (attempts : Nat) : Client σ :=
  ⟨.fresh channel, .empty, nonces, attempts⟩

def note (change : Inventory → Inventory) : Action Fault (Client σ) Unit :=
  modify fun client => { client with inventory := change client.inventory }

def drawNonce : Action Fault (Client σ) Digest where
  run client :=
    let (nonce, nonces) := client.nonces.next
    (.ok nonce, { client with nonces })

def onLink (action : Action Fault (Link σ) α) : Action Fault (Client σ) α :=
  action.zoom Client.link fun link client => { client with link }

def unauthorized (action : Action Fault (Dispatch σ) α) : Action Fault (Client σ) α :=
  action.zoom (fun client => ⟨client, none⟩) fun dispatch _ => dispatch.client

end Client

namespace Dispatch

variable {σ α : Type}

def onClient (action : Action Fault (Client σ) α) : Action Fault (Dispatch σ) α :=
  action.zoom Dispatch.client fun client dispatch => { dispatch with client }

def changeSession (change : Session → Session) : Action Fault (Dispatch σ) Unit :=
  modify fun dispatch =>
    { dispatch with
      use? := dispatch.use?.map fun use => { use with session := change use.session } }

def authorize (command : Command) (parameters : Bytes) :
    Action Fault (Dispatch σ) (Option RequestTrailer) where
  run dispatch :=
    match dispatch.use? with
    | none => (.ok none, dispatch)
    | some use =>
      let digest := Secret.requestDigest command.ordinal parameters
      let (outcome, session, nonces) :=
        use.session.authorize use.secret digest use.continueSession dispatch.client.nonces
      (outcome.map some, ⟨{ dispatch.client with nonces }, some { use with session }⟩)

def verify (command : Command) (digest : Digest) (sent : RequestTrailer)
    (received : ResponseTrailer) : Action Fault (Dispatch σ) Unit where
  run dispatch :=
    match dispatch.use? with
    | none => (.ok (), dispatch)
    | some use =>
      let (outcome, session) :=
        use.session.verify command.ordinal use.secret digest sent.nonceOdd received
      (outcome, { dispatch with use? := some { use with session } })

def validate (command : Command) (trailer? : Option RequestTrailer) (response : Response) :
    Action Fault (Dispatch σ) Reply := do
  let (body, trailers) ← Action.ofExcept (response.splitTrailers trailer?.toList.length)
  let reply ← Action.ofExcept (command.readBody body)
  let digest :=
    Secret.responseDigest response.code command.ordinal (command.authorizedBody body reply)
  match trailer?, trailers with
  | some sent, [received] => verify command digest sent received
  | _, _ => pure ()
  return reply

def abortOnFault (action : Action Fault (Dispatch σ) α) : Action Fault (Dispatch σ) α := do
  match ← action.attempt with
  | .ok value => return value
  | .error fault =>
    changeSession Session.abort
    throw fault

variable [Channel σ]

def converse (command : Command) (trailer? : Option RequestTrailer) (frame : Bytes) :
    Action Fault (Dispatch σ) Reply := do
  let response ← onClient (Client.onLink (Link.execute frame))
  if !response.isSuccess then throw (.refused command.ordinal response.code)
  validate command trailer? response

def executeOnce (command : Command) : Action Fault (Dispatch σ) Reply := do
  let parameters ← Action.ofExcept (command.sealedParameters (← get).use?)
  let trailer? ← authorize command parameters
  let frame ← Action.ofExcept
    (Request.encode ⟨command.ordinal, command.handles, parameters, trailer?.toList⟩)
  abortOnFault (converse command trailer? frame)

end Dispatch

end TrustedPlatform

import TrustedPlatform.Nonce
import TrustedPlatform.Secret
import TrustedPlatform.Structure.Trailer

/-!
# Authorization sessions

A session proves, command by command, that its holder knows a secret.  Both sides contribute a
nonce to each proof: the odd one comes with the request, the even one with the response before it.
A session never issues an odd nonce twice and never accepts an even nonce twice, and any doubt
about the other side closes it.

* `nextNonceOdd_armed`: a nonce drawn ahead is the one the next request carries.
* `authorize_of_not_active`: a session that is not active authorizes nothing and draws nothing.
* `verify_ok_active`: an accepted response leaves the session active exactly if it says so.
-/

set_option autoImplicit false

namespace TrustedPlatform

structure Entity where
  kind : EntityKind
  value : UInt32
  deriving DecidableEq, Repr

/-- How a session was opened: for any object, or for one entity. -/
inductive SessionKind where
  | oiap
  | osap (entity : Entity)
  deriving DecidableEq, Repr

/-- How a session was opened, with the secret agreed upon for one entity. -/
inductive Binding where
  | oiap
  | osap (entity : Entity) (shared : Secret)
  deriving DecidableEq

namespace Binding

def kind : Binding → SessionKind
  | .oiap => .oiap
  | .osap entity _ => .osap entity

def shared? : Binding → Option Secret
  | .oiap => none
  | .osap _ shared => some shared

/-- The key of the session's proofs: the secret agreed upon, or else the entity's own. -/
def key (binding : Binding) (entitySecret : Secret) : Secret :=
  binding.shared?.getD entitySecret

end Binding

inductive SessionStatus where
  | active
  -- Saved out of the module, until it is loaded again.
  | suspended
  | closed
  deriving DecidableEq, Repr

/-- An authorization session, as its holder knows it. -/
structure Session where
  handle : UInt32
  binding : Binding
  nonceEven : Digest
  armedOdd : Option Digest
  issuedOdd : List Digest
  seenEven : List Digest
  status : SessionStatus

namespace Session

def kind (session : Session) : SessionKind := session.binding.kind

def isActive (session : Session) : Bool := session.status = .active

def oiap (handle : UInt32) (nonceEven : Digest) : Session where
  handle := handle
  binding := .oiap
  nonceEven := nonceEven
  armedOdd := none
  issuedOdd := []
  seenEven := [nonceEven]
  status := .active

def sharedSecret (entitySecret : Secret) (setupEven setupOdd : Digest) : Secret :=
  ⟨Hmac.authenticate entitySecret.value (setupEven.bytes ++ setupOdd.bytes)⟩

/-- A fresh session for one entity.  The nonces of its setup count as used. -/
def osap (handle : UInt32) (nonceEven : Digest) (entity : Entity) (entitySecret : Secret)
    (setupEven setupOdd : Digest) : Session where
  handle := handle
  binding := .osap entity (sharedSecret entitySecret setupEven setupOdd)
  nonceEven := nonceEven
  armedOdd := none
  issuedOdd := [setupOdd]
  seenEven := [nonceEven, setupEven]
  status := .active

/-- The odd nonce that the next request will carry, drawn unless it was drawn ahead.  A draw that
the session issued before closes it. -/
def nextNonceOdd (session : Session) (nonces : NonceSource) :
    Except Fault Digest × Session × NonceSource :=
  if session.status ≠ .active then (.error (.sessionClosed session.handle), session, nonces)
  else
    match session.armedOdd with
    | some nonce => (.ok nonce, session, nonces)
    | none =>
      let (nonce, nonces) := nonces.next
      if nonce ∈ session.issuedOdd then
        (.error (.nonceReuse session.handle), { session with status := .closed }, nonces)
      else
        (.ok nonce,
          { session with armedOdd := some nonce, issuedOdd := nonce :: session.issuedOdd },
          nonces)

def authorize (session : Session) (entitySecret : Secret) (parameters : Digest)
    (continueSession : Bool) (nonces : NonceSource) :
    Except Fault RequestTrailer × Session × NonceSource :=
  match session.nextNonceOdd nonces with
  | (.error fault, session, nonces) => (.error fault, session, nonces)
  | (.ok nonceOdd, session, nonces) =>
    let key := session.binding.key entitySecret
    let authorization := key.authorize parameters session.nonceEven nonceOdd continueSession
    (.ok ⟨session.handle, nonceOdd, continueSession, authorization⟩,
      { session with armedOdd := none }, nonces)

/-- Checks the trailer of the response to a request that carried `nonceOdd`, and takes its even
nonce over. -/
def verify (session : Session) (ordinal : Ordinal) (entitySecret : Secret) (parameters : Digest)
    (nonceOdd : Digest) (trailer : ResponseTrailer) : Except Fault Unit × Session :=
  if trailer.nonceEven ∈ session.seenEven then
    (.error (.nonceReuse session.handle), { session with status := .closed })
  else
    let session := { session with seenEven := trailer.nonceEven :: session.seenEven }
    let key := session.binding.key entitySecret
    let expected :=
      key.authorize parameters trailer.nonceEven nonceOdd trailer.continueSession
    if trailer.authorization = expected then
      (.ok (),
        { session with
          nonceEven := trailer.nonceEven
          status := if trailer.continueSession then session.status else .closed })
    else (.error (.unverified ordinal), { session with status := .closed })

/-- The command failed: the module ends every session that such a command named. -/
def abort (session : Session) : Session :=
  { session with armedOdd := none, status := .closed }

def suspend (session : Session) : Session :=
  { session with armedOdd := none, status := .suspended }

def resume (session : Session) (handle : UInt32) : Session :=
  { session with handle := handle, status := .active }

theorem nextNonceOdd_armed (session : Session) (nonces : NonceSource) (nonce : Digest)
    (active : session.status = .active) (armed : session.armedOdd = some nonce) :
    session.nextNonceOdd nonces = (.ok nonce, session, nonces) := by
  simp [nextNonceOdd, active, armed]

theorem authorize_of_not_active (session : Session) (entitySecret : Secret) (parameters : Digest)
    (continueSession : Bool) (nonces : NonceSource) (inactive : session.status ≠ .active) :
    session.authorize entitySecret parameters continueSession nonces =
      (.error (.sessionClosed session.handle), session, nonces) := by
  simp [authorize, nextNonceOdd, inactive]

theorem verify_ok_active (session after : Session) (ordinal : Ordinal) (entitySecret : Secret)
    (parameters nonceOdd : Digest) (trailer : ResponseTrailer)
    (active : session.status = .active)
    (accepted :
      session.verify ordinal entitySecret parameters nonceOdd trailer = (.ok (), after)) :
    after.status = .active ↔ trailer.continueSession = true := by
  unfold verify at accepted
  split at accepted
  · cases accepted
  · dsimp only at accepted
    split at accepted
    · cases accepted
      cases trailer.continueSession <;> simp [active]
    · cases accepted

end Session

end TrustedPlatform

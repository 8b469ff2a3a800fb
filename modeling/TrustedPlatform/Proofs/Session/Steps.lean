import TrustedPlatform.Session.Basic

/-!
# What a session does

The operations of a session, each opened once: how it comes by the odd nonce of its next request
(`Session.Draw`), what that makes of the request (`authorize_of_draw`), and which responses it takes
(`Session.Accepts`).
-/

set_option autoImplicit false

namespace TrustedPlatform

/-- Where a secret was agreed upon, the secret of the entity is not looked at. -/
theorem Binding.key_of_shared (binding : Binding) {shared : Secret}
    (known : binding.shared? = some shared) (entitySecret : Secret) :
    binding.key entitySecret = shared := by
  rw [key, known, Option.getD_some]

theorem Binding.shared?_of_kind (binding : Binding) {entity : Entity}
    (bound : binding.kind = .osap entity) : ∃ shared, binding.shared? = some shared := by
  cases binding with
  | oiap => cases bound
  | osap entity shared => exact ⟨shared, rfl⟩

namespace Session

/-- How an open session comes by the odd nonce of its next request: it was drawn ahead, or the
source yields one that the session never issued. -/
inductive Draw (session : Session) (nonces : NonceSource) :
    Digest → Session → NonceSource → Prop where
  | armed (nonce : Digest) (ahead : session.armedOdd = some nonce) :
      Draw session nonces nonce session nonces
  | fresh (unarmed : session.armedOdd = none) (isNew : nonces.next.1 ∉ session.issuedOdd) :
      Draw session nonces nonces.next.1
        { session with
          armedOdd := some nonces.next.1
          issuedOdd := nonces.next.1 :: session.issuedOdd }
        nonces.next.2

/-- The source of an open session that has no nonce ahead yields one that it issued before. -/
structure Repeats (session : Session) (nonces : NonceSource) : Prop where
  active : session.status = .active
  unarmed : session.armedOdd = none
  issued : nonces.next.1 ∈ session.issuedOdd

theorem nextNonceOdd_of_repeats (session : Session) (nonces : NonceSource)
    (repeats : session.Repeats nonces) :
    session.nextNonceOdd nonces =
      (.error (.nonceReuse session.handle), { session with status := .closed },
        nonces.next.2) := by
  unfold nextNonceOdd
  rw [if_neg (fun inactive => inactive repeats.active), repeats.unarmed]
  dsimp only
  rw [if_pos repeats.issued]

theorem nextNonceOdd_of_draw (session after : Session) (nonces rest : NonceSource)
    (nonce : Digest) (active : session.status = .active)
    (draw : session.Draw nonces nonce after rest) :
    session.nextNonceOdd nonces = (.ok nonce, after, rest) := by
  cases draw with
  | armed _ ahead => exact nextNonceOdd_armed session nonces nonce active ahead
  | fresh unarmed isNew =>
    unfold nextNonceOdd
    rw [if_neg (fun inactive => inactive active), unarmed]
    dsimp only
    rw [if_neg isNew]

theorem nextNonceOdd_of_inactive (session : Session) (nonces : NonceSource)
    (inactive : session.status ≠ .active) :
    session.nextNonceOdd nonces = (.error (.sessionClosed session.handle), session, nonces) := by
  unfold nextNonceOdd
  rw [if_pos inactive]

/-- A session that is asked for a nonce is not open, or runs into a repetition, or draws. -/
theorem draw_cases (session : Session) (nonces : NonceSource) :
    session.status ≠ .active ∨ session.Repeats nonces ∨
      (session.status = .active ∧ ∃ nonce after rest, session.Draw nonces nonce after rest) := by
  by_cases active : session.status = .active
  · right
    cases ahead : session.armedOdd with
    | some nonce => exact Or.inr ⟨active, nonce, session, nonces, .armed nonce ahead⟩
    | none =>
      by_cases issued : nonces.next.1 ∈ session.issuedOdd
      · exact Or.inl ⟨active, ahead, issued⟩
      · exact Or.inr ⟨active, _, _, _, .fresh ahead issued⟩
  · exact Or.inl active

def spent (session : Session) : Session := { session with armedOdd := none }

def trailer (session : Session) (secret : Secret) (parameters : Digest) (nonceOdd : Digest)
    (continueSession : Bool) : RequestTrailer :=
  ⟨session.handle, nonceOdd, continueSession,
    (session.binding.key secret).authorize parameters session.nonceEven nonceOdd continueSession⟩

def upcomingOdd (session : Session) (nonces : NonceSource) : Digest :=
  session.armedOdd.getD nonces.next.1

theorem draw_of_fresh (session : Session) (nonces : NonceSource)
    (fresh : session.armedOdd = none → nonces.next.1 ∉ session.issuedOdd) :
    ∃ drawn rest, session.Draw nonces (session.upcomingOdd nonces) drawn rest := by
  unfold upcomingOdd
  cases ahead : session.armedOdd with
  | some nonce => exact ⟨session, nonces, .armed nonce ahead⟩
  | none => exact ⟨_, _, .fresh ahead (fresh ahead)⟩

theorem Draw.eq_upcomingOdd {session after : Session} {nonces rest : NonceSource} {nonce : Digest}
    (draw : session.Draw nonces nonce after rest) : nonce = session.upcomingOdd nonces := by
  unfold upcomingOdd
  cases draw with
  | armed _ ahead =>
    rw [ahead]
    rfl
  | fresh unarmed _ =>
    rw [unarmed]
    rfl

theorem Draw.handle_eq {session after : Session} {nonces rest : NonceSource} {nonce : Digest}
    (draw : session.Draw nonces nonce after rest) : after.handle = session.handle := by
  cases draw <;> rfl

theorem Draw.binding_eq {session after : Session} {nonces rest : NonceSource} {nonce : Digest}
    (draw : session.Draw nonces nonce after rest) : after.binding = session.binding := by
  cases draw <;> rfl

/-- Asking a session for a nonce leaves it as it was found, but for the nonce, or closes it. -/
theorem nextNonceOdd_leaves (session left : Session) (nonces rest : NonceSource)
    (outcome : Except Fault Digest)
    (drew : session.nextNonceOdd nonces = (outcome, left, rest)) :
    left.handle = session.handle ∧ left.binding = session.binding ∧
      (left.status = .active → session.status = .active) := by
  rcases session.draw_cases nonces with
    inactive | repeats | ⟨active, nonce, after, remaining, draw⟩
  · rw [session.nextNonceOdd_of_inactive nonces inactive] at drew
    cases drew
    exact ⟨rfl, rfl, id⟩
  · rw [session.nextNonceOdd_of_repeats nonces repeats] at drew
    cases drew
    exact ⟨rfl, rfl, fun _ => repeats.active⟩
  · rw [session.nextNonceOdd_of_draw after nonces remaining nonce active draw] at drew
    cases drew
    exact ⟨draw.handle_eq, draw.binding_eq, fun _ => active⟩

theorem Draw.nonceEven_eq {session after : Session} {nonces rest : NonceSource} {nonce : Digest}
    (draw : session.Draw nonces nonce after rest) : after.nonceEven = session.nonceEven := by
  cases draw <;> rfl

theorem Draw.seenEven_eq {session after : Session} {nonces rest : NonceSource} {nonce : Digest}
    (draw : session.Draw nonces nonce after rest) : after.seenEven = session.seenEven := by
  cases draw <;> rfl

theorem Draw.status_eq {session after : Session} {nonces rest : NonceSource} {nonce : Digest}
    (draw : session.Draw nonces nonce after rest) : after.status = session.status := by
  cases draw <;> rfl

theorem Draw.armed_eq {session after : Session} {nonces rest : NonceSource} {nonce : Digest}
    (draw : session.Draw nonces nonce after rest) : after.armedOdd = some nonce := by
  cases draw with
  | armed _ ahead => exact ahead
  | fresh _ _ => rfl

theorem authorize_of_draw (session after : Session) (nonces rest : NonceSource)
    (nonce : Digest) (secret : Secret) (parameters : Digest) (continueSession : Bool)
    (active : session.status = .active) (draw : session.Draw nonces nonce after rest) :
    session.authorize secret parameters continueSession nonces =
      (.ok (session.trailer secret parameters nonce continueSession), after.spent, rest) := by
  unfold authorize
  rw [nextNonceOdd_of_draw session after nonces rest nonce active draw]
  cases draw with
  | armed _ _ => rfl
  | fresh _ _ => rfl

theorem authorize_of_repeats (session : Session) (nonces : NonceSource) (secret : Secret)
    (parameters : Digest) (continueSession : Bool) (repeats : session.Repeats nonces) :
    session.authorize secret parameters continueSession nonces =
      (.error (.nonceReuse session.handle), { session with status := .closed },
        nonces.next.2) := by
  unfold authorize
  rw [nextNonceOdd_of_repeats session nonces repeats]

def advanced (session : Session) (received : ResponseTrailer) : Session :=
  { session with
    nonceEven := received.nonceEven
    seenEven := received.nonceEven :: session.seenEven
    status := if received.continueSession then session.status else .closed }

/-- What makes a session accept the trailer of a response. -/
structure Accepts (session : Session) (secret : Secret) (parameters nonceOdd : Digest)
    (received : ResponseTrailer) : Prop where
  isNew : received.nonceEven ∉ session.seenEven
  proven : received.authorization =
    (session.binding.key secret).authorize parameters received.nonceEven nonceOdd
      received.continueSession

/-- What a response is held against is the same before a draw and after the nonce is spent. -/
theorem Draw.accepts_spent_iff {session after : Session} {nonces rest : NonceSource}
    {nonce : Digest} (draw : session.Draw nonces nonce after rest) (secret : Secret)
    (parameters nonceOdd : Digest) (received : ResponseTrailer) :
    after.spent.Accepts secret parameters nonceOdd received ↔
      session.Accepts secret parameters nonceOdd received := by
  have binding : after.spent.binding = session.binding := draw.binding_eq
  have seenEven : after.spent.seenEven = session.seenEven := draw.seenEven_eq
  constructor
  · rintro ⟨isNew, proven⟩
    rw [binding] at proven
    rw [seenEven] at isNew
    exact ⟨isNew, proven⟩
  · rintro ⟨isNew, proven⟩
    rw [← binding] at proven
    rw [← seenEven] at isNew
    exact ⟨isNew, proven⟩

theorem verify_of_accepts (session : Session) (ordinal : Ordinal) (secret : Secret)
    (parameters nonceOdd : Digest) (received : ResponseTrailer)
    (accepts : session.Accepts secret parameters nonceOdd received) :
    session.verify ordinal secret parameters nonceOdd received =
      (.ok (), session.advanced received) := by
  unfold verify
  rw [if_neg accepts.isNew]
  dsimp only
  rw [if_pos accepts.proven]
  rfl

/-- A session that does not accept a response fails with one of two faults, and is closed. -/
theorem verify_of_not_accepts (session : Session) (ordinal : Ordinal) (secret : Secret)
    (parameters nonceOdd : Digest) (received : ResponseTrailer)
    (refuses : ¬ session.Accepts secret parameters nonceOdd received) :
    ∃ fault seen,
      session.verify ordinal secret parameters nonceOdd received =
        (.error fault, { session with seenEven := seen, status := .closed }) ∧
      (fault = .nonceReuse session.handle ∨ fault = .unverified ordinal) ∧
      ∀ nonce ∈ session.seenEven, nonce ∈ seen := by
  unfold verify
  by_cases known : received.nonceEven ∈ session.seenEven
  · rw [if_pos known]
    exact ⟨_, session.seenEven, rfl, Or.inl rfl, fun _ member => member⟩
  · rw [if_neg known]
    dsimp only
    have unproven : received.authorization ≠
        (session.binding.key secret).authorize parameters received.nonceEven nonceOdd
          received.continueSession := fun proven => refuses ⟨known, proven⟩
    rw [if_neg unproven]
    exact ⟨_, received.nonceEven :: session.seenEven, rfl, Or.inr rfl,
      fun _ member => List.mem_cons_of_mem _ member⟩

theorem Draw.verify_spent_fst {session after : Session} {nonces rest : NonceSource}
    {nonce : Digest} (draw : session.Draw nonces nonce after rest) (ordinal : Ordinal)
    (secret : Secret) (parameters nonceOdd : Digest) (received : ResponseTrailer) :
    (after.spent.verify ordinal secret parameters nonceOdd received).1 =
      (session.verify ordinal secret parameters nonceOdd received).1 := by
  have binding : after.spent.binding = session.binding := draw.binding_eq
  have seenEven : after.spent.seenEven = session.seenEven := draw.seenEven_eq
  have handle : after.spent.handle = session.handle := draw.handle_eq
  unfold verify
  rw [seenEven, handle]
  by_cases known : received.nonceEven ∈ session.seenEven
  · rw [if_pos known, if_pos known]
  · rw [if_neg known, if_neg known]
    dsimp only
    rw [binding]
    split
    · rfl
    · rfl

end Session

end TrustedPlatform

import TrustedPlatform.Proofs.Client.Acceptance
import TrustedPlatform.Proofs.Client.Retry
import TrustedPlatform.Proofs.Module.Coupling
import TrustedPlatform.Proofs.Module.Hearing

/-!
# What is sent under a session

What the attempts at a command send, exchange by exchange: which of them bear a trailer
(`Exchange.Bears`), under which session each attempt goes (`SessionUse.InForce`), and what it
carries (`Retries.position`).  An attempt hands at most one frame to the link (`Command.frame?`).
Whether a command can be sent at all depends on the kind of its session only (`Command.Sendable`),
and then it is, unless the session or the link stands in the way (`Dispatch.executeOnce_sends`).
-/

set_option autoImplicit false

namespace TrustedPlatform

namespace Exchange

/-- The request of an exchange bears a trailer. -/
def Bears (exchange : Exchange) (trailer : RequestTrailer) : Prop :=
  ∃ request, Request.Reads exchange.request request ∧ trailer ∈ request.trailers

theorem bears_frame_iff (command : Command) (use : SessionUse) (parameters : Bytes)
    (nonceOdd : Digest) (answer : Except Fault Bytes)
    (handles : command.handles.length = command.ordinal.handleCount) (trailer : RequestTrailer) :
    (Exchange.mk (command.frame use parameters nonceOdd) answer).Bears trailer ↔
      trailer = command.trailer use parameters nonceOdd := by
  have reads := command.reads_frame use parameters nonceOdd handles
  constructor
  · rintro ⟨request, also, member⟩
    obtain rfl := reads.unique also
    exact List.mem_singleton.mp member
  · rintro rfl
    exact ⟨_, reads, List.mem_singleton_self _⟩

theorem not_bears_plainFrame (command : Command) (answer : Except Fault Bytes)
    (handles : command.handles.length = command.ordinal.handleCount) (trailer : RequestTrailer) :
    ¬ (Exchange.mk command.plainFrame answer).Bears trailer := by
  rintro ⟨request, also, member⟩
  obtain rfl := (command.reads_plainFrame handles).unique also
  cases member

theorem not_bears_openingFrame (kind : SessionKind) (setupOdd : Digest)
    (answer : Except Fault Bytes) (trailer : RequestTrailer) :
    ¬ (Exchange.mk (kind.openingFrame setupOdd) answer).Bears trailer := by
  refine not_bears_plainFrame (kind.opening setupOdd) answer ?_ trailer
  cases kind with
  | oiap => rfl
  | osap entity => rfl

end Exchange

/-- The session that a command goes under after some exchanges: the one that was lent, or the one
that the last exchange opened in its place. -/
def SessionUse.InForce (use : SessionUse) (earlier : List Exchange) (session : Session) : Prop :=
  (earlier = [] ∧ session = use.session) ∨
    ∃ before setupOdd answer,
      earlier = before ++ [⟨use.session.kind.openingFrame setupOdd, answer⟩] ∧
      SessionKind.Opens use.secret setupOdd answer use.session.kind session

/-- What is in force after the first session was replaced is in force after all. -/
theorem SessionUse.InForce.of_replaced {use : SessionUse} {fresh session : Session}
    {first later : List Exchange} {setupOdd : Digest} {answer : Except Fault Bytes}
    (opened : SessionKind.Opens use.secret setupOdd answer use.session.kind fresh)
    (inForce : ({ use with session := fresh } : SessionUse).InForce later session) :
    use.InForce (first ++ ⟨use.session.kind.openingFrame setupOdd, answer⟩ :: later) session := by
  rcases inForce with ⟨rfl, rfl⟩ | ⟨before, nextOdd, second, rfl, opens⟩
  · exact Or.inr ⟨first, setupOdd, answer, rfl, opened⟩
  · dsimp only at opens
    rw [opened.kind_eq] at opens ⊢
    refine Or.inr ⟨first ++ ⟨use.session.kind.openingFrame setupOdd, answer⟩ :: before, nextOdd,
      second, ?_, opens⟩
    simp

/-- An exchange that stands behind what a transmission added is that transmission, or stands in the
rest. -/
theorem Link.Adds.position {request : Bytes} {answer : Except Fault Bytes}
    {added rest earlier later : List Exchange} {exchange : Exchange}
    (adds : Link.Adds request answer added)
    (split : added ++ rest = earlier ++ exchange :: later) :
    (earlier = [] ∧ exchange = ⟨request, answer⟩) ∨
      ∃ between, earlier = added ++ between ∧ rest = between ++ exchange :: later := by
  cases adds with
  | unreached fault failed => exact Or.inr ⟨earlier, rfl, split⟩
  | exchange =>
    cases earlier with
    | nil => exact Or.inl ⟨rfl, (List.cons.inj split).1.symm⟩
    | cons first earlier =>
      obtain ⟨rfl, remaining⟩ := List.cons.inj split
      exact Or.inr ⟨earlier, rfl, remaining⟩

namespace Retries

variable {σ : Type} [Channel σ] {command : Command} {further : Nat} {nonces : NonceSource}
  {link : Link (Tapped σ)} {use : SessionUse} {sent : List Exchange} {outcome : Except Fault Reply}

/-- Whatever is sent for a command is the command itself, under the session in force and with its
parameters as they go under that one, or a request for another session. -/
theorem position (retries : Retries command further nonces link use sent outcome)
    (earlier later : List Exchange) (exchange : Exchange)
    (split : sent = earlier ++ exchange :: later) :
    (∃ session parameters nonceOdd, use.InForce earlier session ∧
        command.Carried session parameters ∧
        exchange.request = command.frame { use with session } parameters nonceOdd) ∨
      ∃ setupOdd, exchange.request = use.session.kind.openingFrame setupOdd := by
  induction retries generalizing earlier with
  | refused _ _ _ _ _ _ => simp at split
  | last _ _ _ _ _ use nonceOdd _ answer sent issues conveys _ =>
    obtain ⟨parameters, carried, rfl⟩ := issues.framed
    rw [← List.append_nil sent] at split
    rcases conveys.adds.position split with ⟨rfl, rfl⟩ | ⟨between, _, none⟩
    · exact Or.inl ⟨use.session, parameters, nonceOdd, Or.inl ⟨rfl, rfl⟩, carried, rfl⟩
    · simp at none
  | stranded _ _ rest _ _ _ use nonceOdd _ _ _ _ opening _ issues conveys _ opens _ =>
    obtain ⟨parameters, carried, rfl⟩ := issues.framed
    rcases conveys.adds.position split with ⟨rfl, rfl⟩ | ⟨between, _, behind⟩
    · exact Or.inl ⟨use.session, parameters, nonceOdd, Or.inl ⟨rfl, rfl⟩, carried, rfl⟩
    · rw [← List.append_nil opening] at behind
      rcases opens.adds.position behind with ⟨_, rfl⟩ | ⟨_, _, none⟩
      · exact Or.inr ⟨rest.next.1, rfl⟩
      · simp at none
  | again _ _ rest _ _ _ use nonceOdd _ _ _ _ _ _ _ issues conveys _ _ opened _
      inductionHypothesis =>
    obtain ⟨parameters, carried, rfl⟩ := issues.framed
    rcases conveys.adds.position split with ⟨rfl, rfl⟩ | ⟨between, rfl, remaining⟩
    · exact Or.inl ⟨use.session, parameters, nonceOdd, Or.inl ⟨rfl, rfl⟩, carried, rfl⟩
    · cases between with
      | nil =>
        obtain ⟨rfl, _⟩ := List.cons.inj remaining
        exact Or.inr ⟨rest.next.1, rfl⟩
      | cons first between =>
        obtain ⟨rfl, splitRest⟩ := List.cons.inj remaining
        rcases inductionHypothesis between splitRest with
          ⟨session, under, nonce, inForce, carriedLater, framed⟩ | ⟨nextOdd, framed⟩
        · exact Or.inl ⟨session, under, nonce, .of_replaced opened inForce, carriedLater, framed⟩
        · exact Or.inr ⟨nextOdd, opened.kind_eq ▸ framed⟩

/-- What the requests of a command bear says whether its session is to go on. -/
theorem bears (retries : Retries command further nonces link use sent outcome)
    (handles : command.handles.length = command.ordinal.handleCount) :
    ∀ exchange ∈ sent, ∀ trailer, exchange.Bears trailer →
      trailer.continueSession = use.continueSession := by
  rintro ⟨request, answer⟩ member trailer bears
  obtain ⟨earlier, later, split⟩ := List.append_of_mem member
  rcases retries.position earlier later _ split with
    ⟨session, parameters, nonceOdd, _, _, rfl⟩ | ⟨setupOdd, rfl⟩
  · rw [(Exchange.bears_frame_iff command _ parameters nonceOdd answer handles trailer).mp bears]
    rfl
  · exact absurd bears (Exchange.not_bears_openingFrame _ _ _ _)

end Retries

namespace Command

theorem length_frame (command : Command) (use : SessionUse) (parameters : Bytes)
    (nonceOdd : Digest) :
    (command.frame use parameters nonceOdd).length =
      headerSize + 4 * command.handles.length + parameters.length + RequestTrailer.size := by
  unfold frame
  rw [Request.length_frame, List.length_singleton, Nat.one_mul]

def frame? (command : Command) (use : SessionUse) (nonces : NonceSource) : Option Bytes := do
  let parameters ← (command.sealedParameters (some use)).toOption
  let nonceOdd ← (use.session.nextNonceOdd nonces).1.toOption
  let frame := command.frame use parameters nonceOdd
  if frame.length < Bytes.capacity 4 then some frame else none

/-- Nothing about a command keeps it from being sent under sessions of a kind. -/
structure Sendable (command : Command) (kind : SessionKind) : Prop where
  maskable : command.newSecret.isSome = true → kind ≠ .oiap
  fits : headerSize + 4 * command.handles.length +
    ((if command.newSecret.isSome then 20 else 0) + command.parameters.length) +
    RequestTrailer.size < Bytes.capacity 4

theorem length_of_sealed (command : Command) (use : SessionUse) (parameters : Bytes)
    (isSealed : command.sealedParameters (some use) = .ok parameters) :
    parameters.length =
      (if command.newSecret.isSome then 20 else 0) + command.parameters.length := by
  have carried := command.carried_of_sealed use parameters isSealed
  unfold Carried at carried
  cases masked : command.newSecret with
  | none =>
    rw [masked] at carried
    rw [carried, Option.isSome_none, if_neg Bool.false_ne_true, Nat.zero_add]
  | some secret =>
    rw [masked] at carried
    obtain ⟨_, block, _, rfl, _⟩ := carried
    rw [List.length_append, Block.length_bytes, Option.isSome_some, if_pos rfl]

theorem not_sendable_of_unsealed (command : Command) (use : SessionUse) (fault : Fault)
    (refused : command.sealedParameters (some use) = .error fault) :
    ¬ command.Sendable use.session.kind := by
  intro sendable
  have maskable : command.newSecret.isSome = true → use.session.binding.shared?.isSome = true := by
    intro masks
    have bound := sendable.maskable masks
    unfold Session.kind at bound
    cases known : use.session.binding with
    | oiap =>
      rw [known] at bound
      exact absurd rfl bound
    | osap entity shared => rfl
  rw [command.sealedParameters_eq_sealedFor use maskable] at refused
  cases refused

theorem sendable_of_sealed (command : Command) (use : SessionUse) (parameters : Bytes)
    (nonceOdd : Digest) (isSealed : command.sealedParameters (some use) = .ok parameters)
    (fits : (command.frame use parameters nonceOdd).length < Bytes.capacity 4) :
    command.Sendable use.session.kind where
  maskable masks := by
    obtain ⟨secret, masked⟩ := Option.isSome_iff_exists.mp masks
    have carried := command.carried_of_sealed use parameters isSealed
    unfold Carried at carried
    rw [masked] at carried
    obtain ⟨_, _, known, _⟩ := carried
    unfold Session.kind
    intro bound
    cases binding : use.session.binding with
    | oiap =>
      rw [binding] at known
      cases known
    | osap entity shared =>
      rw [binding] at bound
      cases bound
  fits := by
    rw [command.length_frame, command.length_of_sealed use parameters isSealed] at fits
    exact fits

end Command

variable {σ : Type} [Channel σ]

namespace Dispatch

theorem link_executeOnce (command : Command) (client : Client σ) (use : SessionUse) :
    ((executeOnce command).run ⟨client, some use⟩).2.client.link =
      (command.frame? use client.nonces).elim client.link fun frame =>
        ((Link.transmit frame).run client.link).2 := by
  obtain ⟨outcome, after, session, ran, attempt⟩ := executeOnce_attempt command client use
  rw [ran, Command.frame?]
  cases attempt with
  | unsealed fault refused =>
    rw [refused]
    rfl
  | inactive inactive =>
    rw [use.session.nextNonceOdd_of_inactive _ inactive]
    cases command.sealedParameters (some use) with
    | error fault => rfl
    | ok parameters => rfl
  | repeats repeats =>
    rw [use.session.nextNonceOdd_of_repeats _ repeats]
    cases command.sealedParameters (some use) with
    | error fault => rfl
    | ok parameters => rfl
  | oversized parameters nonceOdd drawn nonces isSealed active draw oversized =>
    rw [isSealed, use.session.nextNonceOdd_of_draw drawn _ nonces nonceOdd active draw]
    simp [Except.toOption, Nat.not_lt.mpr oversized]
  | exchanged parameters nonceOdd drawn nonces answer link _ _ isSealed active draw fits
      transmitted _ =>
    rw [isSealed, use.session.nextNonceOdd_of_draw drawn _ nonces nonceOdd active draw]
    simp [Except.toOption, fits, transmitted]

/-- What is sent in further attempts comes after what was sent in the first. -/
theorem record_executeUpTo (command : Command) (further : Nat) (client : Client (Tapped σ))
    (use : SessionUse) :
    ∃ more, ((executeUpTo command further).run ⟨client, some use⟩).2.client.link.record =
      ((executeOnce command).run ⟨client, some use⟩).2.client.link.record ++ more := by
  cases further with
  | zero => exact ⟨[], (List.append_nil _).symm⟩
  | succ further =>
    obtain ⟨outcome, after, session, _, ran, _⟩ := executeOnce_tapped command client use
    by_cases busy : ∃ fault, outcome = .error fault ∧ fault.isRetryable = true
    · obtain ⟨fault, rfl, retryable⟩ := busy
      obtain ⟨second, opening, reopened, replaced, _, opens⟩ :=
        replaceSession_tapped after { use with session }
      rw [executeUpTo_of_busy command further _ _ fault ran retryable, Action.run_bind, replaced,
        ran]
      cases session.kind.opened use.secret after.nonces.next.1 second with
      | error other => exact ⟨opening, opens.recorded⟩
      | ok fresh =>
        obtain ⟨_, _, _, later, ranLater, recorded, _⟩ :=
          executeUpTo_retries command further reopened { use with session := fresh }
        refine ⟨opening ++ later, ?_⟩
        simp only [Except.map, Session.replacedBy]
        rw [ranLater, recorded, opens.recorded, List.append_assoc]
    · exact ⟨[], by rw [executeUpTo_of_final command _ _ _ outcome ran busy, ran, List.append_nil]⟩

/-- Over a link that is not spoiled, a command is sent if it can be sent under the kind of its
session, and if the session is open and its source repeats no nonce. -/
theorem executeOnce_sends (command : Command) (client : Client (Tapped σ)) (use : SessionUse)
    (sendable : command.Sendable use.session.kind) (clean : client.link.spoiled = false)
    (active : use.session.status = .active) (drawsNew : ¬ use.session.Repeats client.nonces) :
    ∃ parameters nonceOdd answer,
      ((executeOnce command).run ⟨client, some use⟩).2.client.link.record =
        client.link.record ++ [⟨command.frame use parameters nonceOdd, answer⟩] ∧
      command.Carried use.session parameters := by
  obtain ⟨outcome, after, session, ran, attempt⟩ := executeOnce_attempt command client use
  rw [ran]
  cases attempt with
  | unsealed fault refused =>
    exact absurd sendable (command.not_sendable_of_unsealed use fault refused)
  | inactive inactive => exact absurd active inactive
  | repeats repeats => exact absurd repeats drawsNew
  | oversized parameters nonceOdd drawn nonces isSealed _ _ large =>
    rw [command.length_frame, command.length_of_sealed use parameters isSealed] at large
    exact absurd sendable.fits (Nat.not_lt.mpr large)
  | exchanged parameters nonceOdd drawn nonces answer link _ _ isSealed _ _ _ transmitted _ =>
    exact ⟨parameters, nonceOdd, answer,
      (Link.transmit_tapped_of_clean _ _ _ _ clean transmitted).1,
      command.carried_of_sealed use parameters isSealed⟩

end Dispatch

end TrustedPlatform

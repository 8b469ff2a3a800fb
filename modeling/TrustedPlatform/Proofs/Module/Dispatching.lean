import TrustedPlatform.Proofs.Client.Sending
import TrustedPlatform.Proofs.Module.Holder

/-!
# Commands to an honest module

A client that dispatches a command under a session stays in step with an honest module: over one
attempt (`Dispatch.executeOnce_follows`), over the opening of a session in the place of another
(`Dispatch.replaceSession_follows`), and over all the attempts that a busy module asks for
(`Dispatch.executeUpTo_follows`).
-/

set_option autoImplicit false

namespace TrustedPlatform

structure Vault.SameSecrets (vault next : Vault) : Prop where
  command : next.commandSecret = vault.commandSecret
  entity : next.entitySecret = vault.entitySecret

theorem SessionUse.Entitled.same {use : SessionUse} {vault next : Vault} {command : Command}
    {other : Session} (entitled : use.Entitled vault command) (secrets : vault.SameSecrets next)
    (kind : other.kind = use.session.kind) :
    ({ use with session := other } : SessionUse).Entitled next command := by
  unfold Entitled at entitled ⊢
  rw [kind, secrets.command, secrets.entity]
  exact entitled

/-- Why a command is not sent under a session, whatever nonces there are. -/
inductive Command.Unsendable (command : Command) (session : Session) : Fault → Prop where
  | unusable (fault : Fault) (unusable : session.Unusable fault) : Unsendable command session fault
  | unfit (cause : EncodingCause) (unfit : ¬ command.Sendable session.kind) :
      Unsendable command session (.encoding cause)

/-- What keeps a command from being sent under a session that can be used, keeps it from being sent
under any of its kind. -/
theorem Command.Unsendable.of_kind {command : Command} {session other : Session} {fault : Fault}
    (unsendable : command.Unsendable other fault) (active : other.status = .active)
    (kind : other.kind = session.kind) : command.Unsendable session fault := by
  cases unsendable with
  | unusable _ unusable => exact absurd active unusable.1
  | unfit cause unfit => exact .unfit cause (by rwa [← kind])

theorem Command.Unsendable.of_alike {command : Command} {session other : Session} {fault : Fault}
    (unsendable : command.Unsendable other fault) (alike : session.Alike other) :
    command.Unsendable session fault := by
  have kind : other.kind = session.kind := congrArg Binding.kind alike.binding
  cases unsendable with
  | unusable _ unusable =>
    obtain ⟨inactive, rfl⟩ := unusable
    rw [alike.status] at inactive
    exact .unusable _ ⟨inactive, congrArg Fault.sessionClosed alike.handle⟩
  | unfit cause unfit => exact .unfit cause (by rwa [← kind])

variable {σ : Type} [Channel σ]

namespace Dispatch

variable {command : Command} {client after : Client (Tapped σ)} {use : SessionUse}
  {left : Session} {outcome : Except Fault Reply} {vault next : Vault}

theorem executeOnce_follows (standard : command.Standard) (entitled : use.Entitled vault command)
    (inStep : (client.holder use.session).InStep vault)
    (ran : (executeOnce command).run ⟨client, some use⟩ =
      (outcome, ⟨after, some { use with session := left }⟩))
    (hears : vault.Hears client.link after.link next) :
    (client.holder use.session).Follows vault (after.holder left) next ∧
      Fault.Only (Fault.Harmless (command.Unsendable use.session) client.link after.link
        after.nonces) outcome ∧
      ∀ fault, outcome = .error fault → vault.SameSecrets next := by
  obtain ⟨found, reached, session, also, attempt⟩ := executeOnce_attempt command client use
  rw [ran] at also
  cases also
  cases attempt with
  | unsealed fault refused =>
    obtain rfl := hears.still rfl
    obtain ⟨cause, rfl⟩ := command.only_sealedParameters _ fault refused
    exact ⟨.refl _ _ inStep,
      .error _ (.withheld _ (.unfit cause (command.not_sendable_of_unsealed use _ refused))),
      fun _ _ => ⟨rfl, rfl⟩⟩
  | inactive inactive =>
    obtain rfl := hears.still rfl
    exact ⟨.refl _ _ inStep, .error _ (.withheld _ (.unusable _ ⟨inactive, rfl⟩)),
      fun _ _ => ⟨rfl, rfl⟩⟩
  | repeats repeats =>
    obtain rfl := hears.still rfl
    obtain ⟨repeated, follows⟩ := Holder.Follows.repeats inStep repeats
    exact ⟨follows, .error _ (.repeated _ repeated), fun _ _ => ⟨rfl, rfl⟩⟩
  | oversized parameters nonceOdd drawn nonces isSealed active draw large =>
    obtain rfl := hears.still rfl
    have unfit : ¬ command.Sendable use.session.kind := by
      intro sendable
      rw [command.length_frame, command.length_of_sealed use parameters isSealed] at large
      exact absurd sendable.fits (Nat.not_lt.mpr large)
    exact ⟨.draws inStep active draw draw.alike_spent rfl, .error _ (.withheld _ (.unfit _ unfit)),
      fun _ _ => ⟨rfl, rfl⟩⟩
  | exchanged parameters nonceOdd drawn nonces answer link _ _ isSealed active draw fits
      transmitted concluded =>
    obtain ⟨recorded, staysClean⟩ :=
      Link.transmit_tapped_of_clean _ _ _ _ inStep.clean transmitted
    have reads := command.reads_frame use parameters nonceOdd standard.handles
    obtain ⟨response, rfl, answers⟩ := hears.answers recorded reads
    obtain ⟨found, settled, also, turns, issued, failing⟩ :=
      (inStep.held active).concludes active standard entitled isSealed drawn.spent
        draw.alike_spent answers
    rw [concluded] at also
    cases also
    refine ⟨.turns inStep active draw turns issued (staysClean response rfl), ?_, ?_⟩
    · intro fault failed
      obtain ⟨⟨code, refuses, rfl⟩, _⟩ := failing fault failed
      exact .refused _ code (Link.refused_of_answered recorded reads refuses)
    · intro fault failed
      obtain ⟨_, same⟩ := failing fault failed
      exact ⟨same.1, same.2⟩

section

variable {τ : Type} [Channel τ] {command : Command} {client : Client τ} {use : SessionUse}
  {parameters : Bytes} {nonceOdd : Digest} {drawn : Session} {nonces : NonceSource} {link : Link τ}

/-- A client takes the answer of an honest module that carried its command out. -/
theorem executeOnce_of_performed {vault next : Vault} {hosted : Hosted} {reply : Reply}
    {nonceEven : Digest} (standard : command.Standard) (entitled : use.Entitled vault command)
    (isSealed : command.sealedParameters (some use) = .ok parameters)
    (active : use.session.status = .active)
    (draw : use.session.Draw client.nonces nonceOdd drawn nonces)
    (fits : (command.frame use parameters nonceOdd).length < Bytes.capacity 4)
    (mirrors : hosted.Mirrors use.session)
    (performs : vault.Performs (command.request use parameters nonceOdd)
      (command.trailer use parameters nonceOdd) hosted reply nonceEven next)
    (transmitted : (Link.transmit (command.frame use parameters nonceOdd)).run client.link =
      (.ok (vault.acceptance (command.request use parameters nonceOdd) hosted
        (command.trailer use parameters nonceOdd) reply nonceEven), link)) :
    (executeOnce command).run ⟨client, some use⟩ = (.ok reply, ⟨{ client with nonces, link },
      some { use with session := drawn.spent.advanced (vault.proof
        (command.request use parameters nonceOdd) hosted
        (command.trailer use parameters nonceOdd) reply nonceEven) }⟩) := by
  have accepted := performs.accepted mirrors draw.alike_spent standard entitled isSealed
  exact executeOnce_of_exchanged command client use parameters nonceOdd drawn nonces _ link _ _
    isSealed active draw fits transmitted (SessionUse.conclude_of_accepted _ _ _ _ _ _ accepted)

theorem executeOnce_of_refused {code : UInt32}
    (isSealed : command.sealedParameters (some use) = .ok parameters)
    (active : use.session.status = .active)
    (draw : use.session.Draw client.nonces nonceOdd drawn nonces)
    (fits : (command.frame use parameters nonceOdd).length < Bytes.capacity 4)
    (failed : code ≠ ResultCode.success)
    (transmitted : (Link.transmit (command.frame use parameters nonceOdd)).run client.link =
      (.ok (Vault.refusal code), link)) :
    (executeOnce command).run ⟨client, some use⟩ = (.error (.refused command.ordinal code),
      ⟨{ client with nonces, link }, some { use with session := drawn.spent.abort }⟩) := by
  refine executeOnce_of_exchanged command client use parameters nonceOdd drawn nonces _ link _ _
    isSealed active draw fits transmitted ?_
  unfold SessionUse.conclude
  rw [command.read_refusal 1 code failed]

end

end Dispatch

namespace SessionKind

theorem before_leaves (kind : SessionKind) (nonces : NonceSource) :
    nonces.Before (kind.leaves nonces) := by
  cases kind with
  | oiap => exact .refl nonces
  | osap entity => exact nonces.before_next

theorem Opens.issued {secret : Secret} {nonces : NonceSource} {answer : Except Fault Bytes}
    {kind : SessionKind} {session : Session}
    (opens : Opens secret nonces.next.1 answer kind session) :
    ∀ nonce ∈ session.issuedOdd, (kind.leaves nonces).Gave nonce := by
  intro nonce member
  cases opens with
  | oiap _ _ _ => cases member
  | osap _ _ _ _ _ =>
    obtain rfl := List.mem_singleton.mp member
    exact nonces.gave_next

theorem opened_follows (kind : SessionKind) (secret : Secret) (client : Client (Tapped σ))
    (session : Session) (answer : Except Fault Bytes) (link : Link (Tapped σ))
    (vault next : Vault)
    (known : ∀ entity, kind = .osap entity → secret = vault.entitySecret entity)
    (inStep : (client.holder session).InStep vault)
    (transmitted : (Link.transmit (kind.openingFrame client.nonces.next.1)).run client.link =
      (answer, link))
    (hears : vault.Hears client.link link next) :
    (client.holder session).Follows vault
        ⟨link, kind.leaves client.nonces,
          session.replacedBy (kind.opened secret client.nonces.next.1 answer)⟩ next ∧
      Fault.Only (fun fault => ∃ ordinal code, fault = .refused ordinal code ∧
        client.link.Refused link ordinal code)
        (kind.opened secret client.nonces.next.1 answer) ∧
      vault.SameSecrets next := by
  obtain ⟨recorded, staysClean⟩ := Link.transmit_tapped_of_clean _ _ _ _ inStep.clean transmitted
  have handles : (kind.opening client.nonces.next.1).handles.length =
      (kind.opening client.nonces.next.1).ordinal.handleCount := by
    cases kind <;> rfl
  have reads := (kind.opening client.nonces.next.1).reads_plainFrame handles
  obtain ⟨response, rfl, answers⟩ := hears.answers recorded reads
  have clean := staysClean response rfl
  rcases answers.opens kind secret client.nonces.next.1 known with
    ⟨code, refuses, failed, rfl⟩ | ⟨fresh, hosted, opens, mirrors, isFree, rfl⟩
  · rw [failed]
    exact ⟨.refused inStep clean (kind.before_leaves _),
      .error _ ⟨_, code, rfl, Link.refused_of_answered recorded reads refuses⟩, ⟨rfl, rfl⟩⟩
  · rw [(opened_eq_ok_iff _ _ _ _ _).mpr opens]
    exact ⟨.opens mirrors isFree opens.active opens.issued clean (kind.before_leaves _),
      .ok _, ⟨rfl, rfl⟩⟩

end SessionKind

theorem SessionUse.Entitled.known {use : SessionUse} {vault : Vault} {command : Command}
    (entitled : use.Entitled vault command) (entity : Entity)
    (bound : use.session.kind = .osap entity) : use.secret = vault.entitySecret entity := by
  unfold Entitled at entitled
  rw [bound] at entitled
  exact entitled

omit [Channel σ] in
theorem Client.holder_received (client : Client (Tapped σ)) (link : Link (Tapped σ))
    (nonces : NonceSource) (opened : Except Fault Session) (session : Session) :
    (client.received link nonces opened).holder session = ⟨link, nonces, session⟩ := by
  cases opened <;> rfl

namespace Dispatch

variable {command : Command} {client after : Client (Tapped σ)} {use : SessionUse}
  {left : Session} {vault next : Vault}

theorem replaceSession_follows {outcome : Except Fault Unit}
    (entitled : use.Entitled vault command) (inStep : (client.holder use.session).InStep vault)
    (ran : (replaceSession (σ := Tapped σ)).run ⟨client, some use⟩ =
      (outcome, ⟨after, some { use with session := left }⟩))
    (hears : vault.Hears client.link after.link next) :
    (client.holder use.session).Follows vault (after.holder left) next ∧
      Fault.Only (fun fault => ∃ ordinal code, fault = .refused ordinal code ∧
        client.link.Refused after.link ordinal code) outcome ∧
      vault.SameSecrets next ∧ left.kind = use.session.kind ∧
      (outcome = .ok () → left.status = .active) := by
  cases transmitted : (Link.transmit
      (use.session.kind.openingFrame client.nonces.next.1)).run client.link with
  | mk answer link =>
    rw [run_replaceSession client use answer link _ transmitted rfl] at ran
    cases ran
    have linked : (({ client with inventory :=
        client.inventory.removeSession use.session.handle } : Client (Tapped σ)).received link
          (use.session.kind.leaves client.nonces)
          (use.session.kind.opened use.secret client.nonces.next.1 answer)).link = link := by
      cases use.session.kind.opened use.secret client.nonces.next.1 answer <;> rfl
    rw [linked] at hears
    obtain ⟨follows, refused, secrets⟩ := use.session.kind.opened_follows use.secret client
      use.session answer link vault next entitled.known inStep transmitted hears
    rw [linked, Client.holder_received]
    refine ⟨follows, .map _ _ refused, secrets, ?_⟩
    cases found : use.session.kind.opened use.secret client.nonces.next.1 answer with
    | error fault => exact ⟨rfl, fun opened => nomatch opened⟩
    | ok fresh =>
      have opens := (SessionKind.opened_eq_ok_iff _ _ _ _ _).mp found
      exact ⟨opens.kind_eq, fun _ => opens.active⟩

theorem executeUpTo_follows (further : Nat) {outcome : Except Fault Reply}
    (standard : command.Standard) (entitled : use.Entitled vault command)
    (inStep : (client.holder use.session).InStep vault)
    (ran : (executeUpTo command further).run ⟨client, some use⟩ =
      (outcome, ⟨after, some { use with session := left }⟩))
    (hears : vault.Hears client.link after.link next) :
    (client.holder use.session).Follows vault (after.holder left) next ∧
      Fault.Only (Fault.Harmless (command.Unsendable use.session) client.link after.link
        after.nonces) outcome := by
  -- Each opening changes the session, the client and the module, but no secret of an entity.
  induction further generalizing client use vault with
  | zero =>
    obtain ⟨follows, harmless, _⟩ := executeOnce_follows standard entitled inStep ran hears
    exact ⟨follows, harmless⟩
  | succ further inductionHypothesis =>
    obtain ⟨first, between, session, sent, once, binding, recorded, _⟩ :=
      executeOnce_tapped command client use
    by_cases busy : ∃ fault, first = .error fault ∧ fault.isRetryable = true
    · obtain ⟨fault, rfl, retryable⟩ := busy
      rw [executeUpTo_of_busy command further _ _ fault once retryable, Action.run_bind] at ran
      obtain ⟨answer, opening, reopened, replaced, _, opens⟩ :=
        replaceSession_tapped between { use with session }
      have extended := opens.recorded
      rw [replaced] at ran
      -- The exchanges so far are those of the attempt, of the opening and of what comes after.
      cases found : session.kind.opened use.secret between.nonces.next.1 answer with
      | error other =>
        rw [found] at ran replaced
        cases ran
        obtain ⟨middle, heardFirst, heardSecond⟩ := hears.split sent opening recorded extended
        obtain ⟨follows, _, same⟩ :=
          executeOnce_follows standard entitled inStep once heardFirst
        have kept := entitled.same (same fault rfl) (congrArg Binding.kind binding)
        obtain ⟨reopens, refusing, _, _⟩ :=
          replaceSession_follows kept follows.inStep replaced heardSecond
        obtain ⟨ordinal, code, rfl, refused⟩ := refusing other rfl
        exact ⟨follows.trans reopens, .error _ (.refused ordinal code (refused.since recorded))⟩
      | ok fresh =>
        rw [found] at ran replaced
        obtain ⟨last, final, settled, later, ranLater, recordedLater, _⟩ :=
          executeUpTo_retries command further reopened { use with session := fresh }
        have whole := ranLater.symm.trans ran
        cases whole
        obtain ⟨middle, heardFirst, heardRest⟩ := hears.split sent (opening ++ later) recorded
          (by rw [recordedLater, extended, List.append_assoc])
        obtain ⟨other, heardSecond, heardLater⟩ :=
          heardRest.split opening later extended recordedLater
        obtain ⟨follows, _, same⟩ :=
          executeOnce_follows standard entitled inStep once heardFirst
        have kept := entitled.same (same fault rfl) (congrArg Binding.kind binding)
        obtain ⟨reopens, _, secrets, kind, active⟩ :=
          replaceSession_follows kept follows.inStep replaced heardSecond
        obtain ⟨goesOn, harmless⟩ :=
          inductionHypothesis (kept.same secrets kind) reopens.inStep ranLater heardLater
        have sameKind : fresh.kind = use.session.kind :=
          kind.trans (congrArg Binding.kind binding)
        refine ⟨(follows.trans reopens).trans goesOn, fun fault failed => ?_⟩
        exact ((harmless fault failed).mono fun _ unsendable =>
          unsendable.of_kind (active rfl) sameKind).since (extended.trans (by
            rw [recorded, List.append_assoc]))
    · rw [executeUpTo_of_final command _ _ _ first once busy] at ran
      cases ran
      obtain ⟨follows, harmless, _⟩ := executeOnce_follows standard entitled inStep once hears
      exact ⟨follows, harmless⟩

end Dispatch

end TrustedPlatform

import Mathlib.Data.List.Forall2
import TrustedPlatform.Proofs.Client.Course
import TrustedPlatform.Proofs.Client.Masking

/-!
# What secrets change of a request

Two attempts that begin alike but for a secret are compared.  Which bytes of a request a secret can
reach is said by places (`Bytes.AgreeOutside`).  Making up a command does not look at the secret of
the entity (`AuthorizedCall.prepare_ignoresSecret`), and its frame does only for the authorization
at the end (`Command.frame_agrees`), and not even for that where the session has a secret of its own
(`Dispatch.executeOnce_secret`).  A new secret changes its own block of the parameters, and with it
the authorization.  All of this is `AuthorizedCall.secretsHidden`.
-/

set_option autoImplicit false

namespace TrustedPlatform

namespace Bytes

/-- Two byte strings of one length with the same bytes outside some places. -/
structure AgreeOutside (varies : Nat → Prop) (first second : Bytes) : Prop where
  length_eq : first.length = second.length
  getElem?_eq : ∀ place, ¬ varies place → first[place]? = second[place]?

namespace AgreeOutside

variable {varies also : Nat → Prop} {first second third fourth : Bytes}

theorem same (varies : Nat → Prop) (bytes : Bytes) : AgreeOutside varies bytes bytes :=
  ⟨rfl, fun _ _ => rfl⟩

theorem of_length (lengths : first.length = second.length) :
    AgreeOutside (fun _ => True) first second :=
  ⟨lengths, fun _ outside => absurd trivial outside⟩

theorem mono (agree : AgreeOutside varies first second)
    (within : ∀ place, place < first.length → varies place → also place) :
    AgreeOutside also first second := by
  refine ⟨agree.length_eq, fun place outside => ?_⟩
  by_cases inside : place < first.length
  · exact agree.getElem?_eq place fun varied => outside (within place inside varied)
  · rw [List.getElem?_eq_none (Nat.le_of_not_lt inside),
      List.getElem?_eq_none (agree.length_eq ▸ Nat.le_of_not_lt inside)]

theorem append (front : AgreeOutside varies first second) (back : AgreeOutside also third fourth) :
    AgreeOutside
      (fun place => place < first.length ∧ varies place ∨
        first.length ≤ place ∧ also (place - first.length))
      (first ++ third) (second ++ fourth) := by
  refine ⟨?_, fun place outside => ?_⟩
  · rw [List.length_append, List.length_append, front.length_eq, back.length_eq]
  · by_cases inside : place < first.length
    · rw [List.getElem?_append_left inside,
        List.getElem?_append_left (front.length_eq ▸ inside)]
      exact front.getElem?_eq place fun varied => outside (Or.inl ⟨inside, varied⟩)
    · have behind := Nat.le_of_not_lt inside
      rw [List.getElem?_append_right behind,
        List.getElem?_append_right (front.length_eq ▸ behind), ← front.length_eq]
      exact back.getElem?_eq _ fun varied => outside (Or.inr ⟨behind, varied⟩)

end AgreeOutside

end Bytes

/-- Masked by the same, two secrets may differ in every byte, but only if they differ. -/
theorem Secret.conceal_agrees (shared : Secret) (nonce : Digest) (secret other : Secret) :
    Bytes.AgreeOutside (fun _ => secret ≠ other) (conceal shared nonce secret).bytes
      (conceal shared nonce other).bytes := by
  refine ⟨by rw [Block.length_bytes, Block.length_bytes], fun place same => ?_⟩
  rw [Decidable.not_not.mp same]

namespace Command

def head (command : Command) (size : Nat) : Bytes :=
  Bytes.word16 Tag.requestOneTrailer.code ++
    Bytes.bigEndian 4 (headerSize + 4 * command.handles.length + size + RequestTrailer.size) ++
    Bytes.word32 command.ordinal.code ++ command.handles.flatMap Bytes.word32

theorem length_head (command : Command) (size : Nat) :
    (command.head size).length = headerSize + 4 * command.handles.length := by
  rw [head, List.length_append, List.length_append, List.length_append, Bytes.length_word16,
    Bytes.length_bigEndian, Bytes.length_word32, Bytes.length_flatMap_word32]
  rfl

/-- The parts of a frame.  The secret of the entity is looked at for the last one only. -/
theorem frame_eq (command : Command) (use : SessionUse) (parameters : Bytes) (nonceOdd : Digest) :
    command.frame use parameters nonceOdd =
      command.head parameters.length ++ (parameters ++
        (Bytes.word32 use.session.handle ++ nonceOdd.bytes ++ Bytes.flag use.continueSession ++
          (command.trailer use parameters nonceOdd).authorization.bytes)) := by
  rw [frame, Request.frame, List.flatMap_singleton, List.length_singleton, Nat.one_mul,
    RequestTrailer.encode, head]
  simp only [List.append_assoc]
  rfl

/-- The places at which the frames of a command may differ: those where its parameters do, and the
authorization at the end. -/
def Varies (command : Command) (varies : Nat → Prop) (length place : Nat) : Prop :=
  (headerSize + 4 * command.handles.length ≤ place ∧
      varies (place - (headerSize + 4 * command.handles.length))) ∨
    length ≤ place + 20

theorem varies_nowhere (command : Command) (length place : Nat)
    (varied : command.Varies (fun _ => False) length place) : length ≤ place + 20 :=
  varied.resolve_left fun inParameters => inParameters.2

/-- Two commands with the same ordinal and handles whose parameters, as they are sent under a
session, agree outside some places, or cannot be sent. -/
structure AlikeUnder (use : SessionUse) (varies : Nat → Prop) (command other : Command) : Prop where
  ordinal : other.ordinal = command.ordinal
  handles : other.handles = command.handles
  parameters : Option.Rel (Bytes.AgreeOutside varies)
    (command.sealedParameters (some use)).toOption (other.sealedParameters (some use)).toOption

theorem AlikeUnder.same (use : SessionUse) (command : Command) :
    AlikeUnder use (fun _ => False) command command where
  ordinal := rfl
  handles := rfl
  parameters := by
    cases (command.sealedParameters (some use)).toOption with
    | none => exact .none
    | some parameters => exact .some (.same _ parameters)

theorem alike_creatingCounter (use : SessionUse) (secret other : Secret) (label : Block 4) :
    AlikeUnder use (fun place => place < 20) (creatingCounter secret label)
      (creatingCounter other label) where
  ordinal := rfl
  handles := rfl
  parameters := by
    unfold sealedParameters
    cases known : use.session.binding.shared? with
    | none =>
      dsimp only [creatingCounter]
      rw [known]
      exact .none
    | some shared =>
      dsimp only [creatingCounter]
      rw [known]
      refine .some (((Secret.conceal_agrees shared use.session.nonceEven secret other).append
        (.same (fun _ => False) label.bytes)).mono fun place _ varied => ?_)
      rw [Block.length_bytes] at varied
      exact varied.elim And.left fun impossible => impossible.2.elim

theorem alike_creatingKey (use : SessionUse) (parent : UInt32) (shared : Secret)
    (nonceEven nonceOdd : Digest) (usage otherUsage migration otherMigration : Secret)
    (written : Bytes) :
    AlikeUnder use
      (fun place => (usage ≠ otherUsage ∧ place < 20) ∨
        (migration ≠ otherMigration ∧ 20 ≤ place ∧ place < 40))
      (creatingKey parent ((Secret.conceal shared nonceEven usage).bytes ++
        (Secret.conceal shared nonceOdd migration).bytes ++ written))
      (creatingKey parent ((Secret.conceal shared nonceEven otherUsage).bytes ++
        (Secret.conceal shared nonceOdd otherMigration).bytes ++ written)) where
  ordinal := rfl
  handles := rfl
  parameters := by
    refine .some ((((Secret.conceal_agrees shared nonceEven usage otherUsage).append
      (Secret.conceal_agrees shared nonceOdd migration otherMigration)).append
        (.same (fun _ => False) written)).mono fun place _ varied => ?_)
    rw [List.length_append, Block.length_bytes, Block.length_bytes] at varied
    rcases varied with ⟨_, ⟨first, differs⟩ | ⟨second, differs⟩⟩ | ⟨_, impossible⟩
    · exact Or.inl ⟨differs, first⟩
    · exact Or.inr ⟨differs, second, by omega⟩
    · exact impossible.elim

theorem frame_agrees (command other : Command) (use : SessionUse) (secret : Secret)
    (ordinal : other.ordinal = command.ordinal) (handles : other.handles = command.handles)
    (varies : Nat → Prop) (parameters otherParameters : Bytes)
    (agree : Bytes.AgreeOutside varies parameters otherParameters) (nonceOdd : Digest) :
    Bytes.AgreeOutside
      (command.Varies varies (command.frame use parameters nonceOdd).length)
      (command.frame use parameters nonceOdd)
      (other.frame { use with secret } otherParameters nonceOdd) := by
  have heads : other.head otherParameters.length = command.head parameters.length := by
    rw [head, head, ordinal, handles, agree.length_eq]
  have opening : (Bytes.word32 use.session.handle ++ nonceOdd.bytes ++
      Bytes.flag use.continueSession).length = 25 := by
    rw [List.length_append, List.length_append, Bytes.length_word32, Block.length_bytes,
      Bytes.length_flag]
  have authorizations : Bytes.AgreeOutside (fun _ => True)
      (command.trailer use parameters nonceOdd).authorization.bytes
      (other.trailer { use with secret } otherParameters nonceOdd).authorization.bytes :=
    .of_length (by rw [Block.length_bytes, Block.length_bytes])
  have total := command.length_frame use parameters nonceOdd
  rw [RequestTrailer.size] at total
  -- The places count from the end of the frame, so its length is left as it is.
  rw [frame_eq other, heads]
  conv =>
    arg 2
    rw [frame_eq]
  refine ((Bytes.AgreeOutside.same (fun _ => False) _).append
    (agree.append ((Bytes.AgreeOutside.same (fun _ => False) _).append authorizations))).mono ?_
  intro place _ varied
  have front := command.length_head parameters.length
  rw [opening, front] at varied
  rcases varied with
    ⟨_, impossible⟩ | ⟨behind, ⟨_, inParameters⟩ | ⟨past, ⟨_, impossible⟩ | ⟨last, _⟩⟩⟩
  · exact impossible.elim
  · exact Or.inl ⟨behind, inParameters⟩
  · exact impossible.elim
  · right
    omega

/-- What is sent for a new secret is masked by the session, not by the entity. -/
theorem sealedParameters_secret (command : Command) (use : SessionUse) (secret : Secret) :
    command.sealedParameters (some { use with secret }) =
      command.sealedParameters (some use) := by
  unfold sealedParameters
  cases command.newSecret with
  | none => rfl
  | some newSecret => rfl

/-- Under a session with a secret of its own, a frame is the same whatever the entity's secret. -/
theorem frame_secret (command : Command) (use : SessionUse) (secret shared : Secret)
    (known : use.session.binding.shared? = some shared) (parameters : Bytes) (nonceOdd : Digest) :
    command.frame { use with secret } parameters nonceOdd =
      command.frame use parameters nonceOdd := by
  unfold frame trailer Session.trailer
  simp only [use.session.binding.key_of_shared known]

theorem frame?_agrees (command other : Command) (use : SessionUse) (secret : Secret)
    (nonces : NonceSource) (varies : Nat → Prop) (alike : AlikeUnder use varies command other) :
    Option.Rel (fun frame another =>
        frame.AgreeOutside (command.Varies varies frame.length) another)
      (command.frame? use nonces) (other.frame? { use with secret } nonces) := by
  have agree := alike.parameters
  unfold frame?
  rw [sealedParameters_secret other]
  generalize (command.sealedParameters (some use)).toOption = parameters? at agree ⊢
  generalize (other.sealedParameters (some use)).toOption = others? at agree ⊢
  cases agree with
  | none => exact .none
  | @some parameters others agree =>
    cases (use.session.nextNonceOdd nonces).1.toOption with
    | none => exact .none
    | some nonceOdd =>
      have frames := command.frame_agrees other use secret alike.ordinal alike.handles varies _ _
        agree nonceOdd
      show Option.Rel _ (if _ then _ else _) (if _ then _ else _)
      rw [← frames.length_eq]
      split
      · exact .some frames
      · exact .none

end Command

theorem SessionUse.conclude_secret (use : SessionUse) (secret shared : Secret)
    (known : use.session.binding.shared? = some shared) (command : Command) (nonceOdd : Digest)
    (answer : Except Fault Bytes) :
    ({ use with secret } : SessionUse).conclude command nonceOdd answer =
      use.conclude command nonceOdd answer := by
  have verified : ∀ digest received,
      use.session.verify command.ordinal secret digest nonceOdd received =
        use.session.verify command.ordinal use.secret digest nonceOdd received := by
    intro digest received
    unfold Session.verify
    simp only [use.session.binding.key_of_shared known]
  unfold SessionUse.conclude
  simp only [verified]

variable {σ : Type}

namespace Link

/-- Two runs from one link record requests that go together one by one, and each two agree outside
places that depend on their length. -/
def SendAlike (varies : Nat → Nat → Prop) (link first second : Link (Tapped σ)) : Prop :=
  ∃ sent others, first.record = link.record ++ sent ∧ second.record = link.record ++ others ∧
    List.Forall₂ (fun exchange another =>
      exchange.request.AgreeOutside (varies exchange.request.length) another.request) sent others

namespace SendAlike

theorem silent (varies : Nat → Nat → Prop) (link : Link (Tapped σ)) :
    SendAlike varies link link link :=
  ⟨[], [], (List.append_nil _).symm, (List.append_nil _).symm, .nil⟩

theorem mono {varies also : Nat → Nat → Prop} {link first second : Link (Tapped σ)}
    (alike : SendAlike varies link first second)
    (within : ∀ length place, varies length place → also length place) :
    SendAlike also link first second := by
  obtain ⟨sent, others, recorded, recordedAlso, agree⟩ := alike
  refine ⟨sent, others, recorded, recordedAlso, agree.imp fun exchange another requests => ?_⟩
  exact requests.mono fun place _ => within exchange.request.length place

/-- Whether a link is opened anew does not depend on what is to be sent. -/
theorem of_frames [Channel σ] (varies : Nat → Nat → Prop) (link : Link (Tapped σ))
    (frame? another? : Option Bytes)
    (agree : Option.Rel (fun frame another => frame.AgreeOutside (varies frame.length) another)
      frame? another?) :
    SendAlike varies link
      (frame?.elim link fun frame => ((transmit frame).run link).2)
      (another?.elim link fun another => ((transmit another).run link).2) := by
  cases agree with
  | none => exact silent varies link
  | some agree =>
    refine ⟨_, _, record_transmit _ link, record_transmit _ link, ?_⟩
    cases ((renew : Action Fault (Link (Tapped σ)) Unit).run link).1 with
    | error fault => exact .nil
    | ok _ => exact .cons agree .nil

end SendAlike

end Link

namespace Dispatch

theorem sendAlike_executeOnce [Channel σ] (command other : Command) (client : Client (Tapped σ))
    (use : SessionUse) (secret : Secret) (varies : Nat → Prop)
    (alike : Command.AlikeUnder use varies command other) :
    Link.SendAlike (command.Varies varies) client.link
      ((executeOnce command).run ⟨client, some use⟩).2.client.link
      ((executeOnce other).run ⟨client, some { use with secret }⟩).2.client.link := by
  rw [link_executeOnce, link_executeOnce]
  exact .of_frames _ _ _ _ (command.frame?_agrees other use secret client.nonces varies alike)

/-- Where the session has a secret of its own, nothing that an attempt comes to depends on that of
the entity. -/
theorem executeOnce_secret [Channel σ] (command : Command) (client : Client σ) (use : SessionUse)
    (shared : Secret) (known : use.session.binding.shared? = some shared) :
    ∃ outcome after session, ∀ secret,
      (executeOnce command).run ⟨client, some { use with secret }⟩ =
        (outcome, ⟨after, some { use with session, secret }⟩) := by
  cases isSealed : command.sealedParameters (some use) with
  | error fault =>
    exact ⟨.error fault, client, use.session, fun secret =>
      executeOnce_of_unsealed command ⟨client, some { use with secret }⟩ fault
        ((command.sealedParameters_secret use secret).trans isSealed)⟩
  | ok parameters =>
    have sealedAlso : ∀ secret,
        command.sealedParameters (some { use with secret }) = .ok parameters :=
      fun secret => (command.sealedParameters_secret use secret).trans isSealed
    rcases use.session.draw_cases client.nonces with
      inactive | repeats | ⟨active, nonceOdd, drawn, nonces, draw⟩
    · exact ⟨_, _, _, fun secret => executeOnce_of_unauthorized command client
        { use with secret } parameters _ _ _ (sealedAlso secret)
        (use.session.authorize_of_not_active _ _ _ _ inactive)⟩
    · exact ⟨_, _, _, fun secret => executeOnce_of_unauthorized command client
        { use with secret } parameters _ _ _ (sealedAlso secret)
        (use.session.authorize_of_repeats _ _ _ _ repeats)⟩
    · have frames secret := command.frame_secret use secret shared known parameters nonceOdd
      by_cases fits : (command.frame use parameters nonceOdd).length < Bytes.capacity 4
      · cases transmitted :
            (Link.transmit (command.frame use parameters nonceOdd)).run client.link with
        | mk answer link =>
          have spent : drawn.spent.binding.shared? = some shared := by
            rw [← known, ← draw.binding_eq]
            rfl
          cases concluded : ({ use with session := drawn.spent } : SessionUse).conclude command
              nonceOdd answer with
          | mk outcome after =>
            have concludedAlso secret := (SessionUse.conclude_secret
              { use with session := drawn.spent } secret shared spent command nonceOdd
                answer).trans concluded
            exact ⟨outcome, _, after, fun secret => executeOnce_of_exchanged command client
              { use with secret } parameters nonceOdd drawn nonces answer link outcome after
              (sealedAlso secret) active draw (by rw [frames]; exact fits)
              (by rw [frames]; exact transmitted) (concludedAlso secret)⟩
      · refine ⟨.error (.encoding .requestTooLarge), { client with nonces }, drawn.spent,
          fun secret => ?_⟩
        rw [executeOnce_of_draw command client { use with secret } parameters nonceOdd drawn nonces
          (sealedAlso secret) active draw, frames, if_neg fits]

end Dispatch

namespace AuthorizedCall

def attemptOnce [Channel σ] (call : AuthorizedCall) : Action Fault (Dispatch σ) Reply :=
  prepare call >>= Dispatch.executeOnce

/-- What an action makes of a session does not depend on the secret of the entity, nor does what it
returns. -/
def IgnoresSecret {α : Type} (action : Action Fault (Dispatch σ) α) : Prop :=
  ∀ (client : Client σ) (use : SessionUse), ∃ (outcome : Except Fault α) (nonces : NonceSource)
      (session : Session), session.binding = use.session.binding ∧
    ∀ secret, action.run ⟨client, some { use with secret }⟩ =
      (outcome, ⟨{ client with nonces }, some { use with session, secret }⟩)

namespace IgnoresSecret

variable {α β : Type}

theorem ofExcept (outcome : Except Fault α) :
    IgnoresSecret (Action.ofExcept outcome : Action Fault (Dispatch σ) α) :=
  fun client use => ⟨outcome, client.nonces, use.session, rfl, fun _ => rfl⟩

theorem pure (value : α) : IgnoresSecret (Pure.pure value : Action Fault (Dispatch σ) α) :=
  ofExcept (.ok value)

theorem bind (first : Action Fault (Dispatch σ) α) (next : α → Action Fault (Dispatch σ) β)
    (ignores : IgnoresSecret first) (nextIgnores : ∀ value, IgnoresSecret (next value)) :
    IgnoresSecret (first >>= next) := by
  intro client use
  obtain ⟨outcome, nonces, session, binding, ran⟩ := ignores client use
  cases outcome with
  | error fault =>
    refine ⟨.error fault, nonces, session, binding, fun secret => ?_⟩
    rw [Action.run_bind, ran]
  | ok value =>
    obtain ⟨outcome, rest, last, bindingLast, ranNext⟩ :=
      nextIgnores value { client with nonces } { use with session }
    refine ⟨outcome, rest, last, bindingLast.trans binding, fun secret => ?_⟩
    rw [Action.run_bind, ran]
    exact ranNext secret

theorem maskingSecret (allowed : Entity → Bool) (otherwise : EncodingCause) :
    IgnoresSecret (Dispatch.maskingSecret allowed otherwise :
      Action Fault (Dispatch σ) (Secret × Digest)) := by
  intro client use
  exact ⟨use.session.masking allowed otherwise, client.nonces, use.session, rfl, fun secret =>
    Dispatch.run_maskingSecret_eq client { use with secret } allowed otherwise⟩

theorem nextNonceOdd :
    IgnoresSecret (Dispatch.nextNonceOdd : Action Fault (Dispatch σ) Digest) := by
  intro client use
  cases drew : use.session.nextNonceOdd client.nonces with
  | mk outcome rest =>
    obtain ⟨session, nonces⟩ := rest
    exact ⟨outcome, nonces, session, (Session.nextNonceOdd_leaves _ _ _ _ _ drew).2.1,
      fun secret =>
        Dispatch.run_nextNonceOdd client { use with secret } outcome session nonces drew⟩

end IgnoresSecret

theorem prepare_ignoresSecret (call : AuthorizedCall) :
    IgnoresSecret (prepare call : Action Fault (Dispatch σ) Command) := by
  cases call with
  | loadKey older parent key => exact .bind _ _ (.ofExcept _) fun _ => .pure _
  | publicKey handle => exact .pure _
  | createKey parent usage migration template =>
    exact .bind _ _ (.maskingSecret _ _) fun _ => .bind _ _ .nextNonceOdd fun _ =>
      .bind _ _ (.ofExcept _) fun _ => .pure _
  | sign handle message => exact .bind _ _ (.ofExcept _) fun _ => .pure _
  | createCounter secret label => exact .bind _ _ (.maskingSecret _ _) fun _ => .pure _
  | incrementCounter number => exact .pure _
  | releaseCounter byOwner number => exact .pure _
  | writeIntegrity index value => exact .pure _
  | signedAudit key close antiReplay => exact .pure _
  | setAudited ordinal audited => exact .pure _

theorem attemptOnce_secret [Channel σ] (call : AuthorizedCall) (client : Client σ)
    (use : SessionUse) (shared : Secret) (known : use.session.binding.shared? = some shared) :
    ∃ outcome after session, ∀ secret,
      (attemptOnce call).run ⟨client, some { use with secret }⟩ =
        (outcome, ⟨after, some { use with session, secret }⟩) := by
  obtain ⟨made, nonces, session, binding, prepared⟩ := call.prepare_ignoresSecret client use
  cases made with
  | error fault =>
    refine ⟨.error fault, { client with nonces }, session, fun secret => ?_⟩
    rw [attemptOnce, Action.run_bind, prepared]
  | ok command =>
    obtain ⟨outcome, after, last, ran⟩ := Dispatch.executeOnce_secret command
      { client with nonces } { use with session } shared (by rw [binding, known])
    refine ⟨outcome, after, last, fun secret => ?_⟩
    rw [attemptOnce, Action.run_bind, prepared]
    exact ran secret

theorem sendAlike_attemptOnce [Channel σ] (call other : AuthorizedCall)
    (client : Client (Tapped σ)) (use : SessionUse) (secret : Secret) (wanted : Nat → Nat → Prop)
    (made madeAlso : Except Fault Command) (nonces : NonceSource) (session : Session)
    (prepared : (prepare call).run ⟨client, some use⟩ =
      (made, ⟨{ client with nonces }, some { use with session }⟩))
    (preparedAlso : (prepare other).run ⟨client, some { use with secret }⟩ =
      (madeAlso, ⟨{ client with nonces }, some { use with session, secret }⟩))
    (alike : Option.Rel (fun command another => ∃ varies,
        Command.AlikeUnder { use with session } varies command another ∧
          ∀ length place, command.Varies varies length place → wanted length place)
      made.toOption madeAlso.toOption) :
    Link.SendAlike wanted client.link
      ((attemptOnce call).run ⟨client, some use⟩).2.client.link
      ((attemptOnce other).run ⟨client, some { use with secret }⟩).2.client.link := by
  unfold attemptOnce
  rw [Action.run_bind, Action.run_bind, prepared, preparedAlso]
  cases made with
  | error fault =>
    cases madeAlso with
    | error another => exact .silent wanted client.link
    | ok another => cases alike
  | ok command =>
    cases madeAlso with
    | error fault => cases alike
    | ok another =>
      cases alike with
      | some agree =>
        obtain ⟨varies, under, within⟩ := agree
        exact (Dispatch.sendAlike_executeOnce command another { client with nonces }
          { use with session } secret varies under).mono within

theorem prepare_createCounter (client : Client σ) (use : SessionUse) (label : Block 4) :
    ∃ masked : Except Fault Unit, ∀ secret,
      (prepare (.createCounter secret label)).run ⟨client, some use⟩ =
        (masked.map fun _ => .creatingCounter secret label, ⟨client, some use⟩) := by
  refine ⟨(use.session.masking (fun entity => decide (entity.kind = .owner))
    .counterNeedsOwnerSession).map fun _ => (), fun secret => ?_⟩
  unfold prepare
  rw [Action.run_bind, Dispatch.run_maskingSecret_eq]
  cases use.session.masking (fun entity => decide (entity.kind = .owner))
      .counterNeedsOwnerSession with
  | error fault => rfl
  | ok secrets => rfl

/-- The secrets of a new key are masked by what is known before they are looked at. -/
theorem prepare_createKey (client : Client σ) (use : SessionUse) (parent : UInt32)
    (template : KeyBlob) :
    ∃ (drawn : Except Fault (Secret × Digest × Digest × Bytes)) (nonces : NonceSource)
        (session : Session), ∀ usage migration,
      (prepare (.createKey parent usage migration template)).run ⟨client, some use⟩ =
        (drawn.map fun (shared, nonceEven, nonceOdd, written) =>
            .creatingKey parent ((Secret.conceal shared nonceEven usage).bytes ++
              (Secret.conceal shared nonceOdd migration).bytes ++ written),
          ⟨{ client with nonces }, some { use with session }⟩) := by
  cases masked : use.session.masking (fun _ => true) .keyNeedsParentSession with
  | error fault =>
    refine ⟨.error fault, client.nonces, use.session, fun usage migration => ?_⟩
    unfold prepare
    rw [Action.run_bind, Dispatch.run_maskingSecret_eq, masked]
    rfl
  | ok secrets =>
    obtain ⟨shared, nonceEven⟩ := secrets
    cases drew : use.session.nextNonceOdd client.nonces with
    | mk outcome rest =>
      obtain ⟨session, nonces⟩ := rest
      refine ⟨outcome >>= fun nonceOdd => template.encode.map fun written =>
        (shared, nonceEven, nonceOdd, written), nonces, session, fun usage migration => ?_⟩
      unfold prepare
      rw [Action.run_bind, Dispatch.run_maskingSecret_eq, masked]
      dsimp only
      rw [Action.run_bind, Dispatch.run_nextNonceOdd client use _ _ _ drew]
      cases outcome with
      | error fault => rfl
      | ok nonceOdd =>
        dsimp only
        rw [Action.run_bind, Action.run_ofExcept]
        cases template.encode with
        | error fault => rfl
        | ok written => rfl

/-- What an attempt sends reveals its secrets in their places only.  Another secret of the entity
changes the authorization at the end of a request, for every command and every call; and under a
session for one entity it changes nothing at all, neither what is sent nor what becomes of the
response.  Another secret of a new counter changes its block, the first of the parameters, and the
authorization; and so does either secret of a new key, each with a block of its own. -/
theorem secretsHidden [Channel σ] (client : Client (Tapped σ)) (use : SessionUse) :
    (∀ secret,
      (∀ command, Link.SendAlike (fun length place => length ≤ place + 20) client.link
        ((Dispatch.executeOnce command).run ⟨client, some use⟩).2.client.link
        ((Dispatch.executeOnce command).run ⟨client, some { use with secret }⟩).2.client.link) ∧
      ∀ call, Link.SendAlike (fun length place => length ≤ place + 20) client.link
        ((attemptOnce call).run ⟨client, some use⟩).2.client.link
        ((attemptOnce call).run ⟨client, some { use with secret }⟩).2.client.link) ∧
    (∀ entity, use.session.kind = .osap entity →
      (∀ command, ∃ outcome after session, ∀ secret,
        (Dispatch.executeOnce command).run ⟨client, some { use with secret }⟩ =
          (outcome, ⟨after, some { use with session, secret }⟩)) ∧
      ∀ call, ∃ outcome after session, ∀ secret,
        (attemptOnce call).run ⟨client, some { use with secret }⟩ =
          (outcome, ⟨after, some { use with session, secret }⟩)) ∧
    (∀ secret other label,
      Link.SendAlike
        (fun length place => 10 ≤ place ∧ place < 30 ∨ length ≤ place + 20) client.link
        ((attemptOnce (.createCounter secret label)).run ⟨client, some use⟩).2.client.link
        ((attemptOnce (.createCounter other label)).run ⟨client, some use⟩).2.client.link) ∧
    ∀ parent usage otherUsage migration otherMigration template,
      Link.SendAlike
        (fun length place => (usage ≠ otherUsage ∧ 14 ≤ place ∧ place < 34) ∨
          (migration ≠ otherMigration ∧ 34 ≤ place ∧ place < 54) ∨ length ≤ place + 20)
        client.link
        ((attemptOnce (.createKey parent usage migration template)).run
          ⟨client, some use⟩).2.client.link
        ((attemptOnce (.createKey parent otherUsage otherMigration template)).run
          ⟨client, some use⟩).2.client.link := by
  refine ⟨fun secret => ⟨fun command => ?_, fun call => ?_⟩, fun entity bound => ?_,
    fun secret other label => ?_,
    fun parent usage otherUsage migration otherMigration template => ?_⟩
  · exact (Dispatch.sendAlike_executeOnce command command client use secret _
      (.same use command)).mono command.varies_nowhere
  · obtain ⟨made, nonces, session, _, prepared⟩ := call.prepare_ignoresSecret client use
    refine sendAlike_attemptOnce call call client use secret _ made made nonces session
      (prepared use.secret) (prepared secret) ?_
    cases made with
    | error fault => exact .none
    | ok command => exact .some ⟨_, .same _ command, command.varies_nowhere⟩
  · obtain ⟨shared, known⟩ := use.session.binding.shared?_of_kind bound
    exact ⟨fun command => Dispatch.executeOnce_secret command client use shared known,
      fun call => call.attemptOnce_secret client use shared known⟩
  · obtain ⟨masked, prepared⟩ := prepare_createCounter client use label
    refine sendAlike_attemptOnce _ _ client use use.secret _ _ _ client.nonces use.session
      (prepared secret) (prepared other) ?_
    cases masked with
    | error fault => exact .none
    | ok _ =>
      refine .some ⟨_, Command.alike_creatingCounter use secret other label, ?_⟩
      have front :
          headerSize + 4 * (Command.creatingCounter secret label).handles.length = 10 := rfl
      rintro length place (⟨behind, within⟩ | last)
      · rw [front] at behind within
        exact Or.inl ⟨behind, by omega⟩
      · exact Or.inr last
  · obtain ⟨drawn, nonces, session, prepared⟩ := prepare_createKey client use parent template
    refine sendAlike_attemptOnce _ _ client use use.secret _ _ _ nonces session
      (prepared usage migration) (prepared otherUsage otherMigration) ?_
    cases drawn with
    | error fault => exact .none
    | ok known =>
      obtain ⟨shared, nonceEven, nonceOdd, written⟩ := known
      refine .some ⟨_, Command.alike_creatingKey { use with session } parent shared nonceEven
        nonceOdd usage otherUsage migration otherMigration written, ?_⟩
      have front parameters :
          headerSize + 4 * (Command.creatingKey parent parameters).handles.length = 14 := rfl
      rintro length place (⟨behind, ⟨differs, within⟩ | ⟨differs, after, within⟩⟩ | last)
      · rw [front] at behind within
        exact Or.inl ⟨differs, behind, by omega⟩
      · rw [front] at behind after within
        exact Or.inr (Or.inl ⟨differs, by omega, by omega⟩)
      · exact Or.inr (Or.inr last)

/-- A request under a session for the owner: it is sent, and it is the same whatever secret the
owner has. -/
theorem secretsHidden_of_owner_session :
    let session := Session.osap 7 (.replicate 20 1) ⟨.owner, 0x40000001⟩ .wellKnown
      (.replicate 20 2) (.replicate 20 3)
    let use : SessionUse := ⟨session, .wellKnown, true⟩
    let refusal := Bytes.word16 0xc4 ++ Bytes.bigEndian 4 10 ++ Bytes.word32 2
    let client : Client (Tapped Script) :=
      .fresh ⟨.ofEntries [.answer refusal], none, []⟩
        ⟨fun number => .replicate 20 (.ofNat (10 + number)), 0⟩ 1
    let command : Command := { ordinal := .incrementCounter, parameters := Bytes.word32 3 }
    session.kind = .osap ⟨.owner, 0x40000001⟩ ∧
      ∃ exchange outcome after left,
        after.link.record = client.link.record ++ [exchange] ∧
        ∀ secret, (Dispatch.executeOnce command).run ⟨client, some { use with secret }⟩ =
          (outcome, ⟨after, some { use with session := left, secret }⟩) := by
  intro session use refusal client command
  have bound : session.kind = .osap ⟨.owner, 0x40000001⟩ := rfl
  obtain ⟨outcome, after, left, same⟩ := ((secretsHidden client use).2.1 _ bound).1 command
  have sendable : command.Sendable use.session.kind := ⟨nofun, by decide⟩
  have drawsNew : ¬ session.Repeats client.nonces := fun repeats =>
    absurd repeats.issued (by decide)
  obtain ⟨parameters, nonceOdd, answer, sent, _⟩ :=
    Dispatch.executeOnce_sends command client use sendable rfl rfl drawsNew
  have ran : (Dispatch.executeOnce command).run ⟨client, some use⟩ =
    (outcome, ⟨after, some { use with session := left }⟩) := same use.secret
  rw [ran] at sent
  exact ⟨bound, _, outcome, after, left, sent, same⟩

end AuthorizedCall

end TrustedPlatform

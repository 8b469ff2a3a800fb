import TrustedPlatform.Client.Counter
import TrustedPlatform.Proofs.Client.Sending
import TrustedPlatform.Proofs.Client.Story

/-!
# Secrets on their way

A new secret goes masked, and only who holds the session that the request goes under can take the
mask off.  What such a holder finds in a request is said without looking at how the request was made
(`Session.CarriesKey`, `Session.CarriesCounter`).  Both secrets of a new key and that of a new
counter arrive as they are: `Dispatch.secretsArrive`.
-/

set_option autoImplicit false

namespace TrustedPlatform

namespace Session

/-- Some bytes are a request under a session: its trailer names the session, and proves the shared
secret over the parameters and the nonces of both sides. -/
structure Authorizes (session : Session) (shared : Secret) (ordinal : Ordinal)
    (handles : List UInt32) (parameters : Bytes) (trailer : RequestTrailer) (bytes : Bytes) :
    Prop where
  reads : Request.Reads bytes ⟨ordinal, handles, parameters, [trailer]⟩
  named : trailer.handle = session.handle
  proved : trailer.authorization =
    shared.authorize (Secret.requestDigest ordinal parameters) session.nonceEven trailer.nonceOdd
      trailer.continueSession

/-- A request for a new key in which both secrets are found: the one for its use by the session's
even nonce, the one for its migration by the odd nonce of the request's own trailer. -/
def CarriesKey (session : Session) (shared : Secret) (parent : UInt32) (usage migration : Secret)
    (template bytes : Bytes) : Prop :=
  ∃ (first second : Digest) (trailer : RequestTrailer),
    session.Authorizes shared .createWrapKey [parent] (first.bytes ++ second.bytes ++ template)
      trailer bytes ∧
    shared.reveal session.nonceEven first = usage ∧
    shared.reveal trailer.nonceOdd second = migration

/-- A request for a new counter in which its secret is found by the session's even nonce. -/
def CarriesCounter (session : Session) (secret : Secret) (label : Block 4) (bytes : Bytes) : Prop :=
  ∃ (shared : Secret) (masked : Digest) (trailer : RequestTrailer),
    session.binding.shared? = some shared ∧
    session.Authorizes shared .createCounter [] (masked.bytes ++ label.bytes) trailer bytes ∧
    shared.reveal session.nonceEven masked = secret

def masking (session : Session) (allowed : Entity → Bool) (otherwise : EncodingCause) :
    Except Fault (Secret × Digest) :=
  match session.binding with
  | .oiap => .error (.encoding otherwise)
  | .osap entity shared =>
    if allowed entity then .ok (shared, session.nonceEven) else .error (.encoding otherwise)

end Session

namespace Command

/-- The frame of a command under a session for one entity is a request under that session. -/
theorem authorizes_frame (command : Command) (use : SessionUse) (parameters : Bytes)
    (nonceOdd : Digest) (shared : Secret) (known : use.session.binding.shared? = some shared)
    (handles : command.handles.length = command.ordinal.handleCount) :
    use.session.Authorizes shared command.ordinal command.handles parameters
      (command.trailer use parameters nonceOdd) (command.frame use parameters nonceOdd) where
  reads := command.reads_frame use parameters nonceOdd handles
  named := rfl
  proved := by
    rw [← use.session.binding.key_of_shared known use.secret]
    rfl

def creatingKey (parent : UInt32) (parameters : Bytes) : Command where
  ordinal := .createWrapKey
  handles := [parent]
  parameters := parameters

def creatingCounter (secret : Secret) (label : Block 4) : Command where
  ordinal := .createCounter
  parameters := label.bytes
  newSecret := some secret

theorem sendable_creatingCounter (secret : Secret) (label : Block 4) (kind : SessionKind)
    (bound : kind ≠ .oiap) : (creatingCounter secret label).Sendable kind where
  maskable _ := bound
  fits := by
    show headerSize + 4 * 0 + (20 + label.bytes.length) + RequestTrailer.size < Bytes.capacity 4
    rw [Block.length_bytes]
    decide

theorem carriesCounter_frame (secret : Secret) (label : Block 4) (use : SessionUse)
    (parameters : Bytes) (nonceOdd : Digest)
    (carried : (creatingCounter secret label).Carried use.session parameters) :
    use.session.CarriesCounter secret label
      ((creatingCounter secret label).frame use parameters nonceOdd) := by
  obtain ⟨shared, masked, known, rfl, revealed⟩ := carried
  exact ⟨shared, masked, _, known,
    (creatingCounter secret label).authorizes_frame use _ nonceOdd shared known rfl, revealed⟩

end Command

namespace Dispatch

variable {σ : Type} [Channel σ]

omit [Channel σ] in
theorem run_maskingSecret_eq (client : Client σ) (use : SessionUse) (allowed : Entity → Bool)
    (otherwise : EncodingCause) :
    (maskingSecret allowed otherwise).run (⟨client, some use⟩ : Dispatch σ) =
      (use.session.masking allowed otherwise, ⟨client, some use⟩) := by
  obtain ⟨⟨_, binding, _, _, _, _, _⟩, _, _⟩ := use
  unfold maskingSecret Session.masking
  rw [Action.run_bind, Action.run_get]
  cases binding with
  | oiap => rfl
  | osap entity shared =>
    dsimp only
    split
    · rfl
    · rfl

omit [Channel σ] in
theorem run_maskingSecret (client : Client σ) (use : SessionUse) (entity : Entity)
    (shared : Secret) (bound : use.session.binding = .osap entity shared) (allowed : Entity → Bool)
    (isAllowed : allowed entity = true) (otherwise : EncodingCause) :
    (maskingSecret allowed otherwise).run (⟨client, some use⟩ : Dispatch σ) =
      (.ok (shared, use.session.nonceEven), ⟨client, some use⟩) := by
  rw [run_maskingSecret_eq, Session.masking, bound]
  dsimp only
  rw [if_pos isAllowed]

omit [Channel σ] in
theorem run_nextNonceOdd (client : Client σ) (use : SessionUse) (outcome : Except Fault Digest)
    (session : Session) (nonces : NonceSource)
    (drew : use.session.nextNonceOdd client.nonces = (outcome, session, nonces)) :
    nextNonceOdd.run (⟨client, some use⟩ : Dispatch σ) =
      (outcome, ⟨{ client with nonces }, some { use with session }⟩) := by
  simp [nextNonceOdd, drew]

theorem link_ask {α : Type} (command : Command) (decoder : Decoder α) (dispatch : Dispatch σ) :
    ((ask command decoder).run dispatch).2.client.link =
      ((execute command).run dispatch).2.client.link := by
  unfold ask
  rw [Action.run_bind]
  cases (execute command).run dispatch with
  | mk outcome after =>
    cases outcome with
    | error fault => rfl
    | ok reply => rfl

/-- With its nonce drawn ahead, a command is sent by that nonce, unless it is too large. -/
theorem link_executeOnce_of_armed (command : Command) (client : Client σ) (use : SessionUse)
    (nonceOdd : Digest) (plain : command.newSecret = none)
    (active : use.session.status = .active) (armed : use.session.armedOdd = some nonceOdd) :
    ((executeOnce command).run ⟨client, some use⟩).2.client.link =
      if (command.frame use command.parameters nonceOdd).length < Bytes.capacity 4 then
        ((Link.transmit (command.frame use command.parameters nonceOdd)).run client.link).2
      else client.link := by
  have frame : command.frame? use client.nonces =
      if (command.frame use command.parameters nonceOdd).length < Bytes.capacity 4 then
        some (command.frame use command.parameters nonceOdd)
      else none := by
    rw [Command.frame?, sealedParameters_of_plain command (some use) plain,
      use.session.nextNonceOdd_armed client.nonces nonceOdd active armed]
    rfl
  rw [link_executeOnce, frame]
  by_cases fits : (command.frame use command.parameters nonceOdd).length < Bytes.capacity 4
  · rw [if_pos fits, if_pos fits]
    rfl
  · rw [if_neg fits, if_neg fits]
    rfl

/-- How a key is asked for, once the nonce for its second secret is drawn. -/
theorem run_createKey_of_draw (client : Client σ) (use : SessionUse) (entity : Entity)
    (shared : Secret) (bound : use.session.binding = .osap entity shared)
    (active : use.session.status = .active) (nonceOdd : Digest) (drawn : Session)
    (nonces : NonceSource) (draw : use.session.Draw client.nonces nonceOdd drawn nonces)
    (parent : UInt32) (usage migration : Secret) (template : KeyBlob) (written : Bytes)
    (encoded : template.encode = .ok written) :
    (createKey parent usage migration template).run ⟨client, some use⟩ =
      (ask (.creatingKey parent ((Secret.conceal shared use.session.nonceEven usage).bytes ++
        (Secret.conceal shared nonceOdd migration).bytes ++ written)) KeyBlob.decode).run
          ⟨{ client with nonces }, some { use with session := drawn }⟩ := by
  have drew := run_nextNonceOdd client use _ _ _
    (use.session.nextNonceOdd_of_draw drawn client.nonces nonces nonceOdd active draw)
  unfold createKey
  rw [Action.run_bind, run_maskingSecret client use entity shared bound _ rfl]
  dsimp only
  rw [Action.run_bind, drew]
  dsimp only
  rw [Action.run_bind, encoded, Action.run_ofExcept]
  rfl

theorem link_createKey_of_undrawn (client : Client σ) (use : SessionUse) (entity : Entity)
    (shared : Secret) (bound : use.session.binding = .osap entity shared) (fault : Fault)
    (left : Session) (rest : NonceSource)
    (undrawn : use.session.nextNonceOdd client.nonces = (.error fault, left, rest))
    (parent : UInt32) (usage migration : Secret) (template : KeyBlob) :
    ((createKey parent usage migration template).run ⟨client, some use⟩).2.client.link =
      client.link := by
  unfold createKey
  rw [Action.run_bind, run_maskingSecret client use entity shared bound _ rfl]
  dsimp only
  rw [Action.run_bind, run_nextNonceOdd client use _ _ _ undrawn]

/-- What asking for a key does with the link: one request is handed to it, in which both secrets are
found, or nothing is. -/
theorem link_createKey (client : Client σ) (use : SessionUse) (entity : Entity) (shared : Secret)
    (bound : use.session.binding = .osap entity shared) (parent : UInt32)
    (usage migration : Secret) (template : KeyBlob) (written : Bytes)
    (encoded : template.encode = .ok written) :
    (∃ frame, use.session.CarriesKey shared parent usage migration written frame ∧
        ((createKey parent usage migration template).run ⟨client, some use⟩).2.client.link =
          ((Link.transmit frame).run client.link).2) ∨
      (((createKey parent usage migration template).run ⟨client, some use⟩).2.client.link =
          client.link ∧
        (use.session.status ≠ .active ∨ use.session.Repeats client.nonces ∨
          Bytes.capacity 4 ≤ written.length + 99)) := by
  rcases use.session.draw_cases client.nonces with
    inactive | repeats | ⟨active, nonceOdd, drawn, nonces, draw⟩
  · exact Or.inr ⟨link_createKey_of_undrawn client use entity shared bound _ _ _
      (use.session.nextNonceOdd_of_inactive client.nonces inactive) _ _ _ _, Or.inl inactive⟩
  · exact Or.inr ⟨link_createKey_of_undrawn client use entity shared bound _ _ _
      (use.session.nextNonceOdd_of_repeats client.nonces repeats) _ _ _ _,
      Or.inr (Or.inl repeats)⟩
  · let first := Secret.conceal shared use.session.nonceEven usage
    let second := Secret.conceal shared nonceOdd migration
    let command := Command.creatingKey parent (first.bytes ++ second.bytes ++ written)
    have frame := use.frame_of_draw command command.parameters nonceOdd drawn _ _ _ draw
    have sent := link_executeOnce_of_armed command { client with nonces }
      { use with session := drawn } nonceOdd rfl (draw.status_eq.trans active) draw.armed_eq
    rw [run_createKey_of_draw client use entity shared bound active nonceOdd drawn nonces draw
      parent usage migration template written encoded, link_ask, run_execute_of_once _ _ rfl]
    dsimp only
    rw [link_settle, sent, ← frame]
    by_cases fits : (command.frame use command.parameters nonceOdd).length < Bytes.capacity 4
    · rw [if_pos fits]
      exact Or.inl ⟨_, ⟨first, second, _, command.authorizes_frame use _ nonceOdd shared
        (by rw [bound]; rfl) rfl, Secret.reveal_conceal _ _ _, Secret.reveal_conceal _ _ _⟩, rfl⟩
    · rw [if_neg fits]
      refine Or.inr ⟨rfl, Or.inr (Or.inr ?_)⟩
      have length : command.parameters.length = 20 + 20 + written.length := by
        show (first.bytes ++ second.bytes ++ written).length = _
        rw [List.length_append, List.length_append, Block.length_bytes, Block.length_bytes]
      have around : headerSize + 4 * command.handles.length + RequestTrailer.size = 59 := rfl
      rw [command.length_frame, length] at fits
      omega

/-- Asking for a counter sends what the attempts at one command send, or nothing. -/
theorem createCounter_retries (client : Client (Tapped σ)) (use : SessionUse) (secret : Secret)
    (label : Block 4) :
    ∃ sent,
      ((createCounter secret label).run ⟨client, some use⟩).2.client.link.record =
        client.link.record ++ sent ∧
      (sent = [] ∨ ∃ further outcome,
        Retries (.creatingCounter secret label) further client.nonces client.link use sent
          outcome) ∧
      ∀ entity shared, use.session.binding = .osap entity shared → entity.kind = .owner →
        ∃ more, client.link.record ++ sent =
          ((executeOnce (.creatingCounter secret label)).run
            ⟨client, some use⟩).2.client.link.record ++ more := by
  unfold createCounter
  rw [Action.run_bind]
  have kept := AuthorizedCall.keeps_maskingSecret (fun entity => decide (entity.kind = .owner))
    .counterNeedsOwnerSession (⟨client, some use⟩ : Dispatch (Tapped σ))
  cases masking : (maskingSecret (fun entity => decide (entity.kind = .owner))
      .counterNeedsOwnerSession : Action Fault (Dispatch (Tapped σ)) _).run ⟨client, some use⟩ with
  | mk outcome between =>
    rw [masking] at kept
    obtain rfl : between = ⟨client, some use⟩ := kept
    cases outcome with
    | error fault =>
      refine ⟨[], (List.append_nil _).symm, Or.inl rfl, fun entity shared bound owner => ?_⟩
      rw [run_maskingSecret client use entity shared bound _ (decide_eq_true owner)] at masking
      cases masking
    | ok secrets =>
      dsimp only
      let command := Command.creatingCounter secret label
      obtain ⟨outcome, after, session, sent, ran, recorded, retries⟩ :=
        executeUpTo_retries command (furtherAttempts command client) client use
      obtain ⟨more, extended⟩ :=
        record_executeUpTo command (furtherAttempts command client) client use
      refine ⟨sent, ?_, Or.inr ⟨_, outcome, retries⟩, fun _ _ _ _ => ⟨more, ?_⟩⟩
      · change ((ask command _).run ⟨client, some use⟩).2.client.link.record = _
        rw [link_ask, run_execute]
        dsimp only
        rw [link_settle, ran, recorded]
      · rw [← extended, ran, recorded]

/-- New secrets arrive.  In the request for a key under a session for one entity, whatever happened
to the session before, its holder finds both secrets, and the odd nonce that reveals the second is
that of the request's own trailer.  In every request for a counter, however often it is sent again,
the secret is found by the session that this request goes under.  Both are sent whenever the session
is open and its source repeats no nonce. -/
theorem secretsArrive (client : Client (Tapped σ)) (use : SessionUse) :
    (∀ (entity : Entity) (shared : Secret) (parent : UInt32) (usage migration : Secret)
        (template : KeyBlob) (written : Bytes),
      use.session.binding = .osap entity shared → template.encode = .ok written →
      ∃ sent,
        ((createKey parent usage migration template).run
          ⟨client, some use⟩).2.client.link.record = client.link.record ++ sent ∧
        (∀ exchange ∈ sent, use.session.CarriesKey shared parent usage migration written
          exchange.request) ∧
        (client.link.spoiled = false → use.session.status = .active →
          ¬ use.session.Repeats client.nonces → written.length + 99 < Bytes.capacity 4 →
          ∃ exchange, sent = [exchange])) ∧
    ∀ (secret : Secret) (label : Block 4),
      ∃ sent,
        ((createCounter secret label).run ⟨client, some use⟩).2.client.link.record =
          client.link.record ++ sent ∧
        (∀ earlier exchange later, sent = earlier ++ exchange :: later →
          exchange.calls .createCounter = true →
          ∃ session, use.InForce earlier session ∧
            session.CarriesCounter secret label exchange.request) ∧
        ∀ entity shared, use.session.binding = .osap entity shared → entity.kind = .owner →
          client.link.spoiled = false → use.session.status = .active →
          ¬ use.session.Repeats client.nonces →
          ∃ exchange others, sent = exchange :: others ∧
            use.session.CarriesCounter secret label exchange.request := by
  constructor
  · intro entity shared parent usage migration template written bound encoded
    rcases link_createKey client use entity shared bound parent usage migration template written
        encoded with ⟨frame, carries, link⟩ | ⟨link, held⟩
    · cases transmitted : (Link.transmit frame).run client.link with
      | mk answer after =>
        rw [transmitted] at link
        obtain ⟨sent, recorded, adds⟩ := Link.transmit_tapped _ _ _ _ transmitted
        refine ⟨sent, by rw [link, recorded], ?_, fun clean _ _ _ => ⟨⟨frame, answer⟩, ?_⟩⟩
        · intro exchange member
          cases adds with
          | exchange =>
            obtain rfl := List.mem_singleton.mp member
            exact carries
          | unreached _ _ => cases member
        · have alone := (Link.transmit_tapped_of_clean _ _ _ _ clean transmitted).1
          exact List.append_cancel_left (recorded.symm.trans alone)
    · refine ⟨[], by rw [link, List.append_nil], List.forall_mem_nil _, ?_⟩
      intro _ active drawsNew fits
      rcases held with inactive | repeats | large
      · exact absurd active inactive
      · exact absurd repeats drawsNew
      · omega
  · intro secret label
    obtain ⟨sent, recorded, made, first⟩ := createCounter_retries client use secret label
    have carries : ∀ earlier exchange later, sent = earlier ++ exchange :: later →
        exchange.calls .createCounter = true →
        ∃ session, use.InForce earlier session ∧
          session.CarriesCounter secret label exchange.request := by
      intro earlier exchange later split calls
      rcases made with rfl | ⟨further, outcome, retries⟩
      · simp at split
      · obtain ⟨request, answer⟩ := exchange
        rcases retries.position earlier later _ split with
          ⟨session, parameters, nonceOdd, inForce, carried, rfl⟩ | ⟨setupOdd, rfl⟩
        · exact ⟨session, inForce, Command.carriesCounter_frame secret label { use with session }
            parameters nonceOdd carried⟩
        · rw [Retries.calls_openingFrame _ _ _ _ (by decide) (by decide)] at calls
          cases calls
    refine ⟨sent, recorded, carries, ?_⟩
    intro entity shared bound owner clean active drawsNew
    have sendable : (Command.creatingCounter secret label).Sendable use.session.kind :=
      Command.sendable_creatingCounter secret label _ (by rw [Session.kind, bound]; nofun)
    obtain ⟨parameters, nonceOdd, answer, begun, carried⟩ :=
      executeOnce_sends _ client use sendable clean active drawsNew
    obtain ⟨more, extended⟩ := first entity shared bound owner
    rw [begun, List.append_assoc] at extended
    exact ⟨_, more, List.append_cancel_left extended,
      Command.carriesCounter_frame secret label use parameters nonceOdd carried⟩

/-- A session for the owner whose next odd nonce is drawn already, and a busy module that opens
another one: the key's secrets go under the nonce drawn ahead, and the counter's under both
sessions. -/
theorem secretsArrive_of_nonce_ahead :
    let session : Session :=
      { Session.osap 7 (.replicate 20 1) ⟨.owner, 0x40000001⟩ .wellKnown (.replicate 20 2)
          (.replicate 20 3) with
        armedOdd := some (.replicate 20 4)
        issuedOdd := [.replicate 20 4, .replicate 20 3] }
    let use : SessionUse := ⟨session, .wellKnown, true⟩
    let shared := Session.sharedSecret .wellKnown (.replicate 20 2) (.replicate 20 3)
    let template : KeyBlob := ⟨.newer, 16, 0, 1, ⟨2, 1, 2, .raw []⟩, [], ⟨[]⟩, []⟩
    let busy := Bytes.word16 0xc4 ++ Bytes.bigEndian 4 10 ++ Bytes.word32 0x800
    let opening := Bytes.word16 0xc4 ++ Bytes.bigEndian 4 54 ++ Bytes.word32 0 ++
      Bytes.word32 8 ++ List.replicate 40 2
    let client : Client (Tapped Script) :=
      .fresh ⟨.ofEntries [.answer busy, .answer opening, .answer busy], none, []⟩
        ⟨fun number => .replicate 20 (.ofNat (10 + number)), 0⟩ 2
    session.binding = .osap ⟨.owner, 0x40000001⟩ shared ∧
      template.encode = .ok (template.encode.toOption.getD []) ∧
      (∃ exchange,
        ((createKey 0x40000000 .wellKnown ⟨.replicate 20 9⟩ template).run
          ⟨client, some use⟩).2.client.link.record = client.link.record ++ [exchange] ∧
        session.CarriesKey shared 0x40000000 .wellKnown ⟨.replicate 20 9⟩
          (template.encode.toOption.getD []) exchange.request) ∧
      ∃ exchange others,
        ((createCounter ⟨.replicate 20 9⟩ (.replicate 4 0)).run
          ⟨client, some use⟩).2.client.link.record = client.link.record ++ exchange :: others ∧
        session.CarriesCounter ⟨.replicate 20 9⟩ (.replicate 4 0) exchange.request := by
  intro session use shared template busy opening client
  have bound : session.binding = .osap ⟨.owner, 0x40000001⟩ shared := rfl
  have encoded : template.encode = .ok (template.encode.toOption.getD []) := rfl
  have drawsNew : ¬ session.Repeats client.nonces := fun repeats => nomatch repeats.unarmed
  obtain ⟨forKey, forCounter⟩ := secretsArrive client use
  obtain ⟨keySent, keyRecorded, keyCarries, keyOne⟩ := forKey ⟨.owner, 0x40000001⟩ shared 0x40000000
    .wellKnown ⟨.replicate 20 9⟩ template _ bound encoded
  obtain ⟨sent, recorded, _, first⟩ := forCounter ⟨.replicate 20 9⟩ (.replicate 4 0)
  obtain ⟨exchange, rfl⟩ := keyOne rfl rfl drawsNew (by decide)
  obtain ⟨attempt, others, rfl, carries⟩ := first _ shared bound rfl rfl rfl drawsNew
  exact ⟨bound, encoded, ⟨exchange, keyRecorded, keyCarries exchange (List.mem_singleton_self _)⟩,
    attempt, others, recorded, carries⟩

end Dispatch

end TrustedPlatform

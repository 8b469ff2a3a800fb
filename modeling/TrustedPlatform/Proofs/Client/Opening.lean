import TrustedPlatform.Client.Execute
import TrustedPlatform.Proofs.Client.Attempt
import TrustedPlatform.Proofs.Wire.Grammar

/-!
# Opening sessions

A session is opened by one command without a trailer (`SessionKind.opening`), and the answer to it
says everything else (`SessionKind.opened`): `Client.run_openSession`.
-/

set_option autoImplicit false

namespace TrustedPlatform

def Command.value {α : Type} (command : Command) (decoder : Decoder α)
    (answer : Except Fault Bytes) : Except Fault α :=
  command.read 0 answer >>= fun parts => parts.1.decode decoder

/-- An answer has a value exactly when it is the frame of a success that carries no trailer, and
the output of which is the value and nothing else. -/
theorem Command.value_eq_ok_iff {α : Type} (command : Command) (decoder : Decoder α)
    (answer : Except Fault Bytes) (value : α) :
    command.value decoder answer = .ok value ↔
      ∃ reply, answer = .ok (success .response reply []).frame ∧
        (success .response reply []).frame.length < Bytes.capacity 4 ∧
        reply.handles.length = command.outputHandles ∧
        decoder.complete reply.parameters = .ok value := by
  rw [Command.value, outcome_bind_eq_ok_iff]
  constructor
  · rintro ⟨⟨reply, digest, trailers⟩, found, decoded⟩
    obtain ⟨tag, framed, fits, none, handles, count, _⟩ :=
      (read_eq_ok_iff _ _ _ _ _ _).mp found
    obtain rfl := List.length_eq_zero_iff.mp count
    have response : tag = .response := by
      revert none
      cases tag <;> decide
    rw [response] at framed fits
    exact ⟨reply, framed, fits, handles, decoded⟩
  · rintro ⟨reply, framed, fits, handles, decoded⟩
    exact ⟨(reply, command.outputDigest reply, []),
      (read_eq_ok_iff _ _ _ _ _ _).mpr ⟨.response, framed, fits, rfl, handles, rfl, rfl⟩, decoded⟩

namespace SessionKind

def opening (kind : SessionKind) (setupOdd : Digest) : Command :=
  match kind with
  | .oiap => { ordinal := .oiap }
  | .osap entity =>
    { ordinal := .osap
      parameters :=
        Bytes.word16 entity.kind.code ++ Bytes.word32 entity.value ++ setupOdd.bytes }

/-- What opening a session leaves of a source: only one for an entity takes a nonce. -/
def leaves (kind : SessionKind) (nonces : NonceSource) : NonceSource :=
  match kind with
  | .oiap => nonces
  | .osap _ => nonces.next.2

def oiapOutput : Decoder (UInt32 × Digest) := do
  let handle ← Decoder.word32
  let nonceEven ← Decoder.digest
  return (handle, nonceEven)

def osapOutput : Decoder (UInt32 × Digest × Digest) := do
  let handle ← Decoder.word32
  let nonceEven ← Decoder.digest
  let setupEven ← Decoder.digest
  return (handle, nonceEven, setupEven)

theorem reads_oiapOutput :
    oiapOutput.Reads fun output bytes => bytes = Bytes.word32 output.1 ++ output.2.bytes := by
  refine (Decoder.Reads.bind .word32 fun _ => .bind (.block 20) fun _ => .pure _).congr ?_
  rintro ⟨handle, nonceEven⟩ bytes
  simp

theorem reads_osapOutput :
    osapOutput.Reads fun output bytes =>
      bytes = Bytes.word32 output.1 ++ output.2.1.bytes ++ output.2.2.bytes := by
  refine (Decoder.Reads.bind .word32 fun _ => .bind (.block 20) fun _ => .bind (.block 20) fun _ =>
    .pure _).congr ?_
  rintro ⟨handle, nonceEven, setupEven⟩ bytes
  simp

def opened (kind : SessionKind) (secret : Secret) (setupOdd : Digest)
    (answer : Except Fault Bytes) : Except Fault Session :=
  match kind with
  | .oiap =>
    ((opening .oiap setupOdd).value oiapOutput answer).map fun output =>
      .oiap output.1 output.2
  | .osap entity =>
    ((opening (.osap entity) setupOdd).value osapOutput answer).map fun output =>
      .osap output.1 output.2.1 entity secret output.2.2 setupOdd

/-- The answers that open a session of a kind, and the session opened. -/
inductive Opens (secret : Secret) (setupOdd : Digest) (answer : Except Fault Bytes) :
    SessionKind → Session → Prop where
  | oiap (handle : UInt32) (nonceEven : Digest)
      (answered : answer = .ok (Command.success .response
        ⟨[], Bytes.word32 handle ++ nonceEven.bytes⟩ []).frame) :
      Opens secret setupOdd answer .oiap (.oiap handle nonceEven)
  | osap (entity : Entity) (handle : UInt32) (nonceEven setupEven : Digest)
      (answered : answer = .ok (Command.success .response
        ⟨[], Bytes.word32 handle ++ nonceEven.bytes ++ setupEven.bytes⟩ []).frame) :
      Opens secret setupOdd answer (.osap entity)
        (.osap handle nonceEven entity secret setupEven setupOdd)

theorem Opens.answer_ne_error {secret : Secret} {setupOdd : Digest} {answer : Except Fault Bytes}
    {kind : SessionKind} {session : Session} (opens : Opens secret setupOdd answer kind session)
    (fault : Fault) : answer ≠ .error fault := by
  cases opens with
  | oiap _ _ answered =>
    rw [answered]
    exact fun same => nomatch same
  | osap _ _ _ _ answered =>
    rw [answered]
    exact fun same => nomatch same

theorem Opens.active {secret : Secret} {setupOdd : Digest} {answer : Except Fault Bytes}
    {kind : SessionKind} {session : Session} (opens : Opens secret setupOdd answer kind session) :
    session.status = .active := by
  cases opens <;> rfl

theorem Opens.kind_eq {secret : Secret} {setupOdd : Digest} {answer : Except Fault Bytes}
    {kind : SessionKind} {session : Session} (opens : Opens secret setupOdd answer kind session) :
    session.kind = kind := by
  cases opens <;> rfl

theorem opened_eq_ok_iff (kind : SessionKind) (secret : Secret) (setupOdd : Digest)
    (answer : Except Fault Bytes) (session : Session) :
    kind.opened secret setupOdd answer = .ok session ↔
      Opens secret setupOdd answer kind session := by
  unfold opened
  cases kind with
  | oiap =>
    dsimp only
    constructor
    · intro success
      cases found : (opening .oiap setupOdd).value oiapOutput answer with
      | error fault =>
        rw [found] at success
        cases success
      | ok output =>
        obtain ⟨handle, nonceEven⟩ := output
        rw [found] at success
        cases success
        obtain ⟨⟨handles, parameters⟩, framed, _, none, decoded⟩ :=
          (Command.value_eq_ok_iff _ _ _ _).mp found
        obtain rfl := List.length_eq_zero_iff.mp none
        obtain rfl := (reads_oiapOutput.complete_iff _ _).mp decoded
        exact .oiap handle nonceEven framed
    · rintro (⟨handle, nonceEven, rfl⟩ | _)
      have found : (opening .oiap setupOdd).value oiapOutput (.ok (Command.success .response
          ⟨[], Bytes.word32 handle ++ nonceEven.bytes⟩ []).frame) = .ok (handle, nonceEven) := by
        refine (Command.value_eq_ok_iff _ _ _ _).mpr
          ⟨⟨[], Bytes.word32 handle ++ nonceEven.bytes⟩, rfl, ?_, rfl, ?_⟩
        · rw [Response.length_frame]
          simp [Command.success, headerSize, Bytes.capacity]
        · exact (reads_oiapOutput.complete_iff _ _).mpr rfl
      rw [found]
      rfl
  | osap entity =>
    dsimp only
    constructor
    · intro success
      cases found : (opening (.osap entity) setupOdd).value osapOutput answer with
      | error fault =>
        rw [found] at success
        cases success
      | ok output =>
        obtain ⟨handle, nonceEven, setupEven⟩ := output
        rw [found] at success
        cases success
        obtain ⟨⟨handles, parameters⟩, framed, _, none, decoded⟩ :=
          (Command.value_eq_ok_iff _ _ _ _).mp found
        obtain rfl := List.length_eq_zero_iff.mp none
        obtain rfl := (reads_osapOutput.complete_iff _ _).mp decoded
        exact .osap entity handle nonceEven setupEven framed
    · rintro (_ | ⟨_, handle, nonceEven, setupEven, rfl⟩)
      have found : (opening (.osap entity) setupOdd).value osapOutput (.ok (Command.success .response
          ⟨[], Bytes.word32 handle ++ nonceEven.bytes ++ setupEven.bytes⟩ []).frame) =
            .ok (handle, nonceEven, setupEven) := by
        refine (Command.value_eq_ok_iff _ _ _ _).mpr
          ⟨⟨[], Bytes.word32 handle ++ nonceEven.bytes ++ setupEven.bytes⟩, rfl, ?_, rfl, ?_⟩
        · rw [Response.length_frame]
          simp [Command.success, headerSize, Bytes.capacity]
        · exact (reads_osapOutput.complete_iff _ _).mpr rfl
      rw [found]
      rfl

def openingFrame (kind : SessionKind) (setupOdd : Digest) : Bytes :=
  (kind.opening setupOdd).plainFrame

theorem length_openingFrame (kind : SessionKind) (setupOdd : Digest) :
    (kind.openingFrame setupOdd).length < Bytes.capacity 4 := by
  unfold openingFrame Command.plainFrame
  rw [Request.length_frame]
  cases kind with
  | oiap =>
    show headerSize + 0 + 0 + 0 < Bytes.capacity 4
    decide
  | osap entity =>
    simp only [opening, List.length_append, Bytes.length_word16, Bytes.length_word32,
      Block.length_bytes]
    decide

end SessionKind

namespace Client

variable {σ : Type} [Channel σ]

theorem run_ask {α : Type} (command : Command) (decoder : Decoder α) (client : Client σ)
    (answer : Except Fault Bytes) (link : Link σ) (plain : command.newSecret = none)
    (fits : command.plainFrame.length < Bytes.capacity 4)
    (transmitted : (Link.transmit command.plainFrame).run client.link = (answer, link)) :
    (ask command decoder).run client =
      (command.value decoder answer, { client with link }) := by
  unfold ask unauthorized Command.value
  rw [Action.run_bind, Action.run_zoom,
    Dispatch.executeOnce_of_plain command client answer link plain fits transmitted]
  cases command.read 0 answer with
  | error fault => rfl
  | ok parts => rfl

def received (client : Client σ) (link : Link σ) (nonces : NonceSource) :
    Except Fault Session → Client σ
  | .error _ => { client with link, nonces }
  | .ok session =>
    { client with
      link
      nonces
      inventory := client.inventory.addSession session.handle session.kind }

omit [Channel σ] in
theorem link_received (client : Client σ) (link : Link σ) (nonces : NonceSource)
    (opened : Except Fault Session) : (client.received link nonces opened).link = link := by
  cases opened with
  | error fault => rfl
  | ok session => rfl

theorem run_openSession (kind : SessionKind) (secret : Secret)
    (client : Client σ) (answer : Except Fault Bytes) (link : Link σ)
    (transmitted : (Link.transmit (kind.openingFrame client.nonces.next.1)).run client.link =
      (answer, link)) :
    (openSession kind secret).run client =
      (kind.opened secret client.nonces.next.1 answer,
        client.received link (kind.leaves client.nonces)
          (kind.opened secret client.nonces.next.1 answer)) := by
  have fits := kind.length_openingFrame client.nonces.next.1
  cases kind with
  | oiap =>
    have asked := run_ask (SessionKind.opening .oiap client.nonces.next.1) SessionKind.oiapOutput
      client answer link rfl fits transmitted
    have shape : (openSession .oiap secret : Action Fault (Client σ) Session) =
        ask (SessionKind.opening .oiap client.nonces.next.1) SessionKind.oiapOutput >>=
          fun output => (note fun inventory => inventory.addSession output.1 .oiap) >>=
            fun _ => pure (Session.oiap output.1 output.2) := rfl
    unfold SessionKind.opened
    rw [shape, Action.run_bind, asked]
    cases (SessionKind.opening .oiap client.nonces.next.1).value _ answer with
    | error fault => rfl
    | ok parts => rfl
  | osap entity =>
    have asked := run_ask (SessionKind.opening (.osap entity) client.nonces.next.1)
      SessionKind.osapOutput { client with nonces := client.nonces.next.2 } answer link rfl fits
      transmitted
    have shape : (openSession (.osap entity) secret : Action Fault (Client σ) Session) =
        drawNonce >>= fun setupOdd =>
          ask (SessionKind.opening (.osap entity) setupOdd) SessionKind.osapOutput >>=
            fun output => (note fun inventory => inventory.addSession output.1 (.osap entity)) >>=
              fun _ => pure (Session.osap output.1 output.2.1 entity secret output.2.2 setupOdd) :=
      rfl
    have drawn : (drawNonce : Action Fault (Client σ) Digest).run client =
        (.ok client.nonces.next.1, { client with nonces := client.nonces.next.2 }) := rfl
    unfold SessionKind.opened
    dsimp only
    rw [shape, Action.run_bind, drawn]
    dsimp only
    rw [Action.run_bind, asked]
    cases (SessionKind.opening (.osap entity) client.nonces.next.1).value _ answer with
    | error fault => rfl
    | ok parts => rfl

theorem openSession_cases (kind : SessionKind) (secret : Secret) (client : Client σ) :
    (∃ fault link nonces, (openSession kind secret).run client =
        (.error fault, { client with link, nonces })) ∨
      ∃ session link nonces, (openSession kind secret).run client =
          (.ok session,
            { client with
              link
              nonces
              inventory := client.inventory.addSession session.handle kind }) ∧
        session.status = .active ∧ session.kind = kind := by
  cases transmitted : (Link.transmit (kind.openingFrame client.nonces.next.1)).run client.link with
  | mk answer link =>
    rw [run_openSession kind secret client answer link transmitted]
    cases opened : kind.opened secret client.nonces.next.1 answer with
    | error fault => exact Or.inl ⟨fault, link, kind.leaves client.nonces, rfl⟩
    | ok session =>
      have opens := (SessionKind.opened_eq_ok_iff _ _ _ _ _).mp opened
      refine Or.inr ⟨session, link, kind.leaves client.nonces, ?_, opens.active, opens.kind_eq⟩
      rw [received, opens.kind_eq]

end Client

def Session.replacedBy (session : Session) : Except Fault Session → Session
  | .ok fresh => fresh
  | .error _ => session

theorem Dispatch.run_replaceSession {σ : Type} [Channel σ] (client : Client σ) (use : SessionUse)
    (answer : Except Fault Bytes) (link : Link σ) (opened : Except Fault Session)
    (transmitted : (Link.transmit
      (use.session.kind.openingFrame client.nonces.next.1)).run client.link = (answer, link))
    (shown : use.session.kind.opened use.secret client.nonces.next.1 answer = opened) :
    (replaceSession (σ := σ)).run ⟨client, some use⟩ =
      (opened.map fun _ => (),
        ⟨({ client with inventory := client.inventory.removeSession use.session.handle } :
            Client σ).received link (use.session.kind.leaves client.nonces) opened,
          some { use with session := use.session.replacedBy opened }⟩) := by
  have ran := Client.run_openSession use.session.kind use.secret
    { client with inventory := client.inventory.removeSession use.session.handle } answer link
    transmitted
  dsimp only at ran
  rw [shown] at ran
  have shape : (replaceSession (σ := σ)).run ⟨client, some use⟩ =
      (onClient (Client.openSession use.session.kind use.secret) >>= fun fresh =>
        changeSession fun _ => fresh).run
          ⟨{ client with inventory := client.inventory.removeSession use.session.handle },
            some use⟩ := rfl
  rw [shape, Action.run_bind, onClient, Action.run_zoom, ran]
  cases opened with
  | error fault => rfl
  | ok fresh => rfl

end TrustedPlatform

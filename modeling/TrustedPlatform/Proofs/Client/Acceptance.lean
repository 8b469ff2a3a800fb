import TrustedPlatform.Channel.Script
import TrustedPlatform.Proofs.Client.Attempt

/-!
# Which responses are accepted

Whatever bytes come back, a command under one session ends well exactly when they are the authentic
response to it, byte for byte (`Authentic`), and every other answer ends the session:
`Dispatch.executeOnce_ok_iff_authentic`.
-/

set_option autoImplicit false

namespace TrustedPlatform

namespace Command

def sealedFor (command : Command) (session : Session) : Bytes :=
  match command.newSecret, session.binding.shared? with
  | some secret, some shared =>
    (Secret.conceal shared session.nonceEven secret).bytes ++ command.parameters
  | _, _ => command.parameters

theorem sealedParameters_eq_sealedFor (command : Command) (use : SessionUse)
    (maskable : command.newSecret.isSome = true → use.session.binding.shared?.isSome = true) :
    command.sealedParameters (some use) = .ok (command.sealedFor use.session) := by
  unfold sealedParameters sealedFor
  cases masked : command.newSecret with
  | none => rfl
  | some secret =>
    rw [masked] at maskable
    cases known : use.session.binding.shared? with
    | none =>
      rw [known] at maskable
      cases maskable rfl
    | some shared =>
      dsimp only
      rw [known]

end Command

/-- The bytes of the authentic response to a command that carried `nonceOdd`: a success under the
tag for one trailer, with its own length, with room for the handles of the output, and with a
trailer whose even nonce is new to the session and whose authorization is the keyed hash over
result code, command, output and nonces. -/
structure Authentic (command : Command) (use : SessionUse) (nonceOdd : Digest)
    (received body : Bytes) (nonceEven : Digest) (continueSession : Bool)
    (authorization : Digest) : Prop where
  layout : received =
    Bytes.word16 0xc5 ++ Bytes.bigEndian 4 received.length ++ Bytes.word32 0 ++ body ++
      nonceEven.bytes ++ [if continueSession then 1 else 0] ++ authorization.bytes
  fits : received.length < UInt32.size
  room : 4 * command.outputHandles ≤ body.length
  isNew : nonceEven ∉ use.session.seenEven
  proven : authorization =
    Hmac.authenticate (use.session.binding.shared?.getD use.secret).value
      ((Sha1.hash (Bytes.word32 0 ++ Bytes.word32 command.ordinal.code ++
          if command.digestsHandles then body else body.drop (4 * command.outputHandles))).bytes ++
        nonceEven.bytes ++ nonceOdd.bytes ++ [if continueSession then 1 else 0])

namespace SessionUse

variable (use : SessionUse) (command : Command) (nonceOdd : Digest)

theorem authentic_of_accepted (received : Bytes) (reply : Reply) (trailer : ResponseTrailer)
    (accepted : use.Accepted command nonceOdd (.ok received) reply trailer) :
    Authentic command use nonceOdd received
      (reply.handles.flatMap Bytes.word32 ++ reply.parameters) trailer.nonceEven
      trailer.continueSession trailer.authorization := by
  have framed : received = (Command.success .responseOneTrailer reply [trailer]).frame :=
    Except.ok.inj accepted.framed
  have handlesLength := Bytes.length_flatMap_word32 reply.handles
  rw [accepted.handles] at handlesLength
  refine ⟨?_, ?_, ?_, accepted.accepts.isNew, ?_⟩
  · have length := Response.length_frame (Command.success .responseOneTrailer reply [trailer])
    rw [← framed] at length
    rw [length, framed, Response.frame]
    simp [Command.success, ResponseTrailer.encode, Tag.code, ResultCode.success, Bytes.flag]
  · have fits := accepted.fits
    rw [← framed] at fits
    simpa [Bytes.capacity] using fits
  · rw [List.length_append, handlesLength]
    omega
  · rw [accepted.accepts.proven, ← handlesLength, List.drop_left]
    rfl

theorem accepted_of_authentic (received body : Bytes) (nonceEven : Digest)
    (continueSession : Bool) (authorization : Digest)
    (authentic : Authentic command use nonceOdd received body nonceEven continueSession
      authorization) :
    ∃ reply, use.Accepted command nonceOdd (.ok received) reply
      ⟨nonceEven, continueSession, authorization⟩ := by
  have headLength : (body.take (4 * command.outputHandles)).length =
      4 * command.outputHandles := by
    rw [List.length_take, Nat.min_eq_left authentic.room]
  obtain ⟨handles, count, head⟩ := Bytes.eq_flatMap_word32_of_length _ _ headLength
  have bodyEq : handles.flatMap Bytes.word32 ++ body.drop (4 * command.outputHandles) = body := by
    rw [← head, List.take_append_drop]
  have framed : received = (Command.success .responseOneTrailer
      ⟨handles, body.drop (4 * command.outputHandles)⟩
      [⟨nonceEven, continueSession, authorization⟩]).frame := by
    have layout := authentic.layout
    have total := congrArg List.length layout
    simp only [List.length_append, Bytes.length_word16, Bytes.length_bigEndian,
      Bytes.length_word32, Block.length_bytes, List.length_singleton] at total
    have output : (Command.success .responseOneTrailer
        ⟨handles, body.drop (4 * command.outputHandles)⟩
        [⟨nonceEven, continueSession, authorization⟩]).data =
          body ++ (nonceEven.bytes ++ Bytes.flag continueSession ++ authorization.bytes) := by
      show handles.flatMap Bytes.word32 ++ body.drop (4 * command.outputHandles) ++ _ = _
      rw [bodyEq, List.flatMap_singleton]
      rfl
    have length : headerSize + (body ++ (nonceEven.bytes ++ Bytes.flag continueSession ++
        authorization.bytes)).length = received.length := by
      simp only [List.length_append, Block.length_bytes, Bytes.length_flag, headerSize]
      omega
    rw [Response.frame, output, length]
    simpa [Command.success, Tag.code, ResultCode.success, Bytes.flag] using layout
  refine ⟨⟨handles, body.drop (4 * command.outputHandles)⟩, by rw [framed], ?_, count,
    authentic.isNew, ?_⟩
  · rw [← framed]
    simpa [Bytes.capacity] using authentic.fits
  · rw [authentic.proven]
    unfold Command.outputDigest Command.authorizedBody
    dsimp only
    rw [bodyEq]
    rfl

theorem accepted_iff_authentic (answer : Except Fault Bytes) :
    (∃ reply trailer, use.Accepted command nonceOdd answer reply trailer) ↔
      ∃ received, answer = .ok received ∧ ∃ body nonceEven continueSession authorization,
        Authentic command use nonceOdd received body nonceEven continueSession authorization := by
  constructor
  · rintro ⟨reply, trailer, accepted⟩
    refine ⟨(Command.success .responseOneTrailer reply [trailer]).frame, accepted.framed, ?_⟩
    rw [accepted.framed] at accepted
    exact ⟨_, _, _, _, authentic_of_accepted use command nonceOdd _ reply trailer accepted⟩
  · rintro ⟨received, rfl, body, nonceEven, continueSession, authorization, authentic⟩
    obtain ⟨reply, accepted⟩ := accepted_of_authentic use command nonceOdd received body nonceEven
      continueSession authorization authentic
    exact ⟨reply, _, accepted⟩

end SessionUse

/-- A command under one open session, with an odd nonce never issued on it, ends well exactly when
the bytes that come back are the authentic response, and every other answer ends the session. -/
theorem Dispatch.executeOnce_ok_iff_authentic {σ : Type} [Channel σ] (command : Command)
    (client : Client σ) (use : SessionUse) (answer : Except Fault Bytes) (link : Link σ)
    (active : use.session.status = .active)
    (fresh : use.session.armedOdd = none → client.nonces.next.1 ∉ use.session.issuedOdd)
    (maskable : command.newSecret.isSome = true → use.session.binding.shared?.isSome = true)
    (fits : (command.frame use (command.sealedFor use.session)
      (use.session.upcomingOdd client.nonces)).length < UInt32.size)
    (transmitted : (Link.transmit (command.frame use (command.sealedFor use.session)
      (use.session.upcomingOdd client.nonces))).run client.link = (answer, link)) :
    ((∃ reply, ((executeOnce command).run ⟨client, some use⟩).1 = .ok reply) ↔
      ∃ received, answer = .ok received ∧ ∃ body nonceEven continueSession authorization,
        Authentic command use (use.session.upcomingOdd client.nonces) received body nonceEven
          continueSession authorization) ∧
    ((∃ fault, ((executeOnce command).run ⟨client, some use⟩).1 = .error fault) →
      ∃ after, ((executeOnce command).run ⟨client, some use⟩).2.use? =
        some { use with session := after } ∧ after.status = .closed) := by
  have isSealed := command.sealedParameters_eq_sealedFor use maskable
  obtain ⟨drawn, nonces, draw⟩ := use.session.draw_of_fresh client.nonces fresh
  have small : (command.frame use (command.sealedFor use.session)
      (use.session.upcomingOdd client.nonces)).length < Bytes.capacity 4 := by
    simpa [Bytes.capacity] using fits
  cases concluded : ({ use with session := drawn.spent } : SessionUse).conclude command
      (use.session.upcomingOdd client.nonces) answer with
  | mk outcome after =>
    rw [executeOnce_of_exchanged command client use _ _ drawn nonces answer link outcome after
      isSealed active draw small transmitted concluded]
    have sameTest := fun reply trailer => use.accepted_spent_iff command
      (use.session.upcomingOdd client.nonces) answer drawn client.nonces nonces _ reply trailer draw
    constructor
    · rw [← use.accepted_iff_authentic]
      constructor
      · rintro ⟨reply, rfl⟩
        obtain ⟨trailer, accepted, _⟩ := (SessionUse.conclude_eq_ok_iff _ _ _ _ _ _).mp concluded
        exact ⟨reply, trailer, (sameTest _ _).mp accepted⟩
      · rintro ⟨reply, trailer, accepted⟩
        rw [SessionUse.conclude_of_accepted _ _ _ _ reply trailer ((sameTest _ _).mpr accepted)]
          at concluded
        cases concluded
        exact ⟨reply, rfl⟩
    · rintro ⟨fault, rfl⟩
      exact ⟨after, rfl,
        (SessionUse.ended_of_conclude_eq_error _ _ _ _ fault after concluded).closed⟩

/-- A script that answers with an authentic response is believed. -/
theorem Dispatch.executeOnce_ok_of_script :
    let use : SessionUse := ⟨.oiap 7 (Block.replicate 20 1), .wellKnown, true⟩
    let command : Command := { ordinal := .incrementCounter, parameters := Bytes.word32 5 }
    let nonceEven : Digest := Block.replicate 20 2
    let nonceOdd : Digest := Block.replicate 20 3
    let authorization := Hmac.authenticate Secret.wellKnown.value
      ((Sha1.hash (Bytes.word32 0 ++ Bytes.word32 Ordinal.incrementCounter.code ++
          Bytes.word32 6)).bytes ++ nonceEven.bytes ++ nonceOdd.bytes ++ [1])
    let received := Bytes.word16 0xc5 ++ Bytes.bigEndian 4 55 ++ Bytes.word32 0 ++
      Bytes.word32 6 ++ nonceEven.bytes ++ [1] ++ authorization.bytes
    let client : Client Script :=
      .fresh (.ofEntries [.answer received]) ⟨fun _ => nonceOdd, 0⟩ 1
    ∃ reply, ((executeOnce command).run ⟨client, some use⟩).1 = .ok reply := by
  intro use command nonceEven nonceOdd authorization received client
  have length : received.length = 55 := by
    simp only [received, List.length_append, Bytes.length_word16, Bytes.length_bigEndian,
      Bytes.length_word32, Block.length_bytes, List.length_singleton]
  have fits : (command.frame use (command.sealedFor use.session)
      (use.session.upcomingOdd client.nonces)).length < UInt32.size := by
    rw [Command.frame, Request.length_frame]
    decide
  refine (executeOnce_ok_iff_authentic command client use (.ok received) _ rfl
    (fun _ => List.not_mem_nil) (fun masked => nomatch masked) fits rfl).1.mpr
      ⟨received, rfl, Bytes.word32 6, nonceEven, true, authorization, ?_, ?_, ?_, ?_, ?_⟩
  · rw [length]
    rfl
  · rw [length]
    decide
  · decide
  · decide
  · rfl

end TrustedPlatform

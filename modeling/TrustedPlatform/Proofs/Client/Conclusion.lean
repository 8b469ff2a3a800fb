import TrustedPlatform.Client.Basic
import TrustedPlatform.Proofs.Frame.RequestGrammar
import TrustedPlatform.Proofs.Session.Steps
import TrustedPlatform.Proofs.Structure.Faults
import TrustedPlatform.Proofs.Wire.Malformed

/-!
# What a client makes of an answer

The answer to a command is first taken apart without any session (`Command.read`), and only then
held against the session that authorized the command (`SessionUse.conclude`).  A conclusion is a
reply, and then the session accepted the response (`SessionUse.conclude_eq_ok_iff`), or it is a
fault, and then the session is over (`SessionUse.Ended`).
-/

set_option autoImplicit false

namespace TrustedPlatform

namespace Command

theorem readBody_eq_ok_iff (command : Command) (body : Bytes) (reply : Reply) :
    command.readBody body = .ok reply ↔
      reply.handles.length = command.outputHandles ∧
        body = reply.handles.flatMap Bytes.word32 ++ reply.parameters := by
  have opened : command.readBody body = .ok reply ↔
      ∃ after, (do
        let handles ← Decoder.times command.outputHandles Decoder.word32
        let parameters ← Decoder.rest
        return ⟨handles, parameters⟩ : Decoder Reply).run (Reader.ofBytes body) =
          (.ok reply, after) := by
    unfold readBody
    constructor
    · intro success
      exact ⟨_, Prod.ext success rfl⟩
    · rintro ⟨after, success⟩
      rw [success]
  rw [opened]
  constructor
  · rintro ⟨after, success⟩
    obtain ⟨handles, between, readHandles, remaining⟩ :=
      (Action.bind_eq_ok_iff _ _ _ _ _).mp success
    obtain ⟨parameters, last, readRest, shown⟩ := (Action.bind_eq_ok_iff _ _ _ _ _).mp remaining
    obtain ⟨length, split, _⟩ := (Decoder.run_times_word32_eq_ok_iff _ _ _ _).mp readHandles
    obtain ⟨same, _⟩ := (Decoder.run_rest_eq_ok_iff _ _ _).mp readRest
    rw [Action.run_pure] at shown
    cases shown
    refine ⟨length, ?_⟩
    rw [same]
    exact split
  · rintro ⟨length, split⟩
    obtain ⟨handles, parameters⟩ := reply
    refine ⟨⟨4 * command.outputHandles + parameters.length, []⟩, ?_⟩
    refine (Action.bind_eq_ok_iff _ _ _ _ _).mpr ⟨handles, ⟨4 * command.outputHandles, parameters⟩,
      (Decoder.run_times_word32_eq_ok_iff _ _ _ _).mpr ⟨length, split, ?_⟩, ?_⟩
    · simp [Reader.ofBytes]
    · exact (Action.bind_eq_ok_iff _ _ _ _ _).mpr ⟨parameters, _,
        (Decoder.run_rest_eq_ok_iff _ _ _).mpr ⟨rfl, rfl⟩, Action.run_pure _ _⟩

/-- What the response to a command brings, whoever sent it: the output, what its authorization is
about, and the trailers behind it. -/
def unpack (command : Command) (trailers : Nat) (response : Response) :
    Except Fault (Reply × Digest × List ResponseTrailer) := do
  if !response.isSuccess then throw (.refused command.ordinal response.code)
  let (body, found) ← response.splitTrailers trailers
  let reply ← command.readBody body
  return (reply,
    Secret.responseDigest response.code command.ordinal (command.authorizedBody body reply), found)

def read (command : Command) (trailers : Nat) (answer : Except Fault Bytes) :
    Except Fault (Reply × Digest × List ResponseTrailer) :=
  answer >>= Response.parse >>= command.unpack trailers

theorem read_ok (command : Command) (trailers : Nat) (received : Bytes) :
    command.read trailers (.ok received) =
      Response.parse received >>= command.unpack trailers := rfl

def success (tag : Tag) (reply : Reply) (trailers : List ResponseTrailer) : Response where
  tag := tag
  code := ResultCode.success
  data := reply.handles.flatMap Bytes.word32 ++ reply.parameters ++
    trailers.flatMap ResponseTrailer.encode

/-- What the authorization of the response with a given output is about. -/
def outputDigest (command : Command) (reply : Reply) : Digest :=
  Secret.responseDigest ResultCode.success command.ordinal
    (command.authorizedBody (reply.handles.flatMap Bytes.word32 ++ reply.parameters) reply)

/-- A response is taken apart exactly when it is a success with as many handles as the command has
outputs and as many trailers as expected. -/
theorem unpack_eq_ok_iff (command : Command) (expected : Nat) (response : Response)
    (reply : Reply) (digest : Digest) (trailers : List ResponseTrailer) :
    command.unpack expected response = .ok (reply, digest, trailers) ↔
      response = success response.tag reply trailers ∧ response.announced = expected ∧
        reply.handles.length = command.outputHandles ∧ trailers.length = expected ∧
        digest = command.outputDigest reply := by
  constructor
  · intro found
    change (if !response.isSuccess then _ else _) = _ at found
    cases succeeded : response.isSuccess with
    | false =>
      rw [succeeded] at found
      cases found
    | true =>
      rw [succeeded] at found
      change (response.splitTrailers expected >>= _) = _ at found
      obtain ⟨⟨body, others⟩, split, found⟩ := (outcome_bind_eq_ok_iff _ _ _).mp found
      obtain ⟨output, bodyRead, shown⟩ := (outcome_bind_eq_ok_iff _ _ _).mp found
      cases shown
      obtain ⟨announced, count, data⟩ := (Response.splitTrailers_eq_ok_iff _ _ _ _).mp split
      obtain ⟨handles, laid⟩ := (readBody_eq_ok_iff _ _ _).mp bodyRead
      have code : response.code = ResultCode.success := of_decide_eq_true succeeded
      refine ⟨?_, announced, handles, count, ?_⟩
      · obtain ⟨tag, number, bytes⟩ := response
        obtain rfl : number = ResultCode.success := code
        obtain rfl : bytes = body ++ trailers.flatMap ResponseTrailer.encode := data
        rw [laid]
        rfl
      · rw [outputDigest, code, ← laid]
  · rintro ⟨shown, announced, handles, count, rfl⟩
    rw [shown] at announced ⊢
    have split : (success response.tag reply trailers).splitTrailers expected =
        .ok (reply.handles.flatMap Bytes.word32 ++ reply.parameters, trailers) :=
      (Response.splitTrailers_eq_ok_iff _ _ _ _).mpr ⟨announced, count, rfl⟩
    have bodyRead : command.readBody (reply.handles.flatMap Bytes.word32 ++ reply.parameters) =
        .ok reply := (readBody_eq_ok_iff _ _ _).mpr ⟨handles, rfl⟩
    change ((success response.tag reply trailers).splitTrailers expected >>= _) = _
    rw [split]
    change (command.readBody _ >>= _) = _
    rw [bodyRead]
    rfl

/-- An answer is read exactly when it is the frame of such a success. -/
theorem read_eq_ok_iff (command : Command) (expected : Nat) (answer : Except Fault Bytes)
    (reply : Reply) (digest : Digest) (trailers : List ResponseTrailer) :
    command.read expected answer = .ok (reply, digest, trailers) ↔
      ∃ tag, answer = .ok (success tag reply trailers).frame ∧
        (success tag reply trailers).frame.length < Bytes.capacity 4 ∧
        tag.responseTrailers? = some expected ∧
        reply.handles.length = command.outputHandles ∧ trailers.length = expected ∧
        digest = command.outputDigest reply := by
  constructor
  · intro found
    obtain ⟨response, received, unpacked⟩ :=
      (outcome_bind_eq_ok_iff (answer >>= Response.parse) (command.unpack expected) _).mp found
    obtain ⟨bytes, rfl, parsed⟩ := (outcome_bind_eq_ok_iff answer Response.parse _).mp received
    obtain ⟨isResponse, fits, rfl⟩ := (Response.parse_eq_ok_iff _ _).mp parsed
    obtain ⟨shown, announced, handles, count, same⟩ := (unpack_eq_ok_iff _ _ _ _ _ _).mp unpacked
    rw [response.announced_eq_iff expected isResponse] at announced
    refine ⟨response.tag, ?_, ?_, announced, handles, count, same⟩
    · rw [← shown]
    · rw [← shown]
      exact fits
  · rintro ⟨tag, rfl, fits, known, handles, count, rfl⟩
    have isResponse : tag.responseTrailers?.isSome = true := by rw [known]; rfl
    have parsed : Response.parse (success tag reply trailers).frame =
        .ok (success tag reply trailers) :=
      (Response.parse_eq_ok_iff _ _).mpr ⟨isResponse, fits, rfl⟩
    have announced : (success tag reply trailers).announced = expected :=
      ((success tag reply trailers).announced_eq_iff expected isResponse).mpr known
    rw [read_ok, parsed]
    exact (unpack_eq_ok_iff _ _ _ _ _ _).mpr ⟨rfl, announced, handles, count, rfl⟩

theorem isMalformed_of_readBody (command : Command) (body : Bytes) (fault : Fault)
    (failed : command.readBody body = .error fault) : fault.IsMalformed := by
  have reads : Action.FailsOnly Fault.IsMalformed (do
      let handles ← Decoder.times command.outputHandles Decoder.word32
      let parameters ← Decoder.rest
      return ⟨handles, parameters⟩ : Decoder Reply) :=
    .bind _ _ (.times _ _ .word32) fun _ => .bind _ _ .rest fun _ => .pure _
  exact reads (Reader.ofBytes body) fault failed

/-- A response that is not taken apart either carries the result code of a refusal, or is
malformed. -/
theorem unpack_eq_error (command : Command) (expected : Nat) (response : Response) (fault : Fault)
    (failed : command.unpack expected response = .error fault) :
    fault.IsMalformed ∨
      (response.code ≠ ResultCode.success ∧ fault = .refused command.ordinal response.code) := by
  change (if !response.isSuccess then _ else _) = _ at failed
  cases succeeded : response.isSuccess with
  | false =>
    rw [succeeded] at failed
    cases failed
    exact Or.inr ⟨of_decide_eq_false succeeded, rfl⟩
  | true =>
    left
    rw [succeeded] at failed
    change (response.splitTrailers expected >>= _) = _ at failed
    cases split : response.splitTrailers expected with
    | error other =>
      rw [split] at failed
      cases failed
      exact Response.isMalformed_of_splitTrailers _ _ _ split
    | ok parts =>
      obtain ⟨body, trailers⟩ := parts
      rw [split] at failed
      change (command.readBody body >>= _) = _ at failed
      cases bodyRead : command.readBody body with
      | error other =>
        rw [bodyRead] at failed
        cases failed
        exact isMalformed_of_readBody _ _ _ bodyRead
      | ok reply =>
        rw [bodyRead] at failed
        cases failed

theorem read_eq_error (command : Command) (expected : Nat) (received : Bytes) (fault : Fault)
    (failed : command.read expected (.ok received) = .error fault) :
    fault.IsMalformed ∨
      ∃ response, Response.parse received = .ok response ∧
        response.code ≠ ResultCode.success ∧ fault = .refused command.ordinal response.code := by
  rw [read_ok] at failed
  cases parsed : Response.parse received with
  | error other =>
    rw [parsed] at failed
    cases failed
    exact Or.inl (Response.isMalformed_of_parse _ _ parsed)
  | ok response =>
    rw [parsed] at failed
    rcases unpack_eq_error command expected response fault failed with malformed | ⟨code, same⟩
    · exact Or.inl malformed
    · exact Or.inr ⟨response, rfl, code, same⟩

theorem read_of_refused (command : Command) (expected : Nat) (received : Bytes)
    (response : Response) (parsed : Response.parse received = .ok response)
    (failed : response.code ≠ ResultCode.success) :
    command.read expected (.ok received) = .error (.refused command.ordinal response.code) := by
  have refused : response.isSuccess = false := decide_eq_false failed
  rw [read_ok, parsed]
  change (if !response.isSuccess then _ else _) = _
  rw [refused]
  rfl

end Command

theorem Tag.responseTrailers?_eq_one_iff (tag : Tag) :
    tag.responseTrailers? = some 1 ↔ tag = .responseOneTrailer := by
  cases tag <;> decide

/-- A session is over, and what it knew is kept. -/
structure Session.Ended (before after : Session) : Prop where
  handle : after.handle = before.handle
  binding : after.binding = before.binding
  issuedOdd : after.issuedOdd = before.issuedOdd
  unarmed : after.armedOdd = none
  nonceEven : after.nonceEven = before.nonceEven
  seenEven : ∀ nonce ∈ before.seenEven, nonce ∈ after.seenEven
  closed : after.status = .closed

theorem Session.ended_abort (session : Session) : session.Ended session.abort :=
  ⟨rfl, rfl, rfl, rfl, rfl, fun _ member => member, rfl⟩

namespace SessionUse

/-- What becomes of a command that carried `nonceOdd` and was answered, and of its session. -/
def conclude (use : SessionUse) (command : Command) (nonceOdd : Digest)
    (answer : Except Fault Bytes) : Except Fault Reply × Session :=
  match command.read 1 answer with
  | .error fault => (.error fault, use.session.abort)
  | .ok (reply, digest, [received]) =>
    match use.session.verify command.ordinal use.secret digest nonceOdd received with
    | (.ok (), session) => (.ok reply, session)
    | (.error fault, session) => (.error fault, session.abort)
  | .ok (reply, _, _) => (.ok reply, use.session)

/-- An answer that a client accepts for a command that carried `nonceOdd`: the frame of a success
whose one trailer the session accepts. -/
structure Accepted (use : SessionUse) (command : Command) (nonceOdd : Digest)
    (answer : Except Fault Bytes) (reply : Reply) (received : ResponseTrailer) : Prop where
  framed : answer = .ok (Command.success .responseOneTrailer reply [received]).frame
  fits : (Command.success .responseOneTrailer reply [received]).frame.length < Bytes.capacity 4
  handles : reply.handles.length = command.outputHandles
  accepts : use.session.Accepts use.secret (command.outputDigest reply) nonceOdd received

variable (use : SessionUse) (command : Command) (nonceOdd : Digest) (answer : Except Fault Bytes)

theorem accepted_spent_iff (drawn : Session) (nonces rest : NonceSource) (nonce : Digest)
    (reply : Reply) (received : ResponseTrailer)
    (draw : use.session.Draw nonces nonce drawn rest) :
    ({ use with session := drawn.spent } : SessionUse).Accepted command nonceOdd answer reply
        received ↔ use.Accepted command nonceOdd answer reply received := by
  constructor
  · rintro ⟨framed, fits, handles, accepts⟩
    exact ⟨framed, fits, handles, (draw.accepts_spent_iff _ _ _ _).mp accepts⟩
  · rintro ⟨framed, fits, handles, accepts⟩
    exact ⟨framed, fits, handles, (draw.accepts_spent_iff _ _ _ _).mpr accepts⟩

theorem read_of_accepted (reply : Reply) (received : ResponseTrailer)
    (accepted : use.Accepted command nonceOdd answer reply received) :
    command.read 1 answer = .ok (reply, command.outputDigest reply, [received]) :=
  (Command.read_eq_ok_iff _ _ _ _ _ _).mpr
    ⟨.responseOneTrailer, accepted.framed, accepted.fits, rfl, accepted.handles, rfl, rfl⟩

theorem conclude_of_accepted (reply : Reply) (received : ResponseTrailer)
    (accepted : use.Accepted command nonceOdd answer reply received) :
    use.conclude command nonceOdd answer = (.ok reply, use.session.advanced received) := by
  unfold conclude
  rw [read_of_accepted use command nonceOdd answer reply received accepted]
  dsimp only
  rw [Session.verify_of_accepts _ _ _ _ _ _ accepted.accepts]

theorem conclude_of_not_accepted
    (rejected : ∀ reply received, ¬ use.Accepted command nonceOdd answer reply received) :
    ∃ fault after, use.conclude command nonceOdd answer = (.error fault, after) ∧
      use.session.Ended after ∧
      (command.read 1 answer = .error fault ∨ fault = .nonceReuse use.session.handle ∨
        fault = .unverified command.ordinal) := by
  unfold conclude
  cases found : command.read 1 answer with
  | error fault => exact ⟨fault, _, rfl, Session.ended_abort _, Or.inl rfl⟩
  | ok parts =>
    obtain ⟨reply, digest, trailers⟩ := parts
    obtain ⟨tag, framed, fits, one, handles, count, rfl⟩ :=
      (Command.read_eq_ok_iff _ _ _ _ _ _).mp found
    obtain rfl := (Tag.responseTrailers?_eq_one_iff tag).mp one
    obtain ⟨received, rfl⟩ := List.length_eq_one_iff.mp count
    have refuses : ¬ use.session.Accepts use.secret (command.outputDigest reply) nonceOdd
        received := fun accepts => rejected reply received ⟨framed, fits, handles, accepts⟩
    obtain ⟨fault, seen, verified, cause, kept⟩ :=
      Session.verify_of_not_accepts use.session command.ordinal _ _ _ _ refuses
    dsimp only
    rw [verified]
    exact ⟨fault, _, rfl, ⟨rfl, rfl, rfl, rfl, rfl, kept, rfl⟩, Or.inr cause⟩

theorem conclude_eq_ok_iff (reply : Reply) (after : Session) :
    use.conclude command nonceOdd answer = (.ok reply, after) ↔
      ∃ received, use.Accepted command nonceOdd answer reply received ∧
        after = use.session.advanced received := by
  constructor
  · intro success
    by_cases accepted : ∃ output received, use.Accepted command nonceOdd answer output received
    · obtain ⟨output, received, accepted⟩ := accepted
      rw [conclude_of_accepted use command nonceOdd answer output received accepted] at success
      cases success
      exact ⟨received, accepted, rfl⟩
    · obtain ⟨fault, ended, failed, _⟩ := conclude_of_not_accepted use command nonceOdd answer
        (fun output received same => accepted ⟨output, received, same⟩)
      rw [failed] at success
      cases success
  · rintro ⟨received, accepted, rfl⟩
    exact conclude_of_accepted use command nonceOdd answer reply received accepted

theorem ended_of_conclude_eq_error (fault : Fault) (after : Session)
    (failed : use.conclude command nonceOdd answer = (.error fault, after)) :
    use.session.Ended after := by
  have rejected : ∀ reply received, ¬ use.Accepted command nonceOdd answer reply received := by
    intro reply received accepted
    rw [conclude_of_accepted use command nonceOdd answer reply received accepted] at failed
    cases failed
  obtain ⟨other, ended, concluded, isEnded, _⟩ :=
    conclude_of_not_accepted use command nonceOdd answer rejected
  rw [concluded] at failed
  cases failed
  exact isEnded

theorem binding_conclude :
    (use.conclude command nonceOdd answer).2.binding = use.session.binding := by
  cases concluded : use.conclude command nonceOdd answer with
  | mk outcome after =>
    cases outcome with
    | error fault =>
      exact (ended_of_conclude_eq_error use command nonceOdd answer fault after concluded).binding
    | ok reply =>
      obtain ⟨received, _, rfl⟩ :=
        (conclude_eq_ok_iff use command nonceOdd answer reply after).mp concluded
      rfl

theorem handle_conclude :
    (use.conclude command nonceOdd answer).2.handle = use.session.handle := by
  cases concluded : use.conclude command nonceOdd answer with
  | mk outcome after =>
    cases outcome with
    | error fault =>
      exact (ended_of_conclude_eq_error use command nonceOdd answer fault after concluded).handle
    | ok reply =>
      obtain ⟨received, _, rfl⟩ :=
        (conclude_eq_ok_iff use command nonceOdd answer reply after).mp concluded
      rfl

theorem conclude_spent_fst (drawn : Session) (nonces rest : NonceSource) (nonce : Digest)
    (draw : use.session.Draw nonces nonce drawn rest) :
    (({ use with session := drawn.spent } : SessionUse).conclude command nonceOdd answer).1 =
      (use.conclude command nonceOdd answer).1 := by
  unfold conclude
  cases command.read 1 answer with
  | error fault => rfl
  | ok parts =>
    obtain ⟨reply, digest, trailers⟩ := parts
    match trailers with
    | [] => rfl
    | _ :: _ :: _ => rfl
    | [received] =>
      have same := draw.verify_spent_fst command.ordinal use.secret digest nonceOdd received
      dsimp only
      revert same
      cases drawn.spent.verify command.ordinal use.secret digest nonceOdd received with
      | mk first _ =>
        cases use.session.verify command.ordinal use.secret digest nonceOdd received with
        | mk second _ =>
          rintro rfl
          cases first with
          | error fault => rfl
          | ok _ => rfl

end SessionUse

/-- The result code that an answer carries.  A channel's own faults carry none. -/
def answerCode? : Except Fault Bytes → Option UInt32
  | .error fault => fault.resultCode?
  | .ok received => (Response.parse received).toOption.map Response.code

theorem answerCode?_eq_some_iff (received : Bytes) (code : UInt32) :
    answerCode? (.ok received) = some code ↔
      ∃ response, Response.parse received = .ok response ∧ response.code = code := by
  show (Response.parse received).toOption.map Response.code = some code ↔ _
  cases Response.parse received with
  | error fault => simp [Except.toOption]
  | ok response => simp [Except.toOption]

theorem Fault.isRetryable_iff (fault : Fault) :
    fault.isRetryable = true ↔ fault.resultCode? = some ResultCode.retry := by
  unfold Fault.isRetryable
  exact beq_iff_eq

/-- A command that was answered is to be sent again exactly when the answer says so. -/
theorem SessionUse.isRetryable_conclude_iff (use : SessionUse) (command : Command)
    (nonceOdd : Digest) (answer : Except Fault Bytes) :
    (∃ fault, (use.conclude command nonceOdd answer).1 = .error fault ∧
      fault.isRetryable = true) ↔ answerCode? answer = some ResultCode.retry := by
  constructor
  · rintro ⟨fault, failed, retryable⟩
    have rejected : ∀ reply received, ¬ use.Accepted command nonceOdd answer reply received := by
      intro reply received accepted
      rw [use.conclude_of_accepted command nonceOdd answer reply received accepted] at failed
      cases failed
    obtain ⟨other, ended, concluded, _, cause⟩ :=
      use.conclude_of_not_accepted command nonceOdd answer rejected
    rw [concluded] at failed
    cases failed
    rw [Fault.isRetryable_iff] at retryable
    -- Only a fault of the channel or a refusal carries a result code.
    rcases cause with unread | rfl | rfl
    · cases answer with
      | error other =>
        cases unread
        exact retryable
      | ok received =>
        rcases command.read_eq_error 1 received fault unread with
          malformed | ⟨response, parsed, _, rfl⟩
        · rw [(Fault.isLocal_iff fault).mp malformed.isLocal] at retryable
          cases retryable
        · exact (answerCode?_eq_some_iff received _).mpr ⟨response, parsed, Option.some.inj retryable⟩
    · cases retryable
    · cases retryable
  · intro busy
    cases answer with
    | error fault => exact ⟨fault, rfl, (Fault.isRetryable_iff fault).mpr busy⟩
    | ok received =>
      obtain ⟨response, parsed, code⟩ := (answerCode?_eq_some_iff received _).mp busy
      have failed : response.code ≠ ResultCode.success := by
        rw [code]
        decide
      have unread := command.read_of_refused 1 received response parsed failed
      refine ⟨.refused command.ordinal response.code, ?_, ?_⟩
      · unfold SessionUse.conclude
        rw [unread]
      · rw [Fault.isRetryable_iff, ← code]
        rfl

end TrustedPlatform

import TrustedPlatform.Proofs.Client.Conclusion

/-!
# One attempt at a command

What an attempt under a session can do is said once, by `Attempt`: it stops before anything is
sent, in one of four ways, or one frame is exchanged and the session's holder concludes from the
answer.  `Dispatch.executeOnce_attempt` is the only place where `executeOnce` is opened.
-/

set_option autoImplicit false

namespace TrustedPlatform

variable {σ : Type} [Channel σ]

namespace Command

def plainFrame (command : Command) : Bytes :=
  Request.frame ⟨command.ordinal, command.handles, command.parameters, []⟩ .request

def trailer (command : Command) (use : SessionUse) (parameters : Bytes) (nonceOdd : Digest) :
    RequestTrailer :=
  use.session.trailer use.secret (Secret.requestDigest command.ordinal parameters) nonceOdd
    use.continueSession

def frame (command : Command) (use : SessionUse) (parameters : Bytes) (nonceOdd : Digest) :
    Bytes :=
  Request.frame
    ⟨command.ordinal, command.handles, parameters, [command.trailer use parameters nonceOdd]⟩
    .requestOneTrailer

end Command

/-- What is left of a session after an outcome: a fault ends it. -/
def Session.settledBy {α : Type} (session : Session) : Except Fault α → Session
  | .ok _ => session
  | .error _ => session.abort

/-- An attempt at a command under a session: its outcome, and what it leaves of the client and of
the session. -/
inductive Attempt (command : Command) (client : Client σ) (use : SessionUse) :
    Except Fault Reply → Client σ → Session → Prop where
  | unsealed (fault : Fault) (refused : command.sealedParameters (some use) = .error fault) :
      Attempt command client use (.error fault) client use.session
  | inactive (inactive : use.session.status ≠ .active) :
      Attempt command client use (.error (.sessionClosed use.session.handle)) client use.session
  | repeats (repeats : use.session.Repeats client.nonces) :
      Attempt command client use (.error (.nonceReuse use.session.handle))
        { client with nonces := client.nonces.next.2 } { use.session with status := .closed }
  | oversized (parameters : Bytes) (nonceOdd : Digest) (drawn : Session) (nonces : NonceSource)
      (isSealed : command.sealedParameters (some use) = .ok parameters)
      (active : use.session.status = .active)
      (draw : use.session.Draw client.nonces nonceOdd drawn nonces)
      (oversized : Bytes.capacity 4 ≤ (command.frame use parameters nonceOdd).length) :
      Attempt command client use (.error (.encoding .requestTooLarge))
        { client with nonces } drawn.spent
  | exchanged (parameters : Bytes) (nonceOdd : Digest) (drawn : Session) (nonces : NonceSource)
      (answer : Except Fault Bytes) (link : Link σ) (outcome : Except Fault Reply)
      (after : Session)
      (isSealed : command.sealedParameters (some use) = .ok parameters)
      (active : use.session.status = .active)
      (draw : use.session.Draw client.nonces nonceOdd drawn nonces)
      (fits : (command.frame use parameters nonceOdd).length < Bytes.capacity 4)
      (transmitted :
        (Link.transmit (command.frame use parameters nonceOdd)).run client.link = (answer, link))
      (concluded :
        ({ use with session := drawn.spent } : SessionUse).conclude command nonceOdd answer =
          (outcome, after)) :
      Attempt command client use outcome { client with nonces, link } after

namespace Dispatch

variable (command : Command) (client : Client σ) (use : SessionUse)

theorem run_exchange (frame : Bytes) (dispatch : Dispatch σ) (answer : Except Fault Bytes)
    (link : Link σ)
    (transmitted : (Link.transmit frame).run dispatch.client.link = (answer, link)) :
    (onClient (Client.onLink (Link.execute frame)) : Action Fault (Dispatch σ) Response).run
      dispatch = (answer >>= Response.parse, { dispatch with client.link := link }) := by
  unfold onClient Client.onLink Link.execute
  rw [Action.run_zoom, Action.run_zoom, Action.run_bind, transmitted]
  cases answer with
  | error fault => rfl
  | ok received => rfl

/-- What is done with a response that was taken apart: its trailer, if one is due, is held against
the session. -/
def appraise (trailer? : Option RequestTrailer)
    (unpacked : Except Fault (Reply × Digest × List ResponseTrailer)) :
    Action Fault (Dispatch σ) Reply := do
  let (reply, digest, trailers) ← Action.ofExcept unpacked
  match trailer?, trailers with
  | some sent, [received] => verify command digest sent received
  | _, _ => pure ()
  return reply

omit [Channel σ] in
theorem run_validate (trailer? : Option RequestTrailer) (response : Response)
    (dispatch : Dispatch σ) (succeeded : response.isSuccess = true) :
    (validate command trailer? response).run dispatch =
      (appraise command trailer? (command.unpack trailer?.toList.length response)).run
        dispatch := by
  have unpacked : command.unpack trailer?.toList.length response =
      response.splitTrailers trailer?.toList.length >>= fun parts =>
        command.readBody parts.1 >>= fun reply =>
          .ok (reply, Secret.responseDigest response.code command.ordinal
            (command.authorizedBody parts.1 reply), parts.2) := by
    unfold Command.unpack
    rw [succeeded]
    rfl
  unfold validate appraise
  rw [Action.run_bind, Action.run_ofExcept, Action.run_bind, Action.run_ofExcept, unpacked]
  cases response.splitTrailers trailer?.toList.length with
  | error fault => rfl
  | ok parts =>
    obtain ⟨body, trailers⟩ := parts
    dsimp only [bind, Except.bind]
    cases command.readBody body with
    | error fault => rfl
    | ok reply => rfl

/-- What is done with the answer of the link, with a session or without. -/
theorem run_converse (trailer? : Option RequestTrailer) (frame : Bytes) (dispatch : Dispatch σ)
    (answer : Except Fault Bytes) (link : Link σ)
    (transmitted : (Link.transmit frame).run dispatch.client.link = (answer, link)) :
    (converse command trailer? frame).run dispatch =
      (appraise command trailer? (command.read trailer?.toList.length answer)).run
        { dispatch with client.link := link } := by
  have executed := run_exchange frame dispatch answer link transmitted
  unfold converse
  rw [Action.run_bind, executed, Command.read]
  cases answer >>= Response.parse with
  | error fault => rfl
  | ok response =>
    cases succeeded : response.isSuccess with
    | false =>
      have unpacked : command.unpack trailer?.toList.length response =
          .error (.refused command.ordinal response.code) := by
        unfold Command.unpack
        rw [succeeded]
        rfl
      change _ = (appraise command trailer? (command.unpack _ response)).run _
      rw [unpacked]
      dsimp only
      rw [if_pos (by rw [succeeded]; rfl)]
      rfl
    | true =>
      dsimp only
      rw [if_neg (by rw [succeeded]; decide)]
      exact run_validate command trailer? response _ succeeded

omit [Channel σ] in
theorem run_abortOnFault {α : Type} (action : Action Fault (Dispatch σ) α) (after : Client σ)
    (session : Session) (use : SessionUse) (outcome : Except Fault α) (dispatch : Dispatch σ)
    (ran : action.run dispatch = (outcome, ⟨after, some { use with session }⟩)) :
    (abortOnFault action).run dispatch =
      (outcome, ⟨after, some { use with session := session.settledBy outcome }⟩) := by
  unfold abortOnFault
  rw [Action.run_bind, Action.run_attempt, ran]
  cases outcome with
  | ok value => rfl
  | error fault => rfl

omit [Channel σ] in
/-- Under a session, what is done with a response is what its holder concludes from it. -/
theorem run_appraise (sent : RequestTrailer) (answer : Except Fault Bytes) :
    ∃ session,
      (appraise command (some sent) (command.read 1 answer)).run ⟨client, some use⟩ =
        ((use.conclude command sent.nonceOdd answer).1,
          ⟨client, some { use with session }⟩) ∧
      (use.conclude command sent.nonceOdd answer).2 =
        session.settledBy (use.conclude command sent.nonceOdd answer).1 := by
  unfold appraise SessionUse.conclude
  rw [Action.run_bind, Action.run_ofExcept]
  cases found : command.read 1 answer with
  | error fault => exact ⟨use.session, rfl, rfl⟩
  | ok parts =>
    obtain ⟨reply, digest, trailers⟩ := parts
    obtain ⟨tag, _, _, _, _, count, _⟩ := (Command.read_eq_ok_iff _ _ _ _ _ _).mp found
    obtain ⟨received, rfl⟩ := List.length_eq_one_iff.mp count
    dsimp only
    rw [Action.run_bind]
    unfold verify
    dsimp only
    cases use.session.verify command.ordinal use.secret digest sent.nonceOdd received with
    | mk verified session =>
      cases verified with
      | ok _ => exact ⟨session, rfl, rfl⟩
      | error fault => exact ⟨session, rfl, rfl⟩

omit [Channel σ] in
theorem run_appraise_none (unpacked : Except Fault (Reply × Digest × List ResponseTrailer))
    (dispatch : Dispatch σ) :
    (appraise command none unpacked).run dispatch =
      (unpacked.map fun parts => parts.1, dispatch) := by
  cases unpacked with
  | error fault => rfl
  | ok parts => rfl

theorem run_abortOnFault_converse (sent : RequestTrailer) (frame : Bytes)
    (answer : Except Fault Bytes) (link : Link σ) (outcome : Except Fault Reply) (after : Session)
    (transmitted : (Link.transmit frame).run client.link = (answer, link))
    (concluded : use.conclude command sent.nonceOdd answer = (outcome, after)) :
    (abortOnFault (converse command (some sent) frame)).run ⟨client, some use⟩ =
      (outcome, ⟨{ client with link }, some { use with session := after }⟩) := by
  obtain ⟨session, appraised, ended⟩ :=
    run_appraise command { client with link } use sent answer
  rw [concluded] at appraised ended
  dsimp only at appraised ended
  have conversed := (run_converse command (some sent) frame ⟨client, some use⟩ answer link
    transmitted).trans appraised
  rw [run_abortOnFault _ _ session use outcome _ conversed, ended]

theorem executeOnce_of_unsealed (dispatch : Dispatch σ) (fault : Fault)
    (refused : command.sealedParameters dispatch.use? = .error fault) :
    (executeOnce command).run dispatch = (.error fault, dispatch) := by
  unfold executeOnce
  rw [Action.run_bind, Action.run_get]
  dsimp only
  rw [Action.run_bind, Action.run_ofExcept, refused]

theorem executeOnce_of_sealed (dispatch : Dispatch σ) (parameters : Bytes)
    (isSealed : command.sealedParameters dispatch.use? = .ok parameters) :
    (executeOnce command).run dispatch =
      (authorize command parameters >>= fun trailer? =>
        Action.ofExcept (Request.encode
          ⟨command.ordinal, command.handles, parameters, trailer?.toList⟩) >>= fun frame =>
            abortOnFault (converse command trailer? frame)).run dispatch := by
  unfold executeOnce
  rw [Action.run_bind, Action.run_get]
  dsimp only
  rw [Action.run_bind, Action.run_ofExcept, isSealed]

omit [Channel σ] in
theorem run_authorize (parameters : Bytes) (outcome : Except Fault RequestTrailer)
    (session : Session) (nonces : NonceSource)
    (authorized : use.session.authorize use.secret
      (Secret.requestDigest command.ordinal parameters) use.continueSession client.nonces =
        (outcome, session, nonces)) :
    (authorize command parameters).run ⟨client, some use⟩ =
      (outcome.map some, ⟨{ client with nonces }, some { use with session }⟩) := by
  unfold authorize
  dsimp only
  rw [authorized]

theorem executeOnce_of_unauthorized (parameters : Bytes) (fault : Fault) (session : Session)
    (nonces : NonceSource) (isSealed : command.sealedParameters (some use) = .ok parameters)
    (refused : use.session.authorize use.secret
      (Secret.requestDigest command.ordinal parameters) use.continueSession client.nonces =
        (.error fault, session, nonces)) :
    (executeOnce command).run ⟨client, some use⟩ =
      (.error fault, ⟨{ client with nonces }, some { use with session }⟩) := by
  rw [executeOnce_of_sealed command ⟨client, some use⟩ parameters isSealed, Action.run_bind,
    run_authorize command client use parameters _ _ _ refused]
  rfl

/-- Whatever can be done for a command up to the exchange, its outcome is that of encoding it and of
conversing with its frame. -/
theorem executeOnce_of_draw (parameters : Bytes) (nonceOdd : Digest) (drawn : Session)
    (nonces : NonceSource) (isSealed : command.sealedParameters (some use) = .ok parameters)
    (active : use.session.status = .active)
    (draw : use.session.Draw client.nonces nonceOdd drawn nonces) :
    (executeOnce command).run ⟨client, some use⟩ =
      if (command.frame use parameters nonceOdd).length < Bytes.capacity 4 then
        (abortOnFault (converse command (some (command.trailer use parameters nonceOdd))
          (command.frame use parameters nonceOdd))).run
            ⟨{ client with nonces }, some { use with session := drawn.spent }⟩
      else
        (.error (.encoding .requestTooLarge),
          ⟨{ client with nonces }, some { use with session := drawn.spent }⟩) := by
  have authorized := use.session.authorize_of_draw drawn client.nonces nonces nonceOdd use.secret
    (Secret.requestDigest command.ordinal parameters) use.continueSession active draw
  have encoded : Request.encode ⟨command.ordinal, command.handles, parameters,
      [command.trailer use parameters nonceOdd]⟩ =
        if (command.frame use parameters nonceOdd).length < Bytes.capacity 4 then
          .ok (command.frame use parameters nonceOdd)
        else .error (.encoding .requestTooLarge) := Request.encode_eq _ _ rfl
  rw [executeOnce_of_sealed command ⟨client, some use⟩ parameters isSealed, Action.run_bind,
    run_authorize command client use parameters _ _ _ authorized]
  change (Action.ofExcept (Request.encode ⟨command.ordinal, command.handles, parameters,
    [command.trailer use parameters nonceOdd]⟩) >>= fun frame =>
      abortOnFault (converse command (some (command.trailer use parameters nonceOdd)) frame)).run
        _ = _
  rw [Action.run_bind, Action.run_ofExcept, encoded]
  by_cases fits : (command.frame use parameters nonceOdd).length < Bytes.capacity 4
  · rw [if_pos fits, if_pos fits]
  · rw [if_neg fits, if_neg fits]

theorem executeOnce_of_exchanged (parameters : Bytes) (nonceOdd : Digest) (drawn : Session)
    (nonces : NonceSource) (answer : Except Fault Bytes) (link : Link σ)
    (outcome : Except Fault Reply) (after : Session)
    (isSealed : command.sealedParameters (some use) = .ok parameters)
    (active : use.session.status = .active)
    (draw : use.session.Draw client.nonces nonceOdd drawn nonces)
    (fits : (command.frame use parameters nonceOdd).length < Bytes.capacity 4)
    (transmitted :
      (Link.transmit (command.frame use parameters nonceOdd)).run client.link = (answer, link))
    (concluded :
      ({ use with session := drawn.spent } : SessionUse).conclude command nonceOdd answer =
        (outcome, after)) :
    (executeOnce command).run ⟨client, some use⟩ =
      (outcome, ⟨{ client with nonces, link }, some { use with session := after }⟩) := by
  rw [executeOnce_of_draw command client use parameters nonceOdd drawn nonces isSealed active draw,
    if_pos fits]
  exact run_abortOnFault_converse command { client with nonces }
    { use with session := drawn.spent } _ _ answer link outcome after transmitted concluded

theorem executeOnce_attempt :
    ∃ outcome after session,
      (executeOnce command).run ⟨client, some use⟩ =
        (outcome, ⟨after, some { use with session }⟩) ∧
      Attempt command client use outcome after session := by
  cases isSealed : command.sealedParameters (some use) with
  | error fault =>
    exact ⟨.error fault, client, use.session,
      executeOnce_of_unsealed command ⟨client, some use⟩ fault isSealed, .unsealed fault isSealed⟩
  | ok parameters =>
    rcases Session.draw_cases use.session client.nonces with
      inactive | repeats | ⟨active, nonceOdd, drawn, nonces, draw⟩
    · exact ⟨_, _, _, executeOnce_of_unauthorized command client use parameters _ _ _ isSealed
        (use.session.authorize_of_not_active _ _ _ _ inactive), .inactive inactive⟩
    · exact ⟨_, _, _, executeOnce_of_unauthorized command client use parameters _ _ _ isSealed
        (use.session.authorize_of_repeats _ _ _ _ repeats), .repeats repeats⟩
    · by_cases fits : (command.frame use parameters nonceOdd).length < Bytes.capacity 4
      · cases transmitted :
            (Link.transmit (command.frame use parameters nonceOdd)).run client.link with
        | mk answer link =>
          cases concluded : ({ use with session := drawn.spent } : SessionUse).conclude command
              nonceOdd answer with
          | mk outcome after =>
            exact ⟨outcome, _, after,
              executeOnce_of_exchanged command client use parameters nonceOdd drawn nonces answer
                link outcome after isSealed active draw fits transmitted concluded,
              .exchanged parameters nonceOdd drawn nonces answer link outcome after isSealed active
                draw fits transmitted concluded⟩
      · refine ⟨_, _, _, ?_, .oversized parameters nonceOdd drawn nonces isSealed active draw
          (Nat.le_of_not_lt fits)⟩
        rw [executeOnce_of_draw command client use parameters nonceOdd drawn nonces isSealed active
          draw, if_neg fits]

theorem sealedParameters_of_plain (use? : Option SessionUse) (plain : command.newSecret = none) :
    command.sealedParameters use? = .ok command.parameters := by
  unfold Command.sealedParameters
  rw [plain]

theorem executeOnce_of_plain (answer : Except Fault Bytes) (link : Link σ)
    (plain : command.newSecret = none) (fits : command.plainFrame.length < Bytes.capacity 4)
    (transmitted : (Link.transmit command.plainFrame).run client.link = (answer, link)) :
    (executeOnce command).run ⟨client, none⟩ =
      ((command.read 0 answer).map fun parts => parts.1, ⟨{ client with link }, none⟩) := by
  have encoded : Request.encode ⟨command.ordinal, command.handles, command.parameters, []⟩ =
      if command.plainFrame.length < Bytes.capacity 4 then .ok command.plainFrame
      else .error (.encoding .requestTooLarge) := Request.encode_eq _ .request rfl
  have opened : (executeOnce command).run ⟨client, none⟩ =
      (Action.ofExcept (Request.encode
        ⟨command.ordinal, command.handles, command.parameters, []⟩) >>= fun frame =>
          abortOnFault (converse command none frame)).run ⟨client, none⟩ :=
    executeOnce_of_sealed command ⟨client, none⟩ command.parameters
      (sealedParameters_of_plain command none plain)
  have conversed : (converse command none command.plainFrame).run ⟨client, none⟩ =
      ((command.read 0 answer).map fun parts => parts.1, ⟨{ client with link }, none⟩) :=
    (run_converse command none _ ⟨client, none⟩ answer link transmitted).trans
      (run_appraise_none command _ _)
  rw [opened, Action.run_bind, Action.run_ofExcept, encoded, if_pos fits]
  dsimp only
  unfold abortOnFault
  rw [Action.run_bind, Action.run_attempt, conversed]
  cases command.read 0 answer with
  | error fault => rfl
  | ok parts => rfl

theorem executeOnce_of_unsendable
    (unsendable : ¬ (command.newSecret = none ∧
      command.plainFrame.length < Bytes.capacity 4)) :
    ∃ cause, (executeOnce command).run ⟨client, none⟩ =
      (.error (.encoding cause), ⟨client, none⟩) := by
  cases masked : command.newSecret with
  | some secret =>
    have unsealed : command.sealedParameters none = .error (.encoding .secretNeedsSession) := by
      unfold Command.sealedParameters
      rw [masked]
    exact ⟨.secretNeedsSession, executeOnce_of_unsealed command ⟨client, none⟩ _ unsealed⟩
  | none =>
    have large : ¬ command.plainFrame.length < Bytes.capacity 4 :=
      fun fits => unsendable ⟨masked, fits⟩
    have encoded : Request.encode ⟨command.ordinal, command.handles, command.parameters, []⟩ =
        .error (.encoding .requestTooLarge) :=
      (Request.encode_eq _ .request rfl).trans (if_neg large)
    have opened : (executeOnce command).run ⟨client, none⟩ =
        (Action.ofExcept (Request.encode
          ⟨command.ordinal, command.handles, command.parameters, []⟩) >>= fun frame =>
            abortOnFault (converse command none frame)).run ⟨client, none⟩ :=
      executeOnce_of_sealed command ⟨client, none⟩ command.parameters
        (sealedParameters_of_plain command none masked)
    rw [opened, Action.run_bind, Action.run_ofExcept, encoded]
    exact ⟨_, rfl⟩

end Dispatch

end TrustedPlatform

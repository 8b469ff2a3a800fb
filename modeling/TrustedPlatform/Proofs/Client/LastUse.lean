import TrustedPlatform.Proofs.Client.Rest
import TrustedPlatform.Proofs.Client.Sending
import TrustedPlatform.Proofs.Client.Tracking
import TrustedPlatform.Proofs.Module.Calling

/-!
# The last use of a session

A session that is lent for its last use says so in the trailer of every request that is sent for it
(`Retries.bears`).  Once one was sent, the session is over when the call is, with one exception: a
response that is accepted, and says on its own account that the session goes on, is believed
(`Dispatch.GoesOn`).  Both together are `Workspace.lastUse`.
-/

set_option autoImplicit false

namespace TrustedPlatform

variable {σ : Type} [Channel σ]

namespace Dispatch

/-- What one attempt on a tapped channel does with its session: it is closed, or goes on because the
response says so; or nothing was sent, because of the command or because the session is not open. -/
theorem executeOnce_lasts (command : Command) (client : Client (Tapped σ)) (use : SessionUse) :
    ∃ outcome after left sent,
      (executeOnce command).run ⟨client, some use⟩ =
        (outcome, ⟨after, some { use with session := left }⟩) ∧
      after.link.record = client.link.record ++ sent ∧
      (command.Sendable use.session.kind → use.session.status = .active →
        left.status = .closed ∨
        (left.status = .active ∧ ∃ parameters nonceOdd answer reply received,
          sent = [⟨command.frame use parameters nonceOdd, answer⟩] ∧
          use.Accepted command nonceOdd answer reply received ∧
          received.continueSession = true)) ∧
      (¬ (command.Sendable use.session.kind ∧ use.session.status = .active) →
        sent = [] ∧ ∃ fault, outcome = .error fault ∧ fault.isLocal = true) := by
  obtain ⟨outcome, after, left, ran, attempt⟩ := executeOnce_attempt command client use
  cases attempt with
  | unsealed fault refused =>
    have unsendable := command.not_sendable_of_unsealed use fault refused
    have isLocal := (command.only_sealedParameters _ fault refused).isLocal
    exact ⟨_, _, _, [], ran, (List.append_nil _).symm,
      fun sendable => absurd sendable unsendable, fun _ => ⟨rfl, fault, rfl, isLocal⟩⟩
  | inactive inactive =>
    exact ⟨_, _, _, [], ran, (List.append_nil _).symm, fun _ active => absurd active inactive,
      fun _ => ⟨rfl, _, rfl, rfl⟩⟩
  | repeats repeats =>
    exact ⟨_, _, _, [], ran, (List.append_nil _).symm, fun _ _ => Or.inl rfl,
      fun _ => ⟨rfl, _, rfl, rfl⟩⟩
  | oversized parameters nonceOdd drawn nonces isSealed active draw large =>
    rw [command.length_frame, command.length_of_sealed use parameters isSealed] at large
    exact ⟨_, _, _, [], ran, (List.append_nil _).symm,
      fun sendable => absurd sendable.fits (Nat.not_lt.mpr large), fun _ => ⟨rfl, _, rfl, rfl⟩⟩
  | exchanged parameters nonceOdd drawn nonces answer link _ _ isSealed active draw fits
      transmitted concluded =>
    obtain ⟨sent, recorded, adds⟩ := Link.transmit_tapped _ _ _ _ transmitted
    refine ⟨_, _, _, sent, ran, recorded, fun _ _ => ?_, fun unsendable => ?_⟩
    · cases outcome with
      | error fault =>
        exact Or.inl (SessionUse.ended_of_conclude_eq_error _ command nonceOdd answer fault left
          concluded).closed
      | ok reply =>
        obtain ⟨received, accepted, rfl⟩ :=
          (SessionUse.conclude_eq_ok_iff _ command nonceOdd answer reply left).mp concluded
        cases goesOn : received.continueSession with
        | false =>
          left
          simp [Session.advanced, goesOn]
        | true =>
          have still : drawn.spent.status = .active := draw.status_eq.trans active
          cases adds with
          | unreached fault failed =>
            rw [failed] at accepted
            exact nomatch accepted.framed
          | exchange =>
            have acceptedBefore := (use.accepted_spent_iff command nonceOdd answer drawn _ _ _
              reply received draw).mp accepted
            exact Or.inr ⟨by simpa [Session.advanced, goesOn] using still, parameters, nonceOdd,
              answer, reply, received, rfl, acceptedBefore, goesOn⟩
    · exact absurd ⟨command.sendable_of_sealed use parameters nonceOdd isSealed fits, active⟩
        unsendable

/-- The last of the attempts that began from some dispatches was answered by a response that its
holder accepts, and that says that the session goes on. -/
def GoesOn (beginnings : List (Dispatch (Tapped σ))) (sent : List Exchange) : Prop :=
  ∃ last use command parameters nonceOdd answer reply received before,
    beginnings.getLast? = some last ∧ last.use? = some use ∧
    sent = before ++ [⟨Command.frame command use parameters nonceOdd, answer⟩] ∧
    use.Accepted command nonceOdd answer reply received ∧ received.continueSession = true

omit [Channel σ] in
theorem GoesOn.later {beginnings : List (Dispatch (Tapped σ))} {sent : List Exchange}
    (goesOn : GoesOn beginnings sent) (first : Dispatch (Tapped σ)) (earlier : List Exchange) :
    GoesOn (first :: beginnings) (earlier ++ sent) := by
  obtain ⟨last, use, command, parameters, nonceOdd, answer, reply, received, before, isLast, lent,
    rfl, accepted, continues⟩ := goesOn
  refine ⟨last, use, command, parameters, nonceOdd, answer, reply, received, earlier ++ before, ?_,
    lent, (List.append_assoc _ _ _).symm, accepted, continues⟩
  cases beginnings with
  | nil => cases isLast
  | cons next others => rw [List.getLast?_cons_cons, isLast]

/-- The attempts at a command leave their last session closed, or it goes on because the last
response says so; or nothing was sent at all. -/
theorem Course.lasts {command : Command} {further : Nat} {start after : Dispatch (Tapped σ)}
    {beginnings : List (Dispatch (Tapped σ))} {outcome : Except Fault Reply}
    (course : Course command further start beginnings outcome after) (client : Client (Tapped σ))
    (use : SessionUse) (lent : start = ⟨client, some use⟩) :
    ∃ reached left sent,
      after = ⟨reached, some { use with session := left }⟩ ∧
      reached.link.record = client.link.record ++ sent ∧
      (command.Sendable use.session.kind → use.session.status = .active →
        left.status = .closed ∨ (left.status = .active ∧ GoesOn beginnings sent)) ∧
      (¬ (command.Sendable use.session.kind ∧ use.session.status = .active) → sent = []) := by
  induction course generalizing client use with
  | ends further start after outcome ran =>
    subst lent
    obtain ⟨_, reached, left, sent, executed, recorded, lasts, unsent⟩ :=
      executeOnce_lasts command client use
    rw [executed] at ran
    cases ran
    refine ⟨reached, left, sent, rfl, recorded, fun sendable active => ?_,
      fun unsendable => (unsent unsendable).1⟩
    rcases lasts sendable active with
      closed | ⟨still, parameters, nonceOdd, answer, reply, received, rfl, accepted, continues⟩
    · exact Or.inl closed
    · exact Or.inr ⟨still, _, use, command, parameters, nonceOdd, answer, reply, received, [], rfl,
        rfl, rfl, accepted, continues⟩
  | strands further start between after fault other ran busy failed =>
    subst lent
    obtain ⟨_, reached, left, executed, attempted⟩ := executeOnce_attempted command client use
    obtain ⟨_, _, _, sent, also, recorded, _, unsent⟩ := executeOnce_lasts command client use
    rw [executed] at ran also
    cases also
    cases ran
    obtain ⟨second, opening, reopened, replaced, _, opens⟩ :=
      replaceSession_tapped reached { use with session := left }
    have given := (replaceSession_eq_error reached _ after other failed).1
    rw [replaced] at failed
    obtain ⟨_, rfl⟩ := Prod.mk.inj failed
    refine ⟨reopened, left, sent ++ opening, congrArg (Dispatch.mk reopened) given, ?_, ?_, ?_⟩
    · rw [opens.recorded, recorded, List.append_assoc]
    · exact fun _ _ => Or.inl (attempted.busy fault rfl busy)
    · intro unsendable
      obtain ⟨_, same, refused, isLocal⟩ := unsent unsendable
      cases refused
      rw [not_isRetryable_of_isLocal fault isLocal] at busy
      cases busy
  | goesOn further start between next after later fault outcome ran busy replaced course
      inductionHypothesis =>
    subst lent
    obtain ⟨_, reached, left, executed, attempted⟩ := executeOnce_attempted command client use
    obtain ⟨_, _, _, sent, also, recorded, _, unsent⟩ := executeOnce_lasts command client use
    rw [executed] at ran also
    cases also
    cases ran
    obtain ⟨fresh, reopened, rfl, active, kind, _⟩ := replaceSession_eq_ok reached _ next replaced
    have sameKind : fresh.kind = use.session.kind :=
      kind.trans (congrArg Binding.kind attempted.binding)
    obtain ⟨second, opening, extendedClient, also, _, opens⟩ :=
      replaceSession_tapped reached { use with session := left }
    rw [replaced] at also
    obtain rfl : reopened = extendedClient :=
      congrArg Dispatch.client (Prod.mk.inj also).2
    obtain ⟨last, final, rest, rfl, recordedLater, lasts, _⟩ :=
      inductionHypothesis reopened { use with session := fresh } rfl
    refine ⟨last, final, (sent ++ opening) ++ rest, rfl, ?_, ?_, ?_⟩
    · rw [recordedLater, opens.recorded, recorded]
      simp only [List.append_assoc]
    · intro sendable _
      rcases lasts (sameKind.symm ▸ sendable) active with closed | ⟨still, goesOn⟩
      · exact Or.inl closed
      · exact Or.inr ⟨still, goesOn.later _ _⟩
    · intro unsendable
      obtain ⟨_, same, refused, isLocal⟩ := unsent unsendable
      cases refused
      rw [not_isRetryable_of_isLocal fault isLocal] at busy
      cases busy

end Dispatch

namespace AuthorizedCall

/-- What a call sends under the session lent for it, and what that leaves of the session. -/
theorem perform_lasts (call : AuthorizedCall) (client : Client (Tapped σ)) (use : SessionUse) :
    ∃ answer after left sent,
      (call.perform : Action Fault (Dispatch (Tapped σ)) Answer).run ⟨client, some use⟩ =
        (answer, ⟨after, some { use with session := left }⟩) ∧
      after.link.record = client.link.record ++ sent ∧
      (∀ exchange ∈ sent, ∀ trailer, exchange.Bears trailer →
        trailer.continueSession = use.continueSession) ∧
      (sent ≠ [] → left.status = .closed ∨
        (left.status = .active ∧ Dispatch.GoesOn (call.starts ⟨client, some use⟩) sent)) := by
  obtain ⟨outcome, nonces, session, made, handle, binding, course⟩ := call.prepare_cases client use
  cases outcome with
  | error fault =>
    exact ⟨_, _, session, [], call.perform_of_unprepared _ _ fault made,
      (List.append_nil _).symm, List.forall_mem_nil _, fun sends => absurd rfl sends⟩
  | ok command =>
    have standard := call.standard_prepare _ _ _ made
    let further := Dispatch.furtherAttempts command ({ client with nonces } : Client (Tapped σ))
    obtain ⟨reached, left, sent, ended, recorded, lasts, unsent⟩ :=
      (Dispatch.executeUpTo_course command further
        ⟨{ client with nonces }, some { use with session }⟩).lasts _ _ rfl
    obtain ⟨reply, again, final, also, ran, recordedAlso, retries⟩ :=
      Dispatch.executeUpTo_retries command further { client with nonces } { use with session }
    rw [ran] at ended
    cases ended
    obtain rfl : also = sent := List.append_cancel_left (recordedAlso.symm.trans recorded)
    obtain ⟨answer, inventory, performed, _⟩ := call.perform_of_attempts _ _ _ command reply made ran
    refine ⟨answer, _, left, also, performed, recorded, retries.bears standard.handles, ?_⟩
    intro sends
    have ready := not_imp_comm.mp unsent sends
    rw [call.starts_of_prepared _ _ command made]
    exact lasts ready.1 ready.2

/-- A call has its command sent as soon as it is made up, unless something stands in its way. -/
theorem perform_sends (call : AuthorizedCall) (client made : Client (Tapped σ))
    (use lent : SessionUse) (command : Command)
    (prepared : (prepare call).run ⟨client, some use⟩ = (.ok command, ⟨made, some lent⟩))
    (sendable : command.Sendable lent.session.kind) (clean : made.link.spoiled = false)
    (active : lent.session.status = .active) (drawsNew : ¬ lent.session.Repeats made.nonces) :
    ∃ parameters nonceOdd answer others,
      ((call.perform : Action Fault (Dispatch (Tapped σ)) Answer).run
        ⟨client, some use⟩).2.client.link.record =
          made.link.record ++ ⟨command.frame lent parameters nonceOdd, answer⟩ :: others := by
  obtain ⟨parameters, nonceOdd, answer, sent, _⟩ :=
    Dispatch.executeOnce_sends command made lent sendable clean active drawsNew
  obtain ⟨others, extended⟩ :=
    Dispatch.record_executeUpTo command (Dispatch.furtherAttempts command made) made lent
  obtain ⟨_, inventory, performed, _⟩ := call.perform_of_prepared _ _ _ command _ prepared
    (Dispatch.run_execute command ⟨made, some lent⟩)
  refine ⟨parameters, nonceOdd, answer, others, ?_⟩
  rw [performed]
  dsimp only
  rw [Dispatch.link_settle, extended, sent, List.append_assoc]
  rfl

end AuthorizedCall

namespace Workspace

/-- The session held under a name is over: it is closed, no handle that it or one before it had is
listed, and it authorizes nothing any more. -/
structure Finished (workspace : Workspace (Tapped σ)) (name : String) (left : Session)
    (handles : List UInt32) : Prop where
  closed : left.status = .closed
  among : left.handle ∈ handles
  unlisted : ∀ handle ∈ handles, workspace.client.inventory.sessions.get? handle = none
  rests : ∀ later, workspace.Retains name later → workspace.Rests name left later

/-- A session that is lent for its last use is over once a request was sent with its trailer, unless
the last response is accepted and says that the session goes on. -/
theorem lastUse (workspace : Workspace (Tapped σ)) (call : AuthorizedCall) (loan : Loan)
    (session : Session) (isLast : loan.continueSession = false)
    (held : workspace.session? loan.name = some session) :
    let lent : Dispatch (Tapped σ) :=
      ⟨workspace.client, some ⟨session, loan.secret, loan.continueSession⟩⟩
    ∃ answer after left sent,
      (Call.authorized call (some loan)).perform.run workspace = (answer, after) ∧
      after.session? loan.name = some left ∧
      after.client.link.record = workspace.client.link.record ++ sent ∧
      (∀ exchange ∈ sent, ∀ trailer, exchange.Bears trailer → trailer.continueSession = false) ∧
      ((∃ exchange ∈ sent, ∃ trailer, exchange.Bears trailer) →
        after.Finished loan.name left (session.handle :: call.issued lent) ∨
          (left.status = .active ∧ Dispatch.GoesOn (call.starts lent) sent)) := by
  intro lent
  obtain ⟨answer, client, left, sent, performed, recorded, bears, lasts⟩ :=
    call.perform_lasts workspace.client ⟨session, loan.secret, loan.continueSession⟩
  obtain ⟨_, _, _, also, ends⟩ :=
    call.perform_ends workspace.client ⟨session, loan.secret, loan.continueSession⟩
  rw [performed] at also
  cases also
  refine ⟨answer, _, left, sent,
    run_lend_of_held loan call.perform workspace session left answer client held performed,
    session?_hold _ _ _, recorded, ?_, ?_⟩
  · rw [← isLast]
    exact bears
  · rintro ⟨exchange, member, _⟩
    have sends : sent ≠ [] := List.ne_nil_of_mem member
    refine (lasts sends).imp_left fun closed => ?_
    have inactive : left.status ≠ .active := by
      rw [closed]
      decide
    cases ends with
    | unprepared fault nonces _ _ _ _ => exact absurd (List.self_eq_append_right.mp recorded) sends
    | repeats _ _ => exact absurd (List.self_eq_append_right.mp recorded) sends
    | dispatched _ _ _ _ tracks =>
      refine ⟨closed, tracks.among, tracks.gone inactive, fun later retained => ?_⟩
      rcases rests_or_comesBack _ loan.name left later (session?_hold _ _ _) inactive retained with
        rests | ⟨suspended, _⟩
      · exact rests
      · rw [closed] at suspended
        cases suspended

namespace LastUse

def session : Session := .oiap 7 (.replicate 20 1)

def loan : Loan := ⟨"owner", .wellKnown, false⟩

def use : SessionUse := ⟨session, .wellKnown, false⟩

def command : Command := { ordinal := .incrementCounter, parameters := Bytes.word32 5 }

def nonceOdd : Digest := .replicate 20 3

def workspace (answer : Bytes) : Workspace (Tapped Script) where
  client :=
    { link := .fresh ⟨.ofEntries [.answer answer], none, []⟩
      inventory := Inventory.empty.addSession 7 .oiap
      nonces := ⟨fun number => .replicate 20 (.ofNat (3 + number)), 0⟩
      attempts := 1 }
  sessions := [("owner", session)]

def refusal : Bytes := Bytes.word16 0xc4 ++ Bytes.bigEndian 4 10 ++ Bytes.word32 1

def received : ResponseTrailer where
  nonceEven := .replicate 20 2
  continueSession := true
  authorization := Secret.wellKnown.authorize
    (command.outputDigest ⟨[], CounterValue.encode ⟨.replicate 4 0, 6⟩⟩) (.replicate 20 2) nonceOdd
    true

def continuing : Bytes :=
  (Command.success .responseOneTrailer ⟨[], CounterValue.encode ⟨.replicate 4 0, 6⟩⟩
    [received]).frame

theorem sendable : command.Sendable session.kind where
  maskable masks := nomatch masks
  fits := by decide

/-- A module that refuses the command ends the session. -/
theorem finished_of_refusal :
    loan.continueSession = false ∧ (workspace refusal).session? loan.name = some session ∧
      ∃ after left,
        ((Call.authorized (.incrementCounter 5) (some loan)).perform.run
          (workspace refusal)).2 = after ∧
        after.Finished "owner" left (session.handle ::
          (AuthorizedCall.incrementCounter 5).issued ⟨(workspace refusal).client, some use⟩) := by
  have held : (workspace refusal).session? loan.name = some session := rfl
  refine ⟨rfl, held, ?_⟩
  obtain ⟨answer, after, left, sent, ran, heldAfter, recorded, _, lasts⟩ :=
    lastUse (workspace refusal) (.incrementCounter 5) loan session rfl held
  obtain ⟨parameters, odd, reply, others, begun⟩ :=
    (AuthorizedCall.incrementCounter 5).perform_sends (workspace refusal).client
      (workspace refusal).client use use command rfl sendable rfl rfl
      fun repeats => nomatch repeats.issued
  obtain ⟨_, client, final, _, performed, _⟩ :=
    (AuthorizedCall.incrementCounter 5).perform_lasts (workspace refusal).client use
  have lent := run_lend_of_held loan (AuthorizedCall.incrementCounter 5).perform
    (workspace refusal) session final _ client held performed
  obtain ⟨_, rfl⟩ := Prod.mk.inj (ran.symm.trans lent)
  rw [performed] at begun
  obtain rfl := List.append_cancel_left (recorded.symm.trans begun)
  have bears := (Exchange.bears_frame_iff command use parameters odd reply rfl _).mpr rfl
  have closed : (((Call.authorized (.incrementCounter 5) (some loan)).perform.run
      (workspace refusal)).2.session? "owner").map Session.status = some .closed := rfl
  refine ⟨_, left, congrArg Prod.snd ran, ?_⟩
  rcases lasts ⟨_, List.mem_cons_self, _, bears⟩ with finished | ⟨active, _⟩
  · exact finished
  · rw [ran] at closed
    obtain ⟨_, same, isClosed⟩ := Option.map_eq_some_iff.mp closed
    obtain rfl := Option.some.inj (same.symm.trans heldAfter)
    rw [active] at isClosed
    cases isClosed

/-- A response that is accepted and says that the session goes on is believed: the session stays
open and listed, although the request said that this was its last use. -/
theorem goesOn_of_last_use :
    loan.continueSession = false ∧ (workspace continuing).session? loan.name = some session ∧
      ∃ answer after left parameters,
        (Call.authorized (.incrementCounter 5) (some loan)).perform.run (workspace continuing) =
          (.ok answer, after) ∧
        after.session? loan.name = some left ∧ left.status = .active ∧
        after.client.inventory.sessions.get? left.handle = some .oiap ∧
        after.client.link.record = (workspace continuing).client.link.record ++
          [⟨command.frame use parameters nonceOdd, .ok continuing⟩] ∧
        (command.trailer use parameters nonceOdd).continueSession = false := by
  let client := (workspace continuing).client
  let drawn : Session := { session with armedOdd := some nonceOdd, issuedOdd := [nonceOdd] }
  have draw : session.Draw client.nonces nonceOdd drawn client.nonces.next.2 :=
    .fresh rfl List.not_mem_nil
  have accepts : drawn.spent.Accepts .wellKnown
      (command.outputDigest ⟨[], CounterValue.encode ⟨.replicate 4 0, 6⟩⟩) nonceOdd received :=
    ⟨by decide, rfl⟩
  have accepted : ({ use with session := drawn.spent } : SessionUse).Accepted command nonceOdd
      (.ok continuing) ⟨[], CounterValue.encode ⟨.replicate 4 0, 6⟩⟩ received :=
    ⟨rfl, by rw [Response.length_frame]; decide, rfl, accepts⟩
  have concluded := SessionUse.conclude_of_accepted _ command nonceOdd _ _ _ accepted
  obtain ⟨link, transmitted⟩ : ∃ link, (Link.transmit (command.frame use (Bytes.word32 5)
      nonceOdd)).run client.link = (.ok continuing, link) := ⟨_, rfl⟩
  let reached : Client (Tapped Script) := { client with nonces := client.nonces.next.2, link }
  let left := drawn.spent.advanced received
  have recorded := (Link.transmit_tapped_of_clean _ _ _ _ rfl transmitted).1
  have executed := Dispatch.executeOnce_of_exchanged command client use (Bytes.word32 5) nonceOdd
    drawn client.nonces.next.2 (.ok continuing) link _ _ rfl rfl draw
    (by rw [command.length_frame]; decide) transmitted concluded
  have dispatched : (Dispatch.execute command).run ⟨client, some use⟩ =
      (.ok ⟨[], CounterValue.encode ⟨.replicate 4 0, 6⟩⟩,
        ⟨reached, some { use with session := left }⟩) := by
    have once : Dispatch.furtherAttempts command client = 0 := rfl
    rw [Dispatch.run_execute, once, Dispatch.executeUpTo_zero, executed]
    exact congrArg _ (Dispatch.settle_of_active _ _ rfl)
  have finished : ∀ dispatch : Dispatch (Tapped Script),
      ((AuthorizedCall.incrementCounter 5).finish
        ⟨[], CounterValue.encode ⟨.replicate 4 0, 6⟩⟩).run dispatch =
          (.ok (.counter ⟨.replicate 4 0, 6⟩), dispatch) := fun _ => rfl
  have performed : ((AuthorizedCall.incrementCounter 5).perform :
      Action Fault (Dispatch (Tapped Script)) Answer).run ⟨client, some use⟩ =
        (.ok (.counter ⟨.replicate 4 0, 6⟩), ⟨reached, some { use with session := left }⟩) := by
    rw [AuthorizedCall.perform_eq]
    exact (Action.run_bind_of_ok _ _ _ _ _ rfl).trans
      ((Action.run_bind_of_ok _ _ _ _ _ dispatched).trans (finished _))
  have lends : (⟨(workspace continuing).client,
      some ⟨session, loan.secret, loan.continueSession⟩⟩ : Dispatch (Tapped Script)) =
        ⟨client, some use⟩ := rfl
  have lent := run_lend_of_held loan (AuthorizedCall.incrementCounter 5).perform
    (workspace continuing) session left _ reached rfl (by rw [lends, performed]; rfl)
  let after : Workspace (Tapped Script) :=
    { workspace continuing with client := reached }.hold loan.name left
  refine ⟨rfl, rfl, .counter ⟨.replicate 4 0, 6⟩, after, left, Bytes.word32 5, ?_,
    session?_hold _ _ _, rfl, rfl, recorded, rfl⟩
  rw [Call.perform, lent]

end LastUse

end Workspace

end TrustedPlatform

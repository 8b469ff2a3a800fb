import TrustedPlatform.Proofs.Client.Tracking
import TrustedPlatform.Proofs.Module.Calling
import TrustedPlatform.Proofs.Module.Holding

/-!
# Sessions that a client leaves behind

What a client does without a session opens none (`opensNone`).  What it does under a session that is
lent for its last use ends that session with the first request, and every session opened in its
place likewise; only if that request cannot be made up does the session stay open
(`AuthorizedCall.usesUp_perform`).  All this is said of a link that nothing has spoiled.
-/

set_option autoImplicit false

namespace TrustedPlatform

namespace Link

variable {σ : Type}

/-- What a tapped link recorded since is as wanted, and nothing has spoiled it, provided that
nothing had before and that the channel brought all answers. -/
def Sends (before after : Link (Tapped σ)) (wanted : List Exchange → Prop) : Prop :=
  ∃ sent, after.record = before.record ++ sent ∧
    (before.spoiled = false → (∀ exchange ∈ sent, exchange.Answered) →
      after.spoiled = false ∧ wanted sent)

namespace Sends

variable {before between after : Link (Tapped σ)} {early late wanted : List Exchange → Prop}

theorem nothing (link : Link (Tapped σ)) (isWanted : wanted []) : link.Sends link wanted :=
  ⟨[], (List.append_nil _).symm, fun clean _ => ⟨clean, isWanted⟩⟩

theorem mono (sends : before.Sends after early) (implied : ∀ sent, early sent → late sent) :
    before.Sends after late := by
  obtain ⟨sent, recorded, kept⟩ := sends
  refine ⟨sent, recorded, fun clean answered => ?_⟩
  obtain ⟨still, shown⟩ := kept clean answered
  exact ⟨still, implied sent shown⟩

theorem trans (first : before.Sends between early) (second : between.Sends after late)
    (joined : ∀ sent later, early sent → late later → wanted (sent ++ later)) :
    before.Sends after wanted := by
  obtain ⟨sent, recorded, kept⟩ := first
  obtain ⟨later, recordedLater, keptLater⟩ := second
  refine ⟨sent ++ later, ?_, fun clean answered => ?_⟩
  · rw [recordedLater, recorded, List.append_assoc]
  · obtain ⟨still, shown⟩ :=
      kept clean fun exchange member => answered exchange (List.mem_append_left _ member)
    obtain ⟨last, shownLater⟩ :=
      keptLater still fun exchange member => answered exchange (List.mem_append_right _ member)
    exact ⟨last, joined sent later shown shownLater⟩

theorem transmit [Channel σ] (request : Bytes) (link after : Link (Tapped σ))
    (answer : Except Fault Bytes)
    (transmitted : (Link.transmit request).run link = (answer, after)) :
    link.Sends after fun sent =>
      sent = [⟨request, answer⟩] ∧ (Exchange.mk request answer).Answered := by
  cases spoiled : link.spoiled with
  | true =>
    obtain ⟨added, recorded, _⟩ := Link.transmit_tapped request link after answer transmitted
    exact ⟨added, recorded, fun clean => by simp [spoiled] at clean⟩
  | false =>
    obtain ⟨recorded, still⟩ :=
      Link.transmit_tapped_of_clean request link after answer spoiled transmitted
    refine ⟨[⟨request, answer⟩], recorded, fun _ answered => ?_⟩
    have isAnswered := answered _ (List.mem_singleton_self _)
    obtain ⟨response, brought⟩ := isAnswered
    exact ⟨still response brought, rfl, response, brought⟩

end Sends

end Link

variable {σ : Type}

namespace Later

/-- No session was opened since. -/
def opensNone : Later (Client (Tapped σ)) where
  related before after := before.link.Sends after.link fun sent =>
    ∀ exchange ∈ sent, ∀ handle, ¬ exchange.Opens handle
  refl client := .nothing client.link (List.forall_mem_nil _)
  trans first second third early late := by
    refine early.trans late fun sent later opensEarly opensLate exchange member => ?_
    rcases List.mem_append.mp member with isEarly | isLate
    · exact opensEarly exchange isEarly
    · exact opensLate exchange isLate

theorem opensNone_allowsRequests [Channel σ] : (opensNone (σ := σ)).AllowsRequests := by
  intro command plain client answer link transmitted
  refine (Link.Sends.transmit _ _ _ _ transmitted).mono ?_
  intro sent shown exchange member handle
  obtain ⟨rfl, _⟩ := shown
  obtain rfl := List.mem_singleton.mp member
  exact Exchange.not_opens_plainFrame command answer plain handle

theorem opensNone_allowsNoting (change : Inventory → Inventory) :
    (opensNone (σ := σ)).AllowsNoting change :=
  fun client => opensNone.refl client

end Later

/-- A fault for which a request under the session of a handle is not made up: a part of it cannot be
written, or the source of nonces repeated one of the session. -/
def Fault.Withholds (fault : Fault) (handle : UInt32) : Prop :=
  fault.IsEncoding ∨ fault = .nonceReuse handle

def Fault.Withheld {α : Type} (outcome : Except Fault α) (handle : UInt32) : Prop :=
  ∃ fault, outcome = .error fault ∧ fault.Withholds handle

theorem Fault.Withheld.not_busy {α : Type} {outcome : Except Fault α} {handle : UInt32}
    (withheld : Withheld outcome handle) :
    ¬ ∃ fault, outcome = .error fault ∧ fault.isRetryable = true := by
  obtain ⟨fault, rfl, reason⟩ := withheld
  intro busy
  obtain ⟨_, ⟨⟩, retryable⟩ := busy
  have isLocal : fault.isLocal = true := by
    rcases reason with encoding | rfl
    · exact encoding.isLocal
    · rfl
  simp [Dispatch.not_isRetryable_of_isLocal fault isLocal] at retryable

/-- One request for a session was sent, and opened what its client takes it to have opened. -/
def Asks (opened : Except Fault Session) (sent : List Exchange) : Prop :=
  ∃ opening : Exchange, sent = [opening] ∧ ∀ handle,
    opening.Opens handle ↔ ∃ session, opened = .ok session ∧ session.handle = handle

theorem Asks.onlyLastLeft_of_fault {reason : UInt32 → Prop} {fault : Fault} {sent : List Exchange}
    (asks : Asks (.error fault) sent) : OnlyLastLeft reason sent := by
  obtain ⟨opening, rfl, whether⟩ := asks
  refine .of_none_opened fun exchange member handle opens => ?_
  obtain rfl := List.mem_singleton.mp member
  obtain ⟨session, opened, _⟩ := (whether handle).mp opens
  cases opened

theorem Asks.onlyLastLeft {reason : UInt32 → Prop} {session : Session} {sent later : List Exchange}
    (asks : Asks (.ok session) sent) (usedUp : UsedUp reason session.handle later) :
    OnlyLastLeft reason (sent ++ later) := by
  obtain ⟨opening, rfl, whether⟩ := asks
  exact usedUp.onlyLastLeft opening ((whether _).mpr ⟨session, rfl, rfl⟩)

/-- One request was sent, and it ended a session. -/
def EndedBy (handle : UInt32) (sent : List Exchange) : Prop :=
  ∃ exchange : Exchange, sent = [exchange] ∧ exchange.Ends handle

theorem EndedBy.usedUp_append {reason : UInt32 → Prop} {handle : UInt32}
    {sent later : List Exchange} (ended : EndedBy handle sent)
    (others : OnlyLastLeft reason later) : UsedUp reason handle (sent ++ later) := by
  obtain ⟨exchange, rfl, ends⟩ := ended
  exact .ended exchange later ends others

theorem EndedBy.usedUp {reason : UInt32 → Prop} {handle : UInt32} {sent : List Exchange}
    (ended : EndedBy handle sent) : UsedUp reason handle sent := by
  have nothing : OnlyLastLeft reason [] := .of_none_opened (List.forall_mem_nil _)
  have alone := ended.usedUp_append nothing
  rwa [List.append_nil] at alone

variable [Channel σ]

theorem Link.Sends.asks (kind : SessionKind) (secret : Secret) (setupOdd : Digest)
    (link after : Link (Tapped σ)) (answer : Except Fault Bytes)
    (transmitted : (Link.transmit (kind.openingFrame setupOdd)).run link = (answer, after)) :
    link.Sends after (Asks (kind.opened secret setupOdd answer)) := by
  refine (Link.Sends.transmit _ _ _ _ transmitted).mono fun sent shown => ?_
  exact ⟨_, shown.1, Exchange.opens_openingFrame_iff kind secret setupOdd answer⟩

theorem Client.openSession_asks (kind : SessionKind) (secret : Secret)
    (client : Client (Tapped σ)) :
    ∃ opened after, (openSession kind secret).run client = (opened, after) ∧
      client.link.Sends after.link (Asks opened) ∧
      ∀ session, opened = .ok session → session.status = .active := by
  cases transmitted : (Link.transmit (kind.openingFrame client.nonces.next.1)).run client.link with
  | mk answer link =>
    refine ⟨_, _, run_openSession kind secret client answer link transmitted, ?_, ?_⟩
    · rw [link_received]
      exact .asks kind secret _ client.link link answer transmitted
    · intro session opened
      exact ((SessionKind.opened_eq_ok_iff _ _ _ _ _).mp opened).active

namespace Dispatch

theorem replaceSession_asks (client : Client (Tapped σ)) (use : SessionUse) :
    ∃ opened after, (replaceSession (σ := Tapped σ)).run ⟨client, some use⟩ =
        (opened.map fun _ => (),
          ⟨after, some { use with session := use.session.replacedBy opened }⟩) ∧
      client.link.Sends after.link (Asks opened) ∧
      ∀ session, opened = .ok session → session.status = .active := by
  cases transmitted : (Link.transmit
      (use.session.kind.openingFrame client.nonces.next.1)).run client.link with
  | mk answer link =>
    refine ⟨_, _, run_replaceSession client use answer link _ transmitted rfl, ?_, ?_⟩
    · rw [Client.link_received]
      exact .asks _ use.secret _ client.link link answer transmitted
    · intro session opened
      exact ((SessionKind.opened_eq_ok_iff _ _ _ _ _).mp opened).active

/-- An attempt under a session that is lent for its last use ends it, unless it is withheld. -/
theorem executeOnce_ends (command : Command) (client : Client (Tapped σ)) (use : SessionUse)
    (handles : command.handles.length = command.ordinal.handleCount)
    (active : use.session.status = .active) (isLast : use.continueSession = false) :
    ∃ outcome after left,
      (executeOnce command).run ⟨client, some use⟩ =
        (outcome, ⟨after, some { use with session := left }⟩) ∧
      ((after.link = client.link ∧ Fault.Withheld outcome use.session.handle) ∨
        client.link.Sends after.link (EndedBy use.session.handle)) := by
  obtain ⟨outcome, after, left, ran, attempt⟩ := executeOnce_attempt command client use
  refine ⟨outcome, after, left, ran, ?_⟩
  cases attempt with
  | unsealed fault refused =>
    exact Or.inl ⟨rfl, fault, rfl, Or.inl (command.only_sealedParameters _ fault refused)⟩
  | inactive inactive => exact absurd active inactive
  | repeats _ => exact Or.inl ⟨rfl, _, rfl, Or.inr rfl⟩
  | oversized _ _ _ _ _ _ _ _ => exact Or.inl ⟨rfl, _, rfl, Or.inl ⟨_, rfl⟩⟩
  | exchanged parameters nonceOdd _ _ answer _ _ _ _ _ _ _ transmitted _ =>
    refine Or.inr ((Link.Sends.transmit _ _ _ _ transmitted).mono fun sent shown => ?_)
    obtain ⟨rfl, answered⟩ := shown
    have bears :=
      (Exchange.bears_frame_iff command use parameters nonceOdd answer handles _).mpr rfl
    exact ⟨_, rfl, _, bears, rfl, answered, Or.inl isLast⟩

theorem executeUpTo_usesUp (command : Command) (further : Nat) (client : Client (Tapped σ))
    (use : SessionUse) (handles : command.handles.length = command.ordinal.handleCount)
    (active : use.session.status = .active) (isLast : use.continueSession = false) :
    ∃ outcome after left,
      (executeUpTo command further).run ⟨client, some use⟩ =
        (outcome, ⟨after, some { use with session := left }⟩) ∧
      client.link.Sends after.link (UsedUp (Fault.Withheld outcome) use.session.handle) := by
  -- The attempts that follow go under other sessions, so client and session vary.
  induction further generalizing client use with
  | zero =>
    obtain ⟨outcome, after, left, ran, ⟨same, withheld⟩ | sends⟩ :=
      executeOnce_ends command client use handles active isLast
    · exact ⟨outcome, after, left, ran, same ▸ .nothing _ (.unused withheld)⟩
    · exact ⟨outcome, after, left, ran, sends.mono fun sent ended => ended.usedUp⟩
  | succ further inductionHypothesis =>
    obtain ⟨outcome, after, left, ran, ⟨same, withheld⟩ | sends⟩ :=
      executeOnce_ends command client use handles active isLast
    · exact ⟨outcome, after, left,
        executeUpTo_of_final command _ _ _ outcome ran withheld.not_busy,
        same ▸ .nothing _ (.unused withheld)⟩
    · by_cases busy : ∃ fault, outcome = .error fault ∧ fault.isRetryable = true
      · obtain ⟨fault, rfl, retryable⟩ := busy
        obtain ⟨opened, reopened, replaced, asks, isActive⟩ :=
          replaceSession_asks after { use with session := left }
        have next := executeUpTo_of_busy command further _ _ fault ran retryable
        rw [Action.run_bind, replaced] at next
        cases opened with
        | error other =>
          refine ⟨_, _, _, next, sends.trans asks fun sent opening ended asked => ?_⟩
          exact ended.usedUp_append asked.onlyLastLeft_of_fault
        | ok fresh =>
          obtain ⟨outcome, last, final, ranLater, later⟩ :=
            inductionHypothesis reopened { use with session := fresh } (isActive fresh rfl) isLast
          have others : after.link.Sends last.link (OnlyLastLeft (Fault.Withheld outcome)) :=
            asks.trans later fun opening sent asked usedUp => asked.onlyLastLeft usedUp
          refine ⟨outcome, last, final, next.trans ranLater, sends.trans others ?_⟩
          intro sent later ended others
          exact ended.usedUp_append others
      · exact ⟨outcome, after, left, executeUpTo_of_final command _ _ _ outcome ran busy,
          sends.mono fun sent ended => ended.usedUp⟩

/-- Under an open session that is lent for its last use, the action uses the session up. -/
def UsesUp {α : Type} (action : Action Fault (Dispatch (Tapped σ)) α) : Prop :=
  ∀ (client : Client (Tapped σ)) (use : SessionUse) (outcome : Except Fault α)
    (left : Dispatch (Tapped σ)), use.session.status = .active → use.continueSession = false →
      action.run ⟨client, some use⟩ = (outcome, left) →
      client.link.Sends left.client.link (UsedUp (Fault.Withheld outcome) use.session.handle)

omit [Channel σ] in
theorem UsesUp.of_returning {α β : Type} (action : Action Fault (Dispatch (Tapped σ)) α)
    (shows : α → β) (usesUp : UsesUp (action >>= fun value => pure (shows value))) :
    UsesUp action := by
  intro client use outcome left active isLast ran
  have shown := Action.run_bind_pure action shows _ _ _ ran
  refine (usesUp client use _ left active isLast shown).mono fun sent usedUp => usedUp.mono ?_
  intro handle withheld
  obtain ⟨fault, failed, reason⟩ := withheld
  cases outcome with
  | ok value => cases failed
  | error other =>
    cases failed
    exact ⟨fault, rfl, reason⟩

end Dispatch

namespace AuthorizedCall

omit [Channel σ] in
theorem withholds_of_unprepared (call : AuthorizedCall) (client : Client σ) (use : SessionUse)
    (fault : Fault) (prepared : Dispatch σ) (active : use.session.status = .active)
    (failed : (prepare call).run ⟨client, some use⟩ = (.error fault, prepared)) :
    fault.Withholds use.session.handle := by
  rcases call.run_prepare ⟨client, some use⟩ with ⟨_, encoding, _⟩ | ⟨_, drawing⟩
  · rw [failed] at encoding
    exact Or.inl (encoding fault rfl)
  · rw [failed] at drawing
    rcases use.session.draw_cases client.nonces with
      inactive | repeats | ⟨_, nonce, drawn, rest, draw⟩
    · exact absurd active inactive
    · have drew : (Dispatch.nextNonceOdd.run (⟨client, some use⟩ : Dispatch σ)).1 =
          .error (.nonceReuse use.session.handle) := by
        simp [Dispatch.nextNonceOdd, use.session.nextNonceOdd_of_repeats client.nonces repeats]
      rw [drew] at drawing
      exact Or.inr (Except.error.inj drawing)
    · have drew : (Dispatch.nextNonceOdd.run (⟨client, some use⟩ : Dispatch σ)).1 = .ok nonce := by
        simp [Dispatch.nextNonceOdd,
          use.session.nextNonceOdd_of_draw drawn client.nonces rest nonce active draw]
      rw [drew] at drawing
      exact Or.inl (drawing fault rfl)

/-- A call ends the session it is lent for its last use, unless its command is withheld. -/
theorem usesUp_perform (call : AuthorizedCall) :
    Dispatch.UsesUp (call.perform : Action Fault (Dispatch (Tapped σ)) Answer) := by
  intro client use outcome left active isLast performed
  obtain ⟨made, nonces, session, prepared, handle, _, reached⟩ := call.prepare_cases client use
  cases made with
  | error fault =>
    have reason := call.withholds_of_unprepared client use fault _ active prepared
    rw [call.perform_of_unprepared _ _ fault prepared] at performed
    cases performed
    exact .nothing _ (.unused ⟨fault, rfl, reason⟩)
  | ok command =>
    have standard := call.standard_prepare _ _ _ prepared
    have status : session.status = .active := by
      rcases reached with ⟨same, _⟩ | ⟨_, _, failed, _⟩
      · rw [same, active]
      · cases failed
    obtain ⟨reply, after, final, ran, sends⟩ := Dispatch.executeUpTo_usesUp command
      (Dispatch.furtherAttempts command ({ client with nonces } : Client (Tapped σ)))
      { client with nonces } { use with session } standard.handles status isLast
    rw [handle] at sends
    obtain ⟨answer, inventory, ended, fails⟩ :=
      call.perform_of_attempts _ _ _ command reply prepared ran
    rw [ended] at performed
    cases performed
    refine sends.mono fun sent usedUp => usedUp.mono fun other withheld => ?_
    obtain ⟨fault, failed, reason⟩ := withheld
    exact ⟨fault, fails fault failed, reason⟩

theorem opensNone_perform (call : AuthorizedCall) :
    (Client.unauthorized call.perform : Action Fault (Client (Tapped σ)) Answer).Keeps
      Later.opensNone :=
  Client.keeps_unauthorized _ (call.keeps_perform Later.opensNone_allowsRequests
    fun change _ => Later.opensNone_allowsNoting change)

end AuthorizedCall

theorem PlainCall.opensNone_perform (call : PlainCall) :
    (call.perform : Action Fault (Client (Tapped σ)) Answer).Keeps Later.opensNone :=
  call.keeps_perform Later.opensNone_allowsRequests
    fun change _ => Later.opensNone_allowsNoting change

end TrustedPlatform

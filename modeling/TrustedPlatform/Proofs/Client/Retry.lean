import TrustedPlatform.Channel.Script
import TrustedPlatform.Proofs.Client.Inquiry
import TrustedPlatform.Proofs.Frame.RequestReading
import TrustedPlatform.Proofs.Structure.Faults

/-!
# Sending a command again

What a dispatched command sends is said once, by `Retries`: an attempt follows another only when
the module was busy, attempts are left, and a session of the same kind was opened in between.  So
every dispatch goes on a tapped channel (`Dispatch.execute_retries`), and a command is not sent more
often than there are attempts (`Retries.length_calls_le`).
-/

set_option autoImplicit false

namespace TrustedPlatform

namespace Command

/-- Parameters that carry those of a command under a session: a new secret in front of them is what
the session's shared secret and even nonce reveal. -/
def Carried (command : Command) (session : Session) (parameters : Bytes) : Prop :=
  match command.newSecret with
  | none => parameters = command.parameters
  | some secret =>
    ∃ (shared : Secret) (masked : Digest), session.binding.shared? = some shared ∧
      parameters = masked.bytes ++ command.parameters ∧
      Secret.reveal shared session.nonceEven masked = secret

theorem carried_of_sealed (command : Command) (use : SessionUse) (parameters : Bytes)
    (isSealed : command.sealedParameters (some use) = .ok parameters) :
    command.Carried use.session parameters := by
  unfold sealedParameters at isSealed
  unfold Carried
  cases masked : command.newSecret with
  | none =>
    rw [masked] at isSealed
    exact (Except.ok.inj isSealed).symm
  | some secret =>
    rw [masked] at isSealed
    dsimp only at isSealed ⊢
    cases known : use.session.binding.shared? with
    | none =>
      rw [known] at isSealed
      cases isSealed
    | some shared =>
      rw [known] at isSealed
      exact ⟨shared, Secret.conceal shared use.session.nonceEven secret, rfl,
        (Except.ok.inj isSealed).symm, Secret.reveal_conceal _ _ _⟩

theorem only_sealedParameters (command : Command) (use? : Option SessionUse) :
    Fault.Only Fault.IsEncoding (command.sealedParameters use?) := by
  unfold sealedParameters
  split
  · exact .ok _
  · exact .error _ ⟨_, rfl⟩
  · split
    · exact .error _ ⟨_, rfl⟩
    · exact .ok _

end Command

namespace Command

variable (command : Command) (use : SessionUse) (nonces : NonceSource)

/-- Why nothing is handed to the link for an attempt: its session has no secret to mask a new one
with, or is not open, or its source repeats a nonce, or the request is too large. -/
inductive Withheld : Fault → Prop where
  | unmasked (masks : command.newSecret ≠ none) (keyless : use.session.binding.shared? = none) :
      Withheld (.encoding .sessionHasNoSecret)
  | inactive (inactive : use.session.status ≠ .active) :
      Withheld (.sessionClosed use.session.handle)
  | repeats (repeats : use.session.Repeats nonces) : Withheld (.nonceReuse use.session.handle)
  | oversized (parameters : Bytes) (nonceOdd : Digest) (drawn : Session) (rest : NonceSource)
      (active : use.session.status = .active)
      (carried : command.Carried use.session parameters)
      (draw : use.session.Draw nonces nonceOdd drawn rest)
      (oversized : Bytes.capacity 4 ≤ (command.frame use parameters nonceOdd).length) :
      Withheld (.encoding .requestTooLarge)

theorem withheld_of_unsealed (fault : Fault)
    (refused : command.sealedParameters (some use) = .error fault) :
    command.Withheld use nonces fault := by
  unfold sealedParameters at refused
  cases masked : command.newSecret with
  | none =>
    rw [masked] at refused
    cases refused
  | some secret =>
    rw [masked] at refused
    dsimp only at refused
    cases known : use.session.binding.shared? with
    | none =>
      rw [known] at refused
      cases refused
      exact .unmasked (by rw [masked]; exact Option.some_ne_none secret) known
    | some shared =>
      rw [known] at refused
      cases refused

/-- The frame that is handed to the link for an attempt, with the odd nonce that it carries and the
nonces that are left. -/
structure Issues (nonceOdd : Digest) (rest : NonceSource) (frame : Bytes) : Prop where
  active : use.session.status = .active
  draws : ∃ drawn, use.session.Draw nonces nonceOdd drawn rest
  framed : ∃ parameters, command.Carried use.session parameters ∧
    frame = command.frame use parameters nonceOdd
  fits : frame.length < Bytes.capacity 4

end Command

section

variable {σ : Type} [Channel σ]

/-- What a command under a session sends, one exchange after the other, while further attempts are
left, and how it ends.  Nothing but a busy module leads to a further attempt. -/
inductive Retries (command : Command) : Nat → NonceSource → Link (Tapped σ) → SessionUse →
    List Exchange → Except Fault Reply → Prop where
  | refused (further : Nat) (nonces : NonceSource) (link : Link (Tapped σ)) (use : SessionUse)
      (fault : Fault) (withheld : command.Withheld use nonces fault) :
      Retries command further nonces link use [] (.error fault)
  | last (further : Nat) (nonces rest : NonceSource) (link after : Link (Tapped σ))
      (use : SessionUse) (nonceOdd : Digest) (frame : Bytes) (answer : Except Fault Bytes)
      (sent : List Exchange)
      (issues : command.Issues use nonces nonceOdd rest frame)
      (conveys : Link.Conveys frame link answer after sent)
      (final : answerCode? answer = some ResultCode.retry → further = 0) :
      Retries command further nonces link use sent (use.conclude command nonceOdd answer).1
  -- The module was busy, and no new session could be opened.
  | stranded (further : Nat) (nonces rest : NonceSource) (link between after : Link (Tapped σ))
      (use : SessionUse) (nonceOdd : Digest) (frame : Bytes) (answer second : Except Fault Bytes)
      (sent opening : List Exchange) (fault : Fault)
      (issues : command.Issues use nonces nonceOdd rest frame)
      (conveys : Link.Conveys frame link answer between sent)
      (busy : answerCode? answer = some ResultCode.retry)
      (opens : Link.Conveys (use.session.kind.openingFrame rest.next.1) between second after
        opening)
      (failed : use.session.kind.opened use.secret rest.next.1 second = .error fault) :
      Retries command (further + 1) nonces link use (sent ++ opening) (.error fault)
  -- The module was busy, and the next attempt goes under a new session of the same kind.
  | again (further : Nat) (nonces rest : NonceSource) (link between after : Link (Tapped σ))
      (use : SessionUse) (nonceOdd : Digest) (frame : Bytes) (answer second : Except Fault Bytes)
      (sent later : List Exchange) (fresh : Session) (outcome : Except Fault Reply)
      (issues : command.Issues use nonces nonceOdd rest frame)
      (conveys : Link.Conveys frame link answer between sent)
      (busy : answerCode? answer = some ResultCode.retry)
      (opens : Link.Conveys (use.session.kind.openingFrame rest.next.1) between second after
        [⟨use.session.kind.openingFrame rest.next.1, second⟩])
      (opened : SessionKind.Opens use.secret rest.next.1 second use.session.kind fresh)
      (retried : Retries command further (use.session.kind.leaves rest) after
        { use with session := fresh } later outcome) :
      Retries command (further + 1) nonces link use
        (sent ++ ⟨use.session.kind.openingFrame rest.next.1, second⟩ :: later) outcome

end

def Exchange.calls (ordinal : Ordinal) (exchange : Exchange) : Bool :=
  (exchange.request.drop 6).take 4 == Bytes.word32 ordinal.code

variable {σ : Type} [Channel σ]

namespace Dispatch

/-- One attempt on a tapped channel: withheld with nothing sent, or its frame was handed to the link
and its outcome is concluded from the answer. -/
theorem executeOnce_tapped (command : Command) (client : Client (Tapped σ)) (use : SessionUse) :
    ∃ outcome after session sent,
      (executeOnce command).run ⟨client, some use⟩ =
        (outcome, ⟨after, some { use with session }⟩) ∧
      session.binding = use.session.binding ∧
      after.link.record = client.link.record ++ sent ∧
      ((sent = [] ∧ ∃ fault, outcome = .error fault ∧
          command.Withheld use client.nonces fault) ∨
        ∃ nonceOdd frame answer,
          command.Issues use client.nonces nonceOdd after.nonces frame ∧
          Link.Conveys frame client.link answer after.link sent ∧
          outcome = (use.conclude command nonceOdd answer).1) := by
  obtain ⟨outcome, after, session, ran, attempt⟩ := executeOnce_attempt command client use
  cases attempt with
  | unsealed fault refused =>
    exact ⟨_, _, _, [], ran, rfl, (List.append_nil _).symm,
      Or.inl ⟨rfl, fault, rfl, command.withheld_of_unsealed use client.nonces fault refused⟩⟩
  | inactive inactive =>
    exact ⟨_, _, _, [], ran, rfl, (List.append_nil _).symm,
      Or.inl ⟨rfl, _, rfl, .inactive inactive⟩⟩
  | repeats repeats =>
    exact ⟨_, _, _, [], ran, rfl, (List.append_nil _).symm, Or.inl ⟨rfl, _, rfl, .repeats repeats⟩⟩
  | oversized parameters nonceOdd drawn nonces isSealed active draw large =>
    exact ⟨_, _, _, [], ran, draw.binding_eq, (List.append_nil _).symm, Or.inl ⟨rfl, _, rfl,
      .oversized parameters nonceOdd drawn nonces active
        (command.carried_of_sealed use parameters isSealed) draw large⟩⟩
  | exchanged parameters nonceOdd drawn nonces answer link _ _ isSealed active draw fits
      transmitted concluded =>
    obtain ⟨sent, conveys⟩ := Link.conveys _ _ _ _ transmitted
    have binding := SessionUse.binding_conclude { use with session := drawn.spent } command nonceOdd
      answer
    have same := use.conclude_spent_fst command nonceOdd answer drawn _ _ _ draw
    rw [concluded] at binding same
    have issues : command.Issues use client.nonces nonceOdd nonces
        (command.frame use parameters nonceOdd) :=
      ⟨active, ⟨drawn, draw⟩, ⟨parameters, command.carried_of_sealed use parameters isSealed, rfl⟩,
        fits⟩
    exact ⟨_, _, _, sent, ran, binding.trans draw.binding_eq, conveys.recorded,
      Or.inr ⟨nonceOdd, _, answer, issues, conveys, same⟩⟩

theorem replaceSession_tapped (client : Client (Tapped σ)) (use : SessionUse) :
    ∃ second opening after,
      (replaceSession (σ := Tapped σ)).run ⟨client, some use⟩ =
        ((use.session.kind.opened use.secret client.nonces.next.1 second).map fun _ => (),
          ⟨after, some { use with
            session := use.session.replacedBy
              (use.session.kind.opened use.secret client.nonces.next.1 second) }⟩) ∧
      after.nonces = use.session.kind.leaves client.nonces ∧
      Link.Conveys (use.session.kind.openingFrame client.nonces.next.1) client.link second
        after.link opening := by
  cases transmitted : (Link.transmit
      (use.session.kind.openingFrame client.nonces.next.1)).run client.link with
  | mk second link =>
    obtain ⟨opening, conveys⟩ := Link.conveys _ _ _ _ transmitted
    refine ⟨second, opening, _, run_replaceSession client use second link _ transmitted rfl, ?_, ?_⟩
    · cases use.session.kind.opened use.secret client.nonces.next.1 second with
      | error fault => rfl
      | ok fresh => rfl
    · rw [Client.link_received]
      exact conveys

theorem executeUpTo_of_final {τ : Type} [Channel τ] (command : Command) (further : Nat)
    (dispatch after : Dispatch τ) (outcome : Except Fault Reply)
    (ran : (executeOnce command).run dispatch = (outcome, after))
    (final : ¬ ∃ fault, outcome = .error fault ∧ fault.isRetryable = true) :
    (executeUpTo command further).run dispatch = (outcome, after) := by
  cases outcome with
  | error fault =>
    have unlike : fault.isRetryable = false := by
      rw [← Bool.not_eq_true]
      exact fun retryable => final ⟨fault, rfl, retryable⟩
    exact executeUpTo_of_fault command further dispatch after fault ran unlike
  | ok reply =>
    cases further with
    | zero => exact ran
    | succ further =>
      rw [executeUpTo, Action.run_bind, Action.run_attempt, ran]
      rfl

theorem executeUpTo_of_busy {τ : Type} [Channel τ] (command : Command) (further : Nat)
    (dispatch after : Dispatch τ) (fault : Fault)
    (ran : (executeOnce command).run dispatch = (.error fault, after))
    (busy : fault.isRetryable = true) :
    (executeUpTo command (further + 1)).run dispatch =
      (replaceSession >>= fun _ => executeUpTo command further).run after := by
  rw [executeUpTo, Action.run_bind, Action.run_attempt, ran]
  dsimp only
  rw [if_pos busy]

omit [Channel σ] in
theorem not_isRetryable_of_withheld (command : Command) (use : SessionUse) (nonces : NonceSource)
    (fault : Fault) (withheld : command.Withheld use nonces fault) : fault.isRetryable = false := by
  have isLocal : fault.isLocal = true := by
    cases withheld <;> rfl
  rw [← Bool.not_eq_true, Fault.isRetryable_iff, (Fault.isLocal_iff fault).mp isLocal]
  exact fun same => nomatch same

theorem executeUpTo_retries (command : Command) (further : Nat) (client : Client (Tapped σ))
    (use : SessionUse) :
    ∃ outcome after session sent,
      (executeUpTo command further).run ⟨client, some use⟩ =
        (outcome, ⟨after, some { use with session }⟩) ∧
      after.link.record = client.link.record ++ sent ∧
      Retries command further client.nonces client.link use sent outcome := by
  -- The attempts that follow go under another session, so client and session vary.
  induction further generalizing client use with
  | zero =>
    obtain ⟨outcome, after, session, sent, ran, _, recorded, cause⟩ :=
      executeOnce_tapped command client use
    refine ⟨outcome, after, session, sent, ran, recorded, ?_⟩
    rcases cause with ⟨rfl, fault, rfl, withheld⟩ | ⟨nonceOdd, frame, answer, issues, conveys, rfl⟩
    · exact .refused 0 _ _ use fault withheld
    · exact .last 0 _ _ _ _ use nonceOdd frame answer sent issues conveys fun _ => rfl
  | succ further inductionHypothesis =>
    obtain ⟨outcome, after, session, sent, ran, binding, recorded, cause⟩ :=
      executeOnce_tapped command client use
    rcases cause with ⟨rfl, fault, rfl, withheld⟩ |
      ⟨nonceOdd, frame, answer, issues, conveys, shown⟩
    · have final := not_isRetryable_of_withheld command use client.nonces fault withheld
      exact ⟨_, after, session, [], executeUpTo_of_fault command _ _ _ fault ran final, recorded,
        .refused _ _ _ use fault withheld⟩
    · have busy := use.isRetryable_conclude_iff command nonceOdd answer
      rw [← shown] at busy
      by_cases asked : answerCode? answer = some ResultCode.retry
      · obtain ⟨fault, rfl, retryable⟩ := busy.mpr asked
        have next := executeUpTo_of_busy command further _ _ fault ran retryable
        obtain ⟨second, opening, reopened, replaced, nonces, opens⟩ :=
          replaceSession_tapped after { use with session }
        have kind : session.kind = use.session.kind := by
          unfold Session.kind
          rw [binding]
        dsimp only at replaced opens nonces
        rw [kind] at replaced opens nonces
        rw [Action.run_bind, replaced] at next
        cases found : use.session.kind.opened use.secret after.nonces.next.1 second with
        | error other =>
          rw [found] at next
          refine ⟨_, _, _, sent ++ opening, next, ?_, ?_⟩
          · rw [opens.recorded, recorded, List.append_assoc]
          · exact .stranded further _ _ _ _ _ use nonceOdd frame answer second sent opening other
              issues conveys asked opens found
        | ok fresh =>
          rw [found] at next
          obtain ⟨outcome, last, final, later, ranLater, recordedLater, retried⟩ :=
            inductionHypothesis reopened { use with session := fresh }
          have opensFresh := (SessionKind.opened_eq_ok_iff _ _ _ _ _).mp found
          -- No session comes of a link that is stuck, so one request went out for it.
          obtain rfl := opens.sent_of_answered opensFresh.answer_ne_error
          rw [nonces] at retried
          refine ⟨outcome, last, final, sent ++ ⟨_, second⟩ :: later, next.trans ranLater, ?_,
            .again further _ _ _ _ _ use nonceOdd frame answer second sent later fresh outcome
              issues conveys asked opens opensFresh retried⟩
          rw [recordedLater, opens.recorded, recorded]
          simp only [List.append_assoc, List.singleton_append]
      · refine ⟨outcome, after, session, sent,
          executeUpTo_of_final command _ _ _ outcome ran fun again => asked (busy.mp again),
          recorded, ?_⟩
        rw [shown]
        exact .last _ _ _ _ _ use nonceOdd frame answer sent issues conveys
          fun same => absurd same asked

end Dispatch

namespace Retries

theorem calls_of_named (command : Command) (request : Bytes) (answer : Except Fault Bytes)
    (named : (request.drop 6).take 4 = Bytes.word32 command.ordinal.code) (ordinal : Ordinal) :
    (Exchange.mk request answer).calls ordinal = true ↔ command.ordinal = ordinal := by
  unfold Exchange.calls
  rw [beq_iff_eq, named]
  constructor
  · intro same
    exact Ordinal.code_injective _ _ (Bytes.word32_injective _ _ same)
  · rintro rfl
    rfl

theorem calls_frame (command : Command) (use : SessionUse) (parameters : Bytes)
    (nonceOdd : Digest) (answer : Except Fault Bytes) :
    (Exchange.mk (command.frame use parameters nonceOdd) answer).calls command.ordinal = true := by
  refine (calls_of_named command _ answer ?_ command.ordinal).mpr rfl
  unfold Command.frame
  exact Request.ordinal_frame _ _

theorem calls_openingFrame (kind : SessionKind) (setupOdd : Digest) (answer : Except Fault Bytes)
    (ordinal : Ordinal) (notOiap : ordinal ≠ .oiap) (notOsap : ordinal ≠ .osap) :
    (Exchange.mk (kind.openingFrame setupOdd) answer).calls ordinal = false := by
  rw [← Bool.not_eq_true]
  intro called
  have named : ((kind.openingFrame setupOdd).drop 6).take 4 =
      Bytes.word32 (kind.opening setupOdd).ordinal.code := by
    unfold SessionKind.openingFrame Command.plainFrame
    exact Request.ordinal_frame _ _
  have same := (calls_of_named (kind.opening setupOdd) _ answer named ordinal).mp called
  cases kind with
  | oiap => exact notOiap same.symm
  | osap entity => exact notOsap same.symm

theorem length_calls_adds_le (request : Bytes) (answer : Except Fault Bytes)
    (sent : List Exchange) (adds : Link.Adds request answer sent) (ordinal : Ordinal) :
    (sent.filter (Exchange.calls ordinal)).length ≤ 1 := by
  have bound := List.length_filter_le (Exchange.calls ordinal) sent
  cases adds with
  | exchange => exact bound
  | unreached _ _ => exact Nat.zero_le 1

variable {σ : Type} [Channel σ] {command : Command} {further : Nat} {nonces : NonceSource}
  {link : Link (Tapped σ)} {use : SessionUse} {sent : List Exchange}
  {outcome : Except Fault Reply}

theorem length_calls_le (notOiap : command.ordinal ≠ .oiap) (notOsap : command.ordinal ≠ .osap)
    (retries : Retries command further nonces link use sent outcome) :
    (sent.filter (Exchange.calls command.ordinal)).length ≤ further + 1 := by
  induction retries with
  | refused _ _ _ _ _ _ => exact Nat.zero_le _
  | last _ _ _ _ _ _ _ _ _ _ _ conveys _ =>
    have first := length_calls_adds_le _ _ _ conveys.adds command.ordinal
    omega
  | stranded _ _ rest _ _ _ use _ _ _ second _ _ _ _ conveys _ opens _ =>
    have first := length_calls_adds_le _ _ _ conveys.adds command.ordinal
    have other := calls_openingFrame use.session.kind rest.next.1 second _ notOiap notOsap
    rw [List.filter_append, List.length_append]
    cases opens.adds with
    | exchange =>
      rw [List.filter_cons_of_neg (by rw [other]; decide), List.filter_nil, List.length_nil]
      omega
    | unreached _ _ =>
      rw [List.filter_nil, List.length_nil]
      omega
  | again _ _ rest _ _ _ use _ _ _ second _ _ _ _ _ conveys _ _ _ _ inductionHypothesis =>
    have first := length_calls_adds_le _ _ _ conveys.adds command.ordinal
    have other := calls_openingFrame use.session.kind rest.next.1 second _ notOiap notOsap
    rw [List.filter_append, List.length_append, List.filter_cons_of_neg (by rw [other]; decide)]
    omega

/-- Over a link that can be used, the frame of an attempt is sent. -/
theorem stuck_of_no_calls (nonceOdd : Digest) (rest : NonceSource) (frame : Bytes)
    (answer : Except Fault Bytes) (after : Link (Tapped σ))
    (issues : command.Issues use nonces nonceOdd rest frame)
    (conveys : Link.Conveys frame link answer after sent) (later : List Exchange)
    (none : (sent ++ later).filter (Exchange.calls command.ordinal) = []) :
    ∃ cause, link.Stuck cause := by
  rcases link.ready_or_stuck with ready | stuck
  · obtain ⟨parameters, _, rfl⟩ := issues.framed
    rw [conveys.exchanged ready, List.singleton_append,
      List.filter_cons_of_pos (calls_frame command use parameters nonceOdd answer)] at none
    exact absurd none (List.cons_ne_nil _ _)
  · exact stuck

/-- A command that was not sent at all ends with a fault: its first attempt was withheld, or the
link was stuck. -/
theorem error_of_no_calls (retries : Retries command further nonces link use sent outcome)
    (none : sent.filter (Exchange.calls command.ordinal) = []) :
    ∃ fault, outcome = .error fault ∧
      (command.Withheld use nonces fault ∨ ∃ cause, link.Stuck cause) := by
  induction retries with
  | refused _ _ _ _ fault withheld => exact ⟨fault, rfl, Or.inl withheld⟩
  | last _ _ rest link after _ nonceOdd frame answer sent issues conveys _ =>
    obtain ⟨cause, stuck⟩ := stuck_of_no_calls nonceOdd rest frame answer after issues conveys []
      (by rwa [List.append_nil])
    obtain ⟨rfl, _⟩ := conveys.unsent cause stuck
    exact ⟨cause, rfl, Or.inr ⟨cause, stuck⟩⟩
  | stranded _ _ rest _ between _ _ nonceOdd frame answer _ _ _ fault issues conveys _ _ _ =>
    exact ⟨fault, rfl,
      Or.inr (stuck_of_no_calls nonceOdd rest frame answer between issues conveys _ none)⟩
  | again _ _ rest _ between _ _ nonceOdd frame answer _ _ later _ _ issues conveys _ _ _ _
      inductionHypothesis =>
    have stuck := stuck_of_no_calls nonceOdd rest frame answer between issues conveys _ none
    rw [List.filter_append, List.append_eq_nil_iff] at none
    have unsent : later.filter (Exchange.calls command.ordinal) = [] :=
      List.filter_eq_nil_iff.mpr fun exchange member =>
        List.filter_eq_nil_iff.mp none.2 exchange (List.mem_cons_of_mem _ member)
    obtain ⟨fault, failed, _⟩ := inductionHypothesis unsent
    exact ⟨fault, failed, Or.inr stuck⟩

end Retries

namespace Dispatch

omit [Channel σ] in
theorem link_settle (dispatch : Dispatch σ) :
    (settle dispatch).client.link = dispatch.client.link := by
  unfold settle
  split
  · rfl
  · split
    · rfl
    · rfl

/-- With a budget of attempts, a command that writes the counters is sent as `Retries` says, at
least once and not more often than the budget allows; the result is that of the last attempt, or of
opening a session for it.  It is not sent at all only if it is withheld on this side or the link is
stuck. -/
theorem execute_retries (command : Command) (client : Client (Tapped σ)) (use : SessionUse)
    (retryable : command.ordinal ∈ [Ordinal.createCounter, Ordinal.incrementCounter,
      Ordinal.releaseCounter, Ordinal.releaseCounterOwner])
    (positive : 1 ≤ client.attempts) :
    ∃ sent,
      ((execute command).run ⟨client, some use⟩).2.client.link.record =
        client.link.record ++ sent ∧
      Retries command (client.attempts - 1) client.nonces client.link use sent
        ((execute command).run ⟨client, some use⟩).1 ∧
      (sent.filter (Exchange.calls command.ordinal)).length ≤ client.attempts ∧
      (1 ≤ (sent.filter (Exchange.calls command.ordinal)).length ∨
        ∃ fault, ((execute command).run ⟨client, some use⟩).1 = .error fault ∧
          (command.Withheld use client.nonces fault ∨ ∃ cause, client.link.Stuck cause)) := by
  have counts : command.ordinal.isRetryable = true ∧ command.ordinal ≠ .oiap ∧
      command.ordinal ≠ .osap := by
    revert retryable
    cases command.ordinal <;> decide
  obtain ⟨isRetryable, notOiap, notOsap⟩ := counts
  have further : furtherAttempts command client = client.attempts - 1 := by
    unfold furtherAttempts
    rw [if_pos isRetryable]
  obtain ⟨outcome, after, session, sent, ran, recorded, retries⟩ :=
    executeUpTo_retries command (client.attempts - 1) client use
  have executed : (execute command).run ⟨client, some use⟩ =
      (outcome, settle ⟨after, some { use with session }⟩) := by
    rw [run_execute]
    dsimp only
    rw [further, ran]
  rw [executed]
  refine ⟨sent, ?_, retries, ?_, ?_⟩
  · dsimp only
    rw [link_settle]
    exact recorded
  · have bound := retries.length_calls_le notOiap notOsap
    omega
  · cases calls : sent.filter (Exchange.calls command.ordinal) with
    | nil => exact Or.inr (retries.error_of_no_calls calls)
    | cons exchange others => exact Or.inl (Nat.le_add_left 1 others.length)

/-- A module that is busy, opens a session and is busy again, and a budget of two attempts: both are
made, with one request for a session in between. -/
theorem execute_retries_of_busy_script :
    let use : SessionUse := ⟨.oiap 7 (Block.replicate 20 1), .wellKnown, true⟩
    let command : Command := { ordinal := .incrementCounter, parameters := Bytes.word32 5 }
    let busy := Bytes.word16 0xc4 ++ Bytes.bigEndian 4 10 ++ Bytes.word32 0x800
    let opening := Bytes.word16 0xc4 ++ Bytes.bigEndian 4 34 ++ Bytes.word32 0 ++
      Bytes.word32 8 ++ List.replicate 20 2
    let script := Script.ofEntries [.answer busy, .answer opening, .answer busy]
    let client : Client (Tapped Script) :=
      .fresh ⟨script, none, []⟩ ⟨fun number => Block.replicate 20 (.ofNat number), 0⟩ 2
    ∃ sent,
      ((execute command).run ⟨client, some use⟩).2.client.link.record = [] ++ sent ∧
      Retries command 1 client.nonces client.link use sent
        ((execute command).run ⟨client, some use⟩).1 ∧
      sent.map (Exchange.calls .incrementCounter) = [true, false, true] ∧
      ((execute command).run ⟨client, some use⟩).1 =
        .error (.refused .incrementCounter ResultCode.retry) := by
  intro use command busy opening script client
  obtain ⟨sent, recorded, retries, _, _⟩ :=
    execute_retries command client use (by decide) (by decide)
  have shown : sent = ((execute command).run ⟨client, some use⟩).2.client.link.record := by
    rw [recorded]
    rfl
  refine ⟨sent, recorded, retries, ?_, rfl⟩
  rw [shown]
  decide +kernel

end Dispatch

end TrustedPlatform

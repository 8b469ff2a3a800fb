import TrustedPlatform.Proofs.Client.Calls
import TrustedPlatform.Proofs.Module.Dispatching

/-!
# Calls to an honest module

A client that makes a call with a session stays in step with an honest module about that session:
`AuthorizedCall.perform_follows`.
-/

set_option autoImplicit false

namespace TrustedPlatform

variable {σ : Type} [Channel σ]

omit [Channel σ] in
theorem AuthorizedCall.standard_prepare (call : AuthorizedCall) :
    (prepare call : Action Fault (Dispatch (Tapped σ)) Command).Yields Command.Standard := by
  cases call with
  | loadKey older parent key =>
    refine .bind _ _ fun parameters => .pure _ ?_
    cases older with
    | false => exact ⟨rfl, rfl, rfl⟩
    | true => exact ⟨rfl, rfl, rfl⟩
  | publicKey handle => exact .pure _ ⟨rfl, rfl, rfl⟩
  | createKey parent usage migration template =>
    exact .bind _ _ fun _ => .bind _ _ fun _ => .bind _ _ fun _ => .pure _ ⟨rfl, rfl, rfl⟩
  | sign handle message => exact .bind _ _ fun _ => .pure _ ⟨rfl, rfl, rfl⟩
  | createCounter secret label => exact .bind _ _ fun _ => .pure _ ⟨rfl, rfl, rfl⟩
  | incrementCounter number => exact .pure _ ⟨rfl, rfl, rfl⟩
  | releaseCounter byOwner number =>
    refine .pure _ ?_
    cases byOwner with
    | false => exact ⟨rfl, rfl, rfl⟩
    | true => exact ⟨rfl, rfl, rfl⟩
  | writeIntegrity index value => exact .pure _ ⟨rfl, rfl, rfl⟩
  | signedAudit key close antiReplay => exact .pure _ ⟨rfl, rfl, rfl⟩
  | setAudited ordinal audited => exact .pure _ ⟨rfl, rfl, rfl⟩

omit [Channel σ] in
theorem Session.nextNonceOdd_follows (before : Holder σ) (vault : Vault) (left : Session)
    (nonces : NonceSource) (outcome : Except Fault Digest) (inStep : before.InStep vault)
    (drew : before.session.nextNonceOdd before.nonces = (outcome, left, nonces)) :
    before.Follows vault ⟨before.link, nonces, left⟩ vault ∧
      Fault.Only (Fault.Harmless before.session.Unusable before.link before.link nonces) outcome ∧
      ∀ nonce, outcome = .ok nonce → before.session.Alike left := by
  rcases before.session.draw_cases before.nonces with
    inactive | repeats | ⟨active, nonce, drawn, rest, draw⟩
  · rw [nextNonceOdd_of_inactive _ _ inactive] at drew
    cases drew
    exact ⟨.refl _ _ inStep, .error _ (.withheld _ ⟨inactive, rfl⟩), fun _ drew => nomatch drew⟩
  · rw [nextNonceOdd_of_repeats _ _ repeats] at drew
    cases drew
    obtain ⟨repeated, follows⟩ := Holder.Follows.repeats inStep repeats
    exact ⟨follows, .error _ (.repeated _ repeated), fun _ drew => nomatch drew⟩
  · rw [nextNonceOdd_of_draw _ _ _ _ _ active draw] at drew
    cases drew
    exact ⟨.draws inStep active draw draw.alike rfl, .ok _, fun _ _ => draw.alike⟩

namespace AuthorizedCall

variable {client after : Client (Tapped σ)} {use : SessionUse} {left : Session}
  {vault next : Vault}

/-- Why a module is not asked for what a call wants: the session cannot be used, or no request can
be made of what is given, or none that can be sent. -/
inductive Unasked (call : AuthorizedCall) (client : Client (Tapped σ)) (use : SessionUse) :
    Fault → Prop where
  | unusable (fault : Fault) (unusable : use.session.Unusable fault) : Unasked call client use fault
  | unprepared (fault : Fault) (left : Dispatch (Tapped σ)) (encoding : fault.IsEncoding)
      (made : (prepare call).run ⟨client, some use⟩ = (.error fault, left)) :
      Unasked call client use fault
  | unsendable (fault : Fault) (command : Command) (left : Dispatch (Tapped σ))
      (made : (prepare call).run ⟨client, some use⟩ = (.ok command, left))
      (unsendable : command.Unsendable use.session fault) : Unasked call client use fault

omit [Channel σ] in
theorem prepare_follows (call : AuthorizedCall)
    (inStep : (client.holder use.session).InStep vault) :
    ∃ outcome session nonces,
      (prepare call).run ⟨client, some use⟩ =
        (outcome, ⟨{ client with nonces }, some { use with session }⟩) ∧
      (client.holder use.session).Follows vault ⟨client.link, nonces, session⟩ vault ∧
      Fault.Only (Fault.Harmless (call.Unasked client use) client.link client.link nonces)
        outcome ∧
      ∀ command, outcome = .ok command → use.session.Alike session := by
  rcases call.run_prepare ⟨client, some use⟩ with ⟨same, encoding, _⟩ | ⟨same, failing⟩
  · refine ⟨_, use.session, client.nonces, Prod.ext rfl same, .refl _ _ inStep, ?_,
      fun _ _ => ⟨rfl, rfl, rfl, rfl, rfl⟩⟩
    exact fun fault failed =>
      .withheld _ (.unprepared fault _ (encoding fault failed) (Prod.ext failed rfl))
  · cases drew : use.session.nextNonceOdd client.nonces with
    | mk outcome rest =>
      obtain ⟨session, nonces⟩ := rest
      have ran : Dispatch.nextNonceOdd.run ⟨client, some use⟩ =
          (outcome, ⟨{ client with nonces }, some { use with session }⟩) := by
        unfold Dispatch.nextNonceOdd
        dsimp only
        rw [drew]
      rw [ran] at same failing
      obtain ⟨follows, harmless, alike⟩ :=
        Session.nextNonceOdd_follows (client.holder use.session) vault _ _ _ inStep drew
      refine ⟨_, session, nonces, Prod.ext rfl same, follows, ?_, ?_⟩
      · cases outcome with
        | error fault =>
          intro other failed
          cases failing.symm.trans failed
          exact (harmless fault rfl).mono .unusable
        | ok nonce =>
          exact fun fault failed =>
            .withheld _ (.unprepared fault _ (failing fault failed) (Prod.ext failed rfl))
      · cases outcome with
        | error fault => exact fun command made => (nomatch failing.symm.trans made)
        | ok nonce => exact fun _ _ => alike nonce rfl

/-- The command of a call was carried out, and its output was accepted, but cannot be read as what
the call asks for. -/
def Misread (call : AuthorizedCall) (client : Client (Tapped σ)) (use : SessionUse)
    (fault : Fault) : Prop :=
  ∃ reply between,
    (prepare call >>= fun command => Dispatch.execute command).run ⟨client, some use⟩ =
      (.ok reply, between) ∧
    ((finish call reply).run between).1 = .error fault

theorem perform_follows (call : AuthorizedCall) {outcome : Except Fault Answer}
    (inStep : (client.holder use.session).InStep vault)
    (entitled : ∀ command prepared,
      (prepare call).run ⟨client, some use⟩ = (.ok command, prepared) →
        use.Entitled vault command)
    (ran : (call.perform : Action Fault (Dispatch (Tapped σ)) Answer).run ⟨client, some use⟩ =
      (outcome, ⟨after, some { use with session := left }⟩))
    (hears : vault.Hears client.link after.link next) :
    (client.holder use.session).Follows vault (after.holder left) next ∧
      Fault.Only (fun fault =>
        fault.Harmless (call.Unasked client use) client.link after.link after.nonces ∨
          call.Misread client use fault) outcome := by
  obtain ⟨prepared, session, nonces, made, draws, harmless, alike⟩ :=
    prepare_follows call inStep
  rw [call.perform_eq, Action.run_bind, made] at ran
  cases prepared with
  | error fault =>
    cases ran
    obtain rfl := hears.still rfl
    exact ⟨draws, .error _ (Or.inl (harmless fault rfl))⟩
  | ok command =>
    have standard : command.Standard := call.standard_prepare (σ := σ) _ _ _ made
    have same := alike command rfl
    have known := (entitled command _ made).same ⟨rfl, rfl⟩ (congrArg Binding.kind same.binding)
    obtain ⟨dispatched, reached, settled, sent, executed, _, _⟩ :=
      Dispatch.executeUpTo_retries command (Dispatch.furtherAttempts command client)
        { client with nonces } { use with session }
    obtain ⟨inventory, forgotten⟩ := Dispatch.onlyInventory_settle
      (⟨reached, some { use with session := settled }⟩ : Dispatch (Tapped σ))
    have execution : (Dispatch.execute command).run
        ⟨{ client with nonces }, some { use with session }⟩ =
          (dispatched, ⟨{ reached with inventory }, some { use with session := settled }⟩) := by
      have further : Dispatch.furtherAttempts command ({ client with nonces } : Client (Tapped σ)) =
          Dispatch.furtherAttempts command client := rfl
      rw [Dispatch.run_execute]
      dsimp only
      rw [further, executed, forgotten]
    dsimp only at ran
    rw [Action.run_bind, execution] at ran
    cases dispatched with
    | error fault =>
      cases ran
      obtain ⟨follows, fails⟩ := Dispatch.executeUpTo_follows _ standard known draws.inStep
        executed hears
      refine ⟨draws.trans follows, .error _ (Or.inl ((fails fault rfl).mono ?_))⟩
      exact fun _ unsendable => .unsendable _ command _ made (unsendable.of_alike same)
    | ok reply =>
      obtain ⟨answered, noted, finished, _⟩ := call.run_finish reply
        (⟨{ reached with inventory }, some { use with session := settled }⟩ :
          Dispatch (Tapped σ))
      dsimp only at ran
      rw [finished] at ran
      cases ran
      obtain ⟨follows, _⟩ := Dispatch.executeUpTo_follows _ standard known draws.inStep
        executed hears
      have carriedOut : (prepare call >>= fun command => Dispatch.execute command).run
          ⟨client, some use⟩ =
            (.ok reply, ⟨{ reached with inventory }, some { use with session := left }⟩) := by
        rw [Action.run_bind, made]
        exact execution
      refine ⟨draws.trans follows, fun fault failed => Or.inr ⟨reply, _, carriedOut, ?_⟩⟩
      rw [finished]
      exact failed

end AuthorizedCall

end TrustedPlatform

import TrustedPlatform.Proofs.Channel.OwnFaults
import TrustedPlatform.Proofs.Client.Retry
import TrustedPlatform.Proofs.Structure.Malformed

/-!
# Where result codes come from

A fault carries a result code only if the module gave it, in its answer to the last request that was
sent (`Action.Relays`).  Whatever else goes wrong goes wrong on this side, and has no code.  That
holds of a command that is dispatched, however often it is sent (`Dispatch.relays_execute`), and of
a sequence of actions if it holds of each (`Action.Relays.bind`).
-/

set_option autoImplicit false

namespace TrustedPlatform

/-- A request was answered with a result code other than success. -/
def Exchange.Refused (exchange : Exchange) (code : UInt32) : Prop :=
  ∃ received response, exchange.answer = .ok received ∧
    Response.parse received = .ok response ∧ response.code = code ∧ code ≠ ResultCode.success

def LastRefused (sent : List Exchange) (code : UInt32) : Prop :=
  ∃ earlier exchange, sent = earlier ++ [exchange] ∧ exchange.Refused code

theorem LastRefused.append {sent : List Exchange} {code : UInt32} (earlier : List Exchange)
    (refused : LastRefused sent code) : LastRefused (earlier ++ sent) code := by
  obtain ⟨before, exchange, rfl, isRefused⟩ := refused
  exact ⟨earlier ++ before, exchange, (List.append_assoc _ _ _).symm, isRefused⟩

namespace Action

variable {ε τ α β : Type}

/-- If an outcome carries a result code, the last request sent since a state was refused with it. -/
def Relayed (record : τ → List Exchange) (code? : ε → Option UInt32) (before : τ)
    (outcome : Except ε α) (after : τ) : Prop :=
  ∃ sent, record after = record before ++ sent ∧
    ∀ fault code, outcome = .error fault → code? fault = some code → LastRefused sent code

/-- An action that fails with a result code does so because the last request that it sent was
refused with that code. -/
def Relays (record : τ → List Exchange) (code? : ε → Option UInt32) (action : Action ε τ α) :
    Prop :=
  ∀ before outcome after, action.run before = (outcome, after) →
    Relayed record code? before outcome after

theorem Relayed.unsent {record : τ → List Exchange} {code? : ε → Option UInt32} {before after : τ}
    {outcome : Except ε α} (same : record after = record before)
    (codeless : ∀ fault, outcome = .error fault → code? fault = none) :
    Relayed record code? before outcome after := by
  refine ⟨[], same.trans (List.append_nil _).symm, fun fault code failed carries => ?_⟩
  rw [codeless fault failed] at carries
  cases carries

namespace Relays

variable {record : τ → List Exchange} {code? : ε → Option UInt32}

/-- So it is with an action that sends nothing and whose faults carry no code. -/
theorem silent (action : Action ε τ α)
    (sendsNone : ∀ state, record (action.run state).2 = record state)
    (fails : action.FailsOnly fun fault => code? fault = none) : Relays record code? action := by
  intro before outcome after ran
  have same := sendsNone before
  have codeless := fails before
  rw [ran] at same codeless
  exact .unsent same codeless

theorem pure (value : α) : Relays record code? (Pure.pure value : Action ε τ α) :=
  silent _ (fun _ => rfl) (FailsOnly.pure value)

theorem get : Relays record code? (MonadState.get : Action ε τ τ) :=
  silent _ (fun _ => rfl) FailsOnly.get

theorem throw (fault : ε) (codeless : code? fault = none) :
    Relays record code? (MonadExcept.throw fault : Action ε τ α) :=
  silent _ (fun _ => rfl) (FailsOnly.throw fault codeless)

theorem ofExcept (outcome : Except ε α)
    (codeless : ∀ fault, outcome = .error fault → code? fault = none) :
    Relays record code? (Action.ofExcept outcome : Action ε τ α) :=
  silent _ (fun _ => rfl) (FailsOnly.ofExcept outcome codeless)

theorem changing (change : τ → τ) (sendsNone : ∀ state, record (change state) = record state) :
    Relays record code? (modify change : Action ε τ PUnit) :=
  silent _ sendsNone fun _ _ failed => nomatch failed

theorem bind (first : Action ε τ α) (next : α → Action ε τ β)
    (firstRelays : first.Relays record code?)
    (nextRelays : ∀ value, (next value).Relays record code?) :
    (first >>= next).Relays record code? := by
  intro before outcome after ran
  rw [Action.run_bind] at ran
  cases begun : first.run before with
  | mk result between =>
    obtain ⟨early, recorded, refused⟩ := firstRelays before result between begun
    rw [begun] at ran
    cases result with
    | error fault =>
      cases ran
      refine ⟨early, recorded, fun other code failed carries => refused other code ?_ carries⟩
      cases failed
      rfl
    | ok value =>
      obtain ⟨late, recordedLate, refusedLate⟩ := nextRelays value between outcome after ran
      refine ⟨early ++ late, ?_, fun fault code failed carries => ?_⟩
      · rw [recordedLate, recorded, List.append_assoc]
      · exact (refusedLate fault code failed carries).append early

theorem of_returning (action : Action ε τ α) (shows : α → β)
    (relays : (action >>= fun value => Pure.pure (shows value)).Relays record code?) :
    action.Relays record code? := by
  intro before outcome after ran
  obtain ⟨sent, recorded, refused⟩ := relays before _ _ (run_bind_pure _ shows _ _ _ ran)
  refine ⟨sent, recorded, ?_⟩
  rintro fault code rfl
  exact refused fault code rfl

theorem mapFault {ε' : Type} {other? : ε' → Option UInt32} (describe : ε → ε')
    (action : Action ε τ α) (relays : action.Relays record code?)
    (same : ∀ fault, other? (describe fault) = code? fault) :
    (action.mapFault describe).Relays record other? := by
  intro before outcome after ran
  unfold Action.mapFault at ran
  dsimp only at ran
  cases begun : action.run before with
  | mk result between =>
    obtain ⟨sent, recorded, refused⟩ := relays before result between begun
    rw [begun] at ran
    cases result with
    | ok value =>
      cases ran
      exact ⟨sent, recorded, fun _ _ failed => nomatch failed⟩
    | error fault =>
      cases ran
      refine ⟨sent, recorded, fun described code failed carries => ?_⟩
      cases failed
      rw [same] at carries
      exact refused fault code rfl carries

theorem zoom {ω : Type} {whole : ω → List Exchange} (view : ω → τ) (update : τ → ω → ω)
    (action : Action ε τ α) (relays : action.Relays record code?)
    (views : ∀ state, record (view state) = whole state)
    (updates : ∀ part state, whole (update part state) = record part) :
    (action.zoom view update).Relays whole code? := by
  intro before outcome after ran
  rw [Action.run_zoom] at ran
  cases ran
  obtain ⟨sent, recorded, refused⟩ := relays (view before) _ _ rfl
  exact ⟨sent, by rw [updates, recorded, views], refused⟩

end Relays

end Action

open TrustedPlatform.Action

/-- An answer that is not read was a refusal if the fault carries a result code. -/
theorem Command.refused_of_read (command : Command) (expected : Nat) (request : Bytes)
    (answer : Except Fault Bytes) (sent : List Exchange) (adds : Link.Adds request answer sent)
    (codeless : Fault.Only Fault.Codeless answer) (fault : Fault) (code : UInt32)
    (unread : command.read expected answer = .error fault)
    (carries : fault.resultCode? = some code) : LastRefused sent code := by
  cases answer with
  | error other =>
    cases unread
    rw [codeless fault rfl] at carries
    cases carries
  | ok received =>
    cases adds with
    | unreached _ failed => cases failed
    | exchange =>
      rcases command.read_eq_error expected received fault unread with
        malformed | ⟨response, parsed, failed, rfl⟩
      · rw [malformed.codeless] at carries
        cases carries
      · cases carries
        exact ⟨[], _, rfl, received, response, rfl, parsed, rfl, failed⟩

theorem Reply.codeless_decode {α : Type} (reply : Reply) (decoder : Decoder α)
    (fails : decoder.FailsOnly Fault.IsMalformed) :
    Fault.Only Fault.Codeless (reply.decode decoder) := fun _ failed =>
  (FailsOnly.complete decoder fails _ _ failed).codeless

theorem Reply.codeless_handle (reply : Reply) : Fault.Only Fault.Codeless reply.handle := by
  intro fault failed
  unfold Reply.handle at failed
  split at failed
  · cases failed
    rfl
  · cases failed

variable {σ : Type}

def Client.record (client : Client (Tapped σ)) : List Exchange := client.link.record

def Dispatch.record (dispatch : Dispatch (Tapped σ)) : List Exchange := dispatch.client.record

namespace Client

theorem relays_note (change : Inventory → Inventory) :
    (note change : Action Fault (Client (Tapped σ)) Unit).Relays record Fault.resultCode? :=
  .changing _ fun _ => rfl

theorem relays_drawNonce :
    (drawNonce : Action Fault (Client (Tapped σ)) Digest).Relays record Fault.resultCode? :=
  .silent _ (fun _ => rfl) fun _ _ failed => nomatch failed

theorem relays_unauthorized {α : Type} (action : Action Fault (Dispatch (Tapped σ)) α)
    (relays : action.Relays Dispatch.record Fault.resultCode?) :
    (unauthorized action).Relays record Fault.resultCode? :=
  .zoom _ _ action relays (fun _ => rfl) fun _ _ => rfl

end Client

theorem Dispatch.relays_onClient {α : Type} (action : Action Fault (Client (Tapped σ)) α)
    (relays : action.Relays Client.record Fault.resultCode?) :
    (onClient action).Relays Dispatch.record Fault.resultCode? :=
  .zoom _ _ action relays (fun _ => rfl) fun _ _ => rfl

variable [Channel σ] (own : Channel.OwnFaults σ)

include own

theorem Link.codeless_renew : (renew : Action Fault (Link σ) Unit).FailsOnly Fault.Codeless := by
  refine .bind _ _ .get fun link => ?_
  split
  · exact .bind _ _ (fun link => own.reopen link.channel) fun _ _ _ failed => nomatch failed
  · exact .pure ()

theorem Link.codeless_exchange (request : Bytes) :
    (exchange request : Action Fault (Link σ) Bytes).FailsOnly Fault.Codeless := by
  have converses : (do
      Channel.send request
      Channel.receive : Action Fault σ Bytes).FailsOnly Fault.Codeless :=
    .bind _ _ (own.send request) fun _ => own.receive
  intro link fault failed
  unfold exchange onChannel at failed
  rw [Action.run_bind, Action.run_attempt, Action.run_zoom] at failed
  cases ran : (do
      Channel.send request
      Channel.receive : Action Fault σ Bytes).run link.channel with
  | mk outcome channel =>
    rw [ran] at failed
    cases outcome with
    | ok response => cases failed
    | error other =>
      cases failed
      exact converses link.channel fault (congrArg Prod.fst ran)

theorem Link.codeless_transmit (request : Bytes) :
    (transmit request : Action Fault (Link σ) Bytes).FailsOnly Fault.Codeless :=
  .bind _ _ (codeless_renew own) fun _ => codeless_exchange own request

/-- What came of a request that was transmitted, as far as it was read by a command. -/
theorem Command.relayed_of_transmitted {τ α : Type} {record : τ → List Exchange} (command : Command)
    (expected : Nat) (request : Bytes) (answer : Except Fault Bytes)
    (link after : Link (Tapped σ)) (before last : τ) (outcome : Except Fault α)
    (transmitted : (Link.transmit request).run link = (answer, after))
    (begun : record before = link.record) (ended : record last = after.record)
    (reads : ∀ fault, outcome = .error fault →
      command.read expected answer = .error fault ∨ fault.Codeless) :
    Action.Relayed record Fault.resultCode? before outcome last := by
  obtain ⟨sent, recorded, adds⟩ := Link.transmit_tapped _ _ _ _ transmitted
  have codeless : Fault.Only Fault.Codeless answer := fun fault failed =>
    Link.codeless_transmit (Tapped.ownFaults own) request link fault
      ((congrArg Prod.fst transmitted).trans failed)
  refine ⟨sent, by rw [ended, recorded, begun], fun fault code failed carries => ?_⟩
  rcases reads fault failed with unread | none
  · exact command.refused_of_read expected request answer sent adds codeless fault code unread
      carries
  · rw [none] at carries
    cases carries

namespace Dispatch

/-- An attempt under a session, or under none, fails with a code only if it is refused. -/
theorem relays_executeOnce (command : Command) :
    (executeOnce command : Action Fault (Dispatch (Tapped σ)) Reply).Relays record
      Fault.resultCode? := by
  rintro ⟨client, use?⟩ outcome after ran
  cases use? with
  | none =>
    by_cases sendable : command.newSecret = none ∧ command.plainFrame.length < Bytes.capacity 4
    · cases transmitted : (Link.transmit command.plainFrame).run client.link with
      | mk answer link =>
        rw [executeOnce_of_plain command client answer link sendable.1 sendable.2 transmitted]
          at ran
        cases ran
        refine command.relayed_of_transmitted own 0 _ answer _ _ _ _ _ transmitted rfl rfl ?_
        intro fault failed
        cases read : command.read 0 answer with
        | ok parts =>
          rw [read] at failed
          cases failed
        | error other =>
          rw [read] at failed
          cases failed
          exact Or.inl rfl
    · obtain ⟨cause, unsent⟩ := executeOnce_of_unsendable command client sendable
      rw [unsent] at ran
      cases ran
      exact .unsent rfl (Fault.Only.error _ rfl)
  | some use =>
    obtain ⟨result, left, session, attempted, attempt⟩ := executeOnce_attempt command client use
    rw [attempted] at ran
    cases ran
    cases attempt with
    | unsealed fault refused =>
      exact .unsent rfl
        (Fault.Only.error fault (command.only_sealedParameters _ fault refused).codeless)
    | inactive _ => exact .unsent rfl (Fault.Only.error _ rfl)
    | repeats _ => exact .unsent rfl (Fault.Only.error _ rfl)
    | oversized _ _ _ _ _ _ _ _ => exact .unsent rfl (Fault.Only.error _ rfl)
    | exchanged parameters nonceOdd drawn _ answer link _ _ _ _ _ _ transmitted concluded =>
      refine command.relayed_of_transmitted own 1 _ answer _ _ _ _ _ transmitted rfl rfl ?_
      rintro fault rfl
      have rejected : ∀ reply received,
          ¬ ({ use with session := drawn.spent } : SessionUse).Accepted command nonceOdd answer
            reply received := by
        intro reply received accepted
        rw [SessionUse.conclude_of_accepted _ _ _ _ _ _ accepted] at concluded
        cases concluded
      obtain ⟨other, _, ended, _, cause⟩ := SessionUse.conclude_of_not_accepted _ _ _ _ rejected
      rw [ended] at concluded
      cases concluded
      rcases cause with unread | rfl | rfl
      · exact Or.inl unread
      · exact Or.inr rfl
      · exact Or.inr rfl

end Dispatch

namespace Client

theorem relays_ask {α : Type} (command : Command) (decoder : Decoder α)
    (fails : decoder.FailsOnly Fault.IsMalformed) :
    (ask command decoder : Action Fault (Client (Tapped σ)) α).Relays record Fault.resultCode? :=
  .bind _ _ (relays_unauthorized _ (Dispatch.relays_executeOnce own command)) fun reply =>
    .ofExcept _ (reply.codeless_decode decoder fails)

theorem relays_openSession (kind : SessionKind) (secret : Secret) :
    (openSession kind secret : Action Fault (Client (Tapped σ)) Session).Relays record
      Fault.resultCode? := by
  cases kind with
  | oiap =>
    exact .bind _ _ (relays_ask own _ _ (.bind _ _ .word32 fun _ => .bind _ _ (.block 20) fun _ =>
      .pure _)) fun _ => .bind _ _ (relays_note _) fun _ => .pure _
  | osap entity =>
    exact .bind _ _ relays_drawNonce fun _ => .bind _ _ (relays_ask own _ _
      (.bind _ _ .word32 fun _ => .bind _ _ (.block 20) fun _ => .bind _ _ (.block 20) fun _ =>
        .pure _)) fun _ => .bind _ _ (relays_note _) fun _ => .pure _

end Client

namespace Dispatch

theorem relays_replaceSession :
    (replaceSession : Action Fault (Dispatch (Tapped σ)) Unit).Relays record Fault.resultCode? := by
  refine .bind _ _ .get fun dispatch => ?_
  split
  · exact .pure ()
  · exact .bind _ _ (relays_onClient _ (Client.relays_note _)) fun _ =>
      .bind _ _ (relays_onClient _ (Client.relays_openSession own _ _)) fun _ =>
        .changing _ fun _ => rfl

theorem relays_executeUpTo (command : Command) (further : Nat) :
    (executeUpTo command further : Action Fault (Dispatch (Tapped σ)) Reply).Relays record
      Fault.resultCode? := by
  induction further with
  | zero => exact relays_executeOnce own command
  | succ further inductionHypothesis =>
    intro before outcome after ran
    cases attempted : (executeOnce command).run before with
    | mk result between =>
      obtain ⟨sent, recorded, refused⟩ :=
        relays_executeOnce own command before result between attempted
      by_cases busy : ∃ fault, result = .error fault ∧ fault.isRetryable = true
      · obtain ⟨fault, rfl, retryable⟩ := busy
        rw [executeUpTo_of_busy command further before between fault attempted retryable] at ran
        obtain ⟨later, recordedLater, refusedLater⟩ := Relays.bind _ _ (relays_replaceSession own)
          (fun _ => inductionHypothesis) between outcome after ran
        refine ⟨sent ++ later, ?_, fun fault code failed carries => ?_⟩
        · rw [recordedLater, recorded, List.append_assoc]
        · exact (refusedLater fault code failed carries).append sent
      · rw [executeUpTo_of_final command (further + 1) before between result attempted busy] at ran
        cases ran
        exact ⟨sent, recorded, refused⟩

theorem relays_execute (command : Command) :
    (execute command : Action Fault (Dispatch (Tapped σ)) Reply).Relays record
      Fault.resultCode? := by
  intro before outcome after ran
  rw [run_execute] at ran
  cases ran
  obtain ⟨sent, recorded, refused⟩ := relays_executeUpTo own command _ before _ _ rfl
  refine ⟨sent, ?_, refused⟩
  unfold record Client.record at recorded ⊢
  rw [link_settle, recorded]

theorem relays_askHandle (command : Command) :
    (askHandle command : Action Fault (Dispatch (Tapped σ)) UInt32).Relays record
      Fault.resultCode? :=
  .bind _ _ (relays_execute own _) fun reply => .bind _ _ (.ofExcept _ reply.codeless_handle)
    fun _ => .bind _ _ (.ofExcept _ (reply.codeless_decode _ (.pure ()))) fun _ => .pure _

end Dispatch

end TrustedPlatform

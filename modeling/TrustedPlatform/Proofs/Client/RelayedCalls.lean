import TrustedPlatform.Proofs.Client.Custody
import TrustedPlatform.Proofs.Client.Loading
import TrustedPlatform.Proofs.Client.Relaying

/-!
# Calls pass result codes on

Whatever a client is asked to do, a result code that it fails with is the one that its last request
was refused with: `PlainCall.relays_perform` and `AuthorizedCall.relays_perform`.
-/

set_option autoImplicit false

namespace TrustedPlatform

open TrustedPlatform.Action

variable {σ : Type}

theorem Bytes.codeless_sized (blob : Bytes) : Fault.Only Fault.Codeless (Bytes.sized blob) :=
  fun fault failed => (Bytes.only_sized blob fault failed).codeless

theorem Session.codeless_nextNonceOdd (session : Session) (nonces : NonceSource) :
    Fault.Only Fault.Codeless (session.nextNonceOdd nonces).1 := by
  rcases session.draw_cases nonces with
    inactive | repeats | ⟨active, nonce, after, rest, draw⟩
  · rw [session.nextNonceOdd_of_inactive nonces inactive]
    exact .error _ rfl
  · rw [session.nextNonceOdd_of_repeats nonces repeats]
    exact .error _ rfl
  · rw [session.nextNonceOdd_of_draw after nonces rest nonce active draw]
    exact .ok nonce

theorem Dispatch.relays_nextNonceOdd :
    (Dispatch.nextNonceOdd : Action Fault (Dispatch (Tapped σ)) Digest).Relays Dispatch.record
      Fault.resultCode? := by
  rintro ⟨client, use?⟩ outcome after ran
  cases use? with
  | none =>
    cases ran
    exact .unsent rfl (Fault.Only.error _ rfl)
  | some use =>
    cases ran
    exact .unsent rfl (use.session.codeless_nextNonceOdd client.nonces)

namespace Client

theorem relays_claim (blob : Bytes) :
    (Custody.claim blob : Action Fault (Client (Tapped σ)) Unit).Relays record
      Fault.resultCode? := by
  intro before outcome after ran
  rw [run_claim] at ran
  split at ran
  · cases ran
    exact .unsent rfl (Fault.Only.error _ rfl)
  · cases ran
    exact .unsent rfl (Fault.Only.ok ())

theorem relays_releasing {α : Type} (blob : Bytes) (action : Action Fault (Client (Tapped σ)) α)
    (relays : action.Relays record Fault.resultCode?) :
    (Custody.releasing blob action).Relays record Fault.resultCode? := by
  intro before outcome after ran
  cases begun : action.run before with
  | mk result between =>
    rw [Custody.run_releasing blob action before between result begun] at ran
    cases ran
    obtain ⟨sent, recorded, refused⟩ := relays before outcome between begun
    refine ⟨sent, ?_, refused⟩
    cases outcome with
    | ok value => exact recorded
    | error fault => exact recorded

end Client

namespace AuthorizedCall

theorem relays_prepare (call : AuthorizedCall) :
    (prepare call : Action Fault (Dispatch (Tapped σ)) Command).Relays Dispatch.record
      Fault.resultCode? := by
  intro before outcome after ran
  rcases call.run_prepare before with ⟨same, encoding, _⟩ | ⟨same, drawing⟩
  · rw [ran] at same encoding
    exact .unsent (congrArg Dispatch.record same) fun fault failed =>
      (encoding fault failed).codeless
  · rw [ran] at same drawing
    cases drew : Dispatch.nextNonceOdd.run before with
    | mk drawn between =>
      obtain ⟨sent, recorded, refused⟩ := Dispatch.relays_nextNonceOdd before drawn between drew
      rw [drew] at same drawing
      refine ⟨sent, (congrArg Dispatch.record same).trans recorded, ?_⟩
      intro fault code failed carries
      cases drawn with
      | error other =>
        obtain rfl : other = fault := Except.error.inj (drawing.symm.trans failed)
        exact refused other code rfl carries
      | ok _ =>
        rw [(drawing fault failed).codeless] at carries
        cases carries

theorem relays_finish (call : AuthorizedCall) (reply : Reply) :
    (finish call reply : Action Fault (Dispatch (Tapped σ)) Answer).Relays Dispatch.record
      Fault.resultCode? := by
  have notes : ∀ change, (Dispatch.onClient (Client.note change) :
      Action Fault (Dispatch (Tapped σ)) Unit).Relays Dispatch.record Fault.resultCode? :=
    fun change => Dispatch.relays_onClient _ (Client.relays_note change)
  cases call with
  | loadKey older parent key =>
    exact .bind _ _ (.ofExcept _ reply.codeless_handle) fun _ =>
      .bind _ _ (.ofExcept _ (reply.codeless_decode _ (.pure ()))) fun _ =>
        .bind _ _ (notes _) fun _ => .pure _
  | publicKey handle =>
    exact .bind _ _ (.ofExcept _ (reply.codeless_decode _ PublicKey.decode_failsOnly)) fun _ =>
      .bind _ _ (notes _) fun _ => .pure _
  | createKey parent usage migration template =>
    exact .bind _ _ (.ofExcept _ (reply.codeless_decode _ KeyBlob.decode_failsOnly))
      fun _ => .pure _
  | sign handle message =>
    exact .bind _ _ (.ofExcept _ (reply.codeless_decode _ .sized)) fun _ => .pure _
  | createCounter secret label =>
    refine .bind _ _ (.ofExcept _ (reply.codeless_decode _ ?_)) fun _ => .pure _
    exact .bind _ _ .word32 fun _ => .bind _ _ CounterValue.decode_failsOnly fun _ => .pure _
  | incrementCounter number =>
    exact .bind _ _ (.ofExcept _ (reply.codeless_decode _ CounterValue.decode_failsOnly))
      fun _ => .pure _
  | releaseCounter byOwner number =>
    exact .bind _ _ (.ofExcept _ (reply.codeless_decode _ (.pure ()))) fun _ => .pure _
  | writeIntegrity index value =>
    exact .bind _ _ (.ofExcept _ (reply.codeless_decode _ (.pure ()))) fun _ => .pure _
  | signedAudit key close antiReplay =>
    refine .bind _ _ (.ofExcept _ (reply.codeless_decode _ ?_)) fun _ =>
      .bind _ _ (notes _) fun _ => .pure _
    exact .bind _ _ CounterValue.decode_failsOnly fun _ => .bind _ _ (.block 20) fun _ =>
      .bind _ _ (.block 20) fun _ => .bind _ _ .sized fun _ => .pure _
  | setAudited ordinal audited =>
    exact .bind _ _ (.ofExcept _ (reply.codeless_decode _ (.pure ()))) fun _ =>
      .bind _ _ (notes _) fun _ => .pure _

end AuthorizedCall

variable [Channel σ] (own : Channel.OwnFaults σ)

include own

namespace Client

theorem relays_execute (command : Command) :
    (unauthorized (Dispatch.execute command) : Action Fault (Client (Tapped σ)) Reply).Relays record
      Fault.resultCode? := relays_unauthorized _ (Dispatch.relays_execute own command)

theorem relays_askHandle (command : Command) :
    (unauthorized (Dispatch.askHandle command) : Action Fault (Client (Tapped σ)) UInt32).Relays
      record Fault.resultCode? := relays_unauthorized _ (Dispatch.relays_askHandle own command)

theorem relays_flush (handle : UInt32) (kind : ResourceKind) :
    (flush handle kind : Action Fault (Client (Tapped σ)) Unit).Relays record Fault.resultCode? :=
  .bind _ _ (relays_execute own _) fun _ => relays_note _

theorem relays_evictKey (handle : UInt32) :
    (evictKey handle : Action Fault (Client (Tapped σ)) Unit).Relays record Fault.resultCode? :=
  .bind _ _ (relays_execute own _) fun _ => relays_note _

theorem relays_capability (area : Capability) (detail : Bytes) :
    (capability area detail : Action Fault (Client (Tapped σ)) Bytes).Relays record
      Fault.resultCode? :=
  .bind _ _ (.ofExcept _ (Bytes.codeless_sized detail)) fun _ => relays_ask own _ _ .sized

theorem relays_capabilityNumber (area : Capability) (detail : UInt32) :
    (capabilityNumber area detail : Action Fault (Client (Tapped σ)) UInt32).Relays record
      Fault.resultCode? :=
  .bind _ _ (relays_capability own area _) fun _ =>
    .ofExcept _ fun _ failed => (FailsOnly.complete _ .word32 _ _ failed).codeless

theorem relays_capabilityHandles (area : Capability) (detail : Bytes) :
    (capabilityHandles area detail : Action Fault (Client (Tapped σ)) _).Relays record
      Fault.resultCode? :=
  .bind _ _ (relays_capability own area detail) fun _ =>
    .bind _ _ (.ofExcept _ fun _ failed =>
      (FailsOnly.complete _ HandleList.decode_failsOnly _ _ failed).codeless) fun _ => .pure _

theorem relays_listKeys :
    (listKeys : Action Fault (Client (Tapped σ)) (List UInt32)).Relays record Fault.resultCode? :=
  .bind _ _ (relays_capabilityHandles own _ _) fun _ => .bind _ _ (relays_note _) fun _ => .pure _

theorem relays_evictListed (last : Option UInt32) (evicted rounds : Nat) :
    (evictListed last evicted rounds : Action Fault (Client (Tapped σ)) (Option Nat)).Relays record
      Fault.resultCode? := by
  induction rounds generalizing last evicted with
  | zero => exact .pure none
  | succ rounds inductionHypothesis =>
    refine .bind _ _ (relays_listKeys own) fun handles => ?_
    cases handles with
    | nil => exact .pure _
    | cons next others =>
      dsimp only
      split
      · exact .throw _ rfl
      · exact .bind _ _ (relays_evictKey own next) fun _ => inductionHypothesis _ _

theorem relays_loadSavedKey (blob : Bytes) :
    (loadSavedKey blob : Action Fault (Client (Tapped σ)) UInt32).Relays record
      Fault.resultCode? :=
  .bind _ _ (.ofExcept _ (Bytes.codeless_sized blob)) fun _ =>
    .bind _ _ (relays_askHandle own _) fun _ => .bind _ _ (relays_note _) fun _ => .pure _

theorem relays_saveContext (handle : UInt32) (kind : ResourceKind) (label : Block 16) :
    (saveContext handle kind label : Action Fault (Client (Tapped σ)) SavedContext).Relays record
      Fault.resultCode? := by
  have ends : ∀ saved : SavedContext,
      (if kind.isSession then do
          note fun inventory => inventory.removeSession handle
          return saved
        else return saved : Action Fault (Client (Tapped σ)) SavedContext).Relays record
          Fault.resultCode? := by
    intro saved
    split
    · exact .bind _ _ (relays_note _) fun _ => .pure _
    · exact .pure _
  refine .bind _ _ (relays_ask own _ _ .sized) fun blob => .bind _ _ (.ofExcept _ fun _ failed =>
    (FailsOnly.complete _ SavedContext.decode_failsOnly _ _ failed).codeless) fun saved => ?_
  dsimp only
  split
  · exact .bind _ _ (.throw _ rfl) fun _ => ends saved
  · exact ends saved

theorem relays_loadBlob (kind : ResourceKind) (hint : UInt32) (keep : Bool) (blob : Bytes) :
    (loadBlob kind hint keep blob : Action Fault (Client (Tapped σ)) UInt32).Relays record
      Fault.resultCode? := by
  unfold loadBlob
  split
  · exact .bind _ _ (relays_claim blob) fun _ =>
      .bind _ _ (.ofExcept _ (Bytes.codeless_sized blob)) fun _ =>
        relays_releasing blob _ (relays_askHandle own _)
  · exact .bind _ _ (.ofExcept _ (Bytes.codeless_sized blob)) fun _ => relays_askHandle own _

theorem relays_loadContext (hint : UInt32) (keep : Bool) (saved : SavedContext) :
    (loadContext hint keep saved : Action Fault (Client (Tapped σ)) UInt32).Relays record
      Fault.resultCode? := by
  refine .bind _ _ (.ofExcept _ fun fault failed =>
    (saved.only_encode fault failed).codeless) fun blob => ?_
  cases saved.resource? with
  | none => exact .throw _ rfl
  | some kind =>
    refine .bind _ _ (relays_loadBlob own kind hint keep blob) fun handle => ?_
    dsimp only
    split
    · exact .bind _ _ (relays_note _) fun _ => .pure _
    · exact .pure _

theorem relays_resetRegisters (selection : RegisterSelection) :
    (resetRegisters selection : Action Fault (Client (Tapped σ)) Unit).Relays record
      Fault.resultCode? :=
  .bind _ _ (.ofExcept _ fun fault failed => (selection.sends.only fault failed).codeless)
    fun _ => relays_ask own _ _ (.pure ())

theorem relays_randomChunk (wanted : Nat) :
    (randomChunk wanted : Action Fault (Client (Tapped σ)) Bytes).Relays record
      Fault.resultCode? := by
  refine .bind _ _ (relays_ask own _ _ .sized) fun chunk => ?_
  have ends : (if wanted < chunk.length then do
      let _ ← (throw (.malformed (.tooManyRandomBytes chunk.length wanted)) :
        Action Fault (Client (Tapped σ)) PUnit)
      return chunk
    else return chunk : Action Fault (Client (Tapped σ)) Bytes).Relays record
      Fault.resultCode? := by
    split
    · exact .bind _ _ (.throw _ rfl) fun _ => .pure _
    · exact .pure _
  dsimp only
  split
  · exact .bind _ _ (.throw _ rfl) fun _ => ends
  · exact ends

theorem relays_randomChunks (missing chunks : Nat) :
    (randomChunks missing chunks : Action Fault (Client (Tapped σ)) Bytes).Relays record
      Fault.resultCode? := by
  induction chunks generalizing missing with
  | zero => exact .pure []
  | succ chunks inductionHypothesis =>
    unfold randomChunks
    split
    · exact .pure []
    · exact .bind _ _ (relays_randomChunk own _) fun _ =>
        .bind _ _ (inductionHypothesis _) fun _ => .pure _

theorem relays_stirRandom (entropy : Bytes) :
    (stirRandom entropy : Action Fault (Client (Tapped σ)) Unit).Relays record
      Fault.resultCode? := by
  have stirs := Relays.bind (Action.ofExcept (Bytes.sized entropy)) _
    (.ofExcept _ (Bytes.codeless_sized entropy)) fun parameters =>
      relays_ask own { ordinal := .stirRandom, parameters } _ (.pure ())
  unfold stirRandom
  dsimp only
  split
  · exact .bind _ _ (.throw _ rfl) fun _ => stirs
  · exact stirs

theorem relays_auditPages (start : UInt32) (pages : Nat) :
    (auditPages start pages : Action Fault (Client (Tapped σ)) AuditListing).Relays record
      Fault.resultCode? := by
  induction pages generalizing start with
  | zero => exact .throw _ rfl
  | succ pages inductionHypothesis =>
    refine .bind _ _ (relays_ask own _ _ AuditPage.decode_failsOnly) fun page => ?_
    split
    · exact .pure _
    · split
      · exact .throw _ rfl
      · exact .bind _ _ (inductionHypothesis _) fun _ => .pure _

end Client

open Client in
theorem PlainCall.relays_perform (call : PlainCall) :
    (call.perform : Action Fault (Client (Tapped σ)) Answer).Relays Client.record
      Fault.resultCode? := by
  cases call with
  | endpoint => exact .bind _ _ .get fun _ => .pure _
  | flush handle kind => exact .bind _ _ (relays_flush own handle kind) fun _ => .pure _
  | evictKey handle => exact .bind _ _ (relays_evictKey own handle) fun _ => .pure _
  | listKeys => exact .bind _ _ (relays_listKeys own) fun _ => .pure _
  | keyHandles => exact .bind _ _ (relays_capabilityHandles own _ _) fun _ => .pure _
  | evictAll rounds =>
    refine .bind _ _ (relays_evictListed own none 0 rounds) fun count => ?_
    cases count with
    | none => exact .pure _
    | some _ => exact .pure _
  | saveKey handle => exact .bind _ _ (relays_ask own _ _ .sized) fun _ => .pure _
  | loadSavedKey blob => exact .bind _ _ (relays_loadSavedKey own blob) fun _ => .pure _
  | saveContext handle kind label =>
    exact .bind _ _ (relays_saveContext own handle kind label) fun _ => .pure _
  | loadContext hint keep saved =>
    exact .bind _ _ (relays_loadContext own hint keep saved) fun _ => .pure _
  | readCounter number =>
    exact .bind _ _ (relays_ask own _ _ CounterValue.decode_failsOnly) fun _ => .pure _
  | extend register value => exact .bind _ _ (relays_ask own _ _ (.block 20)) fun _ => .pure _
  | readRegister register => exact .bind _ _ (relays_ask own _ _ (.block 20)) fun _ => .pure _
  | resetRegisters selection =>
    exact .bind _ _ (relays_resetRegisters own selection) fun _ => .pure _
  | readIntegrity index => exact .bind _ _ (relays_ask own _ _ (.block 20)) fun _ => .pure _
  | startup kind =>
    exact .bind _ _ (.bind _ _ (relays_ask own _ _ (.pure ())) fun _ => relays_note _)
      fun _ => .pure _
  | selfTest => exact .bind _ _ (relays_ask own _ _ (.pure ())) fun _ => .pure _
  | continueSelfTest => exact .bind _ _ (relays_ask own _ _ (.pure ())) fun _ => .pure _
  | testResult => exact .bind _ _ (relays_ask own _ _ .sized) fun _ => .pure _
  | random count => exact .bind _ _ (relays_randomChunks own count count) fun _ => .pure _
  | stirRandom entropy => exact .bind _ _ (relays_stirRandom own entropy) fun _ => .pure _
  | capability area detail =>
    exact .bind _ _ (relays_capability own area detail) fun _ => .pure _
  | capabilityNumber area detail =>
    exact .bind _ _ (relays_capabilityNumber own area detail) fun _ => .pure _
  | resourceHandles kind =>
    exact .bind _ _ (relays_capabilityHandles own _ _) fun _ => .pure _
  | auditPage start =>
    exact .bind _ _ (relays_ask own _ _ AuditPage.decode_failsOnly) fun _ => .pure _
  | auditListing =>
    exact .bind _ _ (.bind _ _ (relays_auditPages own _ _) fun _ =>
      .bind _ _ (relays_note _) fun _ => .pure _) fun _ => .pure _

theorem AuthorizedCall.relays_perform (call : AuthorizedCall) :
    (call.perform : Action Fault (Dispatch (Tapped σ)) Answer).Relays Dispatch.record
      Fault.resultCode? := by
  rw [call.perform_eq]
  exact .bind _ _ call.relays_prepare fun command =>
    .bind _ _ (Dispatch.relays_execute own command) fun reply => call.relays_finish reply

end TrustedPlatform

import TrustedPlatform.Proofs.Channel.Tap
import TrustedPlatform.Proofs.Client.Retry
import TrustedPlatform.Proofs.Module.Coupling

/-!
# Commands that succeed

A command that is sent once and succeeds was exchanged exactly once: what was sent reads as the
command, under whatever session, and what came back is a success (`Dispatch.execute_granted`).
-/

set_option autoImplicit false

namespace TrustedPlatform

theorem Command.succeeded_of_read (command : Command) (expected : Nat) (answer : Except Fault Bytes)
    (parts : Reply × Digest × List ResponseTrailer)
    (found : command.read expected answer = .ok parts) :
    ∃ received response, answer = .ok received ∧ Response.parse received = .ok response ∧
      response.code = ResultCode.success := by
  obtain ⟨reply, digest, trailers⟩ := parts
  obtain ⟨tag, framed, fits, known, _⟩ := (command.read_eq_ok_iff _ _ _ _ _).mp found
  have isResponse : tag.responseTrailers?.isSome = true := by
    rw [known]
    rfl
  exact ⟨_, _, framed, (Response.parse_eq_ok_iff _ _).mpr ⟨isResponse, fits, rfl⟩, rfl⟩

/-- A command was exchanged once and granted, and of what is audited the client knows what it knew
before. -/
structure Client.Granted {σ : Type} (command : Command) (before after : Client (Tapped σ)) :
    Prop where
  exchanged : ∃ frame trailers received response,
    after.link.record = before.link.record ++ [⟨frame, .ok received⟩] ∧
      Request.Reads frame
        ⟨command.ordinal, command.handles, command.parameters, trailers⟩ ∧
      Response.parse received = .ok response ∧ response.code = ResultCode.success
  audit : after.inventory.audit = before.inventory.audit

namespace Dispatch

variable {σ : Type}

theorem audit_settle (dispatch : Dispatch σ) :
    (settle dispatch).client.inventory.audit = dispatch.client.inventory.audit := by
  unfold settle
  split
  · rfl
  · split
    · rfl
    · rfl

variable [Channel σ] (command : Command)
  (handles : command.handles.length = command.ordinal.handleCount)
  (plain : command.newSecret = none)

include handles plain

theorem executeOnce_granted (dispatch after : Dispatch (Tapped σ)) (reply : Reply)
    (ran : (executeOnce command).run dispatch = (.ok reply, after)) :
    dispatch.client.Granted command after.client := by
  obtain ⟨client, use?⟩ := dispatch
  cases use? with
  | none =>
    by_cases sendable : command.newSecret = none ∧ command.plainFrame.length < Bytes.capacity 4
    · cases transmitted : (Link.transmit command.plainFrame).run client.link with
      | mk answer link =>
        rw [executeOnce_of_plain command client answer link plain sendable.2 transmitted] at ran
        obtain ⟨sent, recorded, adds⟩ := Link.transmit_tapped _ _ _ _ transmitted
        cases found : command.read 0 answer with
        | error fault =>
          rw [found] at ran
          cases ran
        | ok parts =>
          rw [found] at ran
          cases ran
          obtain ⟨received, response, rfl, parsed, code⟩ :=
            command.succeeded_of_read 0 answer parts found
          cases adds with
          | exchange =>
            exact ⟨⟨_, [], received, response, recorded, command.reads_plainFrame handles, parsed,
              code⟩, rfl⟩
          | unreached fault failed => cases failed
    · obtain ⟨cause, unsent⟩ := executeOnce_of_unsendable command client sendable
      rw [unsent] at ran
      cases ran
  | some use =>
    obtain ⟨outcome, left, session, attempted, attempt⟩ := executeOnce_attempt command client use
    rw [attempted] at ran
    cases ran
    cases attempt with
    | exchanged parameters nonceOdd drawn nonces answer link _ _ isSealed _ draw _ transmitted
        concluded =>
      have unsealed := sealedParameters_of_plain command (some use) plain
      obtain rfl := Except.ok.inj (unsealed.symm.trans isSealed)
      obtain ⟨sent, recorded, adds⟩ := Link.transmit_tapped _ _ _ _ transmitted
      obtain ⟨trailer, accepted, _⟩ :=
        (SessionUse.conclude_eq_ok_iff _ _ _ _ _ _).mp concluded
      have found := SessionUse.read_of_accepted _ _ _ _ _ _ accepted
      obtain ⟨received, response, rfl, parsed, code⟩ := command.succeeded_of_read 1 answer _ found
      cases adds with
      | exchange =>
        exact ⟨⟨_, _, received, response, recorded,
          command.reads_frame use command.parameters nonceOdd handles, parsed, code⟩, rfl⟩
      | unreached fault failed => cases failed

theorem execute_granted (once : command.ordinal.isRetryable = false)
    (dispatch after : Dispatch (Tapped σ)) (reply : Reply)
    (ran : (execute command).run dispatch = (.ok reply, after)) :
    dispatch.client.Granted command after.client := by
  rw [run_execute_of_once command dispatch once] at ran
  cases attempted : (executeOnce command).run dispatch with
  | mk outcome between =>
    rw [attempted] at ran
    cases ran
    obtain ⟨exchanged, audit⟩ := executeOnce_granted command handles plain _ _ reply attempted
    constructor
    · rw [link_settle]
      exact exchanged
    · rw [audit_settle]
      exact audit

end Dispatch

end TrustedPlatform

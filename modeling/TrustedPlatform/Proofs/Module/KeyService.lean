import TrustedPlatform.Proofs.Client.Retry
import TrustedPlatform.Proofs.Module.Coupling
import TrustedPlatform.Proofs.Module.KeyStore

/-!
# Commands to a module that keeps keys

A command that a module serves ends with the reply that it was granted, or with a fault, and then
the keys are as they were (`KeyStore.Turns`).  That is so under a session, too, as long as the
client takes what the module grants for authentic (`Dispatch.Authentic`).
-/

set_option autoImplicit false

namespace TrustedPlatform

def Command.errand (command : Command) : KeyErrand := .of command.ordinal command.parameters

/-- Whatever success a module answers to a command, its session accepts. -/
def SessionUse.Authentic (use : SessionUse) (command : Command) (nonceOdd : Digest)
    (answer : Except Fault Bytes) : Prop :=
  answerCode? answer = some ResultCode.success →
    ∃ reply received, use.Accepted command nonceOdd answer reply received

theorem SessionUse.conclude_of_authentic (use : SessionUse) (command : Command)
    (nonceOdd : Digest) (answer : Except Fault Bytes)
    (authentic : use.Authentic command nonceOdd answer) :
    (use.conclude command nonceOdd answer).1 =
      (command.read 1 answer).map fun parts => parts.1 := by
  cases found : command.read 1 answer with
  | error fault =>
    unfold conclude
    rw [found]
    rfl
  | ok parts =>
    obtain ⟨reply, digest, trailers⟩ := parts
    obtain ⟨tag, rfl, fits, tagged, _⟩ := (Command.read_eq_ok_iff _ _ _ _ _ _).mp found
    have isResponse : tag.responseTrailers?.isSome = true := by
      rw [tagged]
      rfl
    have parsed := (Response.parse_eq_ok_iff _ _).mpr ⟨isResponse, fits, rfl⟩
    have succeeded := (answerCode?_eq_some_iff _ _).mpr ⟨_, parsed, rfl⟩
    obtain ⟨output, received, accepted⟩ := authentic succeeded
    have also := use.read_of_accepted command nonceOdd _ output received accepted
    rw [use.conclude_of_accepted command nonceOdd _ output received accepted]
    rw [also] at found
    cases found
    rfl

namespace KeyStore

variable {store next : KeyStore} {command : Command}

/-- What a command that ended makes of the keys. -/
def Turns (store : KeyStore) (command : Command) (outcome : Except Fault Reply)
    (next : KeyStore) : Prop :=
  match outcome with
  | .ok reply => store.Grants command.handles command.parameters command.errand reply next
  | .error _ => next = store

theorem Answers.turns {trailers : List RequestTrailer} {response : Bytes}
    (answers : store.Answers ⟨command.ordinal, command.handles, command.parameters, trailers⟩
      response next)
    (outputs : command.outputHandles = command.ordinal.outputCount) :
    store.Turns command
      ((command.read trailers.length (.ok response)).map fun parts => parts.1) next := by
  cases answers with
  | refuses _ refusal parsed failed =>
    rw [command.read_of_refused _ _ refusal parsed failed]
    exact rfl
  | grants tag reply received next tagged count handles fits granted =>
    have found := (command.read_eq_ok_iff trailers.length _ reply _ received).mpr
      ⟨tag, rfl, fits, tagged, handles.trans outputs.symm, count, rfl⟩
    rw [found]
    exact granted

/-- What was added to a record for a command, and served, makes the same of the keys as of the
command. -/
theorem Serves.turns {trailers : List RequestTrailer} {frame : Bytes} {sent : List Exchange}
    {answer : Except Fault Bytes} (serves : store.Serves sent next)
    (adds : Link.Adds frame answer sent)
    (reads : Request.Reads frame
      ⟨command.ordinal, command.handles, command.parameters, trailers⟩)
    (outputs : command.outputHandles = command.ordinal.outputCount) :
    store.Turns command ((command.read trailers.length answer).map fun parts => parts.1) next := by
  cases adds with
  | exchange =>
    obtain ⟨response, rfl, answers⟩ := serves.answered reads
    exact answers.turns outputs
  | unreached fault failed =>
    rw [failed]
    exact (serves_nil_iff store next).mp serves

end KeyStore

variable {σ : Type} [Channel σ]

/-- When a command is sent under the session that was lent for it, the module's answer is
authentic. -/
def Dispatch.Authentic (dispatch : Dispatch σ) (command : Command) : Prop :=
  ∀ use nonceOdd drawn nonces answer link,
    dispatch.use? = some use →
    use.session.Draw dispatch.client.nonces nonceOdd drawn nonces →
    (Link.transmit (command.frame use command.parameters nonceOdd)).run dispatch.client.link =
      (answer, link) →
    use.Authentic command nonceOdd answer

/-- A command was carried out or failed: what was recorded for it on a tapped channel accounts for
what became of the keys.  The client knows of the keys what it knew before. -/
structure Client.Commands (command : Command) (before after : Client (Tapped σ))
    (outcome : Except Fault Reply) (sent : List Exchange) : Prop where
  recorded : after.link.record = before.link.record ++ sent
  known : after.inventory.keys = before.inventory.keys
  turns : ∀ store next : KeyStore, store.Serves sent next → store.Turns command outcome next

omit [Channel σ] in
theorem Client.Commands.refused (command : Command) (before after : Client (Tapped σ))
    (fault : Fault) (link : after.link = before.link)
    (known : after.inventory.keys = before.inventory.keys) :
    Commands command before after (.error fault) [] where
  recorded := by rw [link, List.append_nil]
  known := known
  turns := fun store next serves => (KeyStore.serves_nil_iff store next).mp serves

namespace Dispatch

omit [Channel σ] in
theorem keys_settle (dispatch : Dispatch σ) :
    (settle dispatch).client.inventory.keys = dispatch.client.inventory.keys := by
  unfold settle
  split
  · rfl
  · split
    · rfl
    · rfl

variable (command : Command) (standard : command.Standard) (plain : command.newSecret = none)
  (dispatch : Dispatch (Tapped σ)) (authentic : dispatch.Authentic command)

include standard plain authentic

theorem executeOnce_commands :
    ∃ sent, dispatch.client.Commands command ((executeOnce command).run dispatch).2.client
      ((executeOnce command).run dispatch).1 sent := by
  obtain ⟨client, use?⟩ := dispatch
  cases use? with
  | none =>
    by_cases sendable : command.newSecret = none ∧ command.plainFrame.length < Bytes.capacity 4
    · cases transmitted : (Link.transmit command.plainFrame).run client.link with
      | mk answer link =>
        obtain ⟨sent, recorded, adds⟩ := Link.transmit_tapped _ _ _ _ transmitted
        rw [executeOnce_of_plain command client answer link plain sendable.2 transmitted]
        exact ⟨sent, recorded, rfl, fun store next serves =>
          serves.turns adds (command.reads_plainFrame standard.handles) standard.outputs⟩
    · obtain ⟨cause, unsent⟩ := executeOnce_of_unsendable command client sendable
      rw [unsent]
      exact ⟨[], .refused command client client _ rfl rfl⟩
  | some use =>
    obtain ⟨outcome, after, session, ran, attempt⟩ := executeOnce_attempt command client use
    rw [ran]
    cases attempt with
    | unsealed fault _ => exact ⟨[], .refused command client client fault rfl rfl⟩
    | inactive _ => exact ⟨[], .refused command client client _ rfl rfl⟩
    | repeats _ => exact ⟨[], .refused command client _ _ rfl rfl⟩
    | oversized _ _ _ _ _ _ _ _ => exact ⟨[], .refused command client _ _ rfl rfl⟩
    | exchanged parameters nonceOdd drawn nonces answer link _ _ isSealed _ draw _ transmitted
        concluded =>
      have unsealed := sealedParameters_of_plain command (some use) plain
      obtain rfl := Except.ok.inj (unsealed.symm.trans isSealed)
      obtain ⟨sent, recorded, adds⟩ := Link.transmit_tapped _ _ _ _ transmitted
      have isAuthentic := authentic use nonceOdd drawn nonces answer link rfl draw transmitted
      have same := use.conclude_spent_fst command nonceOdd answer drawn _ _ _ draw
      rw [concluded, use.conclude_of_authentic command nonceOdd answer isAuthentic] at same
      obtain rfl : outcome = _ := same
      exact ⟨sent, recorded, rfl, fun store next serves =>
        serves.turns adds (command.reads_frame use command.parameters nonceOdd standard.handles)
          standard.outputs⟩

theorem execute_commands (once : command.ordinal.isRetryable = false) :
    ∃ sent, dispatch.client.Commands command ((execute command).run dispatch).2.client
      ((execute command).run dispatch).1 sent := by
  obtain ⟨sent, commands⟩ := executeOnce_commands command standard plain dispatch authentic
  rw [run_execute_of_once command dispatch once]
  refine ⟨sent, ?_, ?_, commands.turns⟩
  · dsimp only
    rw [link_settle]
    exact commands.recorded
  · dsimp only
    rw [keys_settle]
    exact commands.known

end Dispatch

end TrustedPlatform

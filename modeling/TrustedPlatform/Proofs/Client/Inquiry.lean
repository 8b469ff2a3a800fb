import TrustedPlatform.Proofs.Channel.Tap
import TrustedPlatform.Proofs.Client.Asking
import TrustedPlatform.Proofs.Client.Opening

/-!
# Questions to a module

What is asked without a session is exchanged once (`Link.exchanges`), unless the channel was given
up and cannot be opened anew: then nothing is sent (`Link.Stuck`).  An answer leaves the link so
that the next question can be asked.  So a client that asks one question after the other can only be
stuck before the first.
-/

set_option autoImplicit false

namespace TrustedPlatform

namespace Link

variable {σ : Type} [Channel σ]

/-- An exchange was given up, and the channel cannot be opened anew. -/
def Stuck (link : Link σ) (fault : Fault) : Prop :=
  link.spoiled = true ∧
    ((Channel.reopen : Action Fault σ Unit).run link.channel).1 = .error fault

theorem Stuck.fault_unique {link : Link σ} {fault other : Fault} (stuck : link.Stuck fault)
    (also : link.Stuck other) : fault = other := by
  have same := stuck.2.symm.trans also.2
  cases same
  rfl

/-- The next request can be sent. -/
def Ready (link : Link σ) : Prop := ∀ fault, ¬ link.Stuck fault

theorem ready_of_clean (link : Link σ) (clean : link.spoiled = false) : link.Ready := by
  rintro fault ⟨spoiled, _⟩
  rw [clean] at spoiled
  cases spoiled

theorem ready_or_stuck (link : Link σ) : link.Ready ∨ ∃ fault, link.Stuck fault := by
  by_cases stuck : ∃ fault, link.Stuck fault
  · exact Or.inr stuck
  · exact Or.inl fun fault isStuck => stuck ⟨fault, isStuck⟩

theorem transmit_of_reopened (request : Bytes) (link : Link σ) (channel : σ)
    (spoiled : link.spoiled = true)
    (reopened : (Channel.reopen : Action Fault σ Unit).run link.channel = (.ok (), channel)) :
    (transmit request).run link = (exchange request).run (.fresh channel) := by
  simp [transmit, renew, onChannel, spoiled, reopened, fresh]

/-- A request was recorded with its answer, and an answer that came in leaves the link ready. -/
structure Exchanges (request : Bytes) (before after : Link (Tapped σ))
    (answer : Except Fault Bytes) : Prop where
  recorded : after.record = before.record ++ [⟨request, answer⟩]
  ready : ∀ response, answer = .ok response → after.Ready

variable (request : Bytes) (link after : Link (Tapped σ)) (answer : Except Fault Bytes)
  (transmitted : (transmit request).run link = (answer, after))

include transmitted

theorem exchanges_of_clean (clean : link.spoiled = false) :
    Exchanges request link after answer := by
  obtain ⟨recorded, staysClean⟩ :=
    transmit_tapped_of_clean request link after answer clean transmitted
  exact ⟨recorded, fun response received => after.ready_of_clean (staysClean response received)⟩

theorem exchanges (ready : link.Ready) : Exchanges request link after answer := by
  cases spoiled : link.spoiled with
  | false => exact exchanges_of_clean request link after answer transmitted spoiled
  | true =>
    have kept : ((Channel.reopen : Action Fault (Tapped σ) Unit).run link.channel).2.record =
        link.record := rfl
    cases reopened : (Channel.reopen : Action Fault (Tapped σ) Unit).run link.channel with
    | mk outcome channel =>
      rw [reopened] at kept
      cases outcome with
      | error fault => exact absurd ⟨spoiled, congrArg Prod.fst reopened⟩ (ready fault)
      | ok _ =>
        rw [transmit_of_reopened request link channel spoiled reopened,
          ← transmit_of_clean request (.fresh channel) rfl] at transmitted
        obtain ⟨recorded, answered⟩ :=
          exchanges_of_clean request (.fresh channel) after answer transmitted rfl
        refine ⟨?_, answered⟩
        rw [recorded, ← kept]
        rfl

theorem unsent_of_stuck (fault : Fault) (stuck : link.Stuck fault) :
    answer = .error fault ∧ after.record = link.record := by
  obtain ⟨spoiled, failed⟩ := stuck
  cases reopened : (Channel.reopen : Action Fault (Tapped σ) Unit).run link.channel with
  | mk outcome channel =>
    rw [reopened] at failed
    obtain rfl : outcome = .error fault := failed
    rw [transmit_of_reopen_error request link fault channel spoiled reopened] at transmitted
    cases transmitted
    have kept : ((Channel.reopen : Action Fault (Tapped σ) Unit).run link.channel).2.record =
        link.record := rfl
    rw [reopened] at kept
    exact ⟨rfl, kept⟩

end Link

namespace Link

variable {σ : Type} [Channel σ]

/-- What becomes of a request that is handed to a link, and what is sent for it: one exchange, or
nothing over a channel that was given up and cannot be opened anew. -/
structure Conveys (request : Bytes) (before : Link (Tapped σ)) (answer : Except Fault Bytes)
    (after : Link (Tapped σ)) (sent : List Exchange) : Prop where
  transmitted : (transmit request).run before = (answer, after)
  recorded : after.record = before.record ++ sent
  exchanged : before.Ready → sent = [⟨request, answer⟩]
  unsent : ∀ fault, before.Stuck fault → answer = .error fault ∧ sent = []
  ready : ∀ response, answer = .ok response → after.Ready

theorem conveys (request : Bytes) (before after : Link (Tapped σ)) (answer : Except Fault Bytes)
    (transmitted : (transmit request).run before = (answer, after)) :
    ∃ sent, Conveys request before answer after sent := by
  rcases before.ready_or_stuck with ready | ⟨fault, stuck⟩
  · obtain ⟨recorded, answered⟩ := exchanges request before after answer transmitted ready
    exact ⟨_, transmitted, recorded, fun _ => rfl, fun fault stuck => absurd stuck (ready fault),
      answered⟩
  · obtain ⟨failed, kept⟩ := unsent_of_stuck request before after answer transmitted fault stuck
    refine ⟨[], transmitted, kept.trans (List.append_nil _).symm, fun ready => ?_, ?_, ?_⟩
    · exact absurd stuck (ready fault)
    · intro other also
      exact ⟨failed.trans (congrArg Except.error (stuck.fault_unique also)), rfl⟩
    · rintro response rfl
      cases failed

theorem Conveys.adds {request : Bytes} {before after : Link (Tapped σ)}
    {answer : Except Fault Bytes} {sent : List Exchange}
    (conveys : Conveys request before answer after sent) : Adds request answer sent := by
  rcases before.ready_or_stuck with ready | ⟨fault, stuck⟩
  · rw [conveys.exchanged ready]
    exact .exchange
  · obtain ⟨failed, nothing⟩ := conveys.unsent fault stuck
    rw [nothing]
    exact .unreached fault failed

theorem Conveys.sent_of_answered {request : Bytes} {before after : Link (Tapped σ)}
    {answer : Except Fault Bytes} {sent : List Exchange}
    (conveys : Conveys request before answer after sent)
    (answered : ∀ fault, answer ≠ .error fault) :
    sent = [⟨request, answer⟩] := by
  refine conveys.exchanged fun fault stuck => ?_
  exact absurd (conveys.unsent fault stuck).1 (answered fault)

end Link

namespace Command

theorem received_of_value {α : Type} (command : Command) (decoder : Decoder α)
    (answer : Except Fault Bytes) (value : α)
    (found : command.value decoder answer = .ok value) : ∃ response, answer = .ok response := by
  cases answer with
  | error fault => cases found
  | ok response => exact ⟨response, rfl⟩

end Command

namespace Client

variable {σ : Type} [Channel σ]

theorem run_execute_plain (command : Command) (client : Client σ) (answer : Except Fault Bytes)
    (link : Link σ) (once : command.ordinal.isRetryable = false)
    (plain : command.newSecret = none) (fits : command.plainFrame.length < Bytes.capacity 4)
    (transmitted : (Link.transmit command.plainFrame).run client.link = (answer, link)) :
    (unauthorized (Dispatch.execute command)).run client =
      ((command.read 0 answer).map fun parts => parts.1, { client with link }) := by
  unfold unauthorized
  rw [Action.run_zoom, Dispatch.run_execute_once command client { client with link } _ once
    (Dispatch.executeOnce_of_plain command client answer link plain fits transmitted)]

end Client

end TrustedPlatform

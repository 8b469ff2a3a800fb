import TrustedPlatform.Channel.Basic

/-!
# Listening in on a channel

Any channel can be tapped: it works as before, and every request sent on it is recorded with what
came of it.  A transmission adds one exchange to the record, or none if the channel could not be
opened anew: `Link.transmit_tapped`.  On a clean link it adds one, and an answer leaves the link
clean: `Link.transmit_tapped_of_clean`.
-/

set_option autoImplicit false

namespace TrustedPlatform

/-- A request that was sent, and what came of it. -/
structure Exchange where
  request : Bytes
  answer : Except Fault Bytes

/-- A channel that is listened to. -/
structure Tapped (σ : Type) where
  channel : σ
  pending : Option Bytes
  record : List Exchange

namespace Tapped

variable {σ : Type}

def answered (tapped : Tapped σ) (channel : σ) (answer : Except Fault Bytes) : Tapped σ where
  channel := channel
  pending := none
  record := tapped.record ++ tapped.pending.toList.map fun request => ⟨request, answer⟩

/-- The channel after a request was handed to it; a request that cannot be sent is answered by
that. -/
def handed (tapped : Tapped σ) (channel : σ) (request : Bytes) : Except Fault Unit → Tapped σ
  | .ok () => { tapped with channel, pending := some request }
  | .error fault => { tapped with pending := some request }.answered channel (.error fault)

variable [Channel σ]

def send (request : Bytes) : Action Fault (Tapped σ) Unit where
  run tapped :=
    let (outcome, channel) := (Channel.send request).run tapped.channel
    (outcome, tapped.handed channel request outcome)

def receive : Action Fault (Tapped σ) Bytes where
  run tapped :=
    let (answer, channel) := (Channel.receive : Action Fault σ Bytes).run tapped.channel
    (answer, tapped.answered channel answer)

instance : Channel (Tapped σ) where
  send := send
  receive := receive
  reopen := Channel.reopen.zoom Tapped.channel fun channel tapped => { tapped with channel }
  endpoint tapped := Channel.endpoint tapped.channel

theorem run_send (request : Bytes) (tapped : Tapped σ) (outcome : Except Fault Unit) (after : σ)
    (sent : (Channel.send request : Action Fault σ Unit).run tapped.channel = (outcome, after)) :
    (Channel.send request : Action Fault (Tapped σ) Unit).run tapped =
      (outcome, tapped.handed after request outcome) := by
  show (((Channel.send request : Action Fault σ Unit).run tapped.channel).1,
    tapped.handed ((Channel.send request : Action Fault σ Unit).run tapped.channel).2 request
      ((Channel.send request : Action Fault σ Unit).run tapped.channel).1) = _
  rw [sent]

theorem run_receive (tapped : Tapped σ) (answer : Except Fault Bytes) (after : σ)
    (received : (Channel.receive : Action Fault σ Bytes).run tapped.channel = (answer, after)) :
    (Channel.receive : Action Fault (Tapped σ) Bytes).run tapped =
      (answer, tapped.answered after answer) := by
  show (((Channel.receive : Action Fault σ Bytes).run tapped.channel).1,
    tapped.answered ((Channel.receive : Action Fault σ Bytes).run tapped.channel).2
      ((Channel.receive : Action Fault σ Bytes).run tapped.channel).1) = _
  rw [received]

end Tapped

namespace Link

variable {σ : Type} [Channel σ]

def record (link : Link (Tapped σ)) : List Exchange := link.channel.record

theorem run_exchange_tapped (request : Bytes) (link : Link (Tapped σ)) :
    ((exchange request).run link).2.record =
      link.record ++ [⟨request, ((exchange request).run link).1⟩] := by
  obtain ⟨⟨channel, pending, record⟩, spoiled⟩ := link
  unfold exchange onChannel
  rw [Action.run_bind, Action.run_attempt, Action.run_zoom, Action.run_bind]
  cases sent : (Channel.send request : Action Fault σ Unit).run channel with
  | mk outcome between =>
    rw [Tapped.run_send request _ outcome between sent]
    cases outcome with
    | error fault => rfl
    | ok _ =>
      dsimp only
      cases received : (Channel.receive : Action Fault σ Bytes).run between with
      | mk answer after =>
        rw [Tapped.handed, Tapped.run_receive _ answer after received]
        cases answer with
        | error fault => rfl
        | ok response => rfl

/-- What a transmission adds to the record: the exchange, or nothing if the channel could not be
opened anew. -/
inductive Adds (request : Bytes) (answer : Except Fault Bytes) : List Exchange → Prop where
  | exchange : Adds request answer [⟨request, answer⟩]
  | unreached (fault : Fault) (failed : answer = .error fault) : Adds request answer []

theorem record_renew (link : Link (Tapped σ)) :
    ((renew : Action Fault (Link (Tapped σ)) Unit).run link).2.record = link.record := by
  unfold renew onChannel
  rw [Action.run_bind, Action.run_get]
  dsimp only
  cases spoiled : link.spoiled with
  | false => rfl
  | true =>
    rw [if_pos rfl, Action.run_bind, Action.run_zoom]
    have reopened : ((Channel.reopen : Action Fault (Tapped σ) Unit).run
        link.channel).2.record = link.record := rfl
    cases ran : (Channel.reopen : Action Fault (Tapped σ) Unit).run link.channel with
    | mk result channel =>
      rw [ran] at reopened
      cases result with
      | error fault => exact reopened
      | ok _ => exact reopened

/-- What a transmission records depends on the link only for whether there is anything to record. -/
theorem record_transmit (request : Bytes) (link : Link (Tapped σ)) :
    ((transmit request).run link).2.record = link.record ++
      match ((renew : Action Fault (Link (Tapped σ)) Unit).run link).1 with
      | .ok _ => [⟨request, ((transmit request).run link).1⟩]
      | .error _ => [] := by
  have kept := record_renew link
  unfold transmit
  rw [Action.run_bind]
  cases renewed : (renew : Action Fault (Link (Tapped σ)) Unit).run link with
  | mk outcome between =>
    rw [renewed] at kept
    cases outcome with
    | error fault => exact kept.trans (List.append_nil _).symm
    | ok _ =>
      dsimp only at kept ⊢
      rw [run_exchange_tapped, kept]

theorem transmit_tapped (request : Bytes) (link after : Link (Tapped σ))
    (answer : Except Fault Bytes) (transmitted : (transmit request).run link = (answer, after)) :
    ∃ added, after.record = link.record ++ added ∧ Adds request answer added := by
  have recorded := record_transmit request link
  rw [transmitted] at recorded
  refine ⟨_, recorded, ?_⟩
  cases renewed : (renew : Action Fault (Link (Tapped σ)) Unit).run link with
  | mk outcome between =>
    cases outcome with
    | ok _ => exact .exchange
    | error fault =>
      have failed : (transmit request).run link = (.error fault, between) := by
        rw [transmit, Action.run_bind, renewed]
      rw [transmitted] at failed
      cases failed
      exact .unreached fault rfl

theorem spoiled_exchange (request : Bytes) (link after : Link σ) (received : Bytes)
    (exchanged : (exchange request).run link = (.ok received, after)) :
    after.spoiled = link.spoiled := by
  unfold exchange onChannel at exchanged
  rw [Action.run_bind, Action.run_attempt, Action.run_zoom] at exchanged
  cases ran : (Channel.send request >>= fun _ => Channel.receive : Action Fault σ Bytes).run
      link.channel with
  | mk outcome channel =>
    rw [ran] at exchanged
    cases outcome with
    | error fault => cases exchanged
    | ok response =>
      cases exchanged
      rfl

/-- On a clean link every request is exchanged, and an answer leaves the link clean. -/
theorem transmit_tapped_of_clean (request : Bytes) (link after : Link (Tapped σ))
    (answer : Except Fault Bytes) (clean : link.spoiled = false)
    (transmitted : (transmit request).run link = (answer, after)) :
    after.record = link.record ++ [⟨request, answer⟩] ∧
      ∀ response, answer = .ok response → after.spoiled = false := by
  rw [transmit_of_clean request link clean] at transmitted
  have recorded := run_exchange_tapped request link
  rw [transmitted] at recorded
  refine ⟨recorded, ?_⟩
  rintro response rfl
  rw [spoiled_exchange request link after response transmitted, clean]

end Link

end TrustedPlatform

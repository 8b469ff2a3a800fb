import Mathlib.Data.List.Perm.Basic
import TrustedPlatform.Channel.Basic

/-!
# A channel as a queue of answers

A module answers every request that reaches it once, and its answers wait in a queue.  Everything
else is open: when an answer arrives and in which order, which steps of the channel fail and with
what, whether a request that could not be sent reached the module all the same, and whether a
channel that could not be opened anew was emptied.  All of it is laid down in the turns of the
channel, of which any will do.

* `Queued.sending`, `Queued.receiving`, `Queued.reopening`: all that a step can come to.
-/

set_option autoImplicit false

namespace TrustedPlatform

structure Turn where
  -- The answers that arrive before the step: each is the place of one among those under way.
  arrivals : List Nat
  fault? : Option Fault
  silence : Fault
  through : Bool
  prompt : Bool

/-- A step of a channel, and why it failed if it did. -/
inductive ChannelEvent where
  | sent (request : Bytes) (fault? : Option Fault)
  | received (fault? : Option Fault)
  | reopened (fault? : Option Fault)
  deriving DecidableEq, Repr

namespace ChannelEvent

def fault? : ChannelEvent → Option Fault
  | .sent _ fault? => fault?
  | .received fault? => fault?
  | .reopened fault? => fault?

def request? : ChannelEvent → Option Bytes
  | .sent request _ => some request
  | _ => none

def GivesUp (event : ChannelEvent) : Prop :=
  (∃ request fault, event = .sent request (some fault)) ∨ ∃ fault, event = .received (some fault)

theorem GivesUp.isSome {event : ChannelEvent} (givesUp : event.GivesUp) :
    event.fault?.isSome = true := by
  rcases givesUp with ⟨_, _, rfl⟩ | ⟨_, rfl⟩
  · rfl
  · rfl

end ChannelEvent

/-- A channel to a module whose answers queue up. -/
structure Queued where
  turns : Nat → Turn
  -- The answer of the module to a request, after those that it had before.
  respond : List Bytes → Bytes → Bytes
  steps : Nat
  queue : List Bytes
  underway : List Bytes
  heard : List Bytes
  log : List ChannelEvent

namespace Queued

def opened (turns : Nat → Turn) (respond : List Bytes → Bytes → Bytes) : Queued :=
  ⟨turns, respond, 0, [], [], [], []⟩

def turn (queued : Queued) : Turn := queued.turns queued.steps

def deliver : List Nat → List Bytes → List Bytes → List Bytes × List Bytes
  | [], queue, underway => (queue, underway)
  | place :: places, queue, underway =>
    match underway[place]? with
    | none => deliver places queue underway
    | some answer => deliver places (queue ++ [answer]) (underway.eraseIdx place)

def arrive (queued : Queued) : Queued :=
  let (queue, underway) := deliver queued.turn.arrivals queued.queue queued.underway
  { queued with queue, underway }

def reach (queued : Queued) (prompt : Bool) (request : Bytes) : Queued :=
  let answer := queued.respond queued.heard request
  { queued with
    heard := queued.heard ++ [request]
    queue := if prompt then queued.queue ++ [answer] else queued.queue
    underway := if prompt then queued.underway else queued.underway ++ [answer] }

def emptied (queued : Queued) : Queued := { queued with queue := [], underway := [] }

def record (queued : Queued) (event : ChannelEvent) : Queued :=
  { queued with steps := queued.steps + 1, log := queued.log ++ [event] }

def send (request : Bytes) : Action Fault Queued Unit where
  run queued :=
    let turn := queued.turn
    let arrived := queued.arrive
    let reached := arrived.reach turn.prompt request
    match turn.fault? with
    | none => (.ok (), reached.record (.sent request none))
    | some fault =>
      (.error fault, (if turn.through then reached else arrived).record (.sent request (some fault)))

def receive : Action Fault Queued Bytes where
  run queued :=
    let turn := queued.turn
    let arrived := queued.arrive
    match turn.fault?, arrived.queue with
    | none, answer :: queue => (.ok answer, { arrived with queue }.record (.received none))
    | none, [] => (.error turn.silence, arrived.record (.received (some turn.silence)))
    | some fault, _ => (.error fault, arrived.record (.received (some fault)))

def reopen : Action Fault Queued Unit where
  run queued :=
    let turn := queued.turn
    let arrived := queued.arrive
    match turn.fault? with
    | none => (.ok (), arrived.emptied.record (.reopened none))
    | some fault =>
      (.error fault,
        (if turn.through then arrived.emptied else arrived).record (.reopened (some fault)))

instance : Channel Queued where
  send := send
  receive := receive
  reopen := reopen
  endpoint _ := "queue"

def outstanding (queued : Queued) : List Bytes := queued.queue ++ queued.underway

theorem deliver_perm (places : List Nat) (queue underway : List Bytes) :
    ((deliver places queue underway).1 ++ (deliver places queue underway).2).Perm
      (queue ++ underway) := by
  induction places generalizing queue underway with
  | nil => exact .refl _
  | cons place places inductionHypothesis =>
    unfold deliver
    cases found : underway[place]? with
    | none => exact inductionHypothesis queue underway
    | some answer =>
      obtain ⟨bound, rfl⟩ := List.getElem?_eq_some_iff.mp found
      refine (inductionHypothesis _ _).trans ?_
      rw [List.append_assoc]
      exact (List.getElem_cons_eraseIdx_perm bound).append_left queue

theorem outstanding_arrive (queued : Queued) :
    queued.arrive.outstanding.Perm queued.outstanding :=
  deliver_perm _ _ _

inductive Sending (queued : Queued) (request : Bytes) : Except Fault Unit → Queued → Prop where
  | sent (after : Queued) (respond : after.respond = queued.respond)
      (outstanding : after.outstanding.Perm
        (queued.respond queued.heard request :: queued.outstanding))
      (heard : after.heard = queued.heard ++ [request])
      (log : after.log = queued.log ++ [.sent request none]) :
      Sending queued request (.ok ()) after
  | failed (fault : Fault) (after : Queued) (respond : after.respond = queued.respond)
      (heard : after.heard = queued.heard ∨ after.heard = queued.heard ++ [request])
      (log : after.log = queued.log ++ [.sent request (some fault)]) :
      Sending queued request (.error fault) after

inductive Receiving (queued : Queued) : Except Fault Bytes → Queued → Prop where
  | received (answer : Bytes) (after : Queued) (respond : after.respond = queued.respond)
      (outstanding : queued.outstanding.Perm (answer :: after.outstanding))
      (heard : after.heard = queued.heard) (log : after.log = queued.log ++ [.received none]) :
      Receiving queued (.ok answer) after
  | failed (fault : Fault) (after : Queued) (respond : after.respond = queued.respond)
      (heard : after.heard = queued.heard)
      (log : after.log = queued.log ++ [.received (some fault)]) :
      Receiving queued (.error fault) after

inductive Reopening (queued : Queued) : Except Fault Unit → Queued → Prop where
  | reopened (after : Queued) (respond : after.respond = queued.respond)
      (outstanding : after.outstanding = []) (heard : after.heard = queued.heard)
      (log : after.log = queued.log ++ [.reopened none]) : Reopening queued (.ok ()) after
  | failed (fault : Fault) (after : Queued) (respond : after.respond = queued.respond)
      (heard : after.heard = queued.heard)
      (log : after.log = queued.log ++ [.reopened (some fault)]) :
      Reopening queued (.error fault) after

theorem outstanding_reach (queued : Queued) (prompt : Bool) (request : Bytes) :
    (queued.reach prompt request).outstanding.Perm
      (queued.respond queued.heard request :: queued.outstanding) := by
  cases prompt with
  | true =>
    have split : (queued.reach true request).outstanding =
        queued.queue ++ [queued.respond queued.heard request] ++ queued.underway := rfl
    rw [split, List.append_assoc]
    exact List.perm_middle
  | false =>
    have split : (queued.reach false request).outstanding =
        queued.queue ++ (queued.underway ++ [queued.respond queued.heard request]) := rfl
    rw [split, ← List.append_assoc]
    exact List.perm_append_singleton _ _

variable (queued : Queued)

theorem sending (request : Bytes) (outcome : Except Fault Unit) (after : Queued)
    (sent : (Channel.send request).run queued = (outcome, after)) :
    queued.Sending request outcome after := by
  obtain ⟨rfl, rfl⟩ := Prod.ext_iff.mp sent
  change queued.Sending request ((send request).run queued).1 ((send request).run queued).2
  unfold send
  dsimp only
  cases queued.turn.fault? with
  | none =>
    refine .sent _ rfl ?_ rfl rfl
    exact (queued.arrive.outstanding_reach _ request).trans (queued.outstanding_arrive.cons _)
  | some fault =>
    dsimp only
    cases queued.turn.through with
    | false => exact .failed fault _ rfl (Or.inl rfl) rfl
    | true => exact .failed fault _ rfl (Or.inr rfl) rfl

theorem receiving (outcome : Except Fault Bytes) (after : Queued)
    (received : (Channel.receive : Action Fault Queued Bytes).run queued = (outcome, after)) :
    queued.Receiving outcome after := by
  obtain ⟨rfl, rfl⟩ := Prod.ext_iff.mp received
  change queued.Receiving (receive.run queued).1 (receive.run queued).2
  have arrived := queued.outstanding_arrive
  unfold receive
  dsimp only
  cases queued.turn.fault? with
  | some fault => exact .failed fault _ rfl rfl rfl
  | none =>
    cases waiting : queued.arrive.queue with
    | nil => exact .failed _ _ rfl rfl rfl
    | cons answer queue =>
      refine .received answer _ rfl ?_ rfl rfl
      unfold outstanding at arrived
      rw [waiting] at arrived
      exact arrived.symm

theorem reopening (outcome : Except Fault Unit) (after : Queued)
    (reopened : (Channel.reopen : Action Fault Queued Unit).run queued = (outcome, after)) :
    queued.Reopening outcome after := by
  obtain ⟨rfl, rfl⟩ := Prod.ext_iff.mp reopened
  change queued.Reopening (reopen.run queued).1 (reopen.run queued).2
  unfold reopen
  dsimp only
  cases queued.turn.fault? with
  | none => exact .reopened _ rfl rfl rfl rfl
  | some fault =>
    dsimp only
    cases queued.turn.through with
    | false => exact .failed fault _ rfl rfl rfl
    | true => exact .failed fault _ rfl rfl rfl

end Queued

end TrustedPlatform

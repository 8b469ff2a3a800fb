import TrustedPlatform.Proofs.Channel.Queue

/-!
# Answers and the requests they belong to

However late the answers of a module come and whatever fails on the way, a link hands out no answer
but the one to the request it was given.  A link that is not spoiled has nothing under way, and
every transmission keeps it so (`Link.transmission`); its steps follow one another as
`ChannelEvent.course` says.

* `Link.pairsAnswers_run`: all of it, for any run of requests.
-/

set_option autoImplicit false

namespace TrustedPlatform

namespace ChannelEvent

/-- Whether a link is spoiled after a step, if it may take that step: one that is spoiled opens its
channel anew and does nothing else. -/
def follow? : Bool → ChannelEvent → Option Bool
  | true, .reopened fault? => some fault?.isSome
  | false, .sent _ fault? => some fault?.isSome
  | false, .received fault? => some fault?.isSome
  | _, _ => none

def course (spoiled : Bool) (events : List ChannelEvent) : Option Bool :=
  events.foldlM follow? spoiled

theorem course_append_eq_some_iff (spoiled after : Bool) (earlier later : List ChannelEvent) :
    course spoiled (earlier ++ later) = some after ↔
      ∃ between, course spoiled earlier = some between ∧ course between later = some after := by
  unfold course
  rw [List.foldlM_append]
  exact Option.bind_eq_some_iff

theorem course_cons_eq_some_iff (spoiled after : Bool) (event : ChannelEvent)
    (events : List ChannelEvent) :
    course spoiled (event :: events) = some after ↔
      ∃ between, follow? spoiled event = some between ∧ course between events = some after := by
  unfold course
  rw [List.foldlM_cons]
  exact Option.bind_eq_some_iff

theorem follow?_eq_isSome {spoiled after : Bool} {event : ChannelEvent}
    (follows : follow? spoiled event = some after) : after = event.fault?.isSome := by
  cases event <;> cases spoiled <;> cases follows <;> rfl

/-- A link that was not spoiled at first became so by its last step. -/
theorem last_of_course_spoiled {events : List ChannelEvent}
    (followed : course false events = some true) :
    ∃ earlier last, events = earlier ++ [last] ∧ last.fault?.isSome = true := by
  rcases List.eq_nil_or_concat events with rfl | ⟨earlier, last, rfl⟩
  · cases followed
  · rw [List.concat_eq_append] at followed ⊢
    obtain ⟨between, _, lastly⟩ := (course_append_eq_some_iff _ _ _ _).mp followed
    obtain ⟨after, follows, ends⟩ := (course_cons_eq_some_iff _ _ _ _).mp lastly
    obtain rfl : after = true := Option.some.inj ends
    exact ⟨earlier, last, rfl, (follow?_eq_isSome follows).symm⟩

theorem reopened_of_course_mended {events : List ChannelEvent}
    (followed : course true events = some false) : .reopened none ∈ events := by
  induction events with
  | nil => cases followed
  | cons event events inductionHypothesis =>
    obtain ⟨between, follows, rest⟩ := (course_cons_eq_some_iff _ _ _ _).mp followed
    cases event with
    | sent request fault? => cases follows
    | received fault? => cases follows
    | reopened fault? =>
      cases fault? with
      | none => exact List.mem_cons_self
      | some fault =>
        obtain rfl : true = between := Option.some.inj follows
        exact List.mem_cons_of_mem _ (inductionHypothesis rest)

end ChannelEvent

namespace Link

section

variable {σ : Type} [Channel σ]

def outcome (link : Link σ) (request : Bytes) : Except Fault Bytes :=
  ((transmit request).run link).1

def next (link : Link σ) (request : Bytes) : Link σ := ((transmit request).run link).2

def after (link : Link σ) (requests : List Bytes) : Link σ := requests.foldl next link

theorem after_snoc (link : Link σ) (requests : List Bytes) (request : Bytes) :
    link.after (requests ++ [request]) = (link.after requests).next request :=
  List.foldl_append

end

def steps (link : Link Queued) (request : Bytes) : List ChannelEvent :=
  (link.next request).channel.log.drop link.channel.log.length

/-- Nothing can be received but what will be sent for. -/
def Idle (link : Link Queued) : Prop := link.spoiled = false → link.channel.outstanding = []

def renewal (link : Link Queued) : List ChannelEvent :=
  if link.spoiled then [.reopened none] else []

/-- What a link does with a request once its channel is as good as new, step by step. -/
inductive Exchanging (request : Bytes) (respond : List Bytes → Bytes → Bytes) (heard : List Bytes)
    (after : Link Queued) : Except Fault Bytes → List ChannelEvent → Prop where
  | unsent (fault : Fault) (spoiled : after.spoiled = true)
      (reached : after.channel.heard = heard ∨ after.channel.heard = heard ++ [request]) :
      Exchanging request respond heard after (.error fault) [.sent request (some fault)]
  | unanswered (fault : Fault) (spoiled : after.spoiled = true)
      (reached : after.channel.heard = heard ++ [request]) :
      Exchanging request respond heard after (.error fault)
        [.sent request none, .received (some fault)]
  | answered (clean : after.spoiled = false) (idle : after.channel.outstanding = [])
      (reached : after.channel.heard = heard ++ [request]) :
      Exchanging request respond heard after (.ok (respond heard request))
        [.sent request none, .received none]

/-- All that a transmission can come to, and the steps that it takes. -/
inductive Transmission (request : Bytes) (link after : Link Queued) :
    Except Fault Bytes → List ChannelEvent → Prop where
  | unreached (fault : Fault) (wasSpoiled : link.spoiled = true) (spoiled : after.spoiled = true)
      (heard : after.channel.heard = link.channel.heard) :
      Transmission request link after (.error fault) [.reopened (some fault)]
  | exchanged (outcome : Except Fault Bytes) (events : List ChannelEvent)
      (exchanging : Exchanging request link.channel.respond link.channel.heard after outcome events) :
      Transmission request link after outcome (link.renewal ++ events)

theorem exchanging (request : Bytes) (link : Link Queued)
    (idle : link.channel.outstanding = []) (clean : link.spoiled = false) :
    ∃ outcome after events, (exchange request).run link = (outcome, after) ∧
      after.channel.respond = link.channel.respond ∧
      after.channel.log = link.channel.log ++ events ∧
      Exchanging request link.channel.respond link.channel.heard after outcome events := by
  unfold exchange onChannel
  rw [Action.run_bind, Action.run_attempt, Action.run_zoom, Action.run_bind]
  cases sent : (Channel.send request : Action Fault Queued Unit).run link.channel with
  | mk outcome between =>
    cases link.channel.sending request outcome between sent with
    | failed fault _ respond heard log =>
      exact ⟨_, _, _, rfl, respond, log, .unsent fault rfl heard⟩
    | sent _ respond outstanding heard log =>
      rw [idle] at outstanding
      dsimp only
      cases received : (Channel.receive : Action Fault Queued Bytes).run between with
      | mk answer last =>
        cases between.receiving answer last received with
        | failed fault _ respondToo heardToo logToo =>
          refine ⟨_, _, [.sent request none, .received (some fault)], rfl,
            respondToo.trans respond, ?_, .unanswered fault rfl (heardToo.trans heard)⟩
          rw [logToo, log, List.append_assoc]
          rfl
        | received response _ respondToo left heardToo logToo =>
          have only := left.symm.trans outstanding
          have isOnly := List.perm_singleton.mp only
          obtain ⟨rfl, nothing⟩ := List.cons_eq_cons.mp isOnly
          refine ⟨_, ⟨last, link.spoiled⟩, [.sent request none, .received none], rfl,
            respondToo.trans respond, ?_, .answered clean nothing (heardToo.trans heard)⟩
          rw [logToo, log, List.append_assoc]
          rfl

/-- A link that is idle unless it is spoiled transmits as it should, and stays so. -/
theorem transmission (request : Bytes) (link : Link Queued) (idle : link.Idle) :
    ∃ outcome after events, (transmit request).run link = (outcome, after) ∧
      after.channel.respond = link.channel.respond ∧
      after.channel.log = link.channel.log ++ events ∧
      Transmission request link after outcome events := by
  unfold transmit
  rw [Action.run_bind]
  cases spoiled : link.spoiled with
  | false =>
    have unchanged : (renew : Action Fault (Link Queued) Unit).run link = (.ok (), link) := by
      simp [renew, spoiled]
    obtain ⟨outcome, after, events, ran, respond, log, exchanged⟩ :=
      exchanging request link (idle spoiled) spoiled
    rw [unchanged]
    refine ⟨outcome, after, link.renewal ++ events, ran, respond, ?_,
      .exchanged outcome events exchanged⟩
    simpa [renewal, spoiled] using log
  | true =>
    cases reopened : (Channel.reopen : Action Fault Queued Unit).run link.channel with
    | mk outcome channel =>
      have renewed : (renew : Action Fault (Link Queued) Unit).run link =
          (outcome, ⟨channel, !outcome.isOk⟩) := by
        cases outcome <;> simp [renew, onChannel, spoiled, reopened, Except.isOk, Except.toBool]
      rw [renewed]
      cases link.channel.reopening outcome channel reopened with
      | failed fault _ respond heard log =>
        exact ⟨_, _, _, rfl, respond, log, .unreached fault spoiled rfl heard⟩
      | reopened _ respond outstanding heard log =>
        obtain ⟨outcome, after, events, ran, respondToo, logToo, exchanged⟩ :=
          exchanging request ⟨channel, false⟩ outstanding rfl
        dsimp only at respondToo logToo exchanged ⊢
        rw [respond, heard] at exchanged
        refine ⟨outcome, after, link.renewal ++ events, ran, respondToo.trans respond, ?_,
          .exchanged outcome events exchanged⟩
        rw [logToo, log, renewal, if_pos spoiled, List.append_assoc]

section

variable {request : Bytes} {link after : Link Queued} {outcome : Except Fault Bytes}
  {events : List ChannelEvent}

theorem Exchanging.idle {respond : List Bytes → Bytes → Bytes} {heard : List Bytes}
    (exchanging : Exchanging request respond heard after outcome events) : after.Idle := by
  intro clean
  cases exchanging with
  | unsent _ spoiled _ =>
    rw [clean] at spoiled
    cases spoiled
  | unanswered _ spoiled _ =>
    rw [clean] at spoiled
    cases spoiled
  | answered _ idle _ => exact idle

theorem Exchanging.course {respond : List Bytes → Bytes → Bytes} {heard : List Bytes}
    (exchanging : Exchanging request respond heard after outcome events) :
    ChannelEvent.course false events = some after.spoiled := by
  cases exchanging with
  | unsent _ spoiled _ => rw [spoiled]; rfl
  | unanswered _ spoiled _ => rw [spoiled]; rfl
  | answered clean _ _ => rw [clean]; rfl

theorem course_renewal (link : Link Queued) :
    ChannelEvent.course link.spoiled link.renewal = some false := by
  unfold renewal
  cases link.spoiled <;> rfl

namespace Transmission

variable (transmission : Transmission request link after outcome events)

include transmission

theorem idle : after.Idle := by
  cases transmission with
  | unreached _ _ spoiled _ =>
    intro clean
    rw [clean] at spoiled
    cases spoiled
  | exchanged _ _ exchanging => exact exchanging.idle

theorem course : ChannelEvent.course link.spoiled events = some after.spoiled := by
  cases transmission with
  | unreached _ wasSpoiled spoiled _ => rw [wasSpoiled, spoiled]; rfl
  | exchanged _ _ exchanging =>
    exact (ChannelEvent.course_append_eq_some_iff _ _ _ _).mpr
      ⟨false, link.course_renewal, exchanging.course⟩

end Transmission

theorem Transmission.sent (transmission : Transmission request link after outcome events) :
    events.filterMap ChannelEvent.request? = [] ∨
      events.filterMap ChannelEvent.request? = [request] := by
  have renewing : link.renewal.filterMap ChannelEvent.request? = [] := by
    unfold renewal
    split <;> rfl
  cases transmission with
  | unreached fault _ _ _ => exact Or.inl rfl
  | exchanged _ steps exchanging =>
    rw [List.filterMap_append, renewing]
    cases exchanging with
    | unsent _ _ _ => exact Or.inr rfl
    | unanswered _ _ _ => exact Or.inr rfl
    | answered _ _ _ => exact Or.inr rfl

theorem Transmission.of_reopened (transmission : Transmission request link after outcome events)
    (fault : Fault) (failed : .reopened (some fault) ∈ events) :
    events = [.reopened (some fault)] ∧ outcome = .error fault ∧
      after.channel.heard = link.channel.heard ∧ after.spoiled = true := by
  cases transmission with
  | unreached other _ spoiled heard =>
    obtain rfl : other = fault := by simpa [eq_comm] using failed
    exact ⟨rfl, rfl, heard, spoiled⟩
  | exchanged _ steps exchanging =>
    have absent : .reopened (some fault) ∉ link.renewal := by
      unfold renewal
      split <;> simp
    have later := (List.mem_append.mp failed).resolve_left absent
    cases exchanging <;> simp at later

theorem Transmission.of_ok (transmission : Transmission request link after outcome events)
    (response : Bytes) (answered : outcome = .ok response) :
    response = link.channel.respond link.channel.heard request ∧
      after.channel.heard = link.channel.heard ++ [request] := by
  cases transmission with
  | unreached _ _ _ _ => cases answered
  | exchanged _ _ exchanging =>
    cases exchanging with
    | unsent _ _ _ => cases answered
    | unanswered _ _ _ => cases answered
    | answered _ _ reached =>
      cases answered
      exact ⟨rfl, reached⟩

theorem Transmission.of_spoiled (transmission : Transmission request link after outcome events)
    (spoiled : link.spoiled = true) : ∃ fault? others, events = .reopened fault? :: others := by
  cases transmission with
  | unreached fault _ _ _ => exact ⟨_, _, rfl⟩
  | exchanged _ steps _ => exact ⟨none, steps, by rw [renewal, if_pos spoiled]; rfl⟩

end

/-- A link at any time: nothing is under way on it unless it is spoiled, and it came to be so step
by step. -/
structure Kept (respond : List Bytes → Bytes → Bytes) (link : Link Queued) : Prop where
  idle : link.Idle
  respond : link.channel.respond = respond
  course : ChannelEvent.course false link.channel.log = some link.spoiled

namespace Kept

variable {respond : List Bytes → Bytes → Bytes} {link : Link Queued}

theorem fresh (turns : Nat → Turn) : Kept respond (fresh (.opened turns respond)) :=
  ⟨fun _ => rfl, rfl, rfl⟩

theorem steps (kept : Kept respond link) (request : Bytes) :
    (link.next request).channel.log = link.channel.log ++ link.steps request ∧
      Transmission request link (link.next request) (link.outcome request) (link.steps request) := by
  obtain ⟨outcome, after, events, ran, _, log, transmission⟩ :=
    Link.transmission request link kept.idle
  have same : link.steps request = events := by
    rw [Link.steps, next, ran]
    dsimp only
    rw [log, List.drop_left]
  rw [same, next, Link.outcome, ran]
  exact ⟨log, transmission⟩

theorem next (kept : Kept respond link) (request : Bytes) : Kept respond (link.next request) := by
  obtain ⟨_, after, _, ran, same, _, _⟩ := Link.transmission request link kept.idle
  obtain ⟨log, transmission⟩ := kept.steps request
  constructor
  · exact transmission.idle
  · rw [Link.next, ran]
    exact same.trans kept.respond
  · rw [log]
    exact (ChannelEvent.course_append_eq_some_iff _ _ _ _).mpr
      ⟨_, kept.course, transmission.course⟩

theorem after (kept : Kept respond link) (requests : List Bytes) :
    Kept respond (link.after requests) := by
  induction requests generalizing link with
  | nil => exact kept
  | cons request requests inductionHypothesis => exact inductionHypothesis (kept.next request)

end Kept

/-- What a link keeps to that is given requests, one after the other. -/
structure PairsAnswers (link : Link Queued) (requests : List Bytes) : Prop where
  -- What comes back is the answer to the request of the call, which the module just got.
  answers : ∀ earlier request later, requests = earlier ++ request :: later →
    ∀ response, (link.after earlier).outcome request = .ok response →
      response = link.channel.respond (link.after earlier).channel.heard request ∧
        (link.after (earlier ++ [request])).channel.heard =
          (link.after earlier).channel.heard ++ [request]
  logs : ∀ earlier request later, requests = earlier ++ request :: later →
    (link.after (earlier ++ [request])).channel.log =
      (link.after earlier).channel.log ++ (link.after earlier).steps request
  sendsOnce : ∀ earlier request later, requests = earlier ++ request :: later →
    ((link.after earlier).steps request).filterMap ChannelEvent.request? = [] ∨
      ((link.after earlier).steps request).filterMap ChannelEvent.request? = [request]
  -- A channel that cannot be opened anew fails the call, and is tried again by the next one.
  retries : ∀ earlier request later, requests = earlier ++ request :: later →
    ∀ fault, .reopened (some fault) ∈ (link.after earlier).steps request →
      (link.after earlier).steps request = [.reopened (some fault)] ∧
        (link.after earlier).outcome request = .error fault ∧
        (link.after (earlier ++ [request])).channel.heard = (link.after earlier).channel.heard ∧
        ∀ next others, later = next :: others → ∃ fault? rest,
          (link.after (earlier ++ [request])).steps next = .reopened fault? :: rest
  -- After an exchange that was given up, nothing is sent before the channel was opened anew.
  mends : ∀ before given between request fault? rest,
    (link.after requests).channel.log = before ++ given :: (between ++ .sent request fault? :: rest) →
      given.GivesUp → .reopened none ∈ between
  reopensOnlyThen : ∀ before fault? rest,
    (link.after requests).channel.log = before ++ .reopened fault? :: rest →
      ∃ earlier last, before = earlier ++ [last] ∧ last.fault?.isSome = true

theorem pairsAnswers_run (turns : Nat → Turn) (respond : List Bytes → Bytes → Bytes)
    (requests : List Bytes) : (fresh (.opened turns respond)).PairsAnswers requests := by
  have kept : ∀ earlier, Kept respond ((fresh (.opened turns respond)).after earlier) :=
    (Kept.fresh turns).after
  have followed := (kept requests).course
  constructor
  · intro earlier request later _ response answered
    rw [after_snoc]
    obtain ⟨same, reached⟩ := ((kept earlier).steps request).2.of_ok response answered
    rw [(kept earlier).respond] at same
    exact ⟨same, reached⟩
  · intro earlier request later _
    rw [after_snoc]
    exact ((kept earlier).steps request).1
  · intro earlier request later _
    exact ((kept earlier).steps request).2.sent
  · intro earlier request later _ fault failed
    rw [after_snoc]
    obtain ⟨only, outcome, heard, spoiled⟩ :=
      ((kept earlier).steps request).2.of_reopened fault failed
    refine ⟨only, outcome, heard, fun next others _ => ?_⟩
    exact (((kept earlier).next request).steps next).2.of_spoiled spoiled
  · intro before given between request fault? rest split givesUp
    rw [split] at followed
    obtain ⟨_, _, onwards⟩ := (ChannelEvent.course_append_eq_some_iff _ _ _ _).mp followed
    obtain ⟨spoiled, gaveUp, onwards⟩ := (ChannelEvent.course_cons_eq_some_iff _ _ _ _).mp onwards
    obtain ⟨mended, mending, onwards⟩ :=
      (ChannelEvent.course_append_eq_some_iff _ _ _ _).mp onwards
    obtain ⟨_, sends, _⟩ := (ChannelEvent.course_cons_eq_some_iff _ _ _ _).mp onwards
    rw [ChannelEvent.follow?_eq_isSome gaveUp, givesUp.isSome] at mending
    cases mended with
    | true => cases sends
    | false => exact ChannelEvent.reopened_of_course_mended mending
  · intro before fault? rest split
    rw [split] at followed
    obtain ⟨between, toReopening, onwards⟩ :=
      (ChannelEvent.course_append_eq_some_iff _ _ _ _).mp followed
    obtain ⟨_, follows, _⟩ := (ChannelEvent.course_cons_eq_some_iff _ _ _ _).mp onwards
    cases between with
    | false => cases follows
    | true => exact ChannelEvent.last_of_course_spoiled toReopening

def lateTurns : Nat → Turn
  | 0 => ⟨[], none, .transport "reading" "nothing", false, false⟩
  | 1 => ⟨[], none, .transport "reading" "nothing", false, false⟩
  | 2 => ⟨[0], some (.transport "opening" "refused"), .transport "reading" "nothing", false, false⟩
  | _ => ⟨[0], none, .transport "reading" "nothing", false, true⟩

example : ((fresh (Queued.opened lateTurns fun _ request => request)).after [[1], [2]]).outcome [3] =
    .ok [3] := by rfl

end Link

end TrustedPlatform

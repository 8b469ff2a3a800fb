import TrustedPlatform.Proofs.Client.Retry
import TrustedPlatform.Proofs.Client.Unsigned
import TrustedPlatform.Proofs.Session.Life

/-!
# What a dispatched command tells

A command that is dispatched under a session takes nonces from the source, sends frames with the
session's trailer, and may put a new session in the place of the one that was lent.  All of it is
told in order (`Dispatch.attempts`), and it is what the source and the link of the client show
(`Client.Shows`).  The session lent goes through its moves, one event after the other
(`Session.Unfolds`).
-/

set_option autoImplicit false

namespace TrustedPlatform

def Deed.exchange? : Deed → Option Exchange
  | .drew _ => none
  | .signed _ _ exchange _ => some exchange

/-- Something that can be seen of calls. -/
inductive Event where
  | did (name : String) (deed : Deed)
  | setup (nonceOdd : Digest)
  -- An exchange opened a session, which is held under a name from then on.
  | opened (name : String) (exchange : Exchange) (session : Session)
  | plain (exchange : Exchange)

namespace Event

def drawn? : Event → Option Digest
  | .did _ deed => deed.drawn?
  | .setup nonceOdd => some nonceOdd
  | .opened _ _ _ => none
  | .plain _ => none

def exchange? : Event → Option Exchange
  | .did _ deed => deed.exchange?
  | .setup _ => none
  | .opened _ exchange _ => some exchange
  | .plain exchange => some exchange

/-- An event is what it seems: a deed was done with a session, a session was opened by the answer to
a request for one, and any other exchange is without a trailer. -/
def Genuine : Event → Prop
  | .did _ deed => ∃ session, deed.DoneWith session
  | .setup _ => True
  | .opened _ exchange session =>
    ∃ (kind : SessionKind) (secret : Secret) (setupOdd : Digest),
      exchange.request = kind.openingFrame setupOdd ∧
      SessionKind.Opens secret setupOdd exchange.answer kind session
  | .plain exchange => exchange.Unsigned

/-- An event has to do with no session that is held. -/
def Aside : Event → Prop
  | .did _ _ => False
  | .setup _ => True
  | .opened _ _ _ => False
  | .plain exchange => exchange.Unsigned

end Event

namespace NonceSource

/-- The nonces that a source gives on the way to what is left of it. -/
def Gives (source : NonceSource) : List Digest → NonceSource → Prop
  | [], left => left = source
  | nonce :: nonces, left => source.next.1 = nonce ∧ source.next.2.Gives nonces left

def drawnSince (before after : NonceSource) : List Digest :=
  if after.drawn = before.drawn then [] else [before.next.1]

theorem drawnSince_self (source : NonceSource) : source.drawnSince source = [] := if_pos rfl

theorem drawnSince_next (source : NonceSource) :
    source.drawnSince source.next.2 = [source.next.1] := by
  unfold drawnSince next
  dsimp only
  rw [if_neg (by omega)]

theorem gives_append (source between left : NonceSource) (early late : List Digest)
    (first : source.Gives early between) (second : between.Gives late left) :
    source.Gives (early ++ late) left := by
  induction early generalizing source with
  | nil =>
    obtain rfl := first
    exact second
  | cons nonce early inductionHypothesis =>
    obtain ⟨drawn, later⟩ := first
    exact ⟨drawn, inductionHypothesis _ later⟩

end NonceSource

namespace Link

variable {σ : Type} [Channel σ]

def since (before after : Link (Tapped σ)) : List Exchange :=
  after.record.drop before.record.length

omit [Channel σ] in
theorem since_eq (before after : Link (Tapped σ)) (added : List Exchange)
    (recorded : after.record = before.record ++ added) : before.since after = added := by
  unfold since
  rw [recorded, List.drop_left]

end Link

namespace Client

variable {σ : Type}

/-- What the source and the tapped link of a client show of a sequence of events. -/
structure Shows (before : Client (Tapped σ)) (events : List Event) (after : Client (Tapped σ)) :
    Prop where
  recorded : after.link.record = before.link.record ++ events.filterMap Event.exchange?
  drawn : before.nonces.Gives (events.filterMap Event.drawn?) after.nonces

theorem shows_nil (before after : Client (Tapped σ))
    (link : after.link.record = before.link.record) (nonces : after.nonces = before.nonces) :
    before.Shows [] after :=
  ⟨link.trans (List.append_nil _).symm, nonces⟩

theorem Shows.append {before between after : Client (Tapped σ)} {early late : List Event}
    (first : before.Shows early between) (second : between.Shows late after) :
    before.Shows (early ++ late) after where
  recorded := by
    rw [second.recorded, first.recorded, List.filterMap_append, List.append_assoc]
  drawn := by
    rw [List.filterMap_append]
    exact NonceSource.gives_append _ _ _ _ _ first.drawn second.drawn

theorem shows_of_since (before after : Client (Tapped σ)) (nonces : List Digest)
    (exchanges : List Exchange) (draw : Digest → Event) (send : Exchange → Event)
    (draws : ∀ nonce, (draw nonce).drawn? = some nonce ∧ (draw nonce).exchange? = none)
    (sends : ∀ exchange, (send exchange).drawn? = none ∧
      (send exchange).exchange? = some exchange)
    (drawn : before.nonces.Gives nonces after.nonces)
    (recorded : after.link.record = before.link.record ++ exchanges) :
    before.Shows (nonces.map draw ++ exchanges.map send) after := by
  have drawnOf : (nonces.map draw).filterMap Event.drawn? = nonces := by
    have same : (Event.drawn? ∘ draw) = some := funext fun nonce => (draws nonce).1
    rw [List.filterMap_map, same, List.filterMap_some]
  have noneSent : (nonces.map draw).filterMap Event.exchange? = [] := by
    refine List.filterMap_eq_nil_iff.mpr fun event member => ?_
    obtain ⟨nonce, _, rfl⟩ := List.mem_map.mp member
    exact (draws nonce).2
  have noneDrawn : (exchanges.map send).filterMap Event.drawn? = [] := by
    refine List.filterMap_eq_nil_iff.mpr fun event member => ?_
    obtain ⟨exchange, _, rfl⟩ := List.mem_map.mp member
    exact (sends exchange).1
  have sentOf : (exchanges.map send).filterMap Event.exchange? = exchanges := by
    have same : (Event.exchange? ∘ send) = some := funext fun exchange => (sends exchange).2
    rw [List.filterMap_map, same, List.filterMap_some]
  constructor
  · rw [List.filterMap_append, noneSent, sentOf]
    exact recorded
  · rw [List.filterMap_append, drawnOf, noneDrawn, List.append_nil]
    exact drawn

def tellOpening (name : String) (before after : Client (Tapped σ)) (session? : Option Session) :
    List Event :=
  (before.nonces.drawnSince after.nonces).map .setup ++
    (before.link.since after.link).map fun exchange =>
      match session? with
      | some session => .opened name exchange session
      | none => .plain exchange

theorem shows_tellOpening (name : String) (kind : SessionKind) (before after : Client (Tapped σ))
    (session? : Option Session) (added : List Exchange)
    (nonces : after.nonces = kind.leaves before.nonces)
    (recorded : after.link.record = before.link.record ++ added) :
    before.Shows (before.tellOpening name after session?) after := by
  unfold tellOpening
  rw [Link.since_eq _ _ added recorded]
  refine shows_of_since _ _ _ _ _ _ (fun _ => ⟨rfl, rfl⟩) ?_ ?_ recorded
  · intro exchange
    cases session? with
    | none => exact ⟨rfl, rfl⟩
    | some _ => exact ⟨rfl, rfl⟩
  · rw [nonces]
    cases kind with
    | oiap =>
      rw [SessionKind.leaves, NonceSource.drawnSince_self]
      rfl
    | osap entity =>
      rw [SessionKind.leaves, NonceSource.drawnSince_next]
      exact ⟨rfl, rfl⟩

/-- Opening a session that failed tells of nothing but a nonce and a request for one. -/
theorem aside_tellOpening (name : String) (kind : SessionKind) (setupOdd : Digest)
    (before after : Client (Tapped σ)) (answer : Except Fault Bytes) (added : List Exchange)
    (recorded : after.link.record = before.link.record ++ added)
    (adds : Link.Adds (kind.openingFrame setupOdd) answer added) :
    ∀ event ∈ before.tellOpening name after none, event.Aside := by
  intro event member
  unfold tellOpening at member
  rw [Link.since_eq _ _ added recorded] at member
  rcases List.mem_append.mp member with drawn | sent
  · obtain ⟨_, _, rfl⟩ := List.mem_map.mp drawn
    exact trivial
  · obtain ⟨exchange, isAdded, rfl⟩ := List.mem_map.mp sent
    exact Link.unsigned_of_adds _ answer added adds exchange isAdded

theorem tellOpening_of_opens (name : String) (kind : SessionKind) (secret : Secret)
    (setupOdd : Digest) (before after : Client (Tapped σ)) (answer : Except Fault Bytes)
    (added : List Exchange) (session : Session)
    (recorded : after.link.record = before.link.record ++ added)
    (adds : Link.Adds (kind.openingFrame setupOdd) answer added)
    (opens : SessionKind.Opens secret setupOdd answer kind session) :
    ∃ setups exchange,
      before.tellOpening name after (some session) = setups ++ [.opened name exchange session] ∧
      (∀ event ∈ setups, event.Aside) ∧ (Event.opened name exchange session).Genuine := by
  unfold tellOpening
  rw [Link.since_eq _ _ added recorded]
  cases adds with
  | unreached fault failed => exact absurd failed (opens.answer_ne_error fault)
  | exchange =>
    refine ⟨_, _, rfl, ?_, kind, secret, setupOdd, rfl, opens⟩
    intro event member
    obtain ⟨_, _, rfl⟩ := List.mem_map.mp member
    exact trivial

end Client

namespace Dispatch

variable {σ : Type} [Channel σ]

/-- What one attempt does with the session lent for it: it may take a nonce, and what it sends
carries the session's trailer.  If it ends well, the session has the even nonce of the response. -/
def attempt (name : String) (command : Command) (client : Client (Tapped σ)) (use : SessionUse) :
    List Event :=
  match (executeOnce command).run ⟨client, some use⟩ with
  | (outcome, after) =>
    (client.nonces.drawnSince after.client.nonces).map (fun nonce => .did name (.drew nonce)) ++
      (client.link.since after.client.link).map fun exchange =>
        .did name (.signed (use.session.upcomingOdd client.nonces) use.session.nonceEven exchange
          (match outcome with
            | .ok _ => after.use?.map fun left => left.session.nonceEven
            | .error _ => none))

/-- What the attempts at a command do, while further ones are left: between two of them a session is
opened in the place of the one that was lent. -/
def attempts (name : String) (command : Command) :
    Nat → Client (Tapped σ) → SessionUse → List Event
  | 0, client, use => attempt name command client use
  | further + 1, client, use =>
    attempt name command client use ++
      match (executeOnce command).run ⟨client, some use⟩ with
      | (.error fault, ⟨after, some left⟩) =>
        if fault.isRetryable then
          match (replaceSession (σ := Tapped σ)).run ⟨after, some left⟩ with
          | (.ok _, ⟨reopened, some fresh⟩) =>
            after.tellOpening name reopened (some fresh.session) ++
              attempts name command further reopened fresh
          | (_, ⟨reopened, _⟩) => after.tellOpening name reopened none
        else []
      | _ => []

end Dispatch

namespace Session

/-- What becomes of the session held under a name, event by event.  A nonce that it issued before
ends it and everything else, and the fault is that of the whole. -/
inductive Unfolds (name : String) (failed : Fault → Prop) :
    Session → List Event → Session → Prop where
  | done (session : Session) : Unfolds name failed session [] session
  | repeats (session : Session) (nonceOdd : Digest) (issued : nonceOdd ∈ session.issuedOdd)
      (fails : failed (.nonceReuse session.handle)) :
      Unfolds name failed session [.did name (.drew nonceOdd)] { session with status := .closed }
  | moved (session next after : Session) (deed? : Option Deed) (rest : List Event)
      (move : session.Moves deed? next)
      (isNew : ∀ nonceOdd, deed? = some (.drew nonceOdd) → nonceOdd ∉ session.issuedOdd)
      (continued : Unfolds name failed next rest after) :
      Unfolds name failed session (deed?.toList.map (Event.did name) ++ rest) after
  | reopened (session fresh after : Session) (exchange : Exchange) (rest : List Event)
      (genuine : (Event.opened name exchange fresh).Genuine)
      (continued : Unfolds name failed fresh rest after) :
      Unfolds name failed session (.opened name exchange fresh :: rest) after
  | aside (session after : Session) (event : Event) (rest : List Event) (aside : event.Aside)
      (continued : Unfolds name failed session rest after) :
      Unfolds name failed session (event :: rest) after

def Leads (name : String) (before : Session) (events : List Event) (after : Session) : Prop :=
  ∀ (failed : Fault → Prop) (rest : List Event) (last : Session),
    Unfolds name failed after rest last → Unfolds name failed before (events ++ rest) last

namespace Leads

variable {name : String} {before between after : Session}

theorem nil (session : Session) : session.Leads name [] session :=
  fun _ _ _ continued => continued

theorem append {early late : List Event} (first : before.Leads name early between)
    (second : between.Leads name late after) : before.Leads name (early ++ late) after := by
  intro failed rest last continued
  rw [List.append_assoc]
  exact first failed _ last (second failed rest last continued)

theorem moved (deed? : Option Deed) (move : before.Moves deed? after)
    (noDraw : ∀ nonceOdd, deed? ≠ some (.drew nonceOdd)) :
    before.Leads name (deed?.toList.map (Event.did name)) after :=
  fun _ rest last continued => .moved before after last deed? rest move
    (fun nonceOdd drew => absurd drew (noDraw nonceOdd)) continued

theorem quiet (move : before.Moves none after) : before.Leads name [] after :=
  moved none move fun _ same => nomatch same

theorem asides (session : Session) (events : List Event)
    (aside : ∀ event ∈ events, event.Aside) : session.Leads name events session := by
  intro failed rest last continued
  induction events with
  | nil => exact continued
  | cons event events inductionHypothesis =>
    exact .aside session last event _ (aside event List.mem_cons_self)
      (inductionHypothesis fun other member => aside other (List.mem_cons_of_mem _ member))

theorem reopened (session fresh : Session) (exchange : Exchange)
    (genuine : (Event.opened name exchange fresh).Genuine) :
    session.Leads name [.opened name exchange fresh] fresh :=
  fun _ rest last continued => .reopened session fresh last exchange rest genuine continued

theorem unfolds {events : List Event} (leads : before.Leads name events after)
    (failed : Fault → Prop) : Unfolds name failed before events after := by
  have whole := leads failed [] after (.done after)
  rw [List.append_nil] at whole
  exact whole

end Leads

theorem Draw.gives {session drawn : Session} {nonces rest : NonceSource} {nonce : Digest}
    (draw : session.Draw nonces nonce drawn rest) :
    nonces.Gives (nonces.drawnSince rest) rest := by
  cases draw with
  | armed _ _ =>
    rw [NonceSource.drawnSince_self]
    rfl
  | fresh _ _ =>
    rw [NonceSource.drawnSince_next]
    exact ⟨rfl, rfl⟩

theorem Draw.leads {session drawn : Session} {nonces rest : NonceSource} {nonce : Digest}
    (name : String) (active : session.status = .active)
    (draw : session.Draw nonces nonce drawn rest) :
    session.Leads name ((nonces.drawnSince rest).map fun nonce => .did name (.drew nonce))
      drawn := by
  cases draw with
  | armed _ _ =>
    rw [NonceSource.drawnSince_self]
    exact .nil session
  | fresh _ isNew =>
    rw [NonceSource.drawnSince_next]
    intro failed rest last continued
    refine .moved session _ last (some (.drew nonces.next.1)) rest (.draws session _ active isNew)
      ?_ continued
    intro nonceOdd same
    cases same
    exact isNew

/-- Asked for a nonce, a session goes through a move or none, or its source repeats one. -/
theorem nextNonceOdd_tells (name : String) (session after : Session) (nonces rest : NonceSource)
    (outcome : Except Fault Digest)
    (drew : session.nextNonceOdd nonces = (outcome, after, rest)) :
    nonces.Gives (nonces.drawnSince rest) rest ∧
      (session.Leads name ((nonces.drawnSince rest).map fun nonce => .did name (.drew nonce))
          after ∨
        (outcome = .error (.nonceReuse session.handle) ∧
          ∀ failed : Fault → Prop, failed (.nonceReuse session.handle) →
            Unfolds name failed session
              ((nonces.drawnSince rest).map fun nonce => .did name (.drew nonce)) after)) := by
  rcases session.draw_cases nonces with inactive | repeats | ⟨active, nonce, drawn, left, draw⟩
  · rw [nextNonceOdd_of_inactive session nonces inactive] at drew
    cases drew
    rw [NonceSource.drawnSince_self]
    exact ⟨rfl, Or.inl (.nil session)⟩
  · rw [nextNonceOdd_of_repeats session nonces repeats] at drew
    cases drew
    rw [NonceSource.drawnSince_next]
    exact ⟨⟨rfl, rfl⟩, Or.inr ⟨rfl, fun failed fails => .repeats session _ repeats.issued fails⟩⟩
  · rw [nextNonceOdd_of_draw session drawn nonces left nonce active draw] at drew
    cases drew
    exact ⟨draw.gives, Or.inl (draw.leads name active)⟩

end Session

namespace SessionUse

/-- The even nonce that is kept of a response: that of the session, if all went well. -/
def kept? (session : Session) : Except Fault Reply → Option Digest
  | .ok _ => some session.nonceEven
  | .error _ => none

/-- A frame under a session is the same before a nonce is drawn and after. -/
theorem frame_of_draw (use : SessionUse) (command : Command) (parameters : Bytes)
    (nonceOdd : Digest) (drawn : Session) (nonces rest : NonceSource) (nonce : Digest)
    (draw : use.session.Draw nonces nonce drawn rest) :
    command.frame use parameters nonceOdd =
      command.frame ⟨drawn, use.secret, use.continueSession⟩ parameters nonceOdd := by
  unfold Command.frame Command.trailer Session.trailer
  dsimp only
  rw [draw.handle_eq, draw.binding_eq, draw.nonceEven_eq]

/-- What a request under a session that has drawn its nonce does to it, however it is answered. -/
theorem leads_of_conclude (name : String) (use : SessionUse) (command : Command)
    (parameters : Bytes) (nonceOdd : Digest) (drawn after : Session) (answer : Except Fault Bytes)
    (outcome : Except Fault Reply) (added : List Exchange) (active : drawn.status = .active)
    (armed : drawn.armedOdd = some nonceOdd)
    (adds : Link.Adds (command.frame ⟨drawn, use.secret, use.continueSession⟩ parameters nonceOdd)
      answer added)
    (concluded : ({ use with session := drawn.spent } : SessionUse).conclude command nonceOdd
      answer = (outcome, after)) :
    drawn.Leads name (added.map fun exchange =>
      .did name (.signed nonceOdd drawn.nonceEven exchange (kept? after outcome))) after := by
  cases outcome with
  | error fault =>
    have isOver := ended_of_conclude_eq_error _ command nonceOdd answer fault after concluded
    have ended : drawn.Ended after := ⟨isOver.handle, isOver.binding, isOver.issuedOdd,
      isOver.unarmed, isOver.nonceEven, isOver.seenEven, isOver.closed⟩
    cases adds with
    | unreached _ _ => exact .quiet (.fails drawn after ended)
    | exchange =>
      refine .moved (some (.signed nonceOdd drawn.nonceEven _ none)) ?_ fun _ same => nomatch same
      refine .sends drawn after nonceOdd _ active armed ⟨rfl, command, use.secret,
        use.continueSession, parameters, rfl, fun _ same => nomatch same⟩ ended
  | ok reply =>
    obtain ⟨received, accepted, rfl⟩ :=
      (conclude_eq_ok_iff _ command nonceOdd answer reply after).mp concluded
    cases adds with
    | unreached fault failed =>
      rw [failed] at accepted
      exact nomatch accepted.framed
    | exchange =>
      refine .moved (some (.signed nonceOdd drawn.nonceEven _ (some received.nonceEven))) ?_
        fun _ same => nomatch same
      refine .advances drawn nonceOdd _ received active armed ⟨rfl, command, use.secret,
        use.continueSession, parameters, rfl, ?_⟩ accepted.accepts.isNew
      intro next same
      exact ⟨reply, received, Option.some.inj same, accepted.framed, accepted.fits, accepted.handles,
        accepted.accepts.isNew, accepted.accepts.proven⟩

end SessionUse

namespace Dispatch

variable {σ : Type} [Channel σ]

theorem attempt_eq (name : String) (command : Command) (client after : Client (Tapped σ))
    (use : SessionUse) (outcome : Except Fault Reply) (session : Session)
    (ran : (executeOnce command).run ⟨client, some use⟩ =
      (outcome, ⟨after, some { use with session }⟩)) :
    attempt name command client use =
      (client.nonces.drawnSince after.nonces).map (fun nonce => .did name (.drew nonce)) ++
        (client.link.since after.link).map fun exchange =>
          .did name (.signed (use.session.upcomingOdd client.nonces) use.session.nonceEven
            exchange (SessionUse.kept? session outcome)) := by
  unfold attempt
  rw [ran]
  cases outcome with
  | error fault => rfl
  | ok reply => rfl

/-- One attempt is what the client shows, and either its session goes through its moves or a nonce
was repeated. -/
theorem executeOnce_tells (name : String) (command : Command) (client : Client (Tapped σ))
    (use : SessionUse) :
    ∃ outcome after session,
      (executeOnce command).run ⟨client, some use⟩ =
        (outcome, ⟨after, some { use with session }⟩) ∧
      client.Shows (attempt name command client use) after ∧
      (use.session.Leads name (attempt name command client use) session ∨
        (outcome = .error (.nonceReuse use.session.handle) ∧
          ∀ failed : Fault → Prop, failed (.nonceReuse use.session.handle) →
            Session.Unfolds name failed use.session (attempt name command client use) session)) := by
  obtain ⟨outcome, after, session, ran, attempted⟩ := executeOnce_attempt command client use
  have told := attempt_eq name command client after use outcome session ran
  have shows : ∀ added, after.link.record = client.link.record ++ added →
      client.nonces.Gives (client.nonces.drawnSince after.nonces) after.nonces →
      client.Shows (attempt name command client use) after := by
    intro added recorded drawn
    rw [told, Link.since_eq _ _ added recorded]
    exact Client.shows_of_since _ _ _ _ _ _ (fun _ => ⟨rfl, rfl⟩) (fun _ => ⟨rfl, rfl⟩) drawn
      recorded
  refine ⟨outcome, after, session, ran, ?_⟩
  have silent : client.link.since client.link = [] :=
    Link.since_eq _ _ [] (List.append_nil _).symm
  cases attempted with
  | unsealed fault refused =>
    refine ⟨shows [] (List.append_nil _).symm ?_, Or.inl ?_⟩
    · rw [NonceSource.drawnSince_self]
      rfl
    · rw [told, NonceSource.drawnSince_self, silent]
      exact .nil _
  | inactive _ =>
    refine ⟨shows [] (List.append_nil _).symm ?_, Or.inl ?_⟩
    · rw [NonceSource.drawnSince_self]
      rfl
    · rw [told, NonceSource.drawnSince_self, silent]
      exact .nil _
  | repeats repeats =>
    refine ⟨shows [] (List.append_nil _).symm ?_, Or.inr ⟨rfl, fun failed fails => ?_⟩⟩
    · dsimp only
      rw [NonceSource.drawnSince_next]
      exact ⟨rfl, rfl⟩
    · rw [told]
      dsimp only
      rw [NonceSource.drawnSince_next, silent]
      exact .repeats use.session _ repeats.issued fails
  | oversized _ _ drawn nonces _ active draw _ =>
    refine ⟨shows [] (List.append_nil _).symm draw.gives, Or.inl ?_⟩
    rw [told]
    dsimp only
    rw [silent]
    exact (draw.leads name active).append (.quiet (.spends drawn))
  | exchanged parameters nonceOdd drawn nonces answer link _ _ _ active draw _ transmitted
      concluded =>
    obtain ⟨added, recorded, adds⟩ := Link.transmit_tapped _ _ _ _ transmitted
    refine ⟨shows added recorded draw.gives, Or.inl ?_⟩
    rw [told]
    dsimp only
    rw [use.frame_of_draw command parameters nonceOdd drawn _ _ _ draw] at adds
    rw [Link.since_eq _ _ added recorded, ← draw.eq_upcomingOdd, ← draw.nonceEven_eq]
    exact (draw.leads name active).append (use.leads_of_conclude name command parameters nonceOdd
      drawn session answer outcome added (draw.status_eq.trans active) draw.armed_eq adds concluded)

/-- The attempts at a command are what the client shows, and its session is followed through all of
them and its replacements. -/
theorem executeUpTo_tells (name : String) (command : Command) (further : Nat)
    (client : Client (Tapped σ)) (use : SessionUse) :
    ∃ outcome after session,
      (executeUpTo command further).run ⟨client, some use⟩ =
        (outcome, ⟨after, some { use with session }⟩) ∧
      client.Shows (attempts name command further client use) after ∧
      Session.Unfolds name (fun fault => outcome = .error fault) use.session
        (attempts name command further client use) session := by
  induction further generalizing client use with
  | zero =>
    obtain ⟨outcome, after, session, ran, shows, course⟩ :=
      executeOnce_tells name command client use
    refine ⟨outcome, after, session, ran, shows, ?_⟩
    rcases course with leads | ⟨failed, unfolds⟩
    · exact leads.unfolds _
    · exact unfolds _ failed
  | succ further inductionHypothesis =>
    obtain ⟨outcome, after, session, ran, shows, course⟩ :=
      executeOnce_tells name command client use
    by_cases busy : ∃ fault, outcome = .error fault ∧ fault.isRetryable = true
    · obtain ⟨fault, rfl, retryable⟩ := busy
      -- A repeated nonce is no reason to try again, so the session went through its moves.
      have leads : use.session.Leads name (attempt name command client use) session := by
        rcases course with leads | ⟨same, _⟩
        · exact leads
        · cases same
          cases retryable
      have next := executeUpTo_of_busy command further _ _ fault ran retryable
      obtain ⟨second, added, reopened, replaced, nonces, conveys⟩ :=
        replaceSession_tapped after { use with session }
      rw [Action.run_bind, replaced] at next
      cases found : session.kind.opened use.secret after.nonces.next.1 second with
      | error other =>
        rw [found] at next replaced
        have told : attempts name command (further + 1) client use =
            attempt name command client use ++ after.tellOpening name reopened none := by
          rw [attempts, ran]
          dsimp only
          rw [if_pos retryable, replaced]
          rfl
        refine ⟨_, reopened, session, next, ?_, ?_⟩
        · rw [told]
          exact shows.append
            (Client.shows_tellOpening name session.kind after reopened none added nonces
              conveys.recorded)
        · rw [told]
          refine (leads.append (.asides session _ ?_)).unfolds _
          exact Client.aside_tellOpening name session.kind _ after reopened second added
            conveys.recorded conveys.adds
      | ok fresh =>
        rw [found] at next replaced
        obtain ⟨outcome, last, final, ranLater, showsLater, unfolds⟩ :=
          inductionHypothesis reopened { use with session := fresh }
        have told : attempts name command (further + 1) client use =
            attempt name command client use ++ (after.tellOpening name reopened (some fresh) ++
              attempts name command further reopened { use with session := fresh }) := by
          rw [attempts, ran]
          dsimp only
          rw [if_pos retryable, replaced]
          rfl
        obtain ⟨setups, exchange, opening, asides, genuine⟩ :=
          Client.tellOpening_of_opens name session.kind use.secret _ after reopened second added
            fresh conveys.recorded conveys.adds ((SessionKind.opened_eq_ok_iff _ _ _ _ _).mp found)
        refine ⟨outcome, last, final, next.trans ranLater, ?_, ?_⟩
        · rw [told]
          exact shows.append ((Client.shows_tellOpening name session.kind after reopened _ added
            nonces conveys.recorded).append showsLater)
        · rw [told, opening]
          exact leads _ _ _ ((Session.Leads.append (.asides session setups asides)
            (.reopened session fresh exchange genuine)) _ _ _ unfolds)
    · have alone : attempts name command (further + 1) client use =
          attempt name command client use := by
        rw [attempts, ran]
        cases outcome with
        | ok reply => exact List.append_nil _
        | error fault =>
          dsimp only
          rw [if_neg fun retryable => busy ⟨fault, rfl, retryable⟩, List.append_nil]
      refine ⟨outcome, after, session, executeUpTo_of_final command _ _ _ outcome ran busy, ?_, ?_⟩
      · rw [alone]
        exact shows
      · rw [alone]
        rcases course with leads | ⟨failed, unfolds⟩
        · exact leads.unfolds _
        · exact unfolds _ failed

end Dispatch

end TrustedPlatform

import TrustedPlatform.Proofs.Channel.Tap
import TrustedPlatform.Proofs.Client.Attempt

/-!
# The life of a session

What can become of a session object, move by move (`Session.Moves`), from its opening on
(`Session.Lives`), with the deeds that can be seen of it: odd nonces taken from the source, and
frames sent with its trailer.  Every move keeps the nonces in order (`Session.Kept.moves`), and so
does every life (`Session.Lives.kept`).
-/

set_option autoImplicit false

namespace TrustedPlatform

/-- One thing done with a session. -/
inductive Deed where
  | drew (nonceOdd : Digest)
  -- A frame was sent with its trailer, over an odd and an even nonce.  If the response was
  -- accepted, its even nonce is kept.
  | signed (nonceOdd nonceEven : Digest) (exchange : Exchange) (accepted? : Option Digest)

namespace Deed

def drawn? : Deed → Option Digest
  | .drew nonceOdd => some nonceOdd
  | .signed _ _ _ _ => none

def odd? : Deed → Option Digest
  | .drew _ => none
  | .signed nonceOdd _ _ _ => some nonceOdd

def even? : Deed → Option Digest
  | .drew _ => none
  | .signed _ nonceEven _ _ => some nonceEven

def accepted? : Deed → Option Digest
  | .drew _ => none
  | .signed _ _ _ accepted? => accepted?

/-- A deed is done with a session.  If a request was signed, it is a frame the trailer of which is
that of the session, with the odd nonce and computed over the even one, and an even nonce is kept
only from a response that the session accepts. -/
def DoneWith (session : Session) : Deed → Prop
  | .drew _ => True
  | .signed nonceOdd nonceEven exchange accepted? =>
    session.nonceEven = nonceEven ∧
    ∃ (command : Command) (secret : Secret) (continueSession : Bool) (parameters : Bytes),
      exchange.request = command.frame ⟨session, secret, continueSession⟩ parameters nonceOdd ∧
      ∀ next, accepted? = some next → ∃ reply received, received.nonceEven = next ∧
        SessionUse.Accepted ⟨session, secret, continueSession⟩ command nonceOdd exchange.answer
          reply received

end Deed

namespace Session

/-- What can become of a session at a time. -/
inductive Moves : Session → Option Deed → Session → Prop where
  | draws (session : Session) (nonceOdd : Digest) (active : session.status = .active)
      (isNew : nonceOdd ∉ session.issuedOdd) :
      Moves session (some (.drew nonceOdd))
        { session with
          armedOdd := some nonceOdd
          issuedOdd := nonceOdd :: session.issuedOdd }
  | repeats (session : Session) (nonceOdd : Digest) (issued : nonceOdd ∈ session.issuedOdd) :
      Moves session (some (.drew nonceOdd)) { session with status := .closed }
  | spends (session : Session) : Moves session none session.spent
  | sends (session after : Session) (nonceOdd : Digest) (exchange : Exchange)
      (active : session.status = .active) (armed : session.armedOdd = some nonceOdd)
      (done : (Deed.signed nonceOdd session.nonceEven exchange none).DoneWith session)
      (ended : session.Ended after) :
      Moves session (some (.signed nonceOdd session.nonceEven exchange none)) after
  | advances (session : Session) (nonceOdd : Digest) (exchange : Exchange)
      (received : ResponseTrailer) (active : session.status = .active)
      (armed : session.armedOdd = some nonceOdd)
      (done : (Deed.signed nonceOdd session.nonceEven exchange
        (some received.nonceEven)).DoneWith session)
      (isNew : received.nonceEven ∉ session.seenEven) :
      Moves session
        (some (.signed nonceOdd session.nonceEven exchange (some received.nonceEven)))
        (session.spent.advanced received)
  | fails (session after : Session) (ended : session.Ended after) : Moves session none after
  | suspends (session : Session) (active : session.status = .active) :
      Moves session none session.suspend
  | resumes (session : Session) (handle : UInt32) (suspended : session.status = .suspended) :
      Moves session none (session.resume handle)

/-- The deeds of a session object from its opening on, and what has become of it. -/
inductive Lives (opened : Session) : List Deed → Session → Prop where
  | born : Lives opened [] opened
  | moved (deeds : List Deed) (before after : Session) (deed? : Option Deed)
      (lives : Lives opened deeds before) (move : before.Moves deed? after) :
      Lives opened (deeds ++ deed?.toList) after

structure Fresh (session : Session) : Prop where
  active : session.status = .active
  unarmed : session.armedOdd = none
  current : session.nonceEven ∈ session.seenEven

/-- The nonces of a session object, between its opening and now: those taken for it, those sent,
those that authorizations of requests were computed over, and those of accepted responses. -/
structure Kept (opened : Session) (drawn odd even accepted : List Digest) (current : Session) :
    Prop where
  -- The session knows every odd nonce taken for it, and that of its setup.
  issued : ∀ nonce, nonce ∈ current.issuedOdd ↔ nonce ∈ opened.issuedOdd ∨ nonce ∈ drawn
  oddOnce : odd.Nodup
  oddNew : ∀ nonce ∈ odd, nonce ∉ opened.issuedOdd
  oddIssued : ∀ nonce ∈ odd, nonce ∈ current.issuedOdd
  armed : ∀ nonce, current.armedOdd = some nonce →
    nonce ∈ current.issuedOdd ∧ nonce ∉ opened.issuedOdd ∧ nonce ∉ odd
  evenOnce : even.Nodup
  evenSeen : ∀ nonce ∈ even, nonce ∈ current.seenEven
  currentSeen : current.nonceEven ∈ current.seenEven
  -- As long as the session is not over, no request went out over its even nonce.
  unused : current.status ≠ .closed → current.nonceEven ∉ even
  acceptedOnce : accepted.Nodup
  acceptedNew : ∀ nonce ∈ accepted, nonce ∉ opened.seenEven
  acceptedSeen : ∀ nonce ∈ accepted, nonce ∈ current.seenEven
  openedSeen : ∀ nonce ∈ opened.seenEven, nonce ∈ current.seenEven

theorem kept_born (opened : Session) (fresh : opened.Fresh) :
    opened.Kept [] [] [] [] opened where
  issued nonce := by simp
  oddOnce := List.nodup_nil
  oddNew _ member := nomatch member
  oddIssued _ member := nomatch member
  armed nonce armed := by
    rw [fresh.unarmed] at armed
    cases armed
  evenOnce := List.nodup_nil
  evenSeen _ member := nomatch member
  currentSeen := fresh.current
  unused _ member := nomatch member
  acceptedOnce := List.nodup_nil
  acceptedNew _ member := nomatch member
  acceptedSeen _ member := nomatch member
  openedSeen _ member := member

theorem nodup_append_singleton (nonces : List Digest) (nonce : Digest) (once : nonces.Nodup)
    (isNew : nonce ∉ nonces) : (nonces ++ [nonce]).Nodup := by
  refine List.nodup_append.mpr ⟨once, by simp, ?_⟩
  intro first member second last same
  obtain rfl := List.mem_singleton.mp last
  exact isNew (same ▸ member)

namespace Kept

variable {opened current after : Session} {drawn odd even accepted : List Digest}

/-- A move that cannot be seen keeps the nonces in order if it arms no nonce, forgets none, and
brings no session back that was over. -/
theorem quiet (kept : opened.Kept drawn odd even accepted current)
    (issued : after.issuedOdd = current.issuedOdd)
    (armed : ∀ nonce, after.armedOdd = some nonce → current.armedOdd = some nonce)
    (nonceEven : after.nonceEven = current.nonceEven)
    (seen : ∀ nonce ∈ current.seenEven, nonce ∈ after.seenEven)
    (stillOpen : after.status ≠ .closed → current.status ≠ .closed) :
    opened.Kept drawn odd even accepted after where
  issued nonce := by
    rw [issued]
    exact kept.issued nonce
  oddOnce := kept.oddOnce
  oddNew := kept.oddNew
  oddIssued nonce member := by
    rw [issued]
    exact kept.oddIssued nonce member
  armed nonce ahead := by
    rw [issued]
    exact kept.armed nonce (armed nonce ahead)
  evenOnce := kept.evenOnce
  evenSeen nonce member := seen nonce (kept.evenSeen nonce member)
  currentSeen := by
    rw [nonceEven]
    exact seen _ kept.currentSeen
  unused isOpen := by
    rw [nonceEven]
    exact kept.unused (stillOpen isOpen)
  acceptedOnce := kept.acceptedOnce
  acceptedNew := kept.acceptedNew
  acceptedSeen nonce member := seen nonce (kept.acceptedSeen nonce member)
  openedSeen nonce member := seen nonce (kept.openedSeen nonce member)

theorem ended (kept : opened.Kept drawn odd even accepted current)
    (isOver : current.Ended after) : opened.Kept drawn odd even accepted after := by
  refine kept.quiet isOver.issuedOdd ?_ isOver.nonceEven isOver.seenEven ?_
  · intro nonce ahead
    rw [isOver.unarmed] at ahead
    cases ahead
  · intro isOpen
    exact absurd isOver.closed isOpen

theorem draws (kept : opened.Kept drawn odd even accepted current) (nonceOdd : Digest)
    (isNew : nonceOdd ∉ current.issuedOdd) :
    opened.Kept (drawn ++ [nonceOdd]) odd even accepted
      { current with armedOdd := some nonceOdd, issuedOdd := nonceOdd :: current.issuedOdd } where
  issued nonce := by
    have before := kept.issued nonce
    rw [List.mem_cons, before, List.mem_append, List.mem_singleton]
    constructor
    · rintro (rfl | setup | earlier)
      · exact Or.inr (Or.inr rfl)
      · exact Or.inl setup
      · exact Or.inr (Or.inl earlier)
    · rintro (setup | earlier | rfl)
      · exact Or.inr (Or.inl setup)
      · exact Or.inr (Or.inr earlier)
      · exact Or.inl rfl
  oddOnce := kept.oddOnce
  oddNew := kept.oddNew
  oddIssued nonce member := List.mem_cons_of_mem _ (kept.oddIssued nonce member)
  armed nonce ahead := by
    obtain rfl := Option.some.inj ahead
    refine ⟨List.mem_cons_self, ?_, fun member => isNew (kept.oddIssued _ member)⟩
    intro setup
    exact isNew ((kept.issued _).mpr (Or.inl setup))
  evenOnce := kept.evenOnce
  evenSeen := kept.evenSeen
  currentSeen := kept.currentSeen
  unused := kept.unused
  acceptedOnce := kept.acceptedOnce
  acceptedNew := kept.acceptedNew
  acceptedSeen := kept.acceptedSeen
  openedSeen := kept.openedSeen

theorem repeats (kept : opened.Kept drawn odd even accepted current) (nonceOdd : Digest)
    (known : nonceOdd ∈ current.issuedOdd) :
    opened.Kept (drawn ++ [nonceOdd]) odd even accepted { current with status := .closed } where
  issued nonce := by
    have before := kept.issued nonce
    rw [List.mem_append, List.mem_singleton, before]
    constructor
    · rintro (setup | earlier)
      · exact Or.inl setup
      · exact Or.inr (Or.inl earlier)
    · rintro (setup | earlier | rfl)
      · exact Or.inl setup
      · exact Or.inr earlier
      · exact before.mp known
  oddOnce := kept.oddOnce
  oddNew := kept.oddNew
  oddIssued := kept.oddIssued
  armed := kept.armed
  evenOnce := kept.evenOnce
  evenSeen := kept.evenSeen
  currentSeen := kept.currentSeen
  unused isOpen := absurd rfl isOpen
  acceptedOnce := kept.acceptedOnce
  acceptedNew := kept.acceptedNew
  acceptedSeen := kept.acceptedSeen
  openedSeen := kept.openedSeen

/-- What a request that went out takes up: the odd nonce drawn ahead, and the even one. -/
theorem sends (kept : opened.Kept drawn odd even accepted current) (nonceOdd : Digest)
    (active : current.status = .active) (armed : current.armedOdd = some nonceOdd)
    (isOver : current.Ended after) :
    opened.Kept drawn (odd ++ [nonceOdd]) (even ++ [current.nonceEven]) accepted after := by
  obtain ⟨issued, notSetup, unsent⟩ := kept.armed nonceOdd armed
  have isOpen : current.status ≠ .closed := by
    rw [active]
    decide
  have rest := kept.ended isOver
  refine ⟨rest.issued, nodup_append_singleton odd nonceOdd kept.oddOnce unsent, ?_, ?_, ?_,
    nodup_append_singleton even _ kept.evenOnce (kept.unused isOpen), ?_, rest.currentSeen, ?_,
    rest.acceptedOnce, rest.acceptedNew, rest.acceptedSeen, rest.openedSeen⟩
  · intro nonce member
    rcases List.mem_append.mp member with earlier | last
    · exact kept.oddNew nonce earlier
    · obtain rfl := List.mem_singleton.mp last
      exact notSetup
  · intro nonce member
    rcases List.mem_append.mp member with earlier | last
    · exact rest.oddIssued nonce earlier
    · obtain rfl := List.mem_singleton.mp last
      rw [isOver.issuedOdd]
      exact issued
  · intro nonce ahead
    rw [isOver.unarmed] at ahead
    cases ahead
  · intro nonce member
    rcases List.mem_append.mp member with earlier | last
    · exact rest.evenSeen nonce earlier
    · obtain rfl := List.mem_singleton.mp last
      exact isOver.seenEven _ kept.currentSeen
  · intro stillOpen
    exact absurd isOver.closed stillOpen

theorem advances (kept : opened.Kept drawn odd even accepted current) (nonceOdd : Digest)
    (received : ResponseTrailer) (active : current.status = .active)
    (armed : current.armedOdd = some nonceOdd) (isNew : received.nonceEven ∉ current.seenEven) :
    opened.Kept drawn (odd ++ [nonceOdd]) (even ++ [current.nonceEven])
      (accepted ++ [received.nonceEven]) (current.spent.advanced received) := by
  have sent : opened.Kept drawn (odd ++ [nonceOdd]) (even ++ [current.nonceEven]) accepted
      current.abort := kept.sends nonceOdd active armed current.ended_abort
  have notEven : received.nonceEven ∉ even ++ [current.nonceEven] :=
    fun member => isNew (sent.evenSeen _ member)
  refine ⟨sent.issued, sent.oddOnce, sent.oddNew, sent.oddIssued, sent.armed, sent.evenOnce, ?_,
    List.mem_cons_self, fun _ => notEven, ?_, ?_, ?_, ?_⟩
  · intro nonce member
    exact List.mem_cons_of_mem _ (sent.evenSeen nonce member)
  · exact nodup_append_singleton accepted _ kept.acceptedOnce
      fun member => isNew (kept.acceptedSeen _ member)
  · intro nonce member
    rcases List.mem_append.mp member with earlier | last
    · exact kept.acceptedNew nonce earlier
    · obtain rfl := List.mem_singleton.mp last
      exact fun setup => isNew (kept.openedSeen _ setup)
  · intro nonce member
    rcases List.mem_append.mp member with earlier | last
    · exact List.mem_cons_of_mem _ (kept.acceptedSeen nonce earlier)
    · obtain rfl := List.mem_singleton.mp last
      exact List.mem_cons_self
  · intro nonce member
    exact List.mem_cons_of_mem _ (kept.openedSeen nonce member)

end Kept

theorem filterMap_deed (pick : Deed → Option Digest) (deeds : List Deed) (deed? : Option Deed) :
    (deeds ++ deed?.toList).filterMap pick = deeds.filterMap pick ++ (deed?.bind pick).toList := by
  rw [List.filterMap_append]
  cases deed? with
  | none => rfl
  | some deed =>
    cases found : pick deed with
    | none => simp [found]
    | some nonce => simp [found]

theorem Lives.kept {opened current : Session} {deeds : List Deed} (fresh : opened.Fresh)
    (lives : opened.Lives deeds current) :
    opened.Kept (deeds.filterMap Deed.drawn?) (deeds.filterMap Deed.odd?)
      (deeds.filterMap Deed.even?) (deeds.filterMap Deed.accepted?) current := by
  -- Four histories grow along a life; a move that leaves no deed leaves them as they are.
  induction lives with
  | born => exact kept_born opened fresh
  | moved deeds before after deed? _ move inductionHypothesis =>
    rw [filterMap_deed, filterMap_deed, filterMap_deed, filterMap_deed]
    cases move with
    | draws nonceOdd active isNew =>
      simpa [Deed.drawn?, Deed.odd?, Deed.even?, Deed.accepted?] using
        inductionHypothesis.draws nonceOdd isNew
    | repeats nonceOdd issued =>
      simpa [Deed.drawn?, Deed.odd?, Deed.even?, Deed.accepted?] using
        inductionHypothesis.repeats nonceOdd issued
    | sends after nonceOdd exchange active armed _ ended =>
      simpa [Deed.drawn?, Deed.odd?, Deed.even?, Deed.accepted?] using
        inductionHypothesis.sends nonceOdd active armed ended
    | advances nonceOdd exchange received active armed _ isNew =>
      simpa [Deed.drawn?, Deed.odd?, Deed.even?, Deed.accepted?] using
        inductionHypothesis.advances nonceOdd received active armed isNew
    | spends =>
      simp only [Option.bind_none, Option.toList_none, List.append_nil]
      exact inductionHypothesis.quiet rfl (fun _ ahead => nomatch ahead) rfl
        (fun _ member => member) (fun isOpen => isOpen)
    | fails after ended =>
      simp only [Option.bind_none, Option.toList_none, List.append_nil]
      exact inductionHypothesis.ended ended
    | suspends active =>
      simp only [Option.bind_none, Option.toList_none, List.append_nil]
      refine inductionHypothesis.quiet rfl (fun _ ahead => nomatch ahead) rfl
        (fun _ member => member) ?_
      intro _
      rw [active]
      decide
    | resumes handle suspended =>
      simp only [Option.bind_none, Option.toList_none, List.append_nil]
      refine inductionHypothesis.quiet rfl (fun _ ahead => ahead) rfl (fun _ member => member) ?_
      intro _
      rw [suspended]
      decide

theorem Moves.binding_eq {before after : Session} {deed? : Option Deed}
    (move : before.Moves deed? after) : after.binding = before.binding := by
  cases move with
  | sends _ _ _ _ _ _ ended => exact ended.binding
  | fails _ ended => exact ended.binding
  | draws _ _ _ => rfl
  | repeats _ _ => rfl
  | spends => rfl
  | advances _ _ _ _ _ _ _ => rfl
  | suspends _ => rfl
  | resumes _ _ => rfl

theorem Moves.doneWith {before after : Session} {deed : Deed}
    (move : before.Moves (some deed) after) : deed.DoneWith before := by
  cases move with
  | draws _ _ _ => exact trivial
  | repeats _ _ => exact trivial
  | sends _ _ _ _ _ done _ => exact done
  | advances _ _ _ _ _ done _ => exact done

theorem Lives.binding_eq {opened current : Session} {deeds : List Deed}
    (lives : opened.Lives deeds current) : current.binding = opened.binding := by
  induction lives with
  | born => rfl
  | moved _ _ _ _ _ move inductionHypothesis => exact move.binding_eq.trans inductionHypothesis

theorem Lives.doneWith {opened current : Session} {deeds : List Deed}
    (lives : opened.Lives deeds current) :
    ∀ deed ∈ deeds, ∃ session, session.binding = opened.binding ∧ deed.DoneWith session := by
  induction lives with
  | born => exact fun _ member => nomatch member
  | moved deeds before after deed? lives move inductionHypothesis =>
    intro deed member
    rcases List.mem_append.mp member with earlier | last
    · exact inductionHypothesis deed earlier
    · obtain rfl := Option.mem_toList.mp last
      exact ⟨before, lives.binding_eq, move.doneWith⟩

end Session

end TrustedPlatform

import TrustedPlatform.Client.Audit
import TrustedPlatform.Proofs.Client.Inquiry
import TrustedPlatform.Proofs.Structure.Written

/-!
# The audited commands, page by page

A client asks for one page of the audited commands after the other, each from where the page before
it ended.  What such a conversation is like is said once, by `Pages`, whatever a module answers
(`Client.run_auditPages`).  A page that another follows starts below it, so there are no more pages
than numbers, and the count of pages that a client allows is never what ends a listing.

* `PageTurns.of_pages`: how a listing goes, with any module.
-/

set_option autoImplicit false

namespace TrustedPlatform

def Command.auditPage (start : UInt32) : Command where
  ordinal := .getAuditDigest
  parameters := Bytes.word32 start

def auditPageOf (answer : Except Fault Bytes) : Except Fault AuditPage :=
  (Command.auditPage 0).value AuditPage.decode answer

/-- An answer shows a page exactly when it is a success, and its output is the page as it is
written. -/
theorem auditPageOf_eq_ok_iff (answer : Except Fault Bytes) (page : AuditPage) :
    auditPageOf answer = .ok page ↔
      answer = .ok (Command.success .response ⟨[], page.written⟩ []).frame ∧
        (Command.success .response ⟨[], page.written⟩ []).frame.length < Bytes.capacity 4 := by
  rw [auditPageOf, Command.value_eq_ok_iff]
  constructor
  · rintro ⟨⟨handles, parameters⟩, framed, fits, none, decoded⟩
    obtain rfl := List.length_eq_zero_iff.mp none
    obtain ⟨_, rfl⟩ := (AuditPage.reads.complete_iff _ _).mp decoded
    exact ⟨framed, fits⟩
  · rintro ⟨framed, fits⟩
    have short : (page.ordinals.flatMap Bytes.word32).length < 0x100000000 := by
      rw [Response.length_frame] at fits
      simp only [Command.success, AuditPage.written, Bytes.withLength, List.length_append,
        Bytes.capacity] at fits
      omega
    exact ⟨_, framed, fits, rfl, (AuditPage.reads.complete_iff _ _).mpr ⟨short, rfl⟩⟩

namespace AuditPage

variable (page : AuditPage) (start next : UInt32)

theorem next?_eq_some_iff :
    page.next? start = some next ↔
      ∃ last, page.ordinals.getLast? = some last ∧ start ≤ last ∧
        next.toNat = last.toNat + 1 := by
  unfold next?
  cases page.ordinals.getLast? with
  | none => simp
  | some last =>
    have one : (1 : UInt32).toNat = 1 := rfl
    dsimp only
    by_cases advances : start ≤ last ∧ last.toNat + 1 < UInt32.size
    · have number : (last + 1).toNat = last.toNat + 1 := by
        have small := advances.2
        simp only [UInt32.size] at small
        rw [UInt32.toNat_add, one, Nat.mod_eq_of_lt small]
      rw [if_pos advances]
      constructor
      · intro same
        cases same
        exact ⟨last, rfl, advances.1, number⟩
      · rintro ⟨_, same, _, also⟩
        cases same
        rw [← number] at also
        rw [UInt32.toNat_inj.mp also]
    · rw [if_neg advances]
      constructor
      · intro same
        cases same
      · rintro ⟨_, same, above, also⟩
        cases same
        have small := next.toNat_lt
        rw [also] at small
        exact absurd ⟨above, small⟩ advances

/-- A page got nowhere: it is empty, ends below where it starts, or ends in the last number. -/
def Stalls : Prop :=
  page.ordinals = [] ∨
    ∃ last, page.ordinals.getLast? = some last ∧ (last < start ∨ last = 0xffffffff)

theorem next?_eq_none_iff : page.next? start = none ↔ page.Stalls start := by
  unfold Stalls
  rw [Option.eq_none_iff_forall_not_mem]
  constructor
  · intro nowhere
    cases found : page.ordinals.getLast? with
    | none => exact Or.inl (List.getLast?_eq_none_iff.mp found)
    | some last =>
      refine Or.inr ⟨last, rfl, ?_⟩
      by_cases below : last < start
      · exact Or.inl below
      · right
        apply Classical.byContradiction
        intro notLast
        have above : start ≤ last := UInt32.not_lt.mp below
        have room : last.toNat + 1 < UInt32.size := by
          have bound := last.toNat_lt
          have differs : last.toNat ≠ 0xffffffff := fun same =>
            notLast (UInt32.toNat_inj.mp same)
          simp only [UInt32.size]
          omega
        have number : (UInt32.ofNat (last.toNat + 1)).toNat = last.toNat + 1 :=
          UInt32.toNat_ofNat_of_lt' room
        exact nowhere _ ((page.next?_eq_some_iff start _).mpr ⟨last, found, above, number⟩)
  · intro stalls other among
    obtain ⟨last, found, above, number⟩ := (page.next?_eq_some_iff start other).mp among
    rcases stalls with nothing | ⟨also, same, below | atEnd⟩
    · rw [nothing] at found
      cases found
    · rw [found] at same
      cases same
      exact UInt32.not_lt.mpr above below
    · rw [found] at same
      cases same
      have bound := other.toNat_lt
      rw [number, atEnd] at bound
      exact absurd bound (by decide)

theorem lt_of_next? (advances : page.next? start = some next) : start < next := by
  obtain ⟨last, _, above, number⟩ := (page.next?_eq_some_iff start next).mp advances
  rw [UInt32.le_iff_toNat_le] at above
  rw [UInt32.lt_iff_toNat_lt]
  omega

end AuditPage

structure PageQuestion where
  start : UInt32
  answer : Except Fault Bytes

namespace PageQuestion

def exchange (question : PageQuestion) : Exchange :=
  ⟨(Command.auditPage question.start).plainFrame, question.answer⟩

theorem length_plainFrame (start : UInt32) :
    (Command.auditPage start).plainFrame.length < Bytes.capacity 4 := by
  unfold Command.plainFrame
  rw [Request.length_frame]
  simp only [Command.auditPage, Bytes.length_word32]
  decide

def ordinals (question : PageQuestion) : List UInt32 :=
  match auditPageOf question.answer with
  | .ok page => page.ordinals
  | .error _ => []

theorem ordinals_of_shown (question : PageQuestion) (page : AuditPage)
    (shown : auditPageOf question.answer = .ok page) : question.ordinals = page.ordinals := by
  unfold ordinals
  rw [shown]

end PageQuestion

def AuditListing.after (page : AuditPage) (others : AuditListing) : AuditListing :=
  { others with ordinals := page.ordinals ++ others.ordinals }

/-- What it is like to list the audited commands from a number on: what is asked, and the
outcome. -/
inductive Pages : UInt32 → List PageQuestion → Except Fault AuditListing → Prop where
  | fails (start : UInt32) (answer : Except Fault Bytes) (fault : Fault)
      (failed : auditPageOf answer = .error fault) : Pages start [⟨start, answer⟩] (.error fault)
  | ends (start : UInt32) (answer : Except Fault Bytes) (page : AuditPage)
      (shown : auditPageOf answer = .ok page) (isLast : page.more = false) :
      Pages start [⟨start, answer⟩] (.ok ⟨page.counter, page.digest, page.ordinals⟩)
  | stalls (start : UInt32) (answer : Except Fault Bytes) (page : AuditPage)
      (shown : auditPageOf answer = .ok page) (more : page.more = true)
      (nowhere : page.Stalls start) :
      Pages start [⟨start, answer⟩] (.error (.malformed (.auditStalled start)))
  | goesOn (start next : UInt32) (answer : Except Fault Bytes) (page : AuditPage)
      (rest : List PageQuestion) (outcome : Except Fault AuditListing)
      (shown : auditPageOf answer = .ok page) (more : page.more = true)
      (advances : page.next? start = some next) (pages : Pages next rest outcome) :
      Pages start (⟨start, answer⟩ :: rest) (outcome.map (AuditListing.after page))

namespace Pages

variable {start : UInt32} {asked : List PageQuestion} {outcome : Except Fault AuditListing}

theorem head_start (pages : Pages start asked outcome) :
    ∃ answer rest, asked = ⟨start, answer⟩ :: rest := by
  cases pages with
  | fails _ answer _ _ => exact ⟨answer, [], rfl⟩
  | ends _ answer _ _ _ => exact ⟨answer, [], rfl⟩
  | stalls _ answer _ _ _ _ => exact ⟨answer, [], rfl⟩
  | goesOn _ _ answer _ rest _ _ _ _ _ => exact ⟨answer, rest, rfl⟩

theorem start_le (pages : Pages start asked outcome) :
    ∀ question ∈ asked, start ≤ question.start := by
  induction pages with
  | fails start answer fault failed => simp
  | ends start answer page shown isLast => simp
  | stalls start answer page shown more nowhere => simp
  | goesOn start next answer page rest others shown more advances pages inductionHypothesis =>
    intro question member
    rcases List.mem_cons.mp member with rfl | later
    · exact UInt32.le_refl _
    · have above := page.lt_of_next? start next advances
      exact UInt32.le_trans (UInt32.le_of_lt above) (inductionHypothesis question later)

theorem ascending (pages : Pages start asked outcome) :
    (asked.map PageQuestion.start).Pairwise (· < ·) := by
  induction pages with
  | fails start answer fault failed => simp
  | ends start answer page shown isLast => simp
  | stalls start answer page shown more nowhere => simp
  | goesOn start next answer page rest others shown more advances pages inductionHypothesis =>
    rw [List.map_cons, List.pairwise_cons]
    refine ⟨?_, inductionHypothesis⟩
    intro later member
    obtain ⟨question, among, rfl⟩ := List.mem_map.mp member
    have above := page.lt_of_next? start next advances
    exact UInt32.lt_of_lt_of_le above (pages.start_le question among)

theorem length_le (pages : Pages start asked outcome) :
    asked.length ≤ UInt32.size - start.toNat := by
  induction pages with
  | fails start answer fault failed | ends start answer page shown isLast
  | stalls start answer page shown more nowhere =>
    have bound := start.toNat_lt
    simp only [List.length_singleton, UInt32.size]
    omega
  | goesOn start next answer page rest others shown more advances pages inductionHypothesis =>
    have above := UInt32.lt_iff_toNat_lt.mp (page.lt_of_next? start next advances)
    have bound := next.toNat_lt
    simp only [UInt32.size] at inductionHypothesis ⊢
    rw [List.length_cons]
    omega

/-- After some questions were answered, the listing goes on with those that are left. -/
theorem split (early late : List PageQuestion) (question : PageQuestion)
    (pages : Pages start (early ++ question :: late) outcome) :
    ∃ others, Pages question.start (question :: late) others ∧
      ∀ fault, others = .error fault → outcome = .error fault := by
  induction early generalizing start outcome with
  | nil =>
    obtain ⟨answer, rest, same⟩ := pages.head_start
    obtain ⟨rfl, rfl⟩ := List.cons.inj same
    exact ⟨outcome, pages, fun fault failed => failed⟩
  | cons first early inductionHypothesis =>
    generalize together : first :: early ++ question :: late = asked at pages
    cases pages with
    | fails _ answer fault failed => simp at together
    | ends _ answer page shown isLast => simp at together
    | stalls _ answer page shown more nowhere => simp at together
    | goesOn _ next answer page rest others shown more advances pages =>
      obtain ⟨rfl, rfl⟩ := List.cons.inj together
      obtain ⟨last, goesOn, failing⟩ := inductionHypothesis pages
      refine ⟨last, goesOn, fun fault failed => ?_⟩
      rw [failing fault failed]
      rfl

/-- A listing is all that was listed, with the digest and the counter of the last page. -/
theorem listed (pages : Pages start asked outcome) (listing : AuditListing)
    (success : outcome = .ok listing) :
    listing.ordinals = asked.flatMap PageQuestion.ordinals ∧
      ∃ early last page, asked = early ++ [last] ∧ auditPageOf last.answer = .ok page ∧
        page.more = false ∧ listing.counter = page.counter ∧ listing.digest = page.digest := by
  induction pages generalizing listing with
  | fails start answer fault failed => cases success
  | stalls start answer page shown more nowhere => cases success
  | ends start answer page shown isLast =>
    cases success
    refine ⟨?_, [], ⟨start, answer⟩, page, rfl, shown, isLast, rfl, rfl⟩
    rw [List.flatMap_singleton, PageQuestion.ordinals_of_shown _ page shown]
  | goesOn start next answer page rest others shown more advances pages inductionHypothesis =>
    cases others with
    | error fault => cases success
    | ok remaining =>
      cases success
      obtain ⟨same, early, last, final, rfl, shownLast, isLast, counter, digest⟩ :=
        inductionHypothesis remaining rfl
      refine ⟨?_, ⟨start, answer⟩ :: early, last, final, rfl, shownLast, isLast, counter, digest⟩
      rw [List.flatMap_cons, PageQuestion.ordinals_of_shown _ page shown, ← same]
      rfl

/-- A listing fails with its last page: that could not be read, or got nowhere. -/
theorem failed_last (pages : Pages start asked outcome) (fault : Fault)
    (failed : outcome = .error fault) :
    ∃ early last, asked = early ++ [last] ∧
      (auditPageOf last.answer = .error fault ∨
        ∃ page, auditPageOf last.answer = .ok page ∧ page.more = true ∧ page.Stalls last.start ∧
          fault = .malformed (.auditStalled last.start)) := by
  induction pages with
  | ends start answer page shown isLast => cases failed
  | fails start answer other unread =>
    cases failed
    exact ⟨[], _, rfl, Or.inl unread⟩
  | stalls start answer page shown more nowhere =>
    cases failed
    exact ⟨[], _, rfl, Or.inr ⟨page, shown, more, nowhere, rfl⟩⟩
  | goesOn start next answer page rest others shown more advances pages inductionHypothesis =>
    cases others with
    | ok remaining => cases failed
    | error other =>
      cases failed
      obtain ⟨early, last, rfl, cause⟩ := inductionHypothesis rfl
      exact ⟨⟨start, answer⟩ :: early, last, rfl, cause⟩

end Pages

/-- How the audited commands are listed by a module that may answer whatever it likes. -/
structure PageTurns (unreached : Fault → Prop) (asked : List PageQuestion)
    (outcome : Except Fault AuditListing) : Prop where
  first : ∀ question ∈ asked.head?, question.start = 0
  ascending : (asked.map PageQuestion.start).Pairwise (· < ·)
  few : asked.length ≤ UInt32.size
  -- A page that others are to follow, and that got nowhere, ends everything.
  stalls : ∀ early question late page, asked = early ++ question :: late →
    auditPageOf question.answer = .ok page → page.more = true → page.Stalls question.start →
    late = [] ∧ outcome = .error (.malformed (.auditStalled question.start))
  fails : ∀ early question late fault, asked = early ++ question :: late →
    auditPageOf question.answer = .error fault → late = [] ∧ outcome = .error fault
  listed : ∀ listing, outcome = .ok listing →
    listing.ordinals = asked.flatMap PageQuestion.ordinals ∧
      ∃ early last page, asked = early ++ [last] ∧ auditPageOf last.answer = .ok page ∧
        page.more = false ∧ listing.counter = page.counter ∧ listing.digest = page.digest
  only : ∀ fault, outcome = .error fault →
    (asked = [] ∧ unreached fault) ∨
      ∃ early last, asked = early ++ [last] ∧
        (auditPageOf last.answer = .error fault ∨
          ∃ page, auditPageOf last.answer = .ok page ∧ page.more = true ∧
            page.Stalls last.start ∧ fault = .malformed (.auditStalled last.start))

namespace PageTurns

theorem of_unreached (unreached : Fault → Prop) (fault : Fault) (isUnreached : unreached fault) :
    PageTurns unreached [] (.error fault) where
  first question member := by simp at member
  ascending := List.Pairwise.nil
  few := Nat.zero_le _
  stalls early question late page split := by simp at split
  fails early question late other split := by simp at split
  listed listing success := by cases success
  only other failed := by
    cases failed
    exact Or.inl ⟨rfl, isUnreached⟩

theorem of_pages {asked : List PageQuestion} {outcome : Except Fault AuditListing}
    (unreached : Fault → Prop) (pages : Pages 0 asked outcome) :
    PageTurns unreached asked outcome := by
  constructor
  · intro question member
    obtain ⟨answer, rest, rfl⟩ := pages.head_start
    cases member
    rfl
  · exact pages.ascending
  · exact pages.length_le
  · intro early question late page split shown more nowhere
    subst split
    obtain ⟨others, goesOn, failing⟩ := pages.split early late question
    obtain ⟨start, answer⟩ := question
    cases goesOn with
    | fails _ _ fault failed =>
      rw [shown] at failed
      cases failed
    | ends _ _ other also isLast =>
      rw [shown] at also
      cases also
      rw [more] at isLast
      cases isLast
    | stalls _ _ _ _ _ _ => exact ⟨rfl, failing _ rfl⟩
    | goesOn _ next _ other _ _ also _ advances _ =>
      rw [shown] at also
      cases also
      rw [(page.next?_eq_none_iff start).mpr nowhere] at advances
      cases advances
  · intro early question late fault split failed
    subst split
    obtain ⟨others, goesOn, failing⟩ := pages.split early late question
    obtain ⟨start, answer⟩ := question
    cases goesOn with
    | fails _ _ other also =>
      rw [failed] at also
      cases also
      exact ⟨rfl, failing _ rfl⟩
    | ends _ _ page shown _ | stalls _ _ page shown _ _ | goesOn _ _ _ page _ _ shown _ _ _ =>
      rw [failed] at shown
      cases shown
  · exact pages.listed
  · intro fault failed
    exact Or.inr (pages.failed_last fault failed)

end PageTurns

def Inventory.listing (inventory : Inventory) : Except Fault AuditListing → Inventory
  | .error _ => inventory
  | .ok listing =>
    { inventory with audit := .ofListing listing.ordinals listing.digest listing.counter }

namespace Client

variable {σ : Type} [Channel σ]

theorem run_auditPage (start : UInt32) (client : Client σ) (answer : Except Fault Bytes)
    (link : Link σ)
    (transmitted :
      (Link.transmit (Command.auditPage start).plainFrame).run client.link = (answer, link)) :
    (auditPage start).run client = (auditPageOf answer, { client with link }) :=
  run_ask (Command.auditPage start) AuditPage.decode client answer link rfl
    (PageQuestion.length_plainFrame start) transmitted

/-- As long as the next question can be sent, the audited commands are listed page by page, whatever
is answered.  As many pages as there are numbers left are enough. -/
theorem run_auditPages (start : UInt32) (count : Nat) (enough : UInt32.size - start.toNat ≤ count)
    (client : Client (Tapped σ)) (ready : client.link.Ready) :
    ∃ asked outcome link,
      (auditPages start count).run client = (outcome, { client with link }) ∧
      link.record = client.link.record ++ asked.map PageQuestion.exchange ∧
      Pages start asked outcome := by
  induction count generalizing start client with
  | zero =>
    have bound := start.toNat_lt
    simp only [UInt32.size] at enough
    omega
  | succ count inductionHypothesis =>
    rw [auditPages]
    cases transmitted :
        (Link.transmit (Command.auditPage start).plainFrame).run client.link with
    | mk answer link =>
      have exchanged := Link.exchanges _ _ _ _ transmitted ready
      rw [Action.run_bind, run_auditPage start client answer link transmitted]
      cases shown : auditPageOf answer with
      | error fault =>
        exact ⟨[⟨start, answer⟩], _, link, rfl, exchanged.recorded,
          .fails start answer fault shown⟩
      | ok page =>
        dsimp only
        cases more : page.more with
        | false =>
          exact ⟨[⟨start, answer⟩], _, link, rfl, exchanged.recorded,
            .ends start answer page shown more⟩
        | true =>
          cases advances : page.next? start with
          | none =>
            have nowhere := (page.next?_eq_none_iff start).mp advances
            exact ⟨[⟨start, answer⟩], _, link, rfl, exchanged.recorded,
              .stalls start answer page shown more nowhere⟩
          | some next =>
            obtain ⟨response, arrived⟩ := Command.received_of_value _ _ _ _ shown
            have above := UInt32.lt_iff_toNat_lt.mp (page.lt_of_next? start next advances)
            obtain ⟨rest, others, last, ran, recorded, pages⟩ :=
              inductionHypothesis next (by omega) { client with link }
                (exchanged.ready response arrived)
            refine ⟨⟨start, answer⟩ :: rest, others.map (AuditListing.after page), last, ?_, ?_,
              .goesOn start next answer page rest others shown more advances pages⟩
            · exact Action.run_bind_pure _ (AuditListing.after page) _ _ _ ran
            · rw [recorded, exchanged.recorded, List.append_assoc]
              rfl

theorem run_auditListing (client after : Client σ) (outcome : Except Fault AuditListing)
    (ran : (auditPages 0 UInt32.size).run client = (outcome, after)) :
    auditListing.run client =
      (outcome, { after with inventory := after.inventory.listing outcome }) := by
  rw [auditListing, Action.run_bind, ran]
  cases outcome with
  | error fault => rfl
  | ok listing => rfl

theorem run_auditListing_of_stuck (client : Client (Tapped σ)) (fault : Fault)
    (stuck : client.link.Stuck fault) :
    ∃ link, auditListing.run client = (.error fault, { client with link }) ∧
      link.record = client.link.record := by
  cases transmitted : (Link.transmit (Command.auditPage 0).plainFrame).run client.link with
  | mk answer link =>
    obtain ⟨rfl, same⟩ := Link.unsent_of_stuck _ _ _ _ transmitted fault stuck
    have asked := run_auditPage 0 client _ link transmitted
    have ran : (auditPages 0 (4294967295 + 1)).run client = (.error fault, { client with link }) := by
      rw [auditPages, Action.run_bind, asked]
      rfl
    exact ⟨link, run_auditListing client _ _ ran, same⟩

/-- How a listing goes with any module.  A listing that fails changes nothing that is known. -/
theorem auditListing_turns (client : Client (Tapped σ)) :
    ∃ asked outcome link,
      auditListing.run client =
        (outcome, { client with link, inventory := client.inventory.listing outcome }) ∧
      link.record = client.link.record ++ asked.map PageQuestion.exchange ∧
      PageTurns client.link.Stuck asked outcome ∧
      (client.link.Ready → Pages 0 asked outcome) := by
  rcases client.link.ready_or_stuck with ready | ⟨fault, stuck⟩
  · obtain ⟨asked, outcome, link, ran, recorded, pages⟩ :=
      run_auditPages 0 UInt32.size (Nat.sub_le _ _) client ready
    exact ⟨asked, outcome, link, run_auditListing client _ outcome ran, recorded,
      .of_pages _ pages, fun _ => pages⟩
  · obtain ⟨link, ran, same⟩ := run_auditListing_of_stuck client fault stuck
    exact ⟨[], .error fault, link, ran, by rw [same]; simp, .of_unreached _ fault stuck,
      fun ready => absurd stuck (ready fault)⟩

end Client

end TrustedPlatform

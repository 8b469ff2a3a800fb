import Mathlib.Data.List.Induction
import TrustedPlatform.Proofs.Client.Plain
import TrustedPlatform.Proofs.Client.Sending

/-!
# The sessions that a module holds

A module holds a session from the exchange that opens it (`Exchange.Opens`) to the first one that
ends it (`Exchange.Ends`).  So what a client leaves open is read off the record of what it sent:
`LeftOpen`, and `EndsSessions.leftOpen`.  A client that opens one session at a time and uses it up
leaves at most the one that it opened last: `OnlyLastLeft`, `UsedUp`.
-/

set_option autoImplicit false

namespace TrustedPlatform

theorem Response.drop_frame (response : Response) : response.frame.drop 10 = response.data := by
  have header : (Bytes.word16 response.tag.code ++
      Bytes.bigEndian 4 (headerSize + response.data.length) ++
        Bytes.word32 response.code).length = 10 := by
    simp
  unfold frame
  rw [← header, List.drop_left]

theorem Command.ordinal_eq_of_plainFrame (command other : Command)
    (same : command.plainFrame = other.plainFrame) : command.ordinal = other.ordinal := by
  have named : ∀ command : Command,
      (command.plainFrame.drop 6).take 4 = Bytes.word32 command.ordinal.code :=
    fun command => Request.ordinal_frame _ _
  have codes : Bytes.word32 command.ordinal.code = Bytes.word32 other.ordinal.code := by
    rw [← named command, ← named other, same]
  exact Ordinal.code_injective _ _ (Bytes.word32_injective _ _ codes)

namespace Exchange

def Answered (exchange : Exchange) : Prop := ∃ response, exchange.answer = .ok response

/-- The exchange opened a session under a handle. -/
def Opens (exchange : Exchange) (handle : UInt32) : Prop :=
  ∃ kind secret setupOdd session,
    exchange.request = SessionKind.openingFrame kind setupOdd ∧
    SessionKind.Opens secret setupOdd exchange.answer kind session ∧ session.handle = handle

/-- A trailer of the request named the session under a handle, and the answer ended that session:
this was to be its last use, or the command failed. -/
def Ends (exchange : Exchange) (handle : UInt32) : Prop :=
  ∃ trailer, exchange.Bears trailer ∧ trailer.handle = handle ∧ exchange.Answered ∧
    (trailer.continueSession = false ∨
      ∃ code, answerCode? exchange.answer = some code ∧ code ≠ ResultCode.success)

theorem Ends.not_opens {exchange : Exchange} {handle : UInt32} (ends : exchange.Ends handle)
    (other : UInt32) : ¬ exchange.Opens other := by
  obtain ⟨trailer, bears, _⟩ := ends
  obtain ⟨request, answer⟩ := exchange
  intro opens
  obtain ⟨kind, _, setupOdd, _, asked, _⟩ := opens
  obtain rfl : request = kind.openingFrame setupOdd := asked
  exact not_bears_openingFrame kind setupOdd answer trailer bears

theorem not_opens_plainFrame (command : Command) (answer : Except Fault Bytes)
    (opensNone : command.ordinal.opensSession = false) (handle : UInt32) :
    ¬ (Exchange.mk command.plainFrame answer).Opens handle := by
  intro opens
  obtain ⟨kind, _, setupOdd, _, asked, _⟩ := opens
  have same : command.ordinal = (kind.opening setupOdd).ordinal :=
    command.ordinal_eq_of_plainFrame _ asked
  rw [same] at opensNone
  cases kind with
  | oiap => simp [SessionKind.opening, Ordinal.opensSession] at opensNone
  | osap entity => simp [SessionKind.opening, Ordinal.opensSession] at opensNone

end Exchange

theorem SessionKind.Opens.handle_first {secret : Secret} {setupOdd : Digest}
    {answer : Except Fault Bytes} {kind : SessionKind} {session : Session}
    (opens : Opens secret setupOdd answer kind session) :
    ∃ frame others, answer = .ok frame ∧
      List.drop 10 frame = Bytes.word32 session.handle ++ others := by
  cases opens with
  | oiap handle nonceEven answered =>
    exact ⟨_, nonceEven.bytes, answered, by
      simp [Response.drop_frame, Command.success, Session.oiap]⟩
  | osap entity handle nonceEven setupEven answered =>
    exact ⟨_, nonceEven.bytes ++ setupEven.bytes, answered, by
      simp [Response.drop_frame, Command.success, Session.osap]⟩

namespace Exchange

theorem Opens.unique {exchange : Exchange} {handle other : UInt32} (opens : exchange.Opens handle)
    (also : exchange.Opens other) : other = handle := by
  obtain ⟨_, _, _, session, _, begun, rfl⟩ := opens
  obtain ⟨_, _, _, twin, _, again, rfl⟩ := also
  obtain ⟨frame, others, answered, found⟩ := begun.handle_first
  obtain ⟨second, rest, same, foundAgain⟩ := again.handle_first
  obtain rfl : second = frame := Except.ok.inj (same.symm.trans answered)
  rw [found] at foundAgain
  have words : Bytes.word32 session.handle = Bytes.word32 twin.handle :=
    (List.append_inj foundAgain (by simp)).1
  exact Bytes.word32_injective _ _ words.symm

/-- Which session a request for one opened is what its client takes it to be. -/
theorem opens_openingFrame_iff (kind : SessionKind) (secret : Secret) (setupOdd : Digest)
    (answer : Except Fault Bytes) (handle : UInt32) :
    (Exchange.mk (kind.openingFrame setupOdd) answer).Opens handle ↔
      ∃ session, kind.opened secret setupOdd answer = .ok session ∧ session.handle = handle := by
  constructor
  · intro opens
    obtain ⟨other, _, otherOdd, _, asked, begun, rfl⟩ := opens
    have same := (kind.opening setupOdd).ordinal_eq_of_plainFrame (other.opening otherOdd) asked
    -- The secret and the kind of entity that the session is for do not show in the answer.
    cases begun with
    | oiap handle nonceEven answered =>
      cases kind with
      | osap entity => cases same
      | oiap => exact ⟨_, (SessionKind.opened_eq_ok_iff _ _ _ _ _).mpr (.oiap _ _ answered), rfl⟩
    | osap entity handle nonceEven setupEven answered =>
      cases kind with
      | oiap => cases same
      | osap own =>
        exact ⟨_, (SessionKind.opened_eq_ok_iff _ _ _ _ _).mpr (.osap own _ _ _ answered), rfl⟩
  · intro opened
    obtain ⟨session, found, rfl⟩ := opened
    exact ⟨kind, secret, setupOdd, session, rfl,
      (SessionKind.opened_eq_ok_iff _ _ _ _ _).mp found, rfl⟩

end Exchange

/-- A session that was opened under a handle in the course of some exchanges, and was not ended
since. -/
def LeftOpen : List Exchange → UInt32 → Prop
  | [], _ => False
  | exchange :: later, handle =>
    (exchange.Opens handle ∧ ∀ other ∈ later, ¬ other.Ends handle) ∨ LeftOpen later handle

theorem leftOpen_append_iff (earlier later : List Exchange) (handle : UInt32) :
    LeftOpen (earlier ++ later) handle ↔
      (LeftOpen earlier handle ∧ ∀ other ∈ later, ¬ other.Ends handle) ∨
        LeftOpen later handle := by
  induction earlier with
  | nil => simp [LeftOpen]
  | cons first earlier inductionHypothesis =>
    simp only [List.cons_append, LeftOpen, inductionHypothesis, List.mem_append]
    constructor
    · rintro (⟨opens, kept⟩ | ⟨early, kept⟩ | left)
      · exact Or.inl ⟨Or.inl ⟨opens, fun other member => kept other (Or.inl member)⟩,
          fun other member => kept other (Or.inr member)⟩
      · exact Or.inl ⟨Or.inr early, kept⟩
      · exact Or.inr left
    · rintro (⟨⟨opens, kept⟩ | early, keptLate⟩ | left)
      · refine Or.inl ⟨opens, fun other member => ?_⟩
        exact member.elim (kept other) (keptLate other)
      · exact Or.inr (Or.inl ⟨early, keptLate⟩)
      · exact Or.inr (Or.inr left)

/-- Of the sessions opened in the course of some exchanges, a module holds none at first, and each
no longer than from an exchange that opens it to one that ends it. -/
structure EndsSessions (holds : List Exchange → UInt32 → Prop) : Prop where
  first : ∀ handle, ¬ holds [] handle
  next : ∀ record exchange handle, holds (record ++ [exchange]) handle →
    exchange.Opens handle ∨ (holds record handle ∧ ¬ exchange.Ends handle)

theorem endsSessions_leftOpen : EndsSessions LeftOpen where
  first _ left := left
  next record exchange handle left := by
    rcases (leftOpen_append_iff record [exchange] handle).mp left with ⟨earlier, kept⟩ | last
    · exact Or.inr ⟨earlier, kept exchange (List.mem_singleton_self _)⟩
    · simp only [LeftOpen, or_false] at last
      exact Or.inl last.1

theorem EndsSessions.leftOpen {holds : List Exchange → UInt32 → Prop} (ends : EndsSessions holds)
    (record : List Exchange) (handle : UInt32) (held : holds record handle) :
    LeftOpen record handle := by
  induction record using List.reverseRecOn with
  | nil => exact absurd held (ends.first handle)
  | append_singleton record exchange inductionHypothesis =>
    rw [leftOpen_append_iff]
    rcases ends.next record exchange handle held with opens | ⟨before, kept⟩
    · exact Or.inr (Or.inl ⟨opens, List.forall_mem_nil _⟩)
    · refine Or.inl ⟨inductionHypothesis before, ?_⟩
      simpa using kept

/-- The exchanges leave at most one session open: one that the last of them opened, and only for a
reason. -/
def OnlyLastLeft (reason : UInt32 → Prop) (sent : List Exchange) : Prop :=
  ∀ handle, LeftOpen sent handle →
    reason handle ∧ ∃ earlier opening, sent = earlier ++ [opening] ∧ opening.Opens handle

/-- Under a session nothing was sent, for a reason, or it was ended at once. -/
inductive UsedUp (reason : UInt32 → Prop) (handle : UInt32) : List Exchange → Prop where
  | unused (because : reason handle) : UsedUp reason handle []
  | ended (exchange : Exchange) (later : List Exchange) (ends : exchange.Ends handle)
      (others : OnlyLastLeft reason later) : UsedUp reason handle (exchange :: later)

namespace OnlyLastLeft

variable {reason : UInt32 → Prop} {sent later : List Exchange}

theorem of_none_opened (opensNone : ∀ exchange ∈ sent, ∀ handle, ¬ exchange.Opens handle) :
    OnlyLastLeft reason sent := by
  intro handle left
  exfalso
  induction sent with
  | nil => exact left
  | cons exchange sent inductionHypothesis =>
    rcases left with ⟨opens, _⟩ | left
    · exact opensNone exchange List.mem_cons_self handle opens
    · exact inductionHypothesis
        (fun other member => opensNone other (List.mem_cons_of_mem _ member)) left

/-- Nothing is left of what comes first, if there was no reason for it. -/
theorem append (first : OnlyLastLeft (fun _ => False) sent)
    (second : OnlyLastLeft reason later) : OnlyLastLeft reason (sent ++ later) := by
  intro handle left
  rcases (leftOpen_append_iff sent later handle).mp left with ⟨early, _⟩ | late
  · exact (first handle early).1.elim
  · obtain ⟨because, earlier, opening, rfl, opens⟩ := second handle late
    exact ⟨because, sent ++ earlier, opening, (List.append_assoc _ _ _).symm, opens⟩

theorem mono {also : UInt32 → Prop} (only : OnlyLastLeft reason sent)
    (implied : ∀ handle, reason handle → also handle) : OnlyLastLeft also sent :=
  fun handle left => (only handle left).imp_left (implied handle)

end OnlyLastLeft

namespace UsedUp

variable {reason also : UInt32 → Prop} {handle : UInt32} {sent : List Exchange}

/-- A session that is opened and used up leaves nothing behind, or only itself. -/
theorem onlyLastLeft (usedUp : UsedUp reason handle sent) (opening : Exchange)
    (opens : opening.Opens handle) : OnlyLastLeft reason (opening :: sent) := by
  intro other left
  rcases left with ⟨opensOther, kept⟩ | left
  · obtain rfl := opens.unique opensOther
    cases usedUp with
    | unused because => exact ⟨because, [], opening, rfl, opens⟩
    | ended exchange later ends others => exact absurd ends (kept exchange List.mem_cons_self)
  · cases usedUp with
    | unused because => exact left.elim
    | ended exchange later ends others =>
      rcases left with ⟨opensLater, _⟩ | left
      · exact absurd opensLater (ends.not_opens other)
      · obtain ⟨because, earlier, last, rfl, opensLast⟩ := others other left
        exact ⟨because, opening :: exchange :: earlier, last, rfl, opensLast⟩

theorem mono (usedUp : UsedUp reason handle sent)
    (implied : ∀ handle, reason handle → also handle) : UsedUp also handle sent := by
  cases usedUp with
  | unused because => exact .unused (implied handle because)
  | ended exchange later ends others => exact .ended exchange later ends (others.mono implied)

end UsedUp

end TrustedPlatform

import TrustedPlatform.Client.Random
import TrustedPlatform.Proofs.Client.Inquiry

/-!
# Random bytes, chunk by chunk

A module may bring fewer random bytes than it was asked for, and is asked again for those that are
missing.  What such a conversation is like is said once, by `Draws`, one request after the other;
whatever a module answers, random bytes are drawn in this way (`Client.run_randomChunks`).  Every
chunk that is taken shortens what is missing, so that the requests come to an end
(`Draws.length_le`).

* `Client.random_gathers`: a module is asked for what is missing and for no more; the bytes are all
  that it brought, and as many as wanted; the first answer that cannot be taken ends everything.
-/

set_option autoImplicit false

namespace TrustedPlatform

def Command.randomBytes (wanted : Nat) : Command where
  ordinal := .getRandom
  parameters := Bytes.bigEndian 4 wanted

def randomBytes (answer : Except Fault Bytes) : Except Fault Bytes :=
  (Command.randomBytes 0).value Decoder.sized answer

/-- Random bytes are held against how many are wanted: none and too many will not do. -/
def checkChunk (wanted : Nat) (chunk : Bytes) : Except Fault Bytes :=
  if chunk = [] then .error (.malformed .noRandomBytes)
  else if wanted < chunk.length then
    .error (.malformed (.tooManyRandomBytes chunk.length wanted))
  else .ok chunk

def takeChunk (wanted : Nat) (answer : Except Fault Bytes) : Except Fault Bytes :=
  randomBytes answer >>= checkChunk wanted

section Chunks

variable (wanted : Nat) (answer : Except Fault Bytes)

theorem takeChunk_of_fault (fault : Fault) (failed : randomBytes answer = .error fault) :
    takeChunk wanted answer = .error fault := by
  rw [takeChunk, failed]
  rfl

theorem takeChunk_of_brought (chunk : Bytes) (brought : randomBytes answer = .ok chunk) :
    takeChunk wanted answer = checkChunk wanted chunk := by
  rw [takeChunk, brought]
  rfl

theorem checkChunk_of_tooMany (chunk : Bytes) (tooMany : wanted < chunk.length) :
    checkChunk wanted chunk =
      .error (.malformed (.tooManyRandomBytes chunk.length wanted)) := by
  have isSome : chunk ≠ [] := by
    intro nothing
    simp [nothing] at tooMany
  rw [checkChunk, if_neg isSome, if_pos tooMany]

/-- The chunks that are taken have between one byte and as many as wanted. -/
theorem takeChunk_eq_ok_iff (chunk : Bytes) :
    takeChunk wanted answer = .ok chunk ↔
      randomBytes answer = .ok chunk ∧ 1 ≤ chunk.length ∧ chunk.length ≤ wanted := by
  cases brought : randomBytes answer with
  | error fault => simp [takeChunk_of_fault wanted answer fault brought]
  | ok bytes =>
    rw [takeChunk_of_brought wanted answer bytes brought]
    constructor
    · intro taken
      unfold checkChunk at taken
      split at taken
      · cases taken
      · rename_i isSome
        split at taken
        · cases taken
        · rename_i fits
          cases taken
          exact ⟨rfl, List.length_pos_iff.mpr isSome, Nat.le_of_not_lt fits⟩
    · rintro ⟨same, isSome, fits⟩
      cases same
      rw [checkChunk, if_neg (List.length_pos_iff.mp isSome), if_neg (Nat.not_lt.mpr fits)]

end Chunks

namespace Client

def nextChunk (missing : Nat) : Nat := min missing largestChunk

def chunkRequest (missing : Nat) : Bytes := (Command.randomBytes (nextChunk missing)).plainFrame

theorem length_chunkRequest (missing : Nat) : (chunkRequest missing).length < Bytes.capacity 4 := by
  unfold chunkRequest Command.plainFrame
  rw [Request.length_frame]
  simp only [Command.randomBytes, Bytes.length_bigEndian]
  decide

end Client

open Client

/-- What drawing random bytes is like when so many are missing: what is sent, and the outcome. -/
inductive Draws : Nat → List Exchange → Except Fault Bytes → Prop where
  | done : Draws 0 [] (.ok [])
  | fails (missing : Nat) (answer : Except Fault Bytes) (fault : Fault) (wants : 0 < missing)
      (failed : takeChunk (nextChunk missing) answer = .error fault) :
      Draws missing [⟨chunkRequest missing, answer⟩] (.error fault)
  | brings (missing : Nat) (answer : Except Fault Bytes) (chunk : Bytes) (rest : List Exchange)
      (outcome : Except Fault Bytes) (wants : 0 < missing)
      (brought : takeChunk (nextChunk missing) answer = .ok chunk)
      (draws : Draws (missing - chunk.length) rest outcome) :
      Draws missing (⟨chunkRequest missing, answer⟩ :: rest) (outcome.map (chunk ++ ·))

def gathered (sent : List Exchange) : Bytes :=
  sent.flatMap fun exchange => (randomBytes exchange.answer).toOption.getD []

theorem gathered_cons (request : Bytes) (answer : Except Fault Bytes) (chunk : Bytes)
    (rest : List Exchange) (brought : randomBytes answer = .ok chunk) :
    gathered (⟨request, answer⟩ :: rest) = chunk ++ gathered rest := by
  unfold gathered
  rw [List.flatMap_cons, brought]
  rfl

namespace Draws

variable {missing : Nat} {sent : List Exchange} {outcome : Except Fault Bytes}

/-- Every chunk has a byte at least, so there are no more requests than bytes missing. -/
theorem length_le (draws : Draws missing sent outcome) : sent.length ≤ missing := by
  induction draws with
  | done => exact Nat.le_refl 0
  | fails missing _ _ wants _ => exact wants
  | brings missing answer chunk rest _ wants brought _ inductionHypothesis =>
    obtain ⟨_, isSome, _⟩ := (takeChunk_eq_ok_iff _ _ _).mp brought
    rw [List.length_cons]
    omega

/-- What is drawn is all that was brought, and no less than was missing. -/
theorem whole (draws : Draws missing sent outcome) (bytes : Bytes) (success : outcome = .ok bytes) :
    bytes.length = missing ∧ bytes = gathered sent := by
  induction draws generalizing bytes with
  | done =>
    cases success
    exact ⟨rfl, rfl⟩
  | fails _ _ _ _ _ => cases success
  | brings missing answer chunk rest others _ brought _ inductionHypothesis =>
    cases others with
    | error fault => cases success
    | ok remaining =>
      cases success
      obtain ⟨length, same⟩ := inductionHypothesis remaining rfl
      obtain ⟨found, _, fits⟩ := (takeChunk_eq_ok_iff _ _ _).mp brought
      have within : nextChunk missing ≤ missing := Nat.min_le_left _ _
      constructor
      · rw [List.length_append, length]
        omega
      · rw [gathered_cons _ _ _ _ found, same]

theorem split (early late : List Exchange) (draws : Draws missing (early ++ late) outcome)
    (more : late ≠ []) :
    ∃ others, Draws (missing - (gathered early).length) late others ∧
      outcome = others.map (gathered early ++ ·) := by
  induction early generalizing missing outcome with
  | nil => exact ⟨outcome, draws, by cases outcome <;> rfl⟩
  | cons exchange early inductionHypothesis =>
    generalize together : exchange :: early ++ late = sent at draws
    cases draws with
    | done => cases together
    | fails _ answer fault _ _ =>
      obtain ⟨rfl, nothing⟩ := List.cons.inj together
      exact absurd (List.append_eq_nil_iff.mp nothing).2 more
    | brings _ answer chunk rest others _ brought draws =>
      obtain ⟨rfl, rfl⟩ := List.cons.inj together
      obtain ⟨last, drawn, same⟩ := inductionHypothesis draws
      obtain ⟨found, _, _⟩ := (takeChunk_eq_ok_iff _ _ _).mp brought
      rw [gathered_cons _ _ _ _ found]
      refine ⟨last, ?_, ?_⟩
      · rw [List.length_append, ← Nat.sub_sub]
        exact drawn
      · rw [same]
        cases last with
        | error fault => rfl
        | ok bytes => simp [Except.map]

theorem failed_last (draws : Draws missing sent outcome) (fault : Fault)
    (failed : outcome = .error fault) :
    ∃ early last, sent = early ++ [last] ∧
      takeChunk (nextChunk (missing - (gathered early).length)) last.answer = .error fault := by
  induction draws with
  | done => cases failed
  | fails missing answer _ _ refused =>
    cases failed
    exact ⟨[], _, rfl, refused⟩
  | brings missing answer chunk rest others _ brought _ inductionHypothesis =>
    cases others with
    | ok bytes => cases failed
    | error other =>
      cases failed
      obtain ⟨early, last, rfl, refused⟩ := inductionHypothesis rfl
      obtain ⟨found, _, _⟩ := (takeChunk_eq_ok_iff _ _ _).mp brought
      refine ⟨⟨chunkRequest missing, answer⟩ :: early, last, rfl, ?_⟩
      rw [gathered_cons _ _ _ _ found, List.length_append, ← Nat.sub_sub]
      exact refused

/-- Any of the requests asks for what is missing.  Its answer is taken, or ends everything. -/
theorem position (early late : List Exchange) (exchange : Exchange)
    (draws : Draws missing (early ++ exchange :: late) outcome) :
    exchange.request = chunkRequest (missing - (gathered early).length) ∧
      ((∃ chunk, takeChunk (nextChunk (missing - (gathered early).length)) exchange.answer =
          .ok chunk) ∨
        ∃ fault, takeChunk (nextChunk (missing - (gathered early).length)) exchange.answer =
          .error fault ∧ late = [] ∧ outcome = .error fault) := by
  obtain ⟨others, drawn, same⟩ := draws.split early (exchange :: late) (List.cons_ne_nil _ _)
  generalize missing - (gathered early).length = left at drawn ⊢
  cases drawn with
  | fails _ answer fault _ failed =>
    subst same
    exact ⟨rfl, Or.inr ⟨fault, failed, rfl, rfl⟩⟩
  | brings _ answer chunk rest others _ brought _ => exact ⟨rfl, Or.inl ⟨chunk, brought⟩⟩

end Draws

/-- How random bytes are gathered from a module that may answer whatever it likes. -/
structure Gathers (count : Nat) (unreached : Fault → Prop) (sent : List Exchange)
    (outcome : Except Fault Bytes) : Prop where
  few : sent.length ≤ count
  -- Every request is for what is still missing, or for the most that is asked for at once.
  asks : ∀ early exchange late, sent = early ++ exchange :: late →
    exchange.request =
      (Command.randomBytes (min (count - (gathered early).length) largestChunk)).plainFrame
  -- Every chunk that is taken has a byte at least, and no more than it was asked for.
  takes : ∀ early exchange late, sent = early ++ exchange :: late →
    (late ≠ [] ∨ ∃ bytes, outcome = .ok bytes) →
    ∃ chunk, randomBytes exchange.answer = .ok chunk ∧ 1 ≤ chunk.length ∧
      chunk.length ≤ min (count - (gathered early).length) largestChunk
  whole : ∀ bytes, outcome = .ok bytes → bytes.length = count ∧ bytes = gathered sent
  nothing : ∀ early exchange late, sent = early ++ exchange :: late →
    randomBytes exchange.answer = .ok [] →
    late = [] ∧ outcome = .error (.malformed .noRandomBytes)
  tooMany : ∀ early exchange late chunk, sent = early ++ exchange :: late →
    randomBytes exchange.answer = .ok chunk →
    min (count - (gathered early).length) largestChunk < chunk.length →
    late = [] ∧ outcome = .error (.malformed (.tooManyRandomBytes chunk.length
      (min (count - (gathered early).length) largestChunk)))
  fails : ∀ early exchange late fault, sent = early ++ exchange :: late →
    randomBytes exchange.answer = .error fault → late = [] ∧ outcome = .error fault
  only : ∀ fault, outcome = .error fault →
    (0 < count ∧ sent = [] ∧ unreached fault) ∨
      ∃ early last, sent = early ++ [last] ∧
        takeChunk (min (count - (gathered early).length) largestChunk) last.answer = .error fault

namespace Gathers

theorem of_unreached (count : Nat) (unreached : Fault → Prop) (fault : Fault)
    (wants : 0 < count) (isUnreached : unreached fault) :
    Gathers count unreached [] (.error fault) where
  few := Nat.zero_le count
  asks early exchange late split := by simp at split
  takes early exchange late split := by simp at split
  whole bytes success := by cases success
  nothing early exchange late split := by simp at split
  tooMany early exchange late chunk split := by simp at split
  fails early exchange late fault split := by simp at split
  only other failed := by
    cases failed
    exact Or.inl ⟨wants, rfl, isUnreached⟩

theorem of_draws {count : Nat} {sent : List Exchange} {outcome : Except Fault Bytes}
    (unreached : Fault → Prop) (draws : Draws count sent outcome) :
    Gathers count unreached sent outcome := by
  -- An answer that is not taken ends everything, with the fault that it was not taken for.
  have refused : ∀ early exchange late fault, sent = early ++ exchange :: late →
      takeChunk (nextChunk (count - (gathered early).length)) exchange.answer = .error fault →
      late = [] ∧ outcome = .error fault := by
    intro early exchange late fault split failed
    subst split
    obtain ⟨_, ⟨chunk, taken⟩ | ⟨other, same, last, ends⟩⟩ := draws.position early late exchange
    · rw [failed] at taken
      cases taken
    · rw [failed] at same
      cases same
      exact ⟨last, ends⟩
  constructor
  · exact draws.length_le
  · intro early exchange late split
    subst split
    exact (draws.position early late exchange).1
  · intro early exchange late split goesOn
    subst split
    obtain ⟨_, ⟨chunk, taken⟩ | ⟨fault, _, last, ends⟩⟩ := draws.position early late exchange
    · exact ⟨chunk, (takeChunk_eq_ok_iff _ _ _).mp taken⟩
    · rcases goesOn with more | ⟨bytes, success⟩
      · exact absurd last more
      · rw [ends] at success
        cases success
  · exact draws.whole
  · intro early exchange late split brought
    exact refused early exchange late _ split (takeChunk_of_brought _ _ [] brought)
  · intro early exchange late chunk split brought tooMany
    apply refused early exchange late _ split
    rw [takeChunk_of_brought _ _ chunk brought]
    exact checkChunk_of_tooMany _ chunk tooMany
  · intro early exchange late fault split failed
    exact refused early exchange late fault split (takeChunk_of_fault _ _ fault failed)
  · intro fault failed
    exact Or.inr (draws.failed_last fault failed)

end Gathers

namespace Client

variable {σ : Type} [Channel σ]

theorem randomChunk_eq (wanted : Nat) :
    (randomChunk wanted : Action Fault (Client σ) Bytes) =
      ask (Command.randomBytes wanted) Decoder.sized >>= fun chunk =>
        Action.ofExcept (checkChunk wanted chunk) := by
  apply congrArg (ask (Command.randomBytes wanted) Decoder.sized >>= ·)
  funext chunk
  unfold checkChunk
  by_cases nothing : chunk = []
  · simp only [nothing, List.isEmpty_nil, if_true]
    rfl
  · by_cases tooMany : wanted < chunk.length
    · simp only [List.isEmpty_iff, nothing, tooMany, if_true, if_false]
      rfl
    · simp only [List.isEmpty_iff, nothing, tooMany, if_false]
      rfl

theorem run_randomChunk (missing : Nat) (client : Client σ) (answer : Except Fault Bytes)
    (link : Link σ)
    (transmitted : (Link.transmit (chunkRequest missing)).run client.link = (answer, link)) :
    (randomChunk (nextChunk missing)).run client =
      (takeChunk (nextChunk missing) answer, { client with link }) := by
  have asked := run_ask (Command.randomBytes (nextChunk missing)) Decoder.sized client answer link
    rfl (length_chunkRequest missing) transmitted
  have same : (Command.randomBytes (nextChunk missing)).value Decoder.sized answer =
      randomBytes answer := rfl
  rw [randomChunk_eq, Action.run_bind, asked, same, takeChunk]
  cases randomBytes answer with
  | error fault => rfl
  | ok chunk => rfl

/-- As long as the next request can be sent, random bytes are drawn, whatever is answered. -/
theorem run_randomChunks (missing chunks : Nat) (enough : missing ≤ chunks)
    (client : Client (Tapped σ)) (ready : client.link.Ready) :
    ∃ sent outcome link,
      (randomChunks missing chunks).run client = (outcome, { client with link }) ∧
      link.record = client.link.record ++ sent ∧ Draws missing sent outcome := by
  induction chunks generalizing missing client with
  | zero =>
    obtain rfl := Nat.le_zero.mp enough
    exact ⟨[], .ok [], client.link, rfl, (List.append_nil _).symm, .done⟩
  | succ chunks inductionHypothesis =>
    rw [randomChunks]
    by_cases nothing : missing = 0
    · subst nothing
      exact ⟨[], .ok [], client.link, rfl, (List.append_nil _).symm, .done⟩
    · rw [if_neg nothing]
      have wants := Nat.pos_of_ne_zero nothing
      cases transmitted : (Link.transmit (chunkRequest missing)).run client.link with
      | mk answer link =>
        have exchanged := Link.exchanges _ _ _ _ transmitted ready
        have asked := run_randomChunk missing client answer link transmitted
        change ∃ sent outcome last, (randomChunk (nextChunk missing) >>= _).run client = _ ∧ _
        rw [Action.run_bind, asked]
        cases taken : takeChunk (nextChunk missing) answer with
        | error fault =>
          exact ⟨_, _, link, rfl, exchanged.recorded, .fails missing answer fault wants taken⟩
        | ok chunk =>
          obtain ⟨brought, isSome, _⟩ := (takeChunk_eq_ok_iff _ _ _).mp taken
          obtain ⟨response, arrived⟩ := Command.received_of_value _ _ _ _ brought
          obtain ⟨rest, others, last, ran, recorded, draws⟩ :=
            inductionHypothesis (missing - chunk.length) (by omega) { client with link }
              (exchanged.ready response arrived)
          refine ⟨⟨chunkRequest missing, answer⟩ :: rest, others.map (chunk ++ ·), last, ?_, ?_,
            .brings missing answer chunk rest others wants taken draws⟩
          · dsimp only
            rw [Action.run_bind_pure _ (chunk ++ ·) _ _ _ ran]
          · rw [recorded, exchanged.recorded, List.append_assoc]
            rfl

theorem run_random_of_stuck (count : Nat) (wants : 0 < count) (client : Client (Tapped σ))
    (fault : Fault) (stuck : client.link.Stuck fault) :
    ∃ link, (random count).run client = (.error fault, { client with link }) ∧
      link.record = client.link.record := by
  obtain ⟨rest, rfl⟩ := Nat.exists_eq_succ_of_ne_zero (Nat.pos_iff_ne_zero.mp wants)
  cases transmitted : (Link.transmit (chunkRequest (rest + 1))).run client.link with
  | mk answer link =>
    obtain ⟨rfl, same⟩ := Link.unsent_of_stuck _ _ _ _ transmitted fault stuck
    have asked := run_randomChunk (rest + 1) client _ link transmitted
    refine ⟨link, ?_, same⟩
    change (randomChunk (nextChunk (rest + 1)) >>= _).run client = _
    rw [Action.run_bind, asked]
    rfl

/-- Whatever a module answers, random bytes are gathered: no more is asked for than is missing, and
what comes back is as long as wanted, or a fault. -/
theorem random_gathers (count : Nat) (client : Client (Tapped σ)) :
    ∃ sent outcome link,
      (random count).run client = (outcome, { client with link }) ∧
      link.record = client.link.record ++ sent ∧
      Gathers count client.link.Stuck sent outcome := by
  by_cases stuck : 0 < count ∧ ∃ fault, client.link.Stuck fault
  · obtain ⟨wants, fault, isStuck⟩ := stuck
    obtain ⟨link, ran, same⟩ := run_random_of_stuck count wants client fault isStuck
    exact ⟨[], .error fault, link, ran, by rw [same, List.append_nil],
      .of_unreached count _ fault wants isStuck⟩
  · by_cases wants : 0 < count
    · have ready : client.link.Ready := fun fault isStuck => stuck ⟨wants, fault, isStuck⟩
      obtain ⟨sent, outcome, link, ran, recorded, draws⟩ :=
        run_randomChunks count count (Nat.le_refl count) client ready
      exact ⟨sent, outcome, link, ran, recorded, .of_draws _ draws⟩
    · obtain rfl := Nat.eq_zero_of_not_pos wants
      exact ⟨[], .ok [], client.link, rfl, (List.append_nil _).symm, .of_draws _ .done⟩

end Client

end TrustedPlatform

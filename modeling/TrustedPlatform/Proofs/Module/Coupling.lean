import TrustedPlatform.Proofs.Client.Opening
import TrustedPlatform.Proofs.Module.Vault

/-!
# A session on both sides

A session that its holder can use is held by an honest module, too, with the same even nonce and the
same secret (`Vault.Holds`).  The module finds the trailer of a command under such a session right,
the holder takes its answer, and then both go on with the session or both are done with it:
`Vault.Holds.concludes`.  In the same way the two agree on a session that is opened
(`Vault.Answers.opens`).
-/

set_option autoImplicit false

namespace TrustedPlatform

namespace Session

/-- Two states of a session that its module cannot tell apart. -/
structure Alike (session other : Session) : Prop where
  handle : other.handle = session.handle
  binding : other.binding = session.binding
  nonceEven : other.nonceEven = session.nonceEven
  seenEven : other.seenEven = session.seenEven
  status : other.status = session.status

theorem Draw.alike {session after : Session} {nonces rest : NonceSource} {nonce : Digest}
    (draw : session.Draw nonces nonce after rest) : session.Alike after :=
  ⟨draw.handle_eq, draw.binding_eq, draw.nonceEven_eq, draw.seenEven_eq, draw.status_eq⟩

theorem Draw.alike_spent {session after : Session} {nonces rest : NonceSource} {nonce : Digest}
    (draw : session.Draw nonces nonce after rest) : session.Alike after.spent :=
  ⟨draw.handle_eq, draw.binding_eq, draw.nonceEven_eq, draw.seenEven_eq, draw.status_eq⟩

end Session

/-- What the module keeps of a session agrees with what its holder knows. -/
structure Hosted.Mirrors (hosted : Hosted) (session : Session) : Prop where
  nonceEven : hosted.nonceEven = session.nonceEven
  shared : hosted.shared? = session.binding.shared?
  used : ∀ nonce ∈ session.seenEven, nonce ∈ hosted.usedEven

namespace Hosted.Mirrors

variable {hosted : Hosted} {session other : Session}

theorem alike (mirrors : hosted.Mirrors session) (same : session.Alike other) :
    hosted.Mirrors other where
  nonceEven := by rw [same.nonceEven, mirrors.nonceEven]
  shared := by rw [same.binding, mirrors.shared]
  used := by
    rw [same.seenEven]
    exact mirrors.used

theorem advanced (mirrors : hosted.Mirrors session) (received : ResponseTrailer) :
    (hosted.advanced received.nonceEven).Mirrors (session.advanced received) where
  nonceEven := rfl
  shared := mirrors.shared
  used := by
    intro nonce member
    rcases List.mem_cons.mp member with rfl | seen
    · exact List.mem_cons_self
    · exact List.mem_cons_of_mem _ (mirrors.used nonce seen)

end Hosted.Mirrors

namespace Vault

def Holds (vault : Vault) (session : Session) : Prop :=
  ∃ hosted, vault.sessions session.handle = some hosted ∧ hosted.Mirrors session

/-- A session was moved out of the module in a blob. -/
def Keeps (vault : Vault) (blob : Bytes) (session : Session) : Prop :=
  ∃ hosted, vault.saved blob = some hosted ∧ hosted.Mirrors session

theorem Holds.alike {vault : Vault} {session other : Session} (holds : vault.Holds session)
    (same : session.Alike other) : vault.Holds other := by
  obtain ⟨hosted, kept, mirrors⟩ := holds
  rw [← same.handle] at kept
  exact ⟨hosted, kept, mirrors.alike same⟩

theorem sessions_put (vault : Vault) (handle : UInt32) (hosted? : Option Hosted) :
    (vault.put handle hosted?).sessions handle = hosted? := if_pos rfl

theorem sessions_put_of_ne (vault : Vault) (handle other : UInt32) (hosted? : Option Hosted)
    (differ : other ≠ handle) : (vault.put handle hosted?).sessions other = vault.sessions other :=
  if_neg differ

end Vault

/-- The secret lent with a session is what the module has for the entity concerned. -/
def SessionUse.Entitled (use : SessionUse) (vault : Vault) (command : Command) : Prop :=
  match use.session.kind with
  | .oiap =>
    use.secret = vault.commandSecret command.ordinal command.handles command.parameters
  | .osap entity => use.secret = vault.entitySecret entity

namespace Command

/-- A command has the handles, the outputs and the coverage that modules expect of it. -/
structure Standard (command : Command) : Prop where
  handles : command.handles.length = command.ordinal.handleCount
  outputs : command.outputHandles = command.ordinal.outputCount
  digests : command.digestsHandles = decide (command.ordinal = .loadKey)

def request (command : Command) (use : SessionUse) (parameters : Bytes) (nonceOdd : Digest) :
    Request :=
  ⟨command.ordinal, command.handles, parameters, [command.trailer use parameters nonceOdd]⟩

def plainRequest (command : Command) : Request :=
  ⟨command.ordinal, command.handles, command.parameters, []⟩

def saving (handle : UInt32) : Command := { ordinal := .saveAuthContext, handles := [handle] }

def loading (blob : Bytes) : Command where
  ordinal := .loadAuthContext
  parameters := Bytes.bigEndian 4 blob.length ++ blob
  outputHandles := 1

theorem reads_frame (command : Command) (use : SessionUse) (parameters : Bytes)
    (nonceOdd : Digest) (handles : command.handles.length = command.ordinal.handleCount) :
    Request.Reads (command.frame use parameters nonceOdd)
      (command.request use parameters nonceOdd) :=
  ⟨⟨.requestOneTrailer, rfl, rfl⟩, handles⟩

theorem reads_plainFrame (command : Command)
    (handles : command.handles.length = command.ordinal.handleCount) :
    Request.Reads command.plainFrame command.plainRequest :=
  ⟨⟨.request, rfl, rfl⟩, handles⟩

/-- The module's authorization of a response covers what the client takes it to cover. -/
theorem Standard.outputDigest_eq {command : Command} (standard : command.Standard)
    (reply : Reply) :
    command.outputDigest reply = Secret.responseDigest ResultCode.success command.ordinal
      (Vault.covered command.ordinal reply) := by
  unfold outputDigest authorizedBody Vault.covered
  rw [standard.digests]
  by_cases older : command.ordinal = .loadKey
  · rw [if_pos older, decide_eq_true older, if_pos rfl]
  · rw [if_neg older, decide_eq_false older, if_neg (by decide)]

theorem read_refusal (command : Command) (expected : Nat) (code : UInt32)
    (failed : code ≠ ResultCode.success) :
    command.read expected (.ok (Vault.refusal code)) = .error (.refused command.ordinal code) := by
  have short : (Response.frame ⟨.response, code, []⟩).length < Bytes.capacity 4 := by
    rw [Response.length_frame]
    simp [headerSize, Bytes.capacity]
  exact command.read_of_refused expected _ ⟨.response, code, []⟩
    ((Response.parse_eq_ok_iff _ _).mpr ⟨rfl, short, rfl⟩) failed

theorem value_refusal {α : Type} (command : Command) (decoder : Decoder α) (code : UInt32)
    (failed : code ≠ ResultCode.success) :
    command.value decoder (.ok (Vault.refusal code)) = .error (.refused command.ordinal code) := by
  unfold value
  rw [command.read_refusal 0 code failed]
  rfl

end Command

theorem Hosted.Mirrors.key_eq {hosted : Hosted} {use : SessionUse} {vault : Vault}
    {command : Command} {parameters : Bytes} (mirrors : hosted.Mirrors use.session)
    (entitled : use.Entitled vault command)
    (isSealed : command.sealedParameters (some use) = .ok parameters) (nonceOdd : Digest) :
    hosted.key vault (command.request use parameters nonceOdd) =
      use.session.binding.key use.secret := by
  unfold Hosted.key Binding.key
  rw [mirrors.shared]
  unfold SessionUse.Entitled Session.kind at entitled
  cases bound : use.session.binding with
  | oiap =>
    rw [bound] at entitled
    unfold Command.sealedParameters at isSealed
    cases masked : command.newSecret with
    | none =>
      rw [masked] at isSealed
      obtain rfl := Except.ok.inj isSealed
      exact entitled.symm
    | some secret =>
      rw [masked] at isSealed
      dsimp only at isSealed
      rw [bound] at isSealed
      cases isSealed
  | osap entity shared => rfl

namespace Vault

/-- What an answer to a command leaves of its session and of what the module keeps: both sides have
the session, or neither has.  Nothing else is lost. -/
structure Turns (vault : Vault) (session : Session) (next : Vault) (left : Session) : Prop where
  handle : left.handle = session.handle
  held : left.status = .active → next.Holds left
  ended : left.status ≠ .active → next.sessions left.handle = none
  present : left.status ≠ .suspended
  others : ∀ handle, handle ≠ session.handle → next.sessions handle = vault.sessions handle
  saved : next.saved = vault.saved
  rejected : next.rejected = vault.rejected

section Commands

variable {vault next : Vault} {use : SessionUse} {command : Command} {parameters response : Bytes}
  {nonceOdd : Digest}

theorem Holds.proves (holds : vault.Holds use.session) (entitled : use.Entitled vault command)
    (isSealed : command.sealedParameters (some use) = .ok parameters) :
    vault.Proves (command.request use parameters nonceOdd)
      (command.trailer use parameters nonceOdd) := by
  obtain ⟨hosted, kept, mirrors⟩ := holds
  refine ⟨hosted, kept, ?_⟩
  rw [mirrors.key_eq entitled isSealed, mirrors.nonceEven]
  rfl

theorem Performs.accepted {hosted : Hosted} {reply : Reply} {nonceEven : Digest} {other : Session}
    (performs : vault.Performs (command.request use parameters nonceOdd)
      (command.trailer use parameters nonceOdd) hosted reply nonceEven next)
    (mirrors : hosted.Mirrors use.session) (same : use.session.Alike other)
    (standard : command.Standard) (entitled : use.Entitled vault command)
    (isSealed : command.sealedParameters (some use) = .ok parameters) :
    ({ use with session := other } : SessionUse).Accepted command nonceOdd
      (.ok (vault.acceptance (command.request use parameters nonceOdd) hosted
        (command.trailer use parameters nonceOdd) reply nonceEven)) reply
      (vault.proof (command.request use parameters nonceOdd) hosted
        (command.trailer use parameters nonceOdd) reply nonceEven) where
  framed := rfl
  fits := performs.fits
  handles := performs.outputs.trans standard.outputs.symm
  accepts :=
    { isNew := fun seen => performs.isNew (mirrors.used nonceEven (same.seenEven ▸ seen))
      proven := by
        unfold proof
        dsimp only
        rw [mirrors.key_eq entitled isSealed, same.binding, standard.outputDigest_eq]
        rfl }

theorem turns_of_refused (vault : Vault) {session other : Session} (same : session.Alike other) :
    vault.Turns session (vault.put session.handle none) other.abort where
  handle := same.handle
  held := fun opened => nomatch opened
  ended := fun _ => if_pos same.handle
  present := fun suspended => nomatch suspended
  others := fun handle differ => sessions_put_of_ne vault _ handle none differ
  saved := rfl
  rejected := rfl

/-- After a command was carried out, the session goes on on both sides or on neither. -/
theorem Performs.turns {hosted : Hosted} {reply : Reply} {nonceEven : Digest} {other : Session}
    (performs : vault.Performs (command.request use parameters nonceOdd)
      (command.trailer use parameters nonceOdd) hosted reply nonceEven next)
    (mirrors : hosted.Mirrors use.session) (same : use.session.Alike other)
    (active : use.session.status = .active) :
    vault.Turns use.session next
      (other.advanced (vault.proof (command.request use parameters nonceOdd) hosted
        (command.trailer use parameters nonceOdd) reply nonceEven)) := by
  have sessions : ∀ handle, next.sessions handle = (vault.put use.session.handle
      (if use.continueSession then some (hosted.advanced nonceEven) else none)).sessions handle :=
    fun handle => congrFun performs.sessions handle
  have kept : next.sessions other.handle =
      if use.continueSession then some (hosted.advanced nonceEven) else none := by
    rw [sessions, same.handle, sessions_put]
  have status : (other.advanced (vault.proof (command.request use parameters nonceOdd) hosted
      (command.trailer use parameters nonceOdd) reply nonceEven)).status =
        if use.continueSession then .active else .closed := by
    rw [← active, ← same.status]
    rfl
  have advanced := (mirrors.alike same).advanced (vault.proof
    (command.request use parameters nonceOdd) hosted
    (command.trailer use parameters nonceOdd) reply nonceEven)
  have others : ∀ handle, handle ≠ use.session.handle →
      next.sessions handle = vault.sessions handle := by
    intro handle differ
    rw [sessions, sessions_put_of_ne vault _ handle _ differ]
  cases goesOn : use.continueSession with
  | true =>
    rw [goesOn] at kept status
    exact ⟨same.handle, fun _ => ⟨_, kept, advanced⟩, fun isOver => absurd status isOver,
      fun suspended => (nomatch status.symm.trans suspended), others, performs.saved,
      performs.rejected⟩
  | false =>
    rw [goesOn] at kept status
    exact ⟨same.handle, fun opened => (nomatch status.symm.trans opened), fun _ => kept,
      fun suspended => (nomatch status.symm.trans suspended), others, performs.saved,
      performs.rejected⟩

/-- Whatever an honest module answers to a command under a session that it holds, its holder
understands, and they agree on what becomes of the session. -/
theorem Holds.concludes (holds : vault.Holds use.session) (active : use.session.status = .active)
    (standard : command.Standard) (entitled : use.Entitled vault command)
    (isSealed : command.sealedParameters (some use) = .ok parameters) (other : Session)
    (same : use.session.Alike other)
    (answers : vault.Answers (command.request use parameters nonceOdd) response next) :
    ∃ outcome left,
      ({ use with session := other } : SessionUse).conclude command nonceOdd (.ok response) =
        (outcome, left) ∧
      vault.Turns use.session next left ∧ left.issuedOdd = other.issuedOdd ∧
      ∀ fault, outcome = .error fault →
        (∃ code, Refuses response code ∧ fault = .refused command.ordinal code) ∧
        next.commandSecret = vault.commandSecret ∧ next.entitySecret = vault.entitySecret := by
  -- The trailer is right, so the command is refused with it or carried out.
  rcases answers.of_trailer rfl (holds.proves entitled isSealed) with
    ⟨code, failed, rfl, rfl⟩ | ⟨hosted, reply, nonceEven, performs, rfl⟩
  · refine ⟨.error (.refused command.ordinal code), other.abort, ?_, vault.turns_of_refused same,
      rfl, ?_⟩
    · unfold SessionUse.conclude
      rw [command.read_refusal 1 code failed]
    · rintro _ ⟨⟩
      exact ⟨⟨code, ⟨failed, rfl⟩, rfl⟩, rfl, rfl⟩
  · obtain ⟨found, kept, mirrors⟩ := holds
    have held : vault.sessions use.session.handle = some hosted := performs.held
    rw [kept] at held
    obtain rfl := Option.some.inj held
    have accepted := performs.accepted mirrors same standard entitled isSealed
    exact ⟨.ok reply, _, SessionUse.conclude_of_accepted _ _ _ _ _ _ accepted,
      performs.turns mirrors same active, rfl, fun _ failed => nomatch failed⟩

end Commands

section Plain

variable {vault next : Vault} {response : Bytes}

/-- When a session is asked for, the answer opens one on both sides or on neither. -/
theorem Answers.opens (kind : SessionKind) (secret : Secret) (setupOdd : Digest)
    (known : ∀ entity, kind = .osap entity → secret = vault.entitySecret entity)
    (answers : vault.Answers (kind.opening setupOdd).plainRequest response next) :
    (∃ code, Refuses response code ∧ kind.opened secret setupOdd (.ok response) =
        .error (.refused (kind.opening setupOdd).ordinal code) ∧ next = vault) ∨
      ∃ session hosted, SessionKind.Opens secret setupOdd (.ok response) kind session ∧
        hosted.Mirrors session ∧ vault.sessions session.handle = none ∧
        next = vault.put session.handle (some hosted) := by
  have plain : (kind.opening setupOdd).plainRequest.trailers = [] := rfl
  rcases answers.of_plain plain with ⟨code, failed, rfl, rfl⟩ | granted
  · refine Or.inl ⟨code, ⟨failed, rfl⟩, ?_, rfl⟩
    cases kind with
    | oiap =>
      unfold SessionKind.opened
      dsimp only
      rw [Command.value_refusal _ _ code failed]
      rfl
    | osap entity =>
      unfold SessionKind.opened
      dsimp only
      rw [Command.value_refusal _ _ code failed]
      rfl
  · right
    cases granted with
    | opensOiap handle nonceEven asked isFree =>
      cases kind with
      | oiap =>
        exact ⟨_, _, .oiap handle nonceEven rfl, ⟨rfl, rfl, fun _ seen => seen⟩, isFree, rfl⟩
      | osap entity => cases congrArg Request.ordinal asked
    | opensOsap entity other handle nonceEven setupEven asked isFree =>
      cases kind with
      | oiap => cases congrArg Request.ordinal asked
      | osap requested =>
        obtain ⟨entities, odds⟩ := List.append_inj (congrArg Request.parameters asked) (by simp)
        obtain ⟨kinds, values⟩ := List.append_inj entities (by simp)
        have sameKind := EntityKind.code_injective _ _ (Bytes.word16_injective _ _ kinds)
        have sameValue := Bytes.word32_injective _ _ values
        obtain rfl : requested = entity := by
          cases requested
          cases sameKind
          cases sameValue
          rfl
        obtain rfl : setupOdd = other := Block.ext odds
        rw [known requested rfl]
        exact ⟨_, _, .osap requested handle nonceEven setupEven rfl, ⟨rfl, rfl, fun _ seen => seen⟩,
          isFree, rfl⟩
    | saves handle hosted blob asked held isNew fits =>
      cases kind with
      | oiap => cases congrArg Request.ordinal asked
      | osap entity => cases congrArg Request.ordinal asked
    | loads handle hosted blob asked fits kept isFree =>
      cases kind with
      | oiap => cases congrArg Request.ordinal asked
      | osap entity => cases congrArg Request.ordinal asked

/-- A session was moved out of the module in a new blob. -/
structure MovesOut (vault : Vault) (session : Session) (blob : Bytes) (next : Vault) : Prop where
  keeps : next.Keeps blob session
  ended : next.sessions session.handle = none
  others : ∀ handle, handle ≠ session.handle → next.sessions handle = vault.sessions handle
  saved : ∀ other, vault.saved other ≠ none → other ≠ blob ∧ next.saved other = vault.saved other
  rejected : next.rejected = vault.rejected

/-- A session was brought back from a blob, under a handle that was free. -/
structure MovesIn (vault : Vault) (session : Session) (blob : Bytes) (next : Vault) : Prop where
  holds : next.Holds session
  others : ∀ handle, vault.sessions handle ≠ none →
    handle ≠ session.handle ∧ next.sessions handle = vault.sessions handle
  saved : ∀ other, other ≠ blob → next.saved other = vault.saved other
  rejected : next.rejected = vault.rejected

theorem Answers.saves {session : Session} (holds : vault.Holds session)
    (answers : vault.Answers (Command.saving session.handle).plainRequest response next) :
    (∃ code, Refuses response code ∧
        (Command.saving session.handle).value Decoder.sized (.ok response) =
          .error (.refused .saveAuthContext code) ∧ next = vault) ∨
      ∃ blob, (Command.saving session.handle).value Decoder.sized (.ok response) = .ok blob ∧
        vault.MovesOut session blob next := by
  have plain : (Command.saving session.handle).plainRequest.trailers = [] := rfl
  rcases answers.of_plain plain with ⟨code, failed, rfl, rfl⟩ | granted
  · exact Or.inl ⟨code, ⟨failed, rfl⟩, Command.value_refusal _ _ code failed, rfl⟩
  · right
    cases granted with
    | opensOiap _ _ asked _ => cases congrArg Request.ordinal asked
    | opensOsap _ _ _ _ _ asked _ => cases congrArg Request.ordinal asked
    | saves other hosted blob asked held isNew fits =>
      cases congrArg Request.handles asked
      obtain ⟨found, kept, mirrors⟩ := holds
      rw [kept] at held
      obtain rfl := Option.some.inj held
      refine ⟨blob, (Command.value_eq_ok_iff _ _ _ _).mpr ⟨_, rfl, ?_, rfl, ?_⟩,
        { keeps := ⟨found, if_pos rfl, mirrors⟩
          ended := vault.sessions_put _ _
          others := fun handle differ => vault.sessions_put_of_ne _ _ _ differ
          saved := fun other kept => ?_
          rejected := rfl }⟩
      · rw [Response.length_frame]
        simpa [Command.success, Nat.add_assoc] using fits
      · exact (Decoder.Reads.sized.complete_iff _ blob).mpr ⟨by omega, rfl⟩
      · have differ : other ≠ blob := by
          rintro rfl
          exact kept isNew
        exact ⟨differ, if_neg differ⟩
    | loads _ _ _ asked _ _ _ => cases congrArg Request.ordinal asked

theorem Answers.loads {session : Session} {blob : Bytes} (keeps : vault.Keeps blob session)
    (answers : vault.Answers (Command.loading blob).plainRequest response next) :
    (∃ code, Refuses response code ∧ (Command.loading blob).read 0 (.ok response) =
        .error (.refused .loadAuthContext code) ∧ next = vault) ∨
      ∃ handle digest, (Command.loading blob).read 0 (.ok response) =
          .ok (⟨[handle], []⟩, digest, []) ∧
        vault.MovesIn (session.resume handle) blob next := by
  have plain : (Command.loading blob).plainRequest.trailers = [] := rfl
  rcases answers.of_plain plain with ⟨code, failed, rfl, rfl⟩ | granted
  · exact Or.inl ⟨code, ⟨failed, rfl⟩, Command.read_refusal _ _ code failed, rfl⟩
  · right
    cases granted with
    | opensOiap _ _ asked _ => cases congrArg Request.ordinal asked
    | opensOsap _ _ _ _ _ asked _ => cases congrArg Request.ordinal asked
    | saves _ _ _ asked _ _ _ => cases congrArg Request.ordinal asked
    | loads handle hosted other asked otherFits kept isFree =>
      have parameters : Bytes.bigEndian 4 blob.length ++ blob =
          Bytes.bigEndian 4 other.length ++ other := congrArg Request.parameters asked
      obtain ⟨_, rfl⟩ := List.append_inj parameters (by simp)
      obtain ⟨found, also, mirrors⟩ := keeps
      rw [also] at kept
      obtain rfl := Option.some.inj kept
      have short : (Command.success .response ⟨[handle], []⟩ []).frame.length <
          Bytes.capacity 4 := by
        rw [Response.length_frame]
        simp [Command.success, headerSize, Bytes.capacity]
      refine ⟨handle, _, (Command.read_eq_ok_iff (Command.loading blob) 0 _ ⟨[handle], []⟩ _ []).mpr
        ⟨.response, rfl, short, rfl, rfl, rfl, rfl⟩,
        { holds := ⟨found, vault.sessions_put _ _,
            ⟨mirrors.nonceEven, mirrors.shared, mirrors.used⟩⟩
          others := fun other held => ?_
          saved := fun other differ => if_neg differ
          rejected := rfl }⟩
      have differ : other ≠ handle := by
        rintro rfl
        exact held isFree
      exact ⟨differ, vault.sessions_put_of_ne _ _ _ differ⟩

end Plain

end Vault

end TrustedPlatform

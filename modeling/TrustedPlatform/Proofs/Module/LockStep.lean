import TrustedPlatform.Channel.Script
import TrustedPlatform.Proofs.Module.Joint

/-!
# A client and an honest module never lose step

A workspace and an honest module stay in step over every call that is allowed
(`Joint.InStep.keeps`) and so over every run (`Joint.keepsStep_of_runs`): the module finds no
trailer wrong, the client finds no answer wrong, and a session is over on one side only if it is on
the other.
-/

set_option autoImplicit false

namespace TrustedPlatform

/-- What stands for a session where none is held. -/
def Session.void : Session := { Session.oiap 0 (Block.replicate 20 0) with status := .closed }

theorem Session.inactive_void : Session.void.status ≠ .active := by decide

namespace Joint

variable {σ : Type} [Channel σ] {joint : Joint σ} {next : Vault} {call : Call}
  {outcome : Except Fault Answer} {workspace : Workspace (Tapped σ)}

omit [Channel σ] in
theorem InStep.unheld (inStep : joint.InStep) :
    (joint.workspace.client.holder .void).InStep joint.vault :=
  ⟨inStep.clean, fun opened => absurd opened Session.inactive_void,
    fun _ member => absurd member List.not_mem_nil⟩

/-- What is done with one session keeps both sides in step, if it does so about that session. -/
theorem InStep.keeps_follows (inStep : joint.InStep) {name : String} {session left : Session}
    {after : Client (Tapped σ)} (found : joint.workspace.session? name = some session)
    (follows : (joint.workspace.client.holder session).Follows joint.vault (after.holder left) next)
    (trusted : Fault.Only (joint.Excuses call after) outcome) :
    joint.KeepsStep call outcome
      ⟨{ joint.workspace with client := after }.hold name left, next, joint.blobs⟩ where
  inStep := by
    refine inStep.follows follows ?_ ?_
    · exact fun other also differ foundAlso alsoActive active =>
        inStep.apart other name also session foundAlso found alsoActive active differ
    · intro suspended
      have same : left = session := follows.away suspended
      rw [same]
      exact found
  accepted := follows.rejected
  trusted := trusted
  released := by
    refine releases_put fun before foundBefore active isOver => ?_
    rw [found] at foundBefore
    obtain rfl := Option.some.inj foundBefore
    exact follows.released (fun isOver => absurd active isOver) isOver

theorem InStep.keeps_refused (inStep : joint.InStep) {name : String} {session : Session}
    {after : Client (Tapped σ)} (found : joint.workspace.session? name = some session)
    (clean : after.link.spoiled = false)
    (same : after.nonces = joint.workspace.client.nonces)
    (trusted : Fault.Only (joint.Excuses call after) outcome) :
    joint.KeepsStep call outcome
      ⟨{ joint.workspace with client := after }.hold name session, joint.vault, joint.blobs⟩ := by
  have later : joint.workspace.client.nonces.Before after.nonces := by
    rw [same]
    exact .refl _
  exact inStep.keeps_follows found (.refused (inStep.holder found) clean later) trusted

theorem InStep.keeps_lost (inStep : joint.InStep)
    (hears : joint.vault.Hears joint.workspace.client.link joint.workspace.client.link next) :
    joint.KeepsStep call (.ok .lost) ⟨joint.workspace, next, joint.blobs⟩ := by
  obtain rfl := hears.still rfl
  exact ⟨inStep, rfl, .ok _, releases_same fun _ => rfl⟩

theorem InStep.keeps_open (inStep : joint.InStep) (name : String) (kind : SessionKind)
    (secret : Secret)
    (known : ∀ entity, kind = .osap entity → secret = joint.vault.entitySecret entity)
    (ran : (Workspace.openSession name kind secret).run joint.workspace = (outcome, workspace))
    (hears : joint.vault.Hears joint.workspace.client.link workspace.client.link next) :
    joint.KeepsStep call outcome ⟨workspace, next, joint.blobs⟩ := by
  cases transmitted : (Link.transmit
      (kind.openingFrame joint.workspace.client.nonces.next.1)).run joint.workspace.client.link with
  | mk answer link =>
    have opening := Client.run_openSession kind secret joint.workspace.client answer link transmitted
    rw [Workspace.openSession, Action.run_bind, Workspace.onClient, Action.run_zoom,
      opening] at ran
    have follows := kind.opened_follows secret joint.workspace.client .void answer link joint.vault
      next known inStep.unheld transmitted
    cases found : kind.opened secret joint.workspace.client.nonces.next.1 answer with
    | error fault =>
      rw [found] at ran follows
      cases ran
      obtain ⟨stays, refusing, _⟩ := follows hears
      obtain ⟨ordinal, code, rfl, refused⟩ := refusing fault rfl
      exact ⟨inStep.follows_aside stays (fun opened => absurd opened Session.inactive_void),
        stays.rejected, .error _ (Or.inl (.refused ordinal code refused)),
        releases_same fun _ => rfl⟩
    | ok fresh =>
      rw [found] at ran follows
      cases ran
      obtain ⟨opens, _, _⟩ := follows hears
      have active := ((SessionKind.opened_eq_ok_iff _ _ _ _ _).mp found).active
      have present : fresh.status ≠ .suspended := by
        rw [active]
        decide
      exact ⟨inStep.follows opens (fun _ _ _ _ _ opened => absurd opened Session.inactive_void)
        (fun suspended => absurd suspended present), opens.rejected, .ok _,
        releases_put fun _ _ _ isOver => absurd active isOver⟩

theorem InStep.keeps_nextNonceOdd (inStep : joint.InStep) (name : String)
    (ran : (Call.nextNonceOdd name).perform.run joint.workspace = (outcome, workspace))
    (hears : joint.vault.Hears joint.workspace.client.link workspace.client.link next) :
    joint.KeepsStep (.nextNonceOdd name) outcome ⟨workspace, next, joint.blobs⟩ := by
  rw [Call.perform] at ran
  cases found : joint.workspace.session? name with
  | none =>
    rw [Workspace.run_entrust_of_lost name _ _ found] at ran
    cases ran
    exact inStep.keeps_lost hears
  | some session =>
    cases drew : session.nextNonceOdd joint.workspace.client.nonces with
    | mk drawn rest =>
      obtain ⟨left, nonces⟩ := rest
      have entrusted := Action.run_bind_pure _ (fun nonce => Answer.bytes nonce.bytes) _ _ _
        (Custody.run_nextNonceOdd joint.workspace.client session left nonces drawn drew)
      rw [Workspace.run_entrust_of_held name _ _ session left _ _ found entrusted] at ran
      cases ran
      obtain rfl := hears.still rfl
      obtain ⟨follows, harmless, _⟩ := Session.nextNonceOdd_follows
        (joint.workspace.client.holder session) joint.vault left nonces drawn
          (inStep.holder found) drew
      exact inStep.keeps_follows found follows ((harmless.map _ _).mono _ fun _ harmless =>
        Or.inl (harmless.mono fun _ unusable => ⟨session, found, unusable⟩))

theorem InStep.keeps_authorized (inStep : joint.InStep) (call : AuthorizedCall) (loan : Loan)
    (allowed : joint.Allows (.authorized call (some loan)))
    (ran : (Call.authorized call (some loan)).perform.run joint.workspace = (outcome, workspace))
    (hears : joint.vault.Hears joint.workspace.client.link workspace.client.link next) :
    joint.KeepsStep (.authorized call (some loan)) outcome ⟨workspace, next, joint.blobs⟩ := by
  cases found : joint.workspace.session? loan.name with
  | none =>
    rw [perform_of_lost call loan _ found] at ran
    cases ran
    exact inStep.keeps_lost hears
  | some session =>
    obtain ⟨answered, after, left, performed, _, _⟩ := call.perform_tells loan.name
      joint.workspace.client ⟨session, loan.secret, loan.continueSession⟩
    rw [Call.perform, Workspace.run_lend_of_held loan call.perform _ session left answered after
      found performed] at ran
    cases ran
    have holder : (joint.workspace.client.holder (SessionUse.mk session loan.secret
        loan.continueSession).session).InStep joint.vault := inStep.holder found
    obtain ⟨follows, fails⟩ := AuthorizedCall.perform_follows call holder (allowed session found)
      performed hears
    refine inStep.keeps_follows found follows fun fault failed => ?_
    rcases fails fault failed with harmless | misread
    · exact Or.inl (harmless.mono fun _ unasked => ⟨session, found, unasked⟩)
    · exact Or.inr ⟨session, found, misread⟩

theorem InStep.keeps_saveSession (inStep : joint.InStep) (name : String)
    (ran : (Call.saveSession name).perform.run joint.workspace = (outcome, workspace))
    (hears : joint.vault.Hears joint.workspace.client.link workspace.client.link next) :
    joint.KeepsStep (.saveSession name) outcome
      ⟨workspace, next, remember joint.blobs (.saveSession name) outcome⟩ := by
  rw [Call.perform] at ran
  cases found : joint.workspace.session? name with
  | none =>
    rw [Workspace.run_entrust_of_lost name _ _ found] at ran
    cases ran
    exact inStep.keeps_lost hears
  | some session =>
    cases saved : (Custody.save (σ := Tapped σ)).run ⟨joint.workspace.client, session⟩ with
    | mk moved custody =>
      obtain ⟨after, left⟩ := custody
      have entrusted := Action.run_bind_pure _ Answer.bytes _ _ _ saved
      rw [Workspace.run_entrust_of_held name _ _ session left _ _ found entrusted] at ran
      cases ran
      obtain ⟨clean, nonces, moves⟩ := Custody.save_moves joint.workspace.client after session left
        moved joint.vault next inStep.clean (inStep.held name session found) saved hears
      rcases moves with ⟨rfl, rfl, fault, rfl, harmless⟩ | ⟨blob, rfl, active, rfl, moves⟩
      · exact inStep.keeps_refused found clean nonces (.error fault (Or.inl
          (harmless.mono fun _ unusable => ⟨_, found, unusable⟩)))
      · exact ⟨inStep.movesOut found active clean nonces moves, moves.rejected, .ok _,
          releases_put fun _ _ _ _ => Or.inl moves.ended⟩

theorem InStep.keeps_loadSession (inStep : joint.InStep) (name : String) (blob : Bytes)
    (known : joint.blobs name = some blob)
    (ran : (Call.loadSession name blob).perform.run joint.workspace = (outcome, workspace))
    (hears : joint.vault.Hears joint.workspace.client.link workspace.client.link next) :
    joint.KeepsStep (.loadSession name blob) outcome ⟨workspace, next, joint.blobs⟩ := by
  rw [Call.perform] at ran
  cases found : joint.workspace.session? name with
  | none =>
    rw [Workspace.run_entrust_of_lost name _ _ found] at ran
    cases ran
    exact inStep.keeps_lost hears
  | some session =>
    cases loaded : (Custody.load (σ := Tapped σ) blob).run ⟨joint.workspace.client, session⟩ with
    | mk moved custody =>
      obtain ⟨after, left⟩ := custody
      have entrusted := Action.run_bind_pure _ (fun _ => Answer.nothing) _ _ _ loaded
      rw [Workspace.run_entrust_of_held name _ _ session left _ _ found entrusted] at ran
      cases ran
      -- The blob that is given is the one that this session was moved out in.
      have kept : session.status = .suspended → joint.vault.Keeps blob session := by
        intro suspended
        obtain ⟨other, also, keeps⟩ := inStep.kept name session found suspended
        rw [known] at also
        rwa [Option.some.inj also]
      obtain ⟨clean, nonces, harmless, moves⟩ := Custody.load_moves joint.workspace.client after
        session left blob moved joint.vault next inStep.clean kept loaded hears
      have trusted : Fault.Only (joint.Excuses (.loadSession name blob) after)
          (moved.map fun _ => Answer.nothing) :=
        (harmless.map _ _).mono _ fun _ harmless =>
          Or.inl (harmless.mono fun _ unloadable => ⟨session, found, unloadable⟩)
      rcases moves with ⟨rfl, rfl⟩ | ⟨handle, suspended, rfl, moves⟩
      · exact inStep.keeps_refused found clean nonces trusted
      · exact ⟨inStep.movesIn found suspended known clean nonces moves, moves.rejected, trusted,
          releases_put fun _ _ _ isOver => absurd rfl isOver⟩

theorem InStep.keeps (inStep : joint.InStep) {call : Call} {last : Joint σ}
    (steps : joint.Steps call outcome last) : joint.KeepsStep call outcome last := by
  cases steps with
  | serves next allowed hears =>
    generalize ran : call.perform.run joint.workspace = result at *
    obtain ⟨outcome, workspace⟩ := result
    cases call with
    | openOiap name =>
      rw [Call.perform_openOiap] at ran
      exact inStep.keeps_open name .oiap .wellKnown (fun _ same => nomatch same) ran hears
    | openOsap name entity secret =>
      rw [Call.perform_openOsap] at ran
      refine inStep.keeps_open name (.osap entity) secret ?_ ran hears
      rintro _ ⟨⟩
      exact allowed
    | nextNonceOdd name => exact inStep.keeps_nextNonceOdd name ran hears
    | saveSession name => exact inStep.keeps_saveSession name ran hears
    | loadSession name blob => exact inStep.keeps_loadSession name blob allowed ran hears
    | authorized call loan? =>
      cases loan? with
      | none => exact allowed.elim
      | some loan => exact inStep.keeps_authorized call loan allowed ran hears
    | terminate name => exact allowed.elim
    | plain call => exact allowed.elim

theorem InStep.runs (inStep : joint.InStep) {history : List (Call × Except Fault Answer)}
    {last : Joint σ} (runs : joint.Runs history last) :
    last.InStep ∧ last.vault.rejected = joint.vault.rejected := by
  -- A run is extended at its end: both sides are in step before the last call, and so after it.
  induction runs with
  | nothing => exact ⟨inStep, rfl⟩
  | snoc history between last call outcome _ steps inductionHypothesis =>
    obtain ⟨stillInStep, accepted⟩ := inductionHypothesis
    have keeps := stillInStep.keeps steps
    exact ⟨keeps.inStep, keeps.accepted.trans accepted⟩

omit [Channel σ] in
theorem inStep_start (client : Client (Tapped σ)) (vault : Vault)
    (clean : client.link.spoiled = false) : (start client vault).InStep where
  clean := clean
  issued := fun _ _ found => nomatch found
  held := fun _ _ found => nomatch found
  apart := fun _ _ _ _ found => nomatch found
  kept := fun _ _ found => nomatch found
  distinct := fun _ _ _ _ found => nomatch found

/-- Whatever calls were made, the next one keeps client and module in step, and the module has found
no trailer wrong. -/
theorem keepsStep_of_runs (client : Client (Tapped σ)) (vault : Vault)
    (history : List (Call × Except Fault Answer)) (between last : Joint σ) (call : Call)
    (outcome : Except Fault Answer) (clean : client.link.spoiled = false)
    (runs : (start client vault).Runs history between)
    (steps : between.Steps call outcome last) :
    between.KeepsStep call outcome last ∧ last.vault.rejected = vault.rejected := by
  obtain ⟨inStep, accepted⟩ := (inStep_start client vault clean).runs runs
  have keeps := inStep.keeps steps
  exact ⟨keeps, keeps.accepted.trans accepted⟩

theorem Steps.of_run (ran : call.perform.run joint.workspace = (outcome, workspace))
    (allowed : joint.Allows call)
    (hears : joint.vault.Hears joint.workspace.client.link workspace.client.link next) :
    joint.Steps call outcome ⟨workspace, next, remember joint.blobs call outcome⟩ := by
  have steps := Steps.serves next allowed
  rw [ran] at steps
  exact steps hears

namespace Rehearsal

/-! A module opens a session for a counter and counts.  The session is moved out and back, and a
nonce is drawn ahead.  When the module is to count again it is busy first, so a new session is
opened in the place of the old one. -/

def even (number : UInt8) : Digest := Block.replicate 20 number

def odd (number : Nat) : Digest := Block.replicate 20 (.ofNat (100 + number))

def entity : Entity := ⟨.counter, 5⟩

def loan : Loan := ⟨"counter", .wellKnown, true⟩

def increment : Call := .authorized (.incrementCounter 5) (some loan)

def command : Command := { ordinal := .incrementCounter, parameters := Bytes.word32 5 }

def use (session : Session) : SessionUse := ⟨session, loan.secret, loan.continueSession⟩

def frame (session : Session) (nonceOdd : Digest) : Bytes :=
  command.frame (use session) command.parameters nonceOdd

def request (session : Session) (nonceOdd : Digest) : Request :=
  command.request (use session) command.parameters nonceOdd

def trailer (session : Session) (nonceOdd : Digest) : RequestTrailer :=
  command.trailer (use session) command.parameters nonceOdd

def count (number : UInt32) : CounterValue := ⟨Block.replicate 4 0, number⟩

def reply (number : UInt32) : Reply := ⟨[], (count number).encode⟩

theorem decode_reply (number : UInt32) :
    (reply number).decode CounterValue.decode = .ok (count number) :=
  (CounterValue.reads.complete_iff _ _).mpr rfl

theorem length_frame (session : Session) (nonceOdd : Digest) :
    (frame session nonceOdd).length < Bytes.capacity 4 := by
  unfold frame
  rw [Command.length_frame]
  decide

def fresh (handle : UInt32) (number : UInt8) (setupOdd : Digest) : Session :=
  .osap handle (even number) entity .wellKnown (even (number + 1)) setupOdd

def hosted (number : UInt8) (setupOdd : Digest) : Hosted where
  nonceEven := even number
  shared? := some (Session.sharedSecret .wellKnown (even (number + 1)) setupOdd)
  usedEven := [even number, even (number + 1)]

def drawn (session : Session) (nonce : Digest) : Session :=
  { session with armedOdd := some nonce, issuedOdd := nonce :: session.issuedOdd }

def accepting (vault : Vault) (session : Session) (kept : Hosted) (nonceOdd nonceEven : Digest)
    (number : UInt32) : Bytes :=
  vault.acceptance (request session nonceOdd) kept (trailer session nonceOdd) (reply number)
    nonceEven

def counted (vault : Vault) (session drawn : Session) (kept : Hosted) (nonceOdd nonceEven : Digest)
    (number : UInt32) : Session :=
  drawn.spent.advanced (vault.proof (request session nonceOdd) kept (trailer session nonceOdd)
    (reply number) nonceEven)

/-- A session is open on both sides, and a nonce is there for the next request. -/
structure Shared (client : Client (Tapped Script)) (vault : Vault) (session drawn : Session)
    (kept : Hosted) (nonceOdd : Digest) (nonces : NonceSource) : Prop where
  held : vault.sessions session.handle = some kept
  mirrors : kept.Mirrors session
  active : session.status = .active
  bound : session.kind = .osap entity
  secret : vault.entitySecret entity = .wellKnown
  draw : session.Draw client.nonces nonceOdd drawn nonces

section

variable {client after : Client (Tapped Script)} {vault : Vault} {session drawn : Session}
  {kept : Hosted} {nonceOdd nonceEven : Digest} {nonces : NonceSource} {number : UInt32}

theorem performs (held : vault.sessions session.handle = some kept)
    (isNew : nonceEven ∉ kept.usedEven) :
    vault.Performs (request session nonceOdd) (trailer session nonceOdd) kept (reply number)
      nonceEven (vault.put session.handle (some (kept.advanced nonceEven))) where
  held := held
  isNew := isNew
  outputs := rfl
  fits := by
    rw [Vault.acceptance, Response.length_frame, Command.success, List.length_append,
      List.flatMap_singleton, ResponseTrailer.length_encode]
    simp [reply, CounterValue.encode, headerSize, ResponseTrailer.size, Bytes.capacity]
  sessions := rfl
  saved := rfl
  rejected := rfl

theorem Shared.entitled (shared : Shared client vault session drawn kept nonceOdd nonces) :
    (use session).Entitled vault command := by
  unfold SessionUse.Entitled use
  dsimp only
  rw [shared.bound]
  exact shared.secret.symm

theorem Shared.proves (shared : Shared client vault session drawn kept nonceOdd nonces) :
    vault.Proves (request session nonceOdd) (trailer session nonceOdd) :=
  Vault.Holds.proves ⟨kept, shared.held, shared.mirrors⟩ shared.entitled rfl

theorem Shared.answers (shared : Shared client vault session drawn kept nonceOdd nonces)
    (isNew : nonceEven ∉ kept.usedEven) :
    vault.Answers (request session nonceOdd)
      (accepting vault session kept nonceOdd nonceEven number)
      (vault.put session.handle (some (kept.advanced nonceEven))) :=
  .performs (trailer session nonceOdd) kept _ _ _ rfl shared.proves (performs shared.held isNew)

theorem Shared.refuses (shared : Shared client vault session drawn kept nonceOdd nonces) :
    vault.Answers (request session nonceOdd) (Vault.refusal ResultCode.retry)
      (vault.put session.handle none) := by
  refine .refuses ResultCode.retry (by decide) fun other member => ?_
  obtain rfl := List.mem_singleton.mp member
  exact shared.proves

theorem Shared.executeOnce_ok (shared : Shared client vault session drawn kept nonceOdd nonces)
    (number : UInt32) (isNew : nonceEven ∉ kept.usedEven)
    (answered : ((Link.transmit (frame session nonceOdd)).run client.link).1 =
      .ok (accepting vault session kept nonceOdd nonceEven number)) :
    (Dispatch.executeOnce command).run ⟨client, some (use session)⟩ =
      (.ok (reply number),
        ⟨{ client with
            nonces, link := ((Link.transmit (frame session nonceOdd)).run client.link).2 },
          some (use (counted vault session drawn kept nonceOdd nonceEven number))⟩) :=
  Dispatch.executeOnce_of_performed ⟨rfl, rfl, rfl⟩ shared.entitled rfl shared.active shared.draw
    (length_frame session nonceOdd) shared.mirrors (performs shared.held isNew)
    (Prod.ext answered rfl)

theorem run_increment (workspace : Workspace (Tapped Script)) (session left : Session)
    (held : workspace.session? "counter" = some session)
    (executed : (Dispatch.execute command).run ⟨workspace.client, some (use session)⟩ =
      (.ok (reply number), ⟨after, some (use left)⟩)) :
    increment.perform.run workspace =
      (.ok (.counter (count number)), { workspace with client := after }.hold "counter" left) := by
  have performed : (AuthorizedCall.perform (.incrementCounter 5)).run
      ⟨workspace.client, some (use session)⟩ =
        (.ok (.counter (count number)), ⟨after, some (use left)⟩) := by
    unfold command at executed
    rw [AuthorizedCall.perform_eq, AuthorizedCall.prepare, pure_bind, Action.run_bind, executed]
    dsimp only [AuthorizedCall.finish]
    rw [decode_reply]
    rfl
  exact Workspace.run_lend_of_held loan _ workspace session left _ after held performed

theorem allows_increment {joint : Joint Script}
    (held : joint.workspace.session? "counter" = some session)
    (shared : Shared client joint.vault session drawn kept nonceOdd nonces) :
    joint.Allows increment := by
  intro other found command prepared made
  obtain rfl : session = other := Option.some.inj (held.symm.trans found)
  cases made
  exact shared.entitled

end

/-! What the module has at first, and after each of its answers. -/

def blob : Bytes := [1, 2, 3]

def kept : Hosted := hosted 1 (odd 0)

def idle : Vault :=
  ⟨fun _ => none, fun _ => none, fun _ _ _ => .wellKnown, fun _ => .wellKnown, 0⟩

def opened : Vault := idle.put 7 (some kept)

def advanced : Vault := opened.put 7 (some (kept.advanced (even 3)))

def movedOut : Vault := (advanced.put 7 none).store blob (some (kept.advanced (even 3)))

def movedIn : Vault := (movedOut.put 8 (some (kept.advanced (even 3)))).store blob none

def ended : Vault := movedIn.put 8 none

def reopened : Vault := ended.put 9 (some (hosted 4 (odd 3)))

def final : Vault := reopened.put 9 (some ((hosted 4 (odd 3)).advanced (even 6)))

/-! The session, when it can be used. -/

def first : Session := fresh 7 1 (odd 0)

def second : Session := counted opened first (drawn first (odd 1)) kept (odd 1) (even 3) 6

def armed : Session := drawn (second.suspend.resume 8) (odd 2)

def renewed : Session := fresh 9 4 (odd 3)

def last : Session :=
  counted reopened renewed (drawn renewed (odd 4)) (hosted 4 (odd 3)) (odd 4) (even 6) 7

/-! What the module sends. -/

def opening (handle : UInt32) (number : UInt8) : Bytes :=
  (Command.success .response
    ⟨[], Bytes.word32 handle ++ (even number).bytes ++ (even (number + 1)).bytes⟩ []).frame

def saving : Bytes :=
  (Command.success .response ⟨[], Bytes.bigEndian 4 blob.length ++ blob⟩ []).frame

def loading : Bytes := (Command.success .response ⟨[8], []⟩ []).frame

def script : Script := .ofEntries [
  .answer (opening 7 1),
  .answer (accepting opened first kept (odd 1) (even 3) 6),
  .answer saving,
  .answer loading,
  .answer (Vault.refusal ResultCode.retry),
  .answer (opening 9 4),
  .answer (accepting reopened renewed (hosted 4 (odd 3)) (odd 4) (even 6) 7)]

def client : Client (Tapped Script) := .fresh ⟨script, none, []⟩ ⟨odd, 0⟩ 2

def afterOpening : Joint Script where
  workspace := ((Call.openOsap "counter" entity .wellKnown).perform.run (.fresh client)).2
  vault := opened
  blobs _ := none

theorem opens :
    (start client idle).Steps (.openOsap "counter" entity .wellKnown) (.ok .nothing) afterOpening :=
  .of_run rfl rfl
    ⟨[⟨SessionKind.openingFrame (.osap entity) (odd 0), .ok (opening 7 1)⟩], rfl,
      .answers _ _ _ (SessionKind.opening (.osap entity) (odd 0)).plainRequest _ _ []
        (Command.reads_plainFrame _ rfl)
        (.grants _ _ (.opensOsap entity (odd 0) 7 (even 1) (even 2) rfl rfl)) (.done _)⟩

def afterCount : Joint Script where
  workspace := { afterOpening.workspace with
    client.link := ((Link.transmit (frame first (odd 1))).run afterOpening.workspace.client.link).2
    client.nonces := ⟨odd, 2⟩ }.hold "counter" second
  vault := advanced
  blobs _ := none

theorem counts : afterOpening.Steps increment (.ok (.counter (count 6))) afterCount := by
  have shared : Shared afterOpening.workspace.client opened first (drawn first (odd 1)) kept (odd 1)
      ⟨odd, 2⟩ :=
    ⟨rfl, ⟨rfl, rfl, fun _ seen => seen⟩, rfl, rfl, rfl, .fresh rfl (by decide)⟩
  have isNew : even 3 ∉ kept.usedEven := by decide
  have once := shared.executeOnce_ok 6 isNew rfl
  have upTo := Dispatch.executeUpTo_of_final command
    (Dispatch.furtherAttempts command afterOpening.workspace.client) _ _ _ once
      (fun ⟨_, failed, _⟩ => nomatch failed)
  have executed := Dispatch.run_execute command ⟨afterOpening.workspace.client, some (use first)⟩
  dsimp only at executed
  rw [upTo] at executed
  exact .of_run (run_increment afterOpening.workspace first second rfl executed)
    (allows_increment rfl shared)
    ⟨[⟨frame first (odd 1), _⟩], rfl, .answers _ _ _ (request first (odd 1)) _ _ []
      (command.reads_frame _ _ _ rfl) (shared.answers isNew) (.done _)⟩

def afterSaving : Joint Script where
  workspace := ((Call.saveSession "counter").perform.run afterCount.workspace).2
  vault := movedOut
  blobs := remember (fun _ => none) (.saveSession "counter") (.ok (.bytes blob))

theorem saves : afterCount.Steps (.saveSession "counter") (.ok (.bytes blob)) afterSaving :=
  .of_run rfl trivial
    ⟨[⟨(Command.saving 7).plainFrame, .ok saving⟩], rfl,
      .answers _ _ _ (Command.saving 7).plainRequest _ _ [] (Command.reads_plainFrame _ rfl)
        (.grants _ _ (.saves 7 (kept.advanced (even 3)) blob rfl rfl rfl (by decide))) (.done _)⟩

def afterLoading : Joint Script where
  workspace := ((Call.loadSession "counter" blob).perform.run afterSaving.workspace).2
  vault := movedIn
  blobs := afterSaving.blobs

theorem loads : afterSaving.Steps (.loadSession "counter" blob) (.ok .nothing) afterLoading :=
  .of_run rfl rfl
    ⟨[⟨(Command.loading blob).plainFrame, .ok loading⟩], rfl,
      .answers _ _ _ (Command.loading blob).plainRequest _ _ [] (Command.reads_plainFrame _ rfl)
        (.grants _ _ (.loads 8 (kept.advanced (even 3)) blob rfl (by decide) rfl rfl)) (.done _)⟩

def afterDraw : Joint Script where
  workspace := ((Call.nextNonceOdd "counter").perform.run afterLoading.workspace).2
  vault := movedIn
  blobs := afterLoading.blobs

theorem arms :
    afterLoading.Steps (.nextNonceOdd "counter") (.ok (.bytes (odd 2).bytes)) afterDraw :=
  .of_run rfl trivial ⟨[], rfl, .done _⟩

def busy : Client (Tapped Script) := { afterDraw.workspace.client with
  link := ((Link.transmit (frame armed (odd 2))).run afterDraw.workspace.client.link).2 }

def again : Client (Tapped Script) :=
  (Dispatch.replaceSession.run ⟨busy, some (use armed.spent.abort)⟩).2.client

def afterRetry : Joint Script where
  workspace := { afterDraw.workspace with
    client := { again with
      link := ((Link.transmit (frame renewed (odd 4))).run again.link).2
      nonces := ⟨odd, 5⟩ } }.hold "counter" last
  vault := final
  blobs := afterDraw.blobs

theorem countsAgain : afterDraw.Steps increment (.ok (.counter (count 7))) afterRetry := by
  have shared : Shared afterDraw.workspace.client movedIn armed armed (kept.advanced (even 3))
      (odd 2) ⟨odd, 3⟩ :=
    ⟨rfl, ⟨rfl, rfl, fun _ seen => seen⟩, rfl, rfl, rfl, .armed _ rfl⟩
  have anew : Shared again reopened renewed (drawn renewed (odd 4)) (hosted 4 (odd 3)) (odd 4)
      ⟨odd, 5⟩ :=
    ⟨rfl, ⟨rfl, rfl, fun _ seen => seen⟩, rfl, rfl, rfl, .fresh rfl (by decide)⟩
  have isNew : even 6 ∉ (hosted 4 (odd 3)).usedEven := by decide
  have refused : (Dispatch.executeOnce command).run ⟨afterDraw.workspace.client, some (use armed)⟩ =
      (.error (.refused .incrementCounter ResultCode.retry),
        ⟨busy, some (use armed.spent.abort)⟩) :=
    Dispatch.executeOnce_of_refused rfl rfl shared.draw (length_frame armed (odd 2)) (by decide) rfl
  have replaced : (Dispatch.replaceSession (σ := Tapped Script)).run
      ⟨busy, some (use armed.spent.abort)⟩ = (.ok (), ⟨again, some (use renewed)⟩) := rfl
  have once := anew.executeOnce_ok 7 isNew rfl
  have further : Dispatch.furtherAttempts command afterDraw.workspace.client = 1 := rfl
  have executed := Dispatch.run_execute command ⟨afterDraw.workspace.client, some (use armed)⟩
  rw [further, Dispatch.executeUpTo_of_busy command 0 _ _ _ refused rfl, Action.run_bind,
    replaced] at executed
  dsimp only at executed
  rw [Dispatch.executeUpTo_zero, once] at executed
  refine .of_run (run_increment afterDraw.workspace armed last rfl executed)
    (allows_increment rfl shared)
    ⟨[⟨frame armed (odd 2), _⟩, ⟨SessionKind.openingFrame (.osap entity) (odd 3), _⟩,
      ⟨frame renewed (odd 4), _⟩], rfl, ?_⟩
  exact .answers _ _ _ (request armed (odd 2)) _ _ _ (command.reads_frame _ _ _ rfl) shared.refuses
    (.answers _ _ _ (SessionKind.opening (.osap entity) (odd 3)).plainRequest _ _ _
      (Command.reads_plainFrame _ rfl)
      (.grants _ _ (.opensOsap entity (odd 3) 9 (even 4) (even 5) rfl rfl))
      (.answers _ _ _ (request renewed (odd 4)) _ _ [] (command.reads_frame _ _ _ rfl)
        (anew.answers isNew) (.done _)))

def history : List (Call × Except Fault Answer) := [
  (.openOsap "counter" entity .wellKnown, .ok .nothing),
  (increment, .ok (.counter (count 6))),
  (.saveSession "counter", .ok (.bytes blob)),
  (.loadSession "counter" blob, .ok .nothing),
  (.nextNonceOdd "counter", .ok (.bytes (odd 2).bytes))]

theorem runs : (start client idle).Runs history afterDraw :=
  .snoc _ afterLoading _ _ _
    (.snoc _ afterSaving _ _ _
      (.snoc _ afterCount _ _ _
        (.snoc _ afterOpening _ _ _ (.snoc [] _ _ _ _ .nothing opens) counts) saves) loads) arms

/-- An honest module counts twice for a client.  In between the session is moved out and back, and
the second time the module is busy at first. -/
theorem keepsStep_of_script :
    (start client idle).Runs history afterDraw ∧
      afterDraw.Steps increment (.ok (.counter (count 7))) afterRetry ∧
      afterDraw.KeepsStep increment (.ok (.counter (count 7))) afterRetry ∧
      afterRetry.vault.rejected = 0 :=
  ⟨runs, countsAgain,
    keepsStep_of_runs client idle history afterDraw afterRetry _ _ rfl runs countsAgain⟩

end Rehearsal

end Joint

end TrustedPlatform

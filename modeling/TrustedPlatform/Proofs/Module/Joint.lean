import TrustedPlatform.Proofs.Module.Calling
import TrustedPlatform.Proofs.Module.Moving

/-!
# A workspace and an honest module

A workspace and an honest module are in step if the module holds every session that can be used, and
keeps in a blob every session that was moved out (`Joint.InStep`).  What becomes of one session
leaves all others in step: `Joint.InStep.put`.
-/

set_option autoImplicit false

namespace TrustedPlatform

/-- A workspace and a module, and the blob that the session under each name was moved out in. -/
structure Joint (σ : Type) where
  workspace : Workspace (Tapped σ)
  vault : Vault
  blobs : String → Option Bytes

namespace Joint

variable {σ : Type}

def start (client : Client (Tapped σ)) (vault : Vault) : Joint σ :=
  ⟨.fresh client, vault, fun _ => none⟩

/-- The calls in question: sessions are opened, commands are sent under them, nonces are drawn
ahead, sessions are moved out and brought back from their own blobs.  The caller knows the secrets
that are asked for. -/
def Allows (joint : Joint σ) : Call → Prop
  | .openOiap _ => True
  | .openOsap _ entity secret => secret = joint.vault.entitySecret entity
  | .nextNonceOdd _ => True
  | .saveSession _ => True
  | .loadSession name blob => joint.blobs name = some blob
  | .authorized call (some loan) => ∀ session, joint.workspace.session? loan.name = some session →
    ∀ command prepared,
      (AuthorizedCall.prepare call).run ⟨joint.workspace.client,
          some ⟨session, loan.secret, loan.continueSession⟩⟩ = (.ok command, prepared) →
        SessionUse.Entitled ⟨session, loan.secret, loan.continueSession⟩ joint.vault command
  | _ => False

def remember (blobs : String → Option Bytes) :
    Call → Except Fault Answer → String → Option Bytes
  | .saveSession name, .ok (.bytes blob) =>
    fun other => if other = name then some blob else blobs other
  | _, _ => blobs

variable [Channel σ]

/-- A call is allowed, and the module serves all that is sent for it. -/
inductive Steps (joint : Joint σ) (call : Call) : Except Fault Answer → Joint σ → Prop where
  | serves (next : Vault) (allowed : joint.Allows call)
      (hears : joint.vault.Hears joint.workspace.client.link
        (call.perform.run joint.workspace).2.client.link next) :
      Steps joint call (call.perform.run joint.workspace).1
        ⟨(call.perform.run joint.workspace).2, next,
          remember joint.blobs call (call.perform.run joint.workspace).1⟩

inductive Runs (joint : Joint σ) : List (Call × Except Fault Answer) → Joint σ → Prop where
  | nothing : Runs joint [] joint
  | snoc (history : List (Call × Except Fault Answer)) (between last : Joint σ) (call : Call)
      (outcome : Except Fault Answer) (runs : Runs joint history between)
      (steps : between.Steps call outcome last) : Runs joint (history ++ [(call, outcome)]) last

omit [Channel σ] in
/-- The module holds every session that can be used, each under a handle of its own, and keeps every
session that was moved out, each in a blob of its own. -/
structure InStep (joint : Joint σ) : Prop where
  clean : joint.workspace.client.link.spoiled = false
  issued : ∀ name session, joint.workspace.session? name = some session →
    ∀ nonce ∈ session.issuedOdd, joint.workspace.client.nonces.Gave nonce
  held : ∀ name session, joint.workspace.session? name = some session →
    session.status = .active → joint.vault.Holds session
  apart : ∀ name other first second, joint.workspace.session? name = some first →
    joint.workspace.session? other = some second → first.status = .active →
      second.status = .active → name ≠ other → first.handle ≠ second.handle
  kept : ∀ name session, joint.workspace.session? name = some session →
    session.status = .suspended →
      ∃ blob, joint.blobs name = some blob ∧ joint.vault.Keeps blob session
  distinct : ∀ name other first second, joint.workspace.session? name = some first →
    joint.workspace.session? other = some second → first.status = .suspended →
      second.status = .suspended → name ≠ other → joint.blobs name ≠ joint.blobs other

/-- A session that could be used and cannot any more is not held by the module, either, unless the
client's own source repeated a nonce. -/
def Releases (joint next : Joint σ) : Prop :=
  ∀ name session left, joint.workspace.session? name = some session → session.status = .active →
    next.workspace.session? name = some left → left.status ≠ .active →
      next.vault.sessions left.handle = none ∨ next.workspace.client.nonces.Repeated

/-- Why the module is not asked for what a call wants. -/
def Withholds (joint : Joint σ) (call : Call) (fault : Fault) : Prop :=
  match call with
  | .nextNonceOdd name | .saveSession name =>
    ∃ session, joint.workspace.session? name = some session ∧ session.Unusable fault
  | .loadSession name blob =>
    ∃ session, joint.workspace.session? name = some session ∧
      Custody.Unloadable joint.workspace.client.inventory session blob fault
  | .authorized call (some loan) => ∃ session, joint.workspace.session? loan.name = some session ∧
    call.Unasked joint.workspace.client ⟨session, loan.secret, loan.continueSession⟩ fault
  | _ => False

/-- The output of a call was accepted, but cannot be read. -/
def Misread (joint : Joint σ) (call : Call) (fault : Fault) : Prop :=
  match call with
  | .authorized call (some loan) => ∃ session, joint.workspace.session? loan.name = some session ∧
    call.Misread joint.workspace.client ⟨session, loan.secret, loan.continueSession⟩ fault
  | _ => False

/-- A fault of a call that no answer is to blame for: the module refused what it was asked last or
was not asked, or the output that was accepted cannot be read. -/
def Excuses (joint : Joint σ) (call : Call) (after : Client (Tapped σ)) (fault : Fault) : Prop :=
  fault.Harmless (joint.Withholds call) joint.workspace.client.link after.link after.nonces ∨
    joint.Misread call fault

/-- After a call both sides are in step.  The module found no trailer wrong, the client found no
answer wrong, and they agree on which sessions are over. -/
structure KeepsStep (joint : Joint σ) (call : Call) (outcome : Except Fault Answer)
    (next : Joint σ) : Prop where
  inStep : next.InStep
  accepted : next.vault.rejected = joint.vault.rejected
  trusted : Fault.Only (joint.Excuses call next.workspace.client) outcome
  released : joint.Releases next

end Joint

namespace Workspace

variable {σ : Type}

theorem session?_hold_cases (workspace : Workspace (Tapped σ)) (client : Client (Tapped σ))
    (name other : String) (left session : Session)
    (held : ({ workspace with client }.hold name left).session? other = some session) :
    (other = name ∧ session = left) ∨
      (other ≠ name ∧ workspace.session? other = some session) := by
  by_cases same : other = name
  · rw [same, session?_hold] at held
    exact Or.inl ⟨same, (Option.some.inj held).symm⟩
  · rw [session?_hold_of_ne _ _ _ _ same] at held
    exact Or.inr ⟨same, held⟩

end Workspace

namespace Joint

variable {σ : Type} {joint : Joint σ} {after : Client (Tapped σ)} {next : Vault}

theorem InStep.holder (inStep : joint.InStep) {name : String} {session : Session}
    (held : joint.workspace.session? name = some session) :
    (joint.workspace.client.holder session).InStep joint.vault :=
  ⟨inStep.clean, inStep.held name session held, inStep.issued name session held⟩

/-- A session is put under a name.  The others stay as they were, and have neither its handle nor
its blob. -/
theorem InStep.put (inStep : joint.InStep) {name : String} {left : Session}
    {blobs : String → Option Bytes} (clean : after.link.spoiled = false)
    (later : joint.workspace.client.nonces.Before after.nonces)
    (issued : ∀ nonce ∈ left.issuedOdd, after.nonces.Gave nonce)
    (held : left.status = .active → next.Holds left)
    (kept : left.status = .suspended → ∃ blob, blobs name = some blob ∧ next.Keeps blob left)
    (present : ∀ other session, other ≠ name → joint.workspace.session? other = some session →
      session.status = .active →
        next.Holds session ∧ (left.status = .active → session.handle ≠ left.handle))
    (away : ∀ other session blob, other ≠ name → joint.workspace.session? other = some session →
      session.status = .suspended → joint.blobs other = some blob →
        joint.vault.Keeps blob session → blobs other = some blob ∧ next.Keeps blob session ∧
          (left.status = .suspended → blobs name ≠ some blob)) :
    InStep ⟨{ joint.workspace with client := after }.hold name left, next, blobs⟩ where
  clean := clean
  issued := by
    intro other session found
    rcases Workspace.session?_hold_cases _ _ _ _ _ _ found with ⟨_, rfl⟩ | ⟨_, found⟩
    · exact issued
    · exact fun nonce member => (inStep.issued other session found nonce member).later later
  held := by
    intro other session found active
    rcases Workspace.session?_hold_cases _ _ _ _ _ _ found with ⟨_, rfl⟩ | ⟨differ, found⟩
    · exact held active
    · exact (present other session differ found active).1
  apart := by
    intro one other first second holdsFirst holdsSecond firstActive secondActive differ
    rcases Workspace.session?_hold_cases _ _ _ _ _ _ holdsFirst with
      ⟨same, isLeft⟩ | ⟨notFirst, heldFirst⟩
    · rcases Workspace.session?_hold_cases _ _ _ _ _ _ holdsSecond with
        ⟨also, _⟩ | ⟨notSecond, heldSecond⟩
      · exact absurd (same.trans also.symm) differ
      · rw [isLeft] at firstActive ⊢
        exact ((present other second notSecond heldSecond secondActive).2 firstActive).symm
    · rcases Workspace.session?_hold_cases _ _ _ _ _ _ holdsSecond with
        ⟨_, isLeft⟩ | ⟨notSecond, heldSecond⟩
      · rw [isLeft] at secondActive ⊢
        exact (present one first notFirst heldFirst firstActive).2 secondActive
      · exact inStep.apart one other first second heldFirst heldSecond firstActive secondActive
          differ
  kept := by
    intro other session found suspended
    rcases Workspace.session?_hold_cases _ _ _ _ _ _ found with ⟨rfl, rfl⟩ | ⟨differ, found⟩
    · exact kept suspended
    · obtain ⟨blob, known, keeps⟩ := inStep.kept other session found suspended
      obtain ⟨stillKnown, stillKeeps, _⟩ :=
        away other session blob differ found suspended known keeps
      exact ⟨blob, stillKnown, stillKeeps⟩
  distinct := by
    -- The blob of another session is the one it had, which is not that of the session put.
    have apart : ∀ other session, other ≠ name → joint.workspace.session? other = some session →
        session.status = .suspended → left.status = .suspended → blobs name ≠ blobs other := by
      intro other session differ found suspended leftSuspended
      obtain ⟨blob, known, keeps⟩ := inStep.kept other session found suspended
      obtain ⟨stillKnown, _, unlike⟩ := away other session blob differ found suspended known keeps
      rw [stillKnown]
      exact unlike leftSuspended
    intro one other first second holdsFirst holdsSecond firstAway secondAway differ
    rcases Workspace.session?_hold_cases _ _ _ _ _ _ holdsFirst with
      ⟨same, isLeft⟩ | ⟨notFirst, heldFirst⟩
    · rcases Workspace.session?_hold_cases _ _ _ _ _ _ holdsSecond with
        ⟨also, _⟩ | ⟨notSecond, heldSecond⟩
      · exact absurd (same.trans also.symm) differ
      · rw [isLeft] at firstAway
        rw [same]
        exact apart other second notSecond heldSecond secondAway firstAway
    · rcases Workspace.session?_hold_cases _ _ _ _ _ _ holdsSecond with
        ⟨also, isLeft⟩ | ⟨notSecond, heldSecond⟩
      · rw [isLeft] at secondAway
        rw [also]
        exact (apart one first notFirst heldFirst firstAway secondAway).symm
      · obtain ⟨blob, known, keeps⟩ := inStep.kept one first heldFirst firstAway
        obtain ⟨also, knownAlso, keepsAlso⟩ := inStep.kept other second heldSecond secondAway
        have unlike := inStep.distinct one other first second heldFirst heldSecond firstAway
          secondAway differ
        rw [known, knownAlso] at unlike
        show blobs one ≠ blobs other
        rw [(away one first blob notFirst heldFirst firstAway known keeps).1,
          (away other second also notSecond heldSecond secondAway knownAlso keepsAlso).1]
        exact unlike

theorem releases_same {last : Joint σ}
    (same : ∀ name, last.workspace.session? name = joint.workspace.session? name) :
    joint.Releases last := by
  intro name before left foundBefore active foundLast isOver
  rw [same, foundBefore] at foundLast
  obtain rfl := Option.some.inj foundLast
  exact absurd active isOver

theorem releases_put {name : String} {left : Session} {blobs : String → Option Bytes}
    (ended : ∀ session, joint.workspace.session? name = some session → session.status = .active →
      left.status ≠ .active → next.sessions left.handle = none ∨ after.nonces.Repeated) :
    joint.Releases ⟨{ joint.workspace with client := after }.hold name left, next, blobs⟩ := by
  intro other before last foundBefore active foundLast isOver
  rcases Workspace.session?_hold_cases _ _ _ _ _ _ foundLast with ⟨rfl, rfl⟩ | ⟨_, foundStill⟩
  · exact ended before foundBefore active isOver
  · rw [foundBefore] at foundStill
    obtain rfl := Option.some.inj foundStill
    exact absurd active isOver

theorem holds_of_follows {before after : Holder σ} {vault next : Vault} {session : Session}
    (follows : before.Follows vault after next) (holds : vault.Holds session)
    (differ : before.session.status = .active → session.handle ≠ before.session.handle) :
    next.Holds session ∧
      (after.session.status = .active → session.handle ≠ after.session.handle) := by
  obtain ⟨hosted, kept, mirrors⟩ := holds
  have occupied : vault.sessions session.handle ≠ none := by
    rw [kept]
    exact fun empty => nomatch empty
  obtain ⟨same, apart⟩ := follows.others session.handle differ occupied
  exact ⟨⟨hosted, same.trans kept, mirrors⟩, apart⟩

theorem keeps_of_follows {before after : Holder σ} {vault next : Vault} {session : Session}
    {blob : Bytes} (follows : before.Follows vault after next) (keeps : vault.Keeps blob session) :
    next.Keeps blob session := by
  obtain ⟨hosted, kept, mirrors⟩ := keeps
  exact ⟨hosted, by rw [follows.saved]; exact kept, mirrors⟩

theorem InStep.follows (inStep : joint.InStep) {name : String} {before left : Session}
    (follows : (joint.workspace.client.holder before).Follows joint.vault (after.holder left) next)
    (apart : ∀ other session, other ≠ name → joint.workspace.session? other = some session →
      session.status = .active → before.status = .active → session.handle ≠ before.handle)
    (stays : left.status = .suspended → joint.workspace.session? name = some left) :
    InStep ⟨{ joint.workspace with client := after }.hold name left, next, joint.blobs⟩ := by
  refine inStep.put follows.inStep.clean follows.nonces follows.inStep.issued follows.inStep.held
    ?_ ?_ ?_
  · intro suspended
    obtain ⟨blob, known, keeps⟩ := inStep.kept name left (stays suspended) suspended
    exact ⟨blob, known, keeps_of_follows follows keeps⟩
  · exact fun other session differ found active => holds_of_follows follows
      (inStep.held other session found active) (apart other session differ found active)
  · intro other session blob differ found suspended known keeps
    refine ⟨known, keeps_of_follows follows keeps, fun leftSuspended => ?_⟩
    rw [← known]
    exact inStep.distinct name other left session (stays leftSuspended) found leftSuspended suspended
      differ.symm

/-- What is done with no session that is held leaves all of them in step. -/
theorem InStep.follows_aside (inStep : joint.InStep) {before left : Session}
    (follows : (joint.workspace.client.holder before).Follows joint.vault (after.holder left) next)
    (unheld : before.status ≠ .active) :
    InStep ⟨{ joint.workspace with client := after }, next, joint.blobs⟩ where
  clean := follows.inStep.clean
  issued := fun name session found nonce member =>
    (inStep.issued name session found nonce member).later follows.nonces
  held := fun name session found active => (holds_of_follows follows
    (inStep.held name session found active) fun active => absurd active unheld).1
  apart := inStep.apart
  kept := by
    intro name session found suspended
    obtain ⟨blob, known, keeps⟩ := inStep.kept name session found suspended
    exact ⟨blob, known, keeps_of_follows follows keeps⟩
  distinct := inStep.distinct

theorem InStep.movesOut (inStep : joint.InStep) {name : String} {session : Session} {blob : Bytes}
    (found : joint.workspace.session? name = some session) (active : session.status = .active)
    (clean : after.link.spoiled = false)
    (same : after.nonces = joint.workspace.client.nonces)
    (moves : joint.vault.MovesOut session blob next) :
    InStep ⟨{ joint.workspace with client := after }.hold name session.suspend, next,
      fun other => if other = name then some blob else joint.blobs other⟩ := by
  refine inStep.put clean (by rw [same]; exact .refl _) ?_ (fun opened => nomatch opened) ?_ ?_ ?_
  · rw [same]
    exact inStep.issued name session found
  · obtain ⟨hosted, kept, mirrors⟩ := moves.keeps
    exact fun _ => ⟨blob, if_pos rfl, hosted, kept, mirrors.nonceEven, mirrors.shared, mirrors.used⟩
  · intro other also differ foundAlso alsoActive
    obtain ⟨hosted, held, mirrors⟩ := inStep.held other also foundAlso alsoActive
    have unlike := inStep.apart other name also session foundAlso found alsoActive active differ
    exact ⟨⟨hosted, (moves.others _ unlike).trans held, mirrors⟩, fun opened => nomatch opened⟩
  · rintro other also kept differ _ _ known ⟨hosted, saved, mirrors⟩
    obtain ⟨unlike, stillSaved⟩ := moves.saved kept (by rw [saved]; exact fun none => nomatch none)
    refine ⟨(if_neg differ).trans known, ⟨hosted, stillSaved.trans saved, mirrors⟩, fun _ same => ?_⟩
    rw [if_pos rfl] at same
    exact unlike (Option.some.inj same).symm

theorem InStep.movesIn (inStep : joint.InStep) {name : String} {session : Session} {blob : Bytes}
    {handle : UInt32} (found : joint.workspace.session? name = some session)
    (suspended : session.status = .suspended) (known : joint.blobs name = some blob)
    (clean : after.link.spoiled = false)
    (same : after.nonces = joint.workspace.client.nonces)
    (moves : joint.vault.MovesIn (session.resume handle) blob next) :
    InStep ⟨{ joint.workspace with client := after }.hold name (session.resume handle), next,
      joint.blobs⟩ := by
  refine inStep.put clean (by rw [same]; exact .refl _) ?_ (fun _ => moves.holds)
    (fun suspended => nomatch suspended) ?_ ?_
  · rw [same]
    exact inStep.issued name session found
  · intro other also differ foundAlso alsoActive
    obtain ⟨hosted, held, mirrors⟩ := inStep.held other also foundAlso alsoActive
    obtain ⟨unlike, stillHeld⟩ :=
      moves.others also.handle (by rw [held]; exact fun none => nomatch none)
    exact ⟨⟨hosted, stillHeld.trans held, mirrors⟩, fun _ => unlike⟩
  · rintro other also kept differ foundAlso alsoSuspended knownAlso ⟨hosted, saved, mirrors⟩
    have unlike := inStep.distinct other name also session foundAlso found alsoSuspended suspended
      differ
    rw [knownAlso, known] at unlike
    have apart : kept ≠ blob := fun same => unlike (congrArg some same)
    exact ⟨knownAlso, ⟨hosted, (moves.saved kept apart).trans saved, mirrors⟩,
      fun suspended => nomatch suspended⟩

end Joint

end TrustedPlatform

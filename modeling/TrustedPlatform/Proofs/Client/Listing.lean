import TrustedPlatform.Proofs.Client.Rest
import TrustedPlatform.Proofs.Client.Tracking

/-!
# Open sessions that are listed

The sessions that are open are listed by their handles, and a handle may be issued again once its
session was ended or saved.  As long as no two open sessions have one handle, every one of them is
listed (`Workspace.Tracked`).  A call keeps it so unless it is given a session object that is open
no longer, and whose handle belongs to another that is (`Workspace.Mistakes`): what such a call
forgets by its handle is the other one.
-/

set_option autoImplicit false

namespace TrustedPlatform

namespace Later

variable {σ : Type}

def listsBut (touched : UInt32 → Prop) : Later (Client σ) where
  related before after := ∀ handle, ¬ touched handle →
    after.inventory.sessions.get? handle = before.inventory.sessions.get? handle
  refl _ _ _ := rfl
  trans := by
    intro first second third early late handle untouched
    exact (late handle untouched).trans (early handle untouched)

theorem listsBut_allowsSending [Channel σ] (touched : UInt32 → Prop) :
    (listsBut (σ := σ) touched).AllowsSending :=
  fun _ _ _ _ _ _ _ => rfl

theorem listsBut_allowsNoting (touched : UInt32 → Prop) (change : Inventory → Inventory)
    (same : ∀ inventory, (change inventory).sessions = inventory.sessions) :
    (listsBut (σ := σ) touched).AllowsNoting change := by
  intro client handle _
  dsimp only
  rw [same]

theorem listsBut_allowsRemoving (handle : UInt32) :
    (listsBut (σ := σ) (· = handle)).AllowsNoting
      fun inventory => inventory.removeSession handle := by
  intro client other differs
  dsimp only
  rw [Inventory.get?_removeSession, if_neg differs]

end Later

/-- A call forgets no session by its handle: it neither starts the module nor flushes or saves a
session without the object that stands for it. -/
def PlainCall.Spares : PlainCall → Prop
  | .startup _ => False
  | .flush _ kind => kind.isSession = false
  | .saveContext _ kind _ => kind.isSession = false
  | _ => True

theorem PlainCall.Notes.sessions_of_spares {call : PlainCall} {change : Inventory → Inventory}
    (notes : call.Notes change) (spares : call.Spares) (inventory : Inventory) :
    (change inventory).sessions = inventory.sessions := by
  cases notes with
  | flushSession handle kind isSession =>
    rw [Spares, isSession] at spares
    cases spares
  | saveContext handle kind label isSession =>
    rw [Spares, isSession] at spares
    cases spares
  | startup kind => exact spares.elim
  | _ => rfl

/-- The name under which a call that succeeds holds a session with a handle issued for it. -/
def Call.brings? : Call → Option String
  | .openOiap name => some name
  | .openOsap name _ _ => some name
  | .loadSession name _ => some name
  | _ => none

def Call.forgets? : Call → Option String
  | .terminate name => some name
  | .authorized _ loan? => loan?.map Loan.name
  | _ => none

variable {σ : Type} [Channel σ]

/-- The handles that the module issues in the course of a call, for sessions that are opened,
loaded, or opened in the place of another. -/
inductive Call.Issues (workspace : Workspace σ) : Call → UInt32 → Prop where
  | brought (call : Call) (name : String) (session : Session) (brings : call.brings? = some name)
      (succeeds : (call.perform.run workspace).1 = .ok .nothing)
      (held : (call.perform.run workspace).2.session? name = some session) :
      Issues workspace call session.handle
  | again (call : AuthorizedCall) (loan : Loan) (session : Session) (handle : UInt32)
      (held : workspace.session? loan.name = some session)
      (issued : handle ∈
        call.issued ⟨workspace.client, some ⟨session, loan.secret, loan.continueSession⟩⟩) :
      Issues workspace (.authorized call (some loan)) handle

namespace Workspace

omit [Channel σ] in
/-- A session that is open is held under a name. -/
structure Lives (workspace : Workspace σ) (name : String) (session : Session) : Prop where
  held : workspace.session? name = some session
  active : session.status = .active

/-- Every open session is listed with its kind, and no two have one handle. -/
structure Tracked (workspace : Workspace σ) : Prop where
  listed : ∀ name session, workspace.Lives name session →
    workspace.client.inventory.sessions.get? session.handle = some session.kind
  apart : ∀ name other session another, workspace.Lives name session →
    workspace.Lives other another → session.handle = another.handle → name = other

/-- A call forgets no session but by the object that stands for it, and for its sake the module
issues no handle of another open session. -/
structure Admits (workspace : Workspace σ) (call : Call) : Prop where
  spares : ∀ plain, call = .plain plain → plain.Spares
  issuesNew : ∀ handle, call.Issues workspace handle → ∀ other another,
    call.subject? ≠ some other → workspace.Lives other another → another.handle ≠ handle

/-- A call is given a session object that is open no longer, and whose handle belongs to another
that is. -/
def Mistakes (workspace : Workspace σ) (call : Call) : Prop :=
  ∃ name session other another, call.forgets? = some name ∧
    workspace.session? name = some session ∧ session.status ≠ .active ∧
    workspace.Lives other another ∧ another.handle = session.handle

omit [Channel σ] in
/-- What has to do with one name only keeps every open session listed, if it changes no entry of
another, and lists the session that it leaves under the name, with a handle of its own. -/
theorem Tracked.change {before after : Workspace σ} (tracked : before.Tracked)
    (subject? : Option String)
    (others : ∀ other, subject? ≠ some other → after.session? other = before.session? other)
    (keeps : ∀ other another, subject? ≠ some other → before.Lives other another →
      after.client.inventory.sessions.get? another.handle =
        before.client.inventory.sessions.get? another.handle)
    (own : ∀ name session, subject? = some name → after.Lives name session →
      after.client.inventory.sessions.get? session.handle = some session.kind ∧
        ∀ other another, subject? ≠ some other → before.Lives other another →
          another.handle ≠ session.handle) :
    after.Tracked := by
  have lived : ∀ other another, subject? ≠ some other → after.Lives other another →
      before.Lives other another := by
    intro other another unlike lives
    exact ⟨others other unlike ▸ lives.held, lives.active⟩
  constructor
  · intro name session lives
    by_cases named : subject? = some name
    · exact (own name session named lives).1
    · have livedBefore := lived name session named lives
      rw [keeps name session named livedBefore]
      exact tracked.listed name session livedBefore
  · intro name other session another lives livesToo same
    by_cases named : subject? = some name
    · by_cases namedToo : subject? = some other
      · exact Option.some.inj (named.symm.trans namedToo)
      · have differs := (own name session named lives).2 other another namedToo
          (lived other another namedToo livesToo)
        exact absurd same.symm differs
    · have livedBefore := lived name session named lives
      by_cases namedToo : subject? = some other
      · have differs := (own other another namedToo livesToo).2 name session named livedBefore
        exact absurd same differs
      · exact tracked.apart name other session another livedBefore
          (lived other another namedToo livesToo) same

section

variable {workspace : Workspace σ} (tracked : workspace.Tracked)

include tracked

omit [Channel σ] in
/-- A session that stays under its handle and its name stays listed, apart from the others. -/
theorem Tracked.stays {name : String} {session left : Session} {sessions : Table SessionKind}
    (lives : workspace.Lives name session) (handle : left.handle = session.handle)
    (binding : left.binding = session.binding)
    (kept : sessions.get? session.handle =
      workspace.client.inventory.sessions.get? session.handle) :
    sessions.get? left.handle = some left.kind ∧
      ∀ other another, name ≠ other → workspace.Lives other another →
        another.handle ≠ left.handle := by
  have kind : left.kind = session.kind := congrArg Binding.kind binding
  rw [handle, kept, kind]
  refine ⟨tracked.listed name session lives, fun other another differ livesToo same => differ ?_⟩
  exact tracked.apart name other session another lives livesToo same.symm

omit [Channel σ] in
theorem Tracked.setClient (client : Client σ)
    (same : ∀ handle, client.inventory.sessions.get? handle =
      workspace.client.inventory.sessions.get? handle) :
    ({ workspace with client } : Workspace σ).Tracked where
  listed name session lives := by
    rw [same]
    exact tracked.listed name session ⟨lives.held, lives.active⟩
  apart name other session another lives livesToo :=
    tracked.apart name other session another ⟨lives.held, lives.active⟩
      ⟨livesToo.held, livesToo.active⟩

omit [Channel σ] in
/-- What becomes of the session held under a name keeps every open session listed, if it changes no
entry of another, and lists what it leaves, with a handle of its own. -/
theorem Tracked.hold (name : String) (left : Session) (client : Client σ)
    (keeps : ∀ other another, name ≠ other → workspace.Lives other another →
      client.inventory.sessions.get? another.handle =
        workspace.client.inventory.sessions.get? another.handle)
    (own : left.status = .active →
      client.inventory.sessions.get? left.handle = some left.kind ∧
        ∀ other another, name ≠ other → workspace.Lives other another →
          another.handle ≠ left.handle) :
    ({ workspace with client }.hold name left).Tracked := by
  have unlike : ∀ other, some name ≠ some other → name ≠ other :=
    fun other differs same => differs (congrArg some same)
  refine tracked.change (some name) ?_ ?_ ?_
  · intro other differs
    exact session?_hold_of_ne _ name other left (unlike other differs).symm
  · intro other another differs lives
    exact keeps other another (unlike other differs) lives
  · rintro _ session ⟨⟩ lives
    obtain rfl : left = session :=
      Option.some.inj ((session?_hold _ name left).symm.trans lives.held)
    obtain ⟨listed, apart⟩ := own lives.active
    exact ⟨listed, fun other another differs => apart other another (unlike other differs)⟩

theorem tracked_openSession (name : String) (kind : SessionKind) (secret : Secret)
    (isNew : ∀ session, ((openSession name kind secret).run workspace).1 = .ok .nothing →
      ((openSession name kind secret).run workspace).2.session? name = some session →
      ∀ other another, name ≠ other → workspace.Lives other another →
        another.handle ≠ session.handle) :
    ((openSession name kind secret).run workspace).2.Tracked := by
  rcases Client.openSession_cases kind secret workspace.client with
    ⟨fault, link, nonces, opened⟩ | ⟨session, link, nonces, opened, active, isKind⟩
  · rw [run_openSession_of_error workspace name kind secret fault _ opened]
    exact tracked.setClient _ fun _ => rfl
  · rw [run_openSession_of_ok workspace name kind secret session _ opened] at isNew ⊢
    have differs := isNew session rfl (session?_hold _ name session)
    refine tracked.hold name session _ ?_ fun _ => ⟨?_, differs⟩
    · intro other another unlike lives
      simp [differs other another unlike lives]
    · simp [isKind]

theorem tracked_terminate (name : String)
    (right : ¬ workspace.Mistakes (.terminate name)) :
    ((Call.terminate name).perform.run workspace).2.Tracked := by
  cases held : workspace.session? name with
  | none =>
    rw [run_of_lost workspace (.terminate name) name rfl held]
    exact tracked
  | some session =>
    rw [run_terminate_of_held workspace name session held]
    have keeps := Client.keeps_terminate (Later.listsBut_allowsSending _).requests session
      (Later.listsBut_allowsRemoving session.handle) workspace.client
    have differs : ∀ other another, some name ≠ some other → workspace.Lives other another →
        another.handle ≠ session.handle := by
      intro other another unlike lives same
      by_cases active : session.status = .active
      · exact unlike (congrArg some
          (tracked.apart name other session another ⟨held, active⟩ lives same.symm))
      · exact right ⟨name, session, other, another, rfl, held, active, lives, same⟩
    refine tracked.change (some name) ?_ ?_ ?_
    · intro other unlike
      exact session?_drop_of_ne workspace name other fun same => unlike (congrArg some same.symm)
    · intro other another unlike lives
      exact keeps another.handle (differs other another unlike lives)
    · rintro _ left ⟨⟩ lives
      have dropped : (workspace.drop name).session? name = some left := lives.held
      rw [session?_drop] at dropped
      cases dropped

theorem tracked_nextNonceOdd (name : String) :
    ((Call.nextNonceOdd name).perform.run workspace).2.Tracked := by
  cases held : workspace.session? name with
  | none =>
    rw [run_of_lost workspace (.nextNonceOdd name) name rfl held]
    exact tracked
  | some session =>
    cases drew : session.nextNonceOdd workspace.client.nonces with
    | mk outcome rest =>
      obtain ⟨left, nonces⟩ := rest
      have ran := run_nextNonceOdd_of_held workspace name session left nonces outcome held drew
      obtain ⟨handle, binding, active⟩ := session.nextNonceOdd_leaves left _ nonces outcome drew
      rw [ran]
      exact tracked.hold name left _ (fun _ _ _ _ => rfl) fun still =>
        tracked.stays ⟨held, active still⟩ handle binding rfl

theorem tracked_saveSession (name : String) :
    ((Call.saveSession name).perform.run workspace).2.Tracked := by
  cases held : workspace.session? name with
  | none =>
    rw [run_of_lost workspace (.saveSession name) name rfl held]
    exact tracked
  | some session =>
    obtain ⟨outcome, after, left, ran, saves⟩ := run_saveSession_of_held
      (Later.listsBut_allowsSending fun _ => False) workspace name session held
    rw [ran]
    cases saves with
    | refused inactive =>
      exact tracked.hold name session _ (fun _ _ _ _ => rfl) fun active => absurd active inactive
    | failed fault after active sent =>
      exact tracked.hold name session _ (fun _ another _ _ => sent another.handle id) fun _ =>
        tracked.stays ⟨held, active⟩ rfl rfl (sent session.handle id)
    | saved blob after active sent =>
      have left : session.suspend.status ≠ .active := by simp [Session.suspend]
      refine tracked.hold name _ _ ?_ fun still => absurd still left
      intro other another unlike lives
      have differs := (tracked.stays ⟨held, active⟩ rfl rfl rfl).2 other another unlike lives
      rw [Inventory.get?_removeSession, if_neg differs]
      exact sent another.handle id

theorem tracked_loadSession (name : String) (blob : Bytes)
    (isNew : ∀ session, ((Call.loadSession name blob).perform.run workspace).1 = .ok .nothing →
      ((Call.loadSession name blob).perform.run workspace).2.session? name = some session →
      ∀ other another, name ≠ other → workspace.Lives other another →
        another.handle ≠ session.handle) :
    ((Call.loadSession name blob).perform.run workspace).2.Tracked := by
  cases held : workspace.session? name with
  | none =>
    rw [run_of_lost workspace (.loadSession name blob) name rfl held]
    exact tracked
  | some session =>
    obtain ⟨outcome, after, left, ran, loads⟩ := run_loadSession_of_held
      (Later.listsBut_allowsSending fun _ => False) workspace name session blob held
    rw [ran] at isNew ⊢
    cases loads with
    | refused unsuspended =>
      exact tracked.hold name session _ (fun _ _ _ _ => rfl) fun active =>
        tracked.stays ⟨held, active⟩ rfl rfl rfl
    | reused suspended _ =>
      exact tracked.hold name session _ (fun _ _ _ _ => rfl) fun active =>
        tracked.stays ⟨held, active⟩ rfl rfl rfl
    | failed fault after suspended _ sent =>
      exact tracked.hold name session _ (fun _ another _ _ => sent another.handle id) fun active =>
        tracked.stays ⟨held, active⟩ rfl rfl (sent session.handle id)
    | loaded handle after suspended _ sent =>
      have differs : ∀ other another, name ≠ other → workspace.Lives other another →
          another.handle ≠ handle := isNew _ rfl (session?_hold _ name (session.resume handle))
      refine tracked.hold name _ _ ?_ fun _ => ⟨?_, differs⟩
      · intro other another unlike lives
        rw [Inventory.get?_addSession, if_neg (differs other another unlike lives)]
        exact sent another.handle id
      · rw [Inventory.get?_addSession]
        exact if_pos rfl

theorem tracked_plain (call : PlainCall) (spares : call.Spares) :
    ((Call.plain call).perform.run workspace).2.Tracked := by
  have keeps := call.keeps_perform (Later.listsBut_allowsSending fun _ => False).requests
    (fun change notes => Later.listsBut_allowsNoting _ change (notes.sessions_of_spares spares))
    workspace.client
  exact tracked.setClient _ fun handle => keeps handle id

theorem tracked_unauthorized (call : AuthorizedCall) :
    ((Call.authorized call none).perform.run workspace).2.Tracked := by
  have keeps := Client.keeps_unauthorized _ (call.keeps_perform
    (Later.listsBut_allowsSending fun _ => False).requests fun change notes =>
      Later.listsBut_allowsNoting _ change fun inventory => (notes.same inventory).1)
    workspace.client
  exact tracked.setClient _ fun handle => keeps handle id

theorem tracked_authorized (call : AuthorizedCall) (loan : Loan)
    (isNew : ∀ handle, (Call.authorized call (some loan)).Issues workspace handle →
      ∀ other another, loan.name ≠ other → workspace.Lives other another → another.handle ≠ handle)
    (right : ¬ workspace.Mistakes (.authorized call (some loan))) :
    ((Call.authorized call (some loan)).perform.run workspace).2.Tracked := by
  cases held : workspace.session? loan.name with
  | none =>
    rw [run_of_lost workspace (.authorized call (some loan)) loan.name rfl held]
    exact tracked
  | some session =>
    by_cases active : session.status = .active
    · obtain ⟨answer, after, left, ran, ends⟩ :=
        run_authorized_of_held workspace call loan session held
      rw [ran]
      cases ends with
      | unprepared fault nonces left handle binding status =>
        exact tracked.hold loan.name left _ (fun _ _ _ _ => rfl) fun _ =>
          tracked.stays ⟨held, active⟩ handle binding rfl
      | repeats ahead repeated =>
        exact tracked.hold loan.name _ _ (fun _ _ _ _ => rfl) fun closed => nomatch closed
      | dispatched answer after left drew tracks =>
        have outside : ∀ other another, loan.name ≠ other → workspace.Lives other another →
            another.handle ∉ session.handle :: call.issued
              ⟨workspace.client, some ⟨session, loan.secret, loan.continueSession⟩⟩ := by
          intro other another unlike lives member
          rcases List.mem_cons.mp member with same | issued
          · exact unlike (tracked.apart loan.name other session another ⟨held, active⟩ lives
              same.symm)
          · exact isNew _ (.again call loan session _ held issued) other another unlike lives rfl
        refine tracked.hold loan.name left _ ?_ fun still => ⟨?_, ?_⟩
        · intro other another unlike lives
          exact tracks.others _ (outside other another unlike lives)
        · exact tracks.stays still (tracked.listed loan.name session ⟨held, active⟩)
        · intro other another unlike lives same
          exact outside other another unlike lives (same ▸ tracks.among)
    · obtain ⟨fault, inventory, ran, _, noted⟩ :=
        run_authorized_of_inactive workspace loan.name session held active call loan rfl
      rw [ran]
      refine tracked.hold loan.name session _ ?_ fun still => absurd still active
      intro other another unlike lives
      have differs : another.handle ≠ session.handle := fun same =>
        right ⟨loan.name, session, other, another, rfl, held, active, lives, same⟩
      rcases noted with rfl | rfl
      · rfl
      · rw [Inventory.get?_removeSession, if_neg differs]

theorem Tracked.step (call : Call) (admits : workspace.Admits call)
    (right : ¬ workspace.Mistakes call) : (call.perform.run workspace).2.Tracked := by
  cases call with
  | openOiap name =>
    rw [Call.perform_openOiap]
    refine tracked_openSession tracked name .oiap .wellKnown fun session succeeds held other another
      unlike lives => ?_
    rw [← Call.perform_openOiap] at succeeds held
    exact admits.issuesNew _ (.brought _ name session rfl succeeds held) other another
      (fun same => unlike (Option.some.inj same)) lives
  | openOsap name entity secret =>
    rw [Call.perform_openOsap]
    refine tracked_openSession tracked name (.osap entity) secret fun session succeeds held other
      another unlike lives => ?_
    rw [← Call.perform_openOsap] at succeeds held
    exact admits.issuesNew _ (.brought _ name session rfl succeeds held) other another
      (fun same => unlike (Option.some.inj same)) lives
  | terminate name => exact tracked_terminate tracked name right
  | nextNonceOdd name => exact tracked_nextNonceOdd tracked name
  | saveSession name => exact tracked_saveSession tracked name
  | loadSession name blob =>
    refine tracked_loadSession tracked name blob fun session succeeds held other another unlike
      lives => ?_
    exact admits.issuesNew _ (.brought _ name session rfl succeeds held) other another
      (fun same => unlike (Option.some.inj same)) lives
  | plain call => exact tracked_plain tracked call (admits.spares call rfl)
  | authorized call loan? =>
    cases loan? with
    | none => exact tracked_unauthorized tracked call
    | some loan =>
      refine tracked_authorized tracked call loan (fun handle issues other another unlike => ?_)
        right
      exact admits.issuesNew handle issues other another
        fun same => unlike (Option.some.inj same)

end

omit [Channel σ] in
theorem tracked_fresh (client : Client σ) : (fresh client).Tracked where
  listed _ _ lives := nomatch lives.held
  apart _ _ _ _ lives _ _ := nomatch lives.held

/-- After each call of a run that begins without sessions, every open session is listed, as long as
the module issues no handle of one and no call mistakes one for another. -/
theorem tracked_run (client : Client σ) (calls : List Call)
    (careful : (fresh client).Throughout
      (fun workspace call => workspace.Admits call ∧ ¬ workspace.Mistakes call) calls) :
    ∀ earlier later, calls = earlier ++ later → ((fresh client).run earlier).2.Tracked := by
  rintro earlier later rfl
  refine careful.before.keeps Tracked ?_ (tracked_fresh client)
  rintro workspace call ⟨admits, right⟩ tracked
  exact tracked.step call admits right

namespace Reissue

open Rehearsal (opening saving)

def client : Client Script :=
  .fresh (.ofEntries [.answer (opening 8 (List.replicate 20 1)), .answer (saving [0xaa]),
    .answer (opening 8 (List.replicate 20 2))])
    ⟨fun number => Block.replicate 20 (.ofNat number), 0⟩ 1

def calls : List Call := [.openOiap "old", .saveSession "old", .openOiap "new"]

def old : Session := (Session.oiap 8 (Block.replicate 20 1)).suspend

theorem sessions_saved : ((fresh client).run [.openOiap "old", .saveSession "old"]).2.sessions =
    [("old", old)] := rfl

theorem careful_openOiap (workspace : Workspace Script) (name : String)
    (none : ∀ held ∈ workspace.sessions, held.2.status ≠ .active) :
    workspace.Admits (.openOiap name) ∧ ¬ workspace.Mistakes (.openOiap name) := by
  refine ⟨⟨(fun _ same => nomatch same), fun _ _ other another _ lives => ?_⟩,
    fun ⟨_, _, _, _, forgets, _⟩ => nomatch forgets⟩
  exact absurd lives.active (none (other, another) (mem_of_session? lives.held))

theorem careful_saveSession (workspace : Workspace Script) (name : String) :
    workspace.Admits (.saveSession name) ∧ ¬ workspace.Mistakes (.saveSession name) := by
  refine ⟨⟨(fun _ same => nomatch same), fun handle issues => ?_⟩,
    fun ⟨_, _, _, _, forgets, _⟩ => nomatch forgets⟩
  cases issues with
  | brought _ _ _ brings => cases brings

theorem careful_calls : (fresh client).Throughout
    (fun workspace call => workspace.Admits call ∧ ¬ workspace.Mistakes call) calls := by
  have unheld : ∀ held ∈ (fresh client).sessions, held.2.status ≠ .active :=
    fun _ member => nomatch member
  have saved : ∀ held ∈ ((fresh client).run [.openOiap "old", .saveSession "old"]).2.sessions,
      held.2.status ≠ .active := by
    rw [sessions_saved]
    decide
  exact ⟨careful_openOiap _ _ unheld, careful_saveSession _ _, careful_openOiap _ _ saved, trivial⟩

/-- The session that was given the handle again is listed under it. -/
theorem tracked_of_reissue :
    (fresh client).Throughout
      (fun workspace call => workspace.Admits call ∧ ¬ workspace.Mistakes call) calls ∧
    ((fresh client).run calls).2.Tracked :=
  ⟨careful_calls, tracked_run client calls careful_calls calls [] rfl⟩

def mistaken : Call := .authorized (.incrementCounter 5) (some ⟨"old", .wellKnown, true⟩)

theorem admits_mistaken : ((fresh client).run calls).2.Admits mistaken := by
  refine ⟨(fun _ same => nomatch same), fun handle issues => ?_⟩
  cases issues with
  | brought _ _ _ brings => cases brings
  | again _ _ session _ held issued =>
    obtain rfl : old = session := Option.some.inj held
    cases issued

/-- The module issues no handle of an open session, and a call that is given the one that was saved
makes the one that is open unlisted. -/
theorem unlisted_of_mistaken :
    (fresh client).Throughout Admits (calls ++ [mistaken]) ∧
      ∃ session, ((fresh client).run (calls ++ [mistaken])).2.Lives "new" session ∧
        ((fresh client).run (calls ++ [mistaken])).2.client.inventory.sessions.get?
          session.handle = none := by
  obtain ⟨⟨first, _⟩, ⟨second, _⟩, ⟨third, _⟩, _⟩ := careful_calls
  have lives : ((fresh client).run (calls ++ [mistaken])).2.Lives "new"
      (.oiap 8 (Block.replicate 20 2)) := ⟨rfl, rfl⟩
  exact ⟨⟨first, second, third, admits_mistaken, trivial⟩, _, lives, rfl⟩

end Reissue

end Workspace

end TrustedPlatform

import TrustedPlatform.Channel.Script
import TrustedPlatform.Proofs.Client.Course
import TrustedPlatform.Proofs.Client.NonceDiscipline
import TrustedPlatform.Proofs.Client.Runs

/-!
# Sessions at rest

A session object that is not open is at rest: whatever it is given for fails on this side, nothing
is sent with its trailer, and it stays as it is (`Workspace.Rests`).  A closed one rests for good;
a saved one until a load of it succeeds.
-/

set_option autoImplicit false

namespace TrustedPlatform

variable {σ : Type} [Channel σ]

theorem Dispatch.execute_of_inactive (command : Command) (client : Client σ) (use : SessionUse)
    (inactive : use.session.status ≠ .active) :
    ∃ fault, (execute command).run ⟨client, some use⟩ =
        (.error fault,
          ⟨{ client with inventory := client.inventory.removeSession use.session.handle },
            some use⟩) ∧
      fault.isLocal = true := by
  obtain ⟨outcome, after, left, ran, attempted⟩ := executeOnce_attempted command client use
  obtain ⟨rfl, rfl, fault, rfl, isLocal⟩ := attempted.inactive inactive
  have final := not_isRetryable_of_isLocal fault isLocal
  have executed := executeUpTo_of_fault command (furtherAttempts command after) _ _ fault ran final
  refine ⟨fault, ?_, isLocal⟩
  rw [run_execute, executed]
  exact congrArg _ (settle_of_over after use inactive)

namespace AuthorizedCall

omit [Channel σ] in
theorem prepare_of_inactive (call : AuthorizedCall) (client : Client σ) (use : SessionUse)
    (inactive : use.session.status ≠ .active) :
    ((prepare call).run ⟨client, some use⟩).2 = ⟨client, some use⟩ ∧
      Fault.Only (fun fault => fault.isLocal = true)
        ((prepare call).run ⟨client, some use⟩).1 := by
  have drawn : Dispatch.nextNonceOdd.run (⟨client, some use⟩ : Dispatch σ) =
      (.error (.sessionClosed use.session.handle), ⟨client, some use⟩) := by
    simp [Dispatch.nextNonceOdd, use.session.nextNonceOdd_of_inactive client.nonces inactive]
  rcases call.run_prepare ⟨client, some use⟩ with ⟨same, encoding, _⟩ | ⟨same, failing⟩
  · exact ⟨same, encoding.mono _ fun fault isEncoding => isEncoding.isLocal⟩
  · rw [drawn] at same failing
    rw [failing]
    exact ⟨same, .error _ rfl⟩

/-- A call that is to be authorized with a session at rest fails on this side. -/
theorem perform_of_inactive (call : AuthorizedCall) (client : Client σ) (use : SessionUse)
    (inactive : use.session.status ≠ .active) :
    ∃ fault inventory,
      (call.perform : Action Fault (Dispatch σ) Answer).run ⟨client, some use⟩ =
        (.error fault, ⟨{ client with inventory }, some use⟩) ∧
      fault.isLocal = true ∧
      (inventory = client.inventory ∨
        inventory = client.inventory.removeSession use.session.handle) := by
  obtain ⟨same, failing⟩ := call.prepare_of_inactive client use inactive
  cases made : (prepare call).run ⟨client, some use⟩ with
  | mk outcome prepared =>
    rw [made] at same failing
    obtain rfl : prepared = ⟨client, some use⟩ := same
    cases outcome with
    | error fault =>
      have failed := call.perform_of_unprepared _ _ fault made
      exact ⟨fault, client.inventory, failed, failing fault rfl, Or.inl rfl⟩
    | ok command =>
      obtain ⟨fault, executed, isLocal⟩ := Dispatch.execute_of_inactive command client use inactive
      have failed := call.perform_of_unexecuted _ _ _ command fault made executed
      exact ⟨fault, _, failed, isLocal, Or.inr rfl⟩

end AuthorizedCall

namespace Session.Unfolds

theorem named {name other : String} {failed : Fault → Prop} {before after : Session}
    {events : List Event} {deed : Deed} (unfolds : Unfolds name failed before events after)
    (member : .did other deed ∈ events) : other = name := by
  induction unfolds with
  | done session => cases member
  | repeats session nonceOdd issued fails =>
    cases List.mem_singleton.mp member
    rfl
  | moved session next after deed? rest move isNew continued inductionHypothesis =>
    rcases List.mem_append.mp member with here | there
    · obtain ⟨_, _, same⟩ := List.mem_map.mp here
      cases same
      rfl
    · exact inductionHypothesis there
  | reopened session fresh after exchange rest genuine continued inductionHypothesis =>
    cases member with
    | tail _ there => exact inductionHypothesis there
  | aside session after event rest aside continued inductionHypothesis =>
    cases member with
    | head => exact aside.elim
    | tail _ there => exact inductionHypothesis there

end Session.Unfolds

theorem NonceSource.eq_nil_of_gives (source : NonceSource) (nonces : List Digest)
    (gives : source.Gives nonces source) : nonces = [] := by
  have counts : ∀ (given : List Digest) (before after : NonceSource), before.Gives given after →
      after.drawn = before.drawn + given.length := by
    intro given
    induction given with
    | nil =>
      rintro before after rfl
      rfl
    | cons nonce given inductionHypothesis =>
      rintro before after ⟨_, later⟩
      have count := inductionHypothesis _ after later
      simp only [next, List.length_cons] at count ⊢
      omega
  have count := counts nonces source source gives
  apply List.length_eq_zero_iff.mp
  omega

omit [Channel σ] in
/-- Where no nonce is taken and nothing is sent, nothing was done with a session. -/
theorem Client.Shows.noDeed {before after : Client (Tapped σ)} {events : List Event}
    (shows : before.Shows events after) (link : after.link = before.link)
    (nonces : after.nonces = before.nonces) (name : String) (deed : Deed) :
    .did name deed ∉ events := by
  intro member
  have noneSent : events.filterMap Event.exchange? = [] := by
    have recorded := shows.recorded
    rw [link] at recorded
    exact List.self_eq_append_right.mp recorded
  have noneDrawn : events.filterMap Event.drawn? = [] := by
    have drawn := shows.drawn
    rw [nonces] at drawn
    exact NonceSource.eq_nil_of_gives _ _ drawn
  have unsent := List.filterMap_eq_nil_iff.mp noneSent _ member
  have undrawn := List.filterMap_eq_nil_iff.mp noneDrawn _ member
  cases deed with
  | drew nonceOdd => cases undrawn
  | signed _ _ _ _ => cases unsent

/-- A call puts another session object in the place of the one held under a name, or ends it. -/
def Call.Displaces (name : String) (outcome : Except Fault Answer) : Call → Prop
  | .openOiap opened => opened = name ∧ outcome = .ok .nothing
  | .openOsap opened _ _ => opened = name ∧ outcome = .ok .nothing
  | .terminate ended => ended = name
  | _ => False

/-- A saved session is open again: only its handle is another. -/
structure Session.Resumed (saved resumed : Session) : Prop where
  active : resumed.status = .active
  binding : resumed.binding = saved.binding
  nonceEven : resumed.nonceEven = saved.nonceEven
  issuedOdd : resumed.issuedOdd = saved.issuedOdd
  seenEven : resumed.seenEven = saved.seenEven

namespace Workspace

/-- Through a run of calls, the session object held under a name is neither replaced nor ended. -/
def Retains (workspace : Workspace σ) (name : String) (calls : List Call) : Prop :=
  workspace.Throughout (fun before call => ¬ call.Displaces name (call.perform.run before).1) calls

/-- What every call comes to that is given a session object at rest: nothing is sent, no nonce is
taken, and the object stays as it is. -/
structure Refuses (workspace : Workspace σ) (name : String) (session : Session) : Prop where
  authorizes : ∀ (call : AuthorizedCall) (loan : Loan), loan.name = name →
    ∃ fault after,
      (Call.authorized call (some loan)).perform.run workspace = (.error fault, after) ∧
      fault.isLocal = true ∧ after.client.link = workspace.client.link ∧
      after.client.nonces = workspace.client.nonces ∧ after.session? name = some session
  draws : (Call.nextNonceOdd name).perform.run workspace =
    (.error (.sessionClosed session.handle), workspace.hold name session)
  saves : (Call.saveSession name).perform.run workspace =
    (.error (.sessionClosed session.handle), workspace.hold name session)
  loads : session.status = .closed → ∀ blob,
    (Call.loadSession name blob).perform.run workspace =
      (.error (.sessionClosed session.handle), workspace.hold name session)

section

variable (workspace : Workspace σ) (name : String) (session : Session)
  (held : workspace.session? name = some session)

include held

theorem run_nextNonceOdd_of_inactive (inactive : session.status ≠ .active) :
    (Call.nextNonceOdd name).perform.run workspace =
      (.error (.sessionClosed session.handle), workspace.hold name session) := by
  have drew := session.nextNonceOdd_of_inactive workspace.client.nonces inactive
  exact run_nextNonceOdd_of_held workspace name session session _ _ held drew

theorem run_saveSession_of_inactive (inactive : session.status ≠ .active) :
    (Call.saveSession name).perform.run workspace =
      (.error (.sessionClosed session.handle), workspace.hold name session) := by
  obtain ⟨outcome, after, left, ran, saves⟩ :=
    run_saveSession_of_held Later.onlyLink_allowsSending workspace name session held
  cases saves with
  | refused _ => exact ran
  | failed _ _ active _ => exact absurd active inactive
  | saved _ _ active _ => exact absurd active inactive

theorem run_loadSession_of_unsuspended (unsuspended : session.status ≠ .suspended)
    (blob : Bytes) :
    (Call.loadSession name blob).perform.run workspace =
      (.error (.sessionClosed session.handle), workspace.hold name session) := by
  obtain ⟨outcome, after, left, ran, loads⟩ :=
    run_loadSession_of_held Later.onlyLink_allowsSending workspace name session blob held
  cases loads with
  | refused _ => exact ran
  | reused suspended _ => exact absurd suspended unsuspended
  | failed _ _ suspended _ _ => exact absurd suspended unsuspended
  | loaded _ _ suspended _ _ => exact absurd suspended unsuspended

/-- A load of a session leaves it as it is, or succeeds and opens it again. -/
theorem run_loadSession_cases (blob : Bytes) :
    ((Call.loadSession name blob).perform.run workspace).2.session? name = some session ∨
      ((Call.loadSession name blob).perform.run workspace).1 = .ok .nothing ∧
        ∃ resumed, ((Call.loadSession name blob).perform.run workspace).2.session? name =
          some resumed ∧ session.Resumed resumed := by
  obtain ⟨outcome, after, left, ran, loads⟩ :=
    run_loadSession_of_held Later.onlyLink_allowsSending workspace name session blob held
  rw [ran]
  dsimp only
  rw [session?_hold]
  cases loads with
  | refused _ => exact Or.inl rfl
  | reused _ _ => exact Or.inl rfl
  | failed _ _ _ _ _ => exact Or.inl rfl
  | loaded handle _ _ _ _ => exact Or.inr ⟨rfl, _, rfl, rfl, rfl, rfl, rfl, rfl⟩

theorem run_authorized_of_inactive (inactive : session.status ≠ .active) (call : AuthorizedCall)
    (loan : Loan) (named : loan.name = name) :
    ∃ fault inventory,
      (Call.authorized call (some loan)).perform.run workspace =
        (.error fault,
          { workspace with client := { workspace.client with inventory } }.hold name session) ∧
      fault.isLocal = true ∧
      (inventory = workspace.client.inventory ∨
        inventory = workspace.client.inventory.removeSession session.handle) := by
  obtain ⟨fault, inventory, failed, isLocal, noted⟩ :=
    call.perform_of_inactive workspace.client ⟨session, loan.secret, loan.continueSession⟩ inactive
  obtain rfl := named
  exact ⟨fault, inventory,
    run_lend_of_held loan call.perform workspace session session _ _ held failed, isLocal, noted⟩

theorem refuses_of_inactive (inactive : session.status ≠ .active) :
    workspace.Refuses name session where
  authorizes call loan named := by
    obtain ⟨fault, inventory, failed, isLocal, _⟩ :=
      run_authorized_of_inactive workspace name session held inactive call loan named
    exact ⟨fault, _, failed, isLocal, rfl, rfl, session?_hold _ _ _⟩
  draws := run_nextNonceOdd_of_inactive workspace name session held inactive
  saves := run_saveSession_of_inactive workspace name session held inactive
  loads closed blob := by
    have unsuspended : session.status ≠ .suspended := by
      rw [closed]
      decide
    exact run_loadSession_of_unsuspended workspace name session held unsuspended blob

end

end Workspace

namespace Call

open Workspace

theorem noDeed_tellOpen (client : Client (Tapped σ)) (opened name : String) (kind : SessionKind)
    (secret : Secret) (deed : Deed) :
    .did name deed ∉ client.tellOpen opened kind secret := by
  intro member
  obtain ⟨_, told⟩ := Client.tellOpen_tells opened kind secret client
  cases ran : ((Client.openSession kind secret).run client).1 with
  | error fault =>
    rw [ran] at told
    exact told _ member
  | ok session =>
    rw [ran] at told
    obtain ⟨setups, exchange, events, asides, _⟩ := told
    rw [events] at member
    rcases List.mem_append.mp member with isSetup | last
    · exact asides _ isSetup
    · cases List.mem_singleton.mp last

omit [Channel σ] in
theorem noDeed_plain (exchanges : List Exchange) (name : String) (deed : Deed) :
    .did name deed ∉ exchanges.map Event.plain := by
  intro member
  obtain ⟨_, _, same⟩ := List.mem_map.mp member
  cases same

theorem noDeed_of_inactive (call : Call) (workspace : Workspace (Tapped σ)) (name : String)
    (session : Session) (held : workspace.session? name = some session)
    (inactive : session.status ≠ .active) (deed : Deed) :
    .did name deed ∉ call.tell workspace := by
  have shows := (call.tells workspace).1
  cases call with
  | openOiap opened => exact noDeed_tellOpen workspace.client opened name .oiap .wellKnown deed
  | openOsap opened entity secret =>
    exact noDeed_tellOpen workspace.client opened name (.osap entity) secret deed
  | terminate ended => exact noDeed_plain _ name deed
  | saveSession saved => exact noDeed_plain _ name deed
  | loadSession loaded blob => exact noDeed_plain _ name deed
  | plain call => exact noDeed_plain _ name deed
  | nextNonceOdd drawn =>
    by_cases same : drawn = name
    · subst same
      have ran := run_nextNonceOdd_of_inactive workspace drawn session held inactive
      exact shows.noDeed (by rw [ran]; rfl) (by rw [ran]; rfl) drawn deed
    · intro member
      obtain ⟨_, _, told⟩ := List.mem_map.mp member
      cases told
      exact same rfl
  | authorized call loan? =>
    cases loan? with
    | none => exact noDeed_plain _ name deed
    | some loan =>
      by_cases same : loan.name = name
      · obtain ⟨fault, inventory, ran, _, _⟩ :=
          run_authorized_of_inactive workspace name session held inactive call loan same
        exact shows.noDeed (by rw [ran]; rfl) (by rw [ran]; rfl) name deed
      · intro member
        cases lent : workspace.session? loan.name with
        | none =>
          simp only [tell, lent] at member
          cases member
        | some other =>
          simp only [tell, lent] at member
          obtain ⟨_, _, _, _, _, unfolds⟩ := call.perform_tells loan.name workspace.client
            ⟨other, loan.secret, loan.continueSession⟩
          exact same (unfolds.named member).symm

/-- A session object at rest stays as it is, unless a load of it succeeds. -/
theorem keeps_inactive (call : Call) (workspace : Workspace σ) (name : String)
    (session : Session) (held : workspace.session? name = some session)
    (inactive : session.status ≠ .active)
    (retained : ¬ call.Displaces name (call.perform.run workspace).1) :
    (call.perform.run workspace).2.session? name = some session ∨
      session.status = .suspended ∧ ∃ blob resumed, call = .loadSession name blob ∧
        (call.perform.run workspace).1 = .ok .nothing ∧
        (call.perform.run workspace).2.session? name = some resumed ∧
        session.Resumed resumed := by
  by_cases other : call.subject? ≠ some name
  · left
    rw [call.session?_of_other workspace name other]
    exact held
  · have named : call.subject? = some name := not_not.mp other
    cases call with
    | openOiap opened =>
      obtain rfl : opened = name := Option.some.inj named
      left
      rw [perform_openOiap] at retained ⊢
      exact session?_of_unopened workspace opened .oiap .wellKnown session held
        fun same => retained ⟨rfl, same⟩
    | openOsap opened entity secret =>
      obtain rfl : opened = name := Option.some.inj named
      left
      rw [perform_openOsap] at retained ⊢
      exact session?_of_unopened workspace opened (.osap entity) secret session held
        fun same => retained ⟨rfl, same⟩
    | terminate ended => exact absurd (Option.some.inj named) retained
    | nextNonceOdd drawn =>
      obtain rfl : drawn = name := Option.some.inj named
      left
      rw [run_nextNonceOdd_of_inactive workspace drawn session held inactive]
      exact session?_hold _ _ _
    | saveSession saved =>
      obtain rfl : saved = name := Option.some.inj named
      left
      rw [run_saveSession_of_inactive workspace saved session held inactive]
      exact session?_hold _ _ _
    | loadSession loaded blob =>
      obtain rfl : loaded = name := Option.some.inj named
      by_cases suspended : session.status = .suspended
      · rcases run_loadSession_cases workspace loaded session held blob with
          same | ⟨success, resumed, back, isResumed⟩
        · exact Or.inl same
        · exact Or.inr ⟨suspended, blob, resumed, rfl, success, back, isResumed⟩
      · left
        rw [run_loadSession_of_unsuspended workspace loaded session held suspended blob]
        exact session?_hold _ _ _
    | plain call => cases named
    | authorized call loan? =>
      cases loan? with
      | none => cases named
      | some loan =>
        left
        obtain ⟨fault, inventory, ran, _, _⟩ := run_authorized_of_inactive workspace name session
          held inactive call loan (Option.some.inj named)
        rw [ran]
        exact session?_hold _ _ _

end Call

namespace Workspace

/-- Through a run of calls a session object stays as it is and nothing is done with it; and so it
goes on, for every call that is given it afterwards is refused. -/
structure Rests (workspace : Workspace (Tapped σ)) (name : String) (session : Session)
    (calls : List Call) : Prop where
  held : (workspace.run calls).2.session? name = some session
  noDeed : ∀ deed, .did name deed ∉ workspace.story calls
  refuses : (workspace.run calls).2.Refuses name session

/-- After some calls, through which a saved session rests, a load of it succeeds and opens it. -/
structure ComesBack (workspace : Workspace (Tapped σ)) (name : String) (session : Session)
    (before : List Call) (blob : Bytes) : Prop where
  rests : workspace.Rests name session before
  succeeds : ((Call.loadSession name blob).perform.run (workspace.run before).2).1 = .ok .nothing
  resumed : ∃ resumed,
    ((Call.loadSession name blob).perform.run (workspace.run before).2).2.session? name =
      some resumed ∧ session.Resumed resumed

theorem rests_nil (workspace : Workspace (Tapped σ)) (name : String) (session : Session)
    (held : workspace.session? name = some session) (inactive : session.status ≠ .active) :
    workspace.Rests name session [] where
  held := held
  noDeed _ := List.not_mem_nil
  refuses := refuses_of_inactive workspace name session held inactive

theorem Rests.cons {workspace : Workspace (Tapped σ)} {name : String} {session : Session}
    {call : Call} {calls : List Call} (silent : ∀ deed, .did name deed ∉ call.tell workspace)
    (rests : (call.perform.run workspace).2.Rests name session calls) :
    workspace.Rests name session (call :: calls) where
  held := rests.held
  noDeed deed member := by
    rcases List.mem_append.mp member with here | there
    · exact silent deed here
    · exact rests.noDeed deed there
  refuses := rests.refuses

theorem rests_or_comesBack (workspace : Workspace (Tapped σ)) (name : String) (session : Session)
    (calls : List Call) (held : workspace.session? name = some session)
    (inactive : session.status ≠ .active) (retained : workspace.Retains name calls) :
    workspace.Rests name session calls ∨
      session.status = .suspended ∧ ∃ before blob after,
        calls = before ++ .loadSession name blob :: after ∧
        workspace.ComesBack name session before blob := by
  induction calls generalizing workspace with
  | nil => exact Or.inl (rests_nil workspace name session held inactive)
  | cons call calls inductionHypothesis =>
    obtain ⟨undisplaced, retainedLater⟩ := retained
    have silent := call.noDeed_of_inactive workspace name session held inactive
    rcases call.keeps_inactive workspace name session held inactive undisplaced with
      heldLater | ⟨suspended, blob, resumed, rfl, success, back, isResumed⟩
    · rcases inductionHypothesis _ heldLater retainedLater with
        rests | ⟨suspended, before, blob, after, rfl, comesBack⟩
      · exact Or.inl (rests.cons silent)
      · refine Or.inr ⟨suspended, call :: before, blob, after, rfl, ?_⟩
        exact ⟨comesBack.rests.cons silent, comesBack.succeeds, comesBack.resumed⟩
    · refine Or.inr ⟨suspended, [], blob, calls, rfl, ?_⟩
      exact ⟨rests_nil workspace name session held inactive, success, resumed, back, isResumed⟩

/-- Whenever a request with the trailer of a session was made up for a call and came to nothing, the
session is closed when the call is over, unless a new one took its place and the call went on. -/
def ClosesOnFault (workspace : Workspace σ) : Prop :=
  ∀ (call : AuthorizedCall) (loan : Loan) (session : Session),
    workspace.session? loan.name = some session →
    let lent : Dispatch σ :=
      ⟨workspace.client, some ⟨session, loan.secret, loan.continueSession⟩⟩
    ∀ command prepared, (AuthorizedCall.prepare call).run lent = (.ok command, prepared) →
    ∀ earlier begun later, call.starts lent = earlier ++ begun :: later →
    ∀ trailer frame built, (Dispatch.build command).run begun = (.ok (some trailer, frame), built) →
    ∀ fault failed,
      (Dispatch.converse command (some trailer) frame).run built = (.error fault, failed) →
      (later = [] ∧ ∃ left,
        ((Call.authorized call (some loan)).perform.run workspace).2.session? loan.name =
          some left ∧ left.status = .closed) ∨
        ∃ next others, later = next :: others ∧ Dispatch.Replaces command begun next

theorem closesOnFault (workspace : Workspace σ) : workspace.ClosesOnFault := by
  intro call loan session held lent command prepared made earlier begun later split trailer frame
    built isBuilt fault failed conversed
  obtain ⟨between, drawn, preparing⟩ := call.prepare_lends workspace.client
    ⟨session, loan.secret, loan.continueSession⟩
  rw [made] at preparing
  obtain rfl : prepared = _ := preparing
  rw [call.starts_of_prepared lent _ command made] at split
  have course := Dispatch.executeUpTo_course command (Dispatch.furtherAttempts command between)
    ⟨between, some ⟨drawn, loan.secret, loan.continueSession⟩⟩
  obtain ⟨client, left, lentLast, _⟩ := course.seats _ _ rfl
  rcases course.closes earlier later begun built failed (some trailer) frame fault split isBuilt
      conversed with ⟨last, closed⟩ | replaced
  · refine Or.inl ⟨last, left, ?_, closed _ (congrArg Dispatch.use? lentLast)⟩
    obtain ⟨inventory, settled⟩ := Dispatch.onlyInventory_settle (⟨client, some
      ⟨left, loan.secret, loan.continueSession⟩⟩ : Dispatch σ)
    have executed : (Dispatch.execute command).run
        ⟨between, some ⟨drawn, loan.secret, loan.continueSession⟩⟩ =
          (((Dispatch.executeUpTo command (Dispatch.furtherAttempts command between)).run
              ⟨between, some ⟨drawn, loan.secret, loan.continueSession⟩⟩).1,
            ⟨{ client with inventory }, some ⟨left, loan.secret, loan.continueSession⟩⟩) := by
      rw [Dispatch.run_execute, ← settled, ← lentLast]
    obtain ⟨answer, noted, performed, _, _⟩ :=
      call.perform_of_prepared lent _ _ command _ made executed
    have after : (Call.authorized call (some loan)).perform.run workspace = _ :=
      run_lend_of_held loan call.perform workspace session left answer _ held performed
    rw [after]
    exact session?_hold _ _ _
  · exact Or.inr replaced

/-- What holds of the sessions of a client after any run of calls that begins without one. -/
structure SessionsRest (client : Client (Tapped σ)) (earlier : List Call) : Prop where
  -- Every nonce taken and every frame sent is told, in order, of whatever is called.
  shown : ∀ later, client.Shows
    ((fresh client).story earlier ++ ((fresh client).run earlier).2.story later)
    (((fresh client).run earlier).2.run later).2.client
  orderly : ∀ later,
    Orderly ((fresh client).story earlier ++ ((fresh client).run earlier).2.story later)
  closed : ∀ name session, ((fresh client).run earlier).2.session? name = some session →
    session.status = .closed →
    ∀ later, ((fresh client).run earlier).2.Retains name later →
      ((fresh client).run earlier).2.Rests name session later
  suspended : ∀ name session, ((fresh client).run earlier).2.session? name = some session →
    session.status = .suspended →
    ∀ later, ((fresh client).run earlier).2.Retains name later →
      ((fresh client).run earlier).2.Rests name session later ∨
        ∃ before blob after, later = before ++ .loadSession name blob :: after ∧
          ((fresh client).run earlier).2.ComesBack name session before blob
  fails : ((fresh client).run earlier).2.ClosesOnFault

/-- Whatever the calls are and whatever the module answers, a closed session is closed for good, and
a saved one authorizes nothing until it is loaded. -/
theorem sessionsRest_run (client : Client (Tapped σ)) (earlier : List Call) :
    SessionsRest client earlier where
  shown later := by
    have shown := shows_run (fresh client) (earlier ++ later)
    rw [story_append, run_append] at shown
    exact shown
  orderly later := by
    have orderly := (keepsNonces_run client (earlier ++ later)).orderly
    rw [story_append] at orderly
    exact orderly
  closed name session held closed later retained := by
    have inactive : session.status ≠ .active := by
      rw [closed]
      decide
    rcases rests_or_comesBack _ name session later held inactive retained with
      rests | ⟨suspended, _⟩
    · exact rests
    · rw [closed] at suspended
      cases suspended
  suspended name session held suspended later retained := by
    have inactive : session.status ≠ .active := by
      rw [suspended]
      decide
    rcases rests_or_comesBack _ name session later held inactive retained with
      rests | ⟨_, comesBack⟩
    · exact Or.inl rests
    · exact Or.inr comesBack
  fails := closesOnFault _

namespace Rehearsal

def opening (handle : UInt32) (nonces : Bytes) : Bytes :=
  Bytes.word16 0xc4 ++ Bytes.bigEndian 4 (14 + nonces.length) ++ Bytes.word32 0 ++
    Bytes.word32 handle ++ nonces

def saving (blob : Bytes) : Bytes :=
  Bytes.word16 0xc4 ++ Bytes.bigEndian 4 (14 + blob.length) ++ Bytes.word32 0 ++
    Bytes.bigEndian 4 blob.length ++ blob

def client : Client (Tapped Script) :=
  .fresh ⟨.ofEntries [.answer (opening 8 (List.replicate 40 1)),
    .answer (opening 9 (List.replicate 20 2)), .answer (saving [0xaa]), .answer (opening 10 [])],
    none, []⟩ ⟨fun _ => Block.replicate 20 5, 0⟩ 1

def increment : Call := .authorized (.incrementCounter 5) (some ⟨"owner", .wellKnown, true⟩)

def earlier : List Call :=
  [.openOsap "owner" ⟨.owner, 1⟩ .wellKnown, .openOiap "idle", .saveSession "idle", increment]

def later : List Call := [increment, .loadSession "owner" [0xaa], .loadSession "idle" [0xaa]]

/-- One session is closed over a nonce that was repeated, and rests for good; another was saved, and
rests until it is loaded. -/
theorem rests_of_repeated_nonce :
    ∃ owner idle,
      (((fresh client).run earlier).2.session? "owner" = some owner ∧ owner.status = .closed ∧
        ((fresh client).run earlier).2.Rests "owner" owner later) ∧
      ((fresh client).run earlier).2.session? "idle" = some idle ∧ idle.status = .suspended ∧
      ∃ before blob after, later = before ++ .loadSession "idle" blob :: after ∧
        ((fresh client).run earlier).2.ComesBack "idle" idle before blob := by
  have retains : ∀ name, ((fresh client).run earlier).2.Retains name later :=
    fun _ => ⟨id, id, id, trivial⟩
  have ownerClosed : (((fresh client).run earlier).2.session? "owner").map Session.status =
      some .closed := rfl
  have idleSaved : (((fresh client).run earlier).2.session? "idle").map Session.status =
      some .suspended := rfl
  have idleBack : ((((fresh client).run earlier).2.run later).2.session? "idle").map
      Session.status = some .active := rfl
  obtain ⟨owner, held, closed⟩ := Option.map_eq_some_iff.mp ownerClosed
  obtain ⟨idle, heldToo, suspended⟩ := Option.map_eq_some_iff.mp idleSaved
  have rest := sessionsRest_run client earlier
  refine ⟨owner, idle,
    ⟨held, closed, rest.closed "owner" owner held closed later (retains "owner")⟩,
    heldToo, suspended, ?_⟩
  rcases rest.suspended "idle" idle heldToo suspended later (retains "idle") with rests | comesBack
  · have stays := rests.held
    rw [stays, Option.map_some, suspended] at idleBack
    cases idleBack
  · exact comesBack

end Rehearsal
end Workspace

end TrustedPlatform

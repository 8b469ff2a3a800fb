import TrustedPlatform.Proofs.Client.Rest

/-!
# Open sessions that are known

A client lists the open sessions by their handles.  What a call with a session makes of that list is
said by `AuthorizedCall.Ends`: a command that was dispatched leaves a session that is over unlisted,
and touches no handle but those that it began an attempt under (`Dispatch.Tracks`).  Only a nonce
drawn ahead of the command, and repeated, ends a session that stays listed (`unlisted_of_over`).
-/

set_option autoImplicit false

namespace TrustedPlatform

variable {σ : Type} [Channel σ]

namespace Dispatch

/-- What a dispatched command that began its attempts under some handles makes of what is known. -/
structure Tracks (before after : Inventory) (session left : Session) (handles : List UInt32) :
    Prop where
  kind : left.kind = session.kind
  among : left.handle ∈ handles
  spent : after.spent = before.spent
  others : ∀ handle, handle ∉ handles → after.sessions.get? handle = before.sessions.get? handle
  stays : left.status = .active → before.sessions.get? session.handle = some session.kind →
    after.sessions.get? left.handle = some left.kind
  gone : left.status ≠ .active → ∀ handle ∈ handles, after.sessions.get? handle = none

omit [Channel σ] in
theorem Tracks.recorded {before after also : Inventory} {session left : Session}
    {handles : List UInt32} (tracks : Tracks before after session left handles)
    (sessions : also.sessions = after.sessions) (spent : also.spent = after.spent) :
    Tracks before also session left handles where
  kind := tracks.kind
  among := tracks.among
  spent := spent.trans tracks.spent
  others := by
    rw [sessions]
    exact tracks.others
  stays := by
    rw [sessions]
    exact tracks.stays
  gone := by
    rw [sessions]
    exact tracks.gone

omit [Channel σ] in
theorem Tracks.since {before after : Inventory} {earlier session left : Session}
    {handles : List UInt32} (tracks : Tracks before after session left handles)
    (handle : session.handle = earlier.handle) (kind : session.kind = earlier.kind) :
    Tracks before after earlier left handles where
  kind := tracks.kind.trans kind
  among := tracks.among
  spent := tracks.spent
  others := tracks.others
  stays active listed := by
    rw [← handle, ← kind] at listed
    exact tracks.stays active listed
  gone := tracks.gone

theorem execute_tracks (command : Command) (client : Client σ) (use : SessionUse) :
    ∃ outcome after left,
      (execute command).run ⟨client, some use⟩ =
        (outcome, ⟨after, some { use with session := left }⟩) ∧
      Tracks client.inventory after.inventory use.session left
        ((starts command (furtherAttempts command client) ⟨client, some use⟩).filterMap
          handle?) := by
  have course := executeUpTo_course command (furtherAttempts command client) ⟨client, some use⟩
  obtain ⟨reached, left, ended, seats⟩ := course.seats client use rfl
  obtain ⟨sessions, only⟩ := seats.only
  have spent : reached.inventory.spent = client.inventory.spent := by rw [only]
  rw [run_execute, ended]
  by_cases active : left.status = .active
  · refine ⟨_, reached, left, congrArg _ (settle_of_active _ _ active), seats.kind, seats.among,
      spent, seats.others, ?_, fun ended => absurd active ended⟩
    intro _ tracked
    rw [seats.kind]
    exact seats.stays active tracked
  · refine ⟨_, _, left, congrArg _ (settle_of_over _ _ active), seats.kind, seats.among, spent, ?_,
      fun still => absurd still active, ?_⟩
    · intro handle outside
      have differs : handle ≠ left.handle := fun same => outside (same ▸ seats.among)
      rw [Inventory.get?_removeSession, if_neg differs]
      exact seats.others handle outside
    · intro _ handle member
      rw [Inventory.get?_removeSession]
      by_cases same : handle = left.handle
      · rw [if_pos same]
      · rw [if_neg same]
        exact seats.gone handle member same

end Dispatch

namespace AuthorizedCall

/-- The handles that were issued for a call: those of the sessions opened to go on with it. -/
def issued (call : AuthorizedCall) (lent : Dispatch σ) : List UInt32 :=
  (call.starts lent).tail.filterMap Dispatch.handle?

omit [Channel σ] in
/-- Making up a command keeps the session as it is but for a nonce that was drawn, or closes it over
one that was repeated. -/
theorem prepare_cases (call : AuthorizedCall) (client : Client σ) (use : SessionUse) :
    ∃ outcome nonces session,
      (prepare call).run ⟨client, some use⟩ =
        (outcome, ⟨{ client with nonces }, some { use with session }⟩) ∧
      session.handle = use.session.handle ∧ session.binding = use.session.binding ∧
      ((session.status = use.session.status ∧
          (call.drawsAhead = true → use.session.Repeats client.nonces →
            ∃ fault, outcome = .error fault)) ∨
        (call.drawsAhead = true ∧ use.session.Repeats client.nonces ∧
          outcome = .error (.nonceReuse use.session.handle) ∧ nonces = client.nonces.next.2 ∧
          session = { use.session with status := .closed })) := by
  cases ahead : call.drawsAhead with
  | false =>
    have kept := call.keeps_prepare ahead (⟨client, some use⟩ : Dispatch σ)
    exact ⟨_, client.nonces, use.session, Prod.ext rfl kept, rfl, rfl,
      Or.inl ⟨rfl, fun draws => nomatch draws⟩⟩
  | true =>
    rcases call.run_prepare ⟨client, some use⟩ with ⟨same, _, failing⟩ | ⟨same, failing⟩
    · exact ⟨_, client.nonces, use.session, Prod.ext rfl same, rfl, rfl,
        Or.inl ⟨rfl, fun _ _ => failing ahead⟩⟩
    · have drawn : ∀ outcome session nonces,
          use.session.nextNonceOdd client.nonces = (outcome, session, nonces) →
          Dispatch.nextNonceOdd.run (⟨client, some use⟩ : Dispatch σ) =
            (outcome, ⟨{ client with nonces }, some { use with session }⟩) := by
        intro outcome session nonces drew
        simp [Dispatch.nextNonceOdd, drew]
      rcases use.session.draw_cases client.nonces with
        inactive | repeated | ⟨active, nonce, after, rest, draw⟩
      · have drew := drawn _ _ _ (use.session.nextNonceOdd_of_inactive client.nonces inactive)
        rw [drew] at same
        exact ⟨_, client.nonces, use.session, Prod.ext rfl same, rfl, rfl,
          Or.inl ⟨rfl, fun _ repeated => absurd repeated.active inactive⟩⟩
      · have drew := drawn _ _ _ (use.session.nextNonceOdd_of_repeats client.nonces repeated)
        rw [drew] at same failing
        exact ⟨_, client.nonces.next.2, { use.session with status := .closed },
          Prod.ext failing same, rfl, rfl, Or.inr ⟨rfl, repeated, rfl, rfl, rfl⟩⟩
      · have drew := drawn _ _ _
          (use.session.nextNonceOdd_of_draw after client.nonces rest nonce active draw)
        rw [drew] at same
        refine ⟨_, rest, after, Prod.ext rfl same, draw.handle_eq, draw.binding_eq,
          Or.inl ⟨draw.status_eq, fun _ repeated => ?_⟩⟩
        cases draw with
        | armed _ ahead => simp [repeated.unarmed] at ahead
        | fresh _ isNew => exact absurd repeated.issued isNew

/-- A call ends as the attempts at its command left it, but for what is recorded of the module, and
fails where they failed. -/
theorem perform_of_attempts (call : AuthorizedCall) (dispatch prepared reached : Dispatch σ)
    (command : Command) (reply : Except Fault Reply)
    (made : (prepare call).run dispatch = (.ok command, prepared))
    (ran : (Dispatch.executeUpTo command
      (Dispatch.furtherAttempts command prepared.client)).run prepared = (reply, reached)) :
    ∃ answer inventory,
      (call.perform : Action Fault (Dispatch σ) Answer).run dispatch =
        (answer, { reached with client := { reached.client with inventory } }) ∧
      ∀ fault, reply = .error fault → answer = .error fault := by
  obtain ⟨settled, same⟩ := Dispatch.onlyInventory_settle reached
  have executed : (Dispatch.execute command).run prepared =
      (reply, { reached with client := { reached.client with inventory := settled } }) := by
    rw [Dispatch.run_execute, ran, same]
  obtain ⟨answer, noted, performed, _, _⟩ :=
    call.perform_of_prepared _ _ _ command reply made executed
  refine ⟨answer, noted, performed, fun fault failed => ?_⟩
  subst failed
  have failing := call.perform_of_unexecuted _ _ _ command fault made executed
  exact (Prod.mk.inj (performed.symm.trans failing)).1

/-- What a call comes to that was lent a session. -/
inductive Ends (call : AuthorizedCall) (client : Client σ) (use : SessionUse) :
    Except Fault Answer → Client σ → Session → Prop where
  | unprepared (fault : Fault) (nonces : NonceSource) (session : Session)
      (handle : session.handle = use.session.handle)
      (binding : session.binding = use.session.binding)
      (status : session.status = use.session.status) :
      Ends call client use (.error fault) { client with nonces } session
  | repeats (ahead : call.drawsAhead = true) (repeated : use.session.Repeats client.nonces) :
      Ends call client use (.error (.nonceReuse use.session.handle))
        { client with nonces := client.nonces.next.2 } { use.session with status := .closed }
  | dispatched (answer : Except Fault Answer) (after : Client σ) (left : Session)
      (drew : call.drawsAhead = true → ¬ use.session.Repeats client.nonces)
      (tracks : Dispatch.Tracks client.inventory after.inventory use.session left
        (use.session.handle :: call.issued ⟨client, some use⟩)) :
      Ends call client use answer after left

theorem issued_of_prepared (call : AuthorizedCall) (dispatch : Dispatch σ) (command : Command)
    (client : Client σ) (use : SessionUse)
    (made : (prepare call).run dispatch = (.ok command, ⟨client, some use⟩)) :
    (Dispatch.starts command (Dispatch.furtherAttempts command client)
        ⟨client, some use⟩).filterMap Dispatch.handle? =
      use.session.handle :: call.issued dispatch := by
  obtain ⟨others, begun⟩ := (Dispatch.executeUpTo_course command
    (Dispatch.furtherAttempts command client) ⟨client, some use⟩).head
  rw [issued, call.starts_of_prepared dispatch _ command made, begun]
  rfl

theorem perform_ends (call : AuthorizedCall) (client : Client σ) (use : SessionUse) :
    ∃ answer after left,
      (call.perform : Action Fault (Dispatch σ) Answer).run ⟨client, some use⟩ =
        (answer, ⟨after, some { use with session := left }⟩) ∧
      call.Ends client use answer after left := by
  obtain ⟨outcome, nonces, session, made, handle, binding, course⟩ :=
    call.prepare_cases client use
  cases outcome with
  | error fault =>
    have failed := call.perform_of_unprepared _ _ fault made
    refine ⟨_, _, session, failed, ?_⟩
    rcases course with ⟨status, _⟩ | ⟨ahead, repeated, same, rfl, rfl⟩
    · exact .unprepared fault nonces session handle binding status
    · cases same
      exact .repeats ahead repeated
  | ok command =>
    rcases course with ⟨status, drew⟩ | ⟨_, _, same, _⟩
    · obtain ⟨reply, executed, left, ran, tracks⟩ := Dispatch.execute_tracks command
        { client with nonces } { use with session }
      obtain ⟨answer, inventory, performed, sessions, spent⟩ :=
        call.perform_of_prepared _ _ _ command reply made ran
      refine ⟨answer, _, left, performed, .dispatched answer _ left ?_ ?_⟩
      · intro ahead repeated
        obtain ⟨fault, failed⟩ := drew ahead repeated
        cases failed
      · have issued := call.issued_of_prepared _ command _ _ made
        rw [issued] at tracks
        have since := (tracks.recorded sessions spent).since handle (congrArg Binding.kind binding)
        rw [← handle]
        exact since
    · cases same

end AuthorizedCall

namespace Call

/-- A call is given the session held under a name, to authorize a command or to be saved. -/
inductive Takes : Call → String → Prop where
  | lent (call : AuthorizedCall) (loan : Loan) : Takes (.authorized call (some loan)) loan.name
  | saved (name : String) : Takes (.saveSession name) name

/-- The nonce that a call draws ahead of its command is one that the session issued before. -/
def RepeatsAhead (session : Session) (nonces : NonceSource) : Call → Prop
  | .authorized call (some _) => call.drawsAhead = true ∧ session.Repeats nonces
  | _ => False

end Call

namespace Workspace

theorem run_authorized_of_held (workspace : Workspace σ) (call : AuthorizedCall) (loan : Loan)
    (session : Session) (held : workspace.session? loan.name = some session) :
    ∃ answer after left,
      (Call.authorized call (some loan)).perform.run workspace =
        (answer, { workspace with client := after }.hold loan.name left) ∧
      call.Ends workspace.client ⟨session, loan.secret, loan.continueSession⟩ answer after left := by
  obtain ⟨answer, after, left, performed, ends⟩ :=
    call.perform_ends workspace.client ⟨session, loan.secret, loan.continueSession⟩
  exact ⟨answer, after, left,
    run_lend_of_held loan call.perform workspace session left answer after held performed, ends⟩

/-- A session that was open when a call was given it, and is open no longer, is not listed; only a
nonce that was repeated ahead of a command closes it and changes nothing that is known. -/
theorem unlisted_of_over (workspace : Workspace σ) (call : Call) (name : String)
    (session left : Session) (takes : call.Takes name)
    (held : workspace.session? name = some session) (active : session.status = .active)
    (heldAfter : (call.perform.run workspace).2.session? name = some left)
    (ended : left.status ≠ .active) :
    (¬ call.RepeatsAhead session workspace.client.nonces →
      (call.perform.run workspace).2.client.inventory.sessions.get? left.handle = none ∧
      (call.perform.run workspace).2.client.inventory.sessions.get? session.handle = none) ∧
    (call.RepeatsAhead session workspace.client.nonces →
      (call.perform.run workspace).1 = .error (.nonceReuse session.handle) ∧
      left = { session with status := .closed } ∧
      (call.perform.run workspace).2.client.inventory = workspace.client.inventory) := by
  cases takes with
  | lent call loan =>
    obtain ⟨answer, after, final, ran, ends⟩ :=
      run_authorized_of_held workspace call loan session held
    rw [ran] at heldAfter ⊢
    obtain rfl : final = left := Option.some.inj ((session?_hold _ _ _).symm.trans heldAfter)
    cases ends with
    | unprepared fault nonces final handle binding status =>
      rw [status] at ended
      exact absurd active ended
    | repeats ahead repeated =>
      exact ⟨fun never => absurd ⟨ahead, repeated⟩ never, fun _ => ⟨rfl, rfl, rfl⟩⟩
    | dispatched answer after left drew tracks =>
      have unlisted := tracks.gone ended
      exact ⟨fun _ => ⟨unlisted _ tracks.among, unlisted _ List.mem_cons_self⟩,
        fun ⟨ahead, repeated⟩ => absurd repeated (drew ahead)⟩
  | saved name =>
    obtain ⟨outcome, after, final, ran, saves⟩ :=
      run_saveSession_of_held Later.onlyLink_allowsSending workspace name session held
    rw [ran] at heldAfter ⊢
    obtain rfl : final = left := Option.some.inj ((session?_hold _ _ _).symm.trans heldAfter)
    refine ⟨fun _ => ?_, fun never => never.elim⟩
    cases saves with
    | refused inactive => exact absurd active inactive
    | failed _ _ _ _ => exact absurd active ended
    | saved blob after _ _ =>
      have gone : (after.inventory.removeSession session.handle).sessions.get? session.handle =
          none := by simp
      exact ⟨gone, gone⟩

namespace Rehearsal

def repeating : Client Script :=
  .fresh (.ofEntries [.answer (opening 8 (List.replicate 40 1))])
    ⟨fun _ => Block.replicate 20 5, 0⟩ 1

/-- The nonce is repeated to a command that draws it when it is sent: the session is closed, and
listed no longer. -/
theorem unlisted_of_repeated_nonce :
    let opened := ((fresh repeating).run [.openOsap "owner" ⟨.owner, 1⟩ .wellKnown]).2
    ∃ session left, opened.session? "owner" = some session ∧ session.status = .active ∧
      (increment.perform.run opened).2.session? "owner" = some left ∧ left.status ≠ .active ∧
      (increment.perform.run opened).2.client.inventory.sessions.get? left.handle = none := by
  intro opened
  have ended : SessionStatus.closed ≠ .active := by decide
  exact ⟨_, _, rfl, rfl, rfl, ended,
    ((unlisted_of_over opened increment "owner" _ _ (.lent _ _) rfl rfl rfl ended).1
      fun repeats => nomatch repeats.1).1⟩

/-- The nonce is repeated to a call that draws it ahead: the session is closed, and listed still. -/
theorem listed_of_nonce_repeated_ahead :
    let template : KeyBlob := ⟨.newer, 16, 0, 1, ⟨2, 1, 2, .raw []⟩, [], ⟨[]⟩, []⟩
    let call : Call := .authorized (.createKey 0x40000000 .wellKnown .wellKnown template)
      (some ⟨"parent", .wellKnown, true⟩)
    let opened := ((fresh repeating).run [.openOsap "parent" ⟨.key, 0x40000000⟩ .wellKnown]).2
    let after := (call.perform.run opened).2
    call.Takes "parent" ∧
      (opened.session? "parent").map Session.status = some .active ∧
      (after.session? "parent").map Session.status = some .closed ∧
      (after.session? "parent").map Session.handle = some 8 ∧
      after.sessions.length = 1 ∧
      (after.client.inventory.sessions.get? 8).isSome :=
  ⟨.lent _ _, rfl, rfl, rfl, rfl, rfl⟩

end Rehearsal

end Workspace

end TrustedPlatform

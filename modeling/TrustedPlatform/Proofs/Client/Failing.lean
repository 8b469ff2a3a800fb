import TrustedPlatform.Proofs.Client.Spending

/-!
# Calls that fail

What a client knows about its module is changed when a call has succeeded, or changed back.  So a
call that fails leaves everything known as it was, but for the open sessions: those that it was
given, or that were opened in its course, may be over (`Inventory.OnlyEnds`).  Two calls end things
as they go, and a blob may turn out too long to be sent once it is claimed (`Call.Strands`); apart
from these this holds of every call (`Workspace.keepsOnFault`).
-/

set_option autoImplicit false

namespace TrustedPlatform

variable {σ : Type}

namespace Inventory

/-- What is known is the same, but for the open sessions with one of some handles. -/
structure OnlyEnds (before after : Inventory) (handles : List UInt32) : Prop where
  keys : after.keys = before.keys
  spent : after.spent = before.spent
  audit : after.audit = before.audit
  others : ∀ handle, handle ∉ handles → after.sessions.get? handle = before.sessions.get? handle

theorem OnlyEnds.of_same {before after : Inventory} (same : after = before)
    (handles : List UInt32) : before.OnlyEnds after handles := by
  subst same
  exact ⟨rfl, rfl, rfl, fun _ _ => rfl⟩

theorem OnlyEnds.removeSession {before after : Inventory} {handles : List UInt32}
    (ends : before.OnlyEnds after handles) (handle : UInt32) (among : handle ∈ handles) :
    before.OnlyEnds (after.removeSession handle) handles where
  keys := ends.keys
  spent := ends.spent
  audit := ends.audit
  others other outside := by
    have differs : other ≠ handle := fun same => outside (same ▸ among)
    rw [get?_removeSession, if_neg differs]
    exact ends.others other outside

end Inventory

def Later.sameInventory : Later (Client σ) where
  related before after := after.inventory = before.inventory
  refl _ := rfl
  trans _ _ _ early late := late.trans early

theorem Later.sameInventory_allowsSending [Channel σ] :
    (sameInventory (σ := σ)).AllowsSending := fun _ _ _ _ _ => rfl

open TrustedPlatform.Action

namespace Client

theorem keepsOnFault_note {later : Later (Client σ)} (change : Inventory → Inventory) :
    (note change : Action Fault (Client σ) Unit).KeepsOnFault later := by
  intro client fault after failed
  cases failed

theorem keepsOnFault_unauthorized {α : Type} {later : Later (Client σ)}
    (action : Action Fault (Dispatch σ) α) (keeps : action.KeepsOnFault later.withoutSession) :
    (unauthorized action).KeepsOnFault later :=
  .zoom _ _ action keeps fun _ _ kept => (kept rfl).2

variable [Channel σ] {later : Later (Client σ)} (sends : later.AllowsRequests)

include sends

theorem keepsOnFault_flush (handle : UInt32) (kind : ResourceKind) :
    (flush handle kind : Action Fault (Client σ) Unit).KeepsOnFault later :=
  .bind _ _ (keeps_execute _ (sends _ rfl)) fun _ => keepsOnFault_note _

theorem keepsOnFault_evictKey (handle : UInt32) :
    (evictKey handle : Action Fault (Client σ) Unit).KeepsOnFault later :=
  .bind _ _ (keeps_execute _ (sends _ rfl)) fun _ => keepsOnFault_note _

theorem keepsOnFault_listKeys :
    (listKeys : Action Fault (Client σ) (List UInt32)).KeepsOnFault later :=
  .bind _ _ (keeps_capabilityHandles sends _ _) fun handles =>
    .returning _ (fun _ => handles) (keepsOnFault_note _)

theorem keepsOnFault_loadSavedKey (blob : Bytes) :
    (loadSavedKey blob : Action Fault (Client σ) UInt32).KeepsOnFault later :=
  .bind _ _ (.ofExcept _) fun _ => .bind _ _ (keeps_askHandle _ (sends _ rfl)) fun handle =>
    .returning _ (fun _ => handle) (keepsOnFault_note _)

theorem keepsOnFault_saveContext (handle : UInt32) (kind : ResourceKind) (label : Block 16) :
    (saveContext handle kind label : Action Fault (Client σ) SavedContext).KeepsOnFault later := by
  refine .bind _ _ (keeps_ask _ (sends _ rfl) _) fun blob => .bind _ _ (.ofExcept _) fun saved => ?_
  have ends : (if kind.isSession then do
        note fun inventory => inventory.removeSession handle
        return saved
      else return saved : Action Fault (Client σ) SavedContext).KeepsOnFault later := by
    split
    · exact .returning _ (fun _ => saved) (keepsOnFault_note _)
    · exact .ofKeeps (.pure _)
  dsimp only
  split
  · exact .bind _ _ (.throw _) fun _ => ends
  · exact ends

/-- What is no session is loaded without a claim, and is known as a key only once it is loaded. -/
theorem keepsOnFault_loadContext (hint : UInt32) (keep : Bool) (saved : SavedContext)
    (isOther : saved.sessionBlob? = none) :
    (loadContext hint keep saved : Action Fault (Client σ) UInt32).KeepsOnFault later := by
  refine .bindOutcome _ _ fun blob encoded => ?_
  cases found : saved.resource? with
  | none => exact .ofKeeps (.throw _)
  | some kind =>
    have noSession : ¬ kind.isSession = true := by
      intro isSession
      have isBlob := (saved.sessionBlob?_eq_some_iff blob).mpr ⟨kind, found, isSession, encoded⟩
      rw [isOther] at isBlob
      cases isBlob
    have loads : (loadBlob kind hint keep blob : Action Fault (Client σ) UInt32).Keeps later :=
      keeps_loadBlob kind hint keep blob (fun sized _ => keeps_loadSized sends hint keep sized)
        (fun isSession => absurd isSession noSession) fun isSession => absurd isSession noSession
    refine .bind _ _ loads fun handle => ?_
    dsimp only
    split
    · exact .returning _ (fun _ => handle) (keepsOnFault_note _)
    · exact .ofKeeps (.pure _)

end Client

namespace PlainCall

variable [Channel σ] {later : Later (Client σ)}

open Client

/-- A call that takes no session changes what is known only when nothing can fail any more.  What
it loads is claimed first, and keys are evicted one after the other. -/
theorem keepsOnFault_perform (call : PlainCall) (sends : later.AllowsRequests)
    (single : ∀ rounds, call ≠ .evictAll rounds)
    (others : ∀ hint keep saved, call = .loadContext hint keep saved →
      saved.sessionBlob? = none) :
    (call.perform : Action Fault (Client σ) Answer).KeepsOnFault later := by
  have silent : (∀ change, ¬ call.Notes change) →
      (call.perform : Action Fault (Client σ) Answer).KeepsOnFault later :=
    fun never => .ofKeeps (call.keeps_perform sends fun change notes => absurd notes (never change))
  cases call with
  | flush handle kind =>
    exact .returning _ (fun _ => Answer.nothing) (keepsOnFault_flush sends handle kind)
  | evictKey handle =>
    exact .returning _ (fun _ => Answer.nothing) (keepsOnFault_evictKey sends handle)
  | listKeys => exact .returning _ Answer.handles (keepsOnFault_listKeys sends)
  | evictAll rounds => exact absurd rfl (single rounds)
  | loadSavedKey blob =>
    exact .returning _ (fun handle => Answer.number handle.toNat)
      (keepsOnFault_loadSavedKey sends blob)
  | saveContext handle kind label =>
    exact .returning _ Answer.saved (keepsOnFault_saveContext sends handle kind label)
  | loadContext hint keep saved =>
    exact .returning _ (fun handle => Answer.number handle.toNat)
      (keepsOnFault_loadContext sends hint keep saved (others hint keep saved rfl))
  | startup kind =>
    exact .returning _ (fun _ => Answer.nothing)
      (.bind _ _ (keeps_ask _ (sends _ rfl) _) fun _ => keepsOnFault_note _)
  | auditListing =>
    exact .returning _ Answer.listing (.bind _ _ (keeps_auditPages sends _ _) fun listing =>
      .returning _ (fun _ => listing) (keepsOnFault_note _))
  | _ => exact silent fun change notes => by cases notes

end PlainCall

namespace Dispatch

variable [Channel σ]

theorem Seats.onlyEnds {before after : Inventory} {session left : Session} {handles : List UInt32}
    (seats : Seats before after session left handles) : before.OnlyEnds after handles := by
  obtain ⟨sessions, rfl⟩ := seats.only
  exact ⟨rfl, rfl, rfl, seats.others⟩

/-- The attempts at a command change nothing that is known but the sessions they began under. -/
theorem execute_onlyEnds (command : Command) (client : Client σ) (use : SessionUse) :
    ∃ outcome after left,
      (execute command).run ⟨client, some use⟩ =
        (outcome, ⟨after, some { use with session := left }⟩) ∧
      client.inventory.OnlyEnds after.inventory
        ((starts command (furtherAttempts command client) ⟨client, some use⟩).filterMap
          handle?) := by
  have course := executeUpTo_course command (furtherAttempts command client) ⟨client, some use⟩
  obtain ⟨reached, left, ended, seats⟩ := course.seats client use rfl
  have ends := seats.onlyEnds
  rw [run_execute, ended]
  by_cases active : left.status = .active
  · exact ⟨_, reached, left, congrArg _ (settle_of_active _ _ active), ends⟩
  · exact ⟨_, _, left, congrArg _ (settle_of_over _ _ active),
      ends.removeSession left.handle seats.among⟩

end Dispatch

namespace AuthorizedCall

theorem keepsOnFault_finish (call : AuthorizedCall) (reply : Reply) :
    (finish call reply : Action Fault (Dispatch σ) Answer).KeepsOnFault unchanged := by
  have noting : ∀ (change : Inventory → Inventory) (answer : Answer),
      (do
        Dispatch.onClient (Client.note change)
        return answer : Action Fault (Dispatch σ) Answer).KeepsOnFault unchanged := by
    intro change answer dispatch fault after failed
    cases failed
  have silent : (∀ change, ¬ call.Notes change) →
      (finish call reply : Action Fault (Dispatch σ) Answer).KeepsOnFault unchanged :=
    fun never => .ofKeeps (call.keeps_finish reply fun change notes =>
      absurd notes (never change))
  cases call with
  | loadKey older parent key =>
    exact .bind _ _ (.ofExcept _) fun _ => .bind _ _ (.ofExcept _) fun _ => noting _ _
  | publicKey handle => exact .bind _ _ (.ofExcept _) fun _ => noting _ _
  | signedAudit key close antiReplay => exact .bind _ _ (.ofExcept _) fun _ => noting _ _
  | setAudited ordinal audited => exact .bind _ _ (.ofExcept _) fun _ => noting _ _
  | _ => exact silent fun change notes => by cases notes

variable [Channel σ]

/-- A call that is lent no session, and fails, leaves what is known as it was. -/
theorem keepsOnFault_perform {later : Later (Client σ)} (call : AuthorizedCall)
    (sends : later.AllowsRequests) :
    (call.perform : Action Fault (Dispatch σ) Answer).KeepsOnFault later.withoutSession := by
  rw [call.perform_eq, ← bind_assoc]
  refine .bind _ _ (call.keeps_asking sends) fun reply => (call.keepsOnFault_finish reply).mono ?_
  intro before after same
  rw [show after = before from same]
  exact later.withoutSession.refl before

/-- A call that is lent a session, and fails, changes nothing that is known but the sessions it was
begun under. -/
theorem perform_onlyEnds (call : AuthorizedCall) (client : Client σ) (use : SessionUse) :
    ∃ answer after left,
      (call.perform : Action Fault (Dispatch σ) Answer).run ⟨client, some use⟩ =
        (answer, ⟨after, some { use with session := left }⟩) ∧
      ∀ fault, answer = .error fault → client.inventory.OnlyEnds after.inventory
        (use.session.handle :: call.issued ⟨client, some use⟩) := by
  obtain ⟨prepared, nonces, session, made, handle, _, _⟩ := call.prepare_cases client use
  cases prepared with
  | error fault =>
    exact ⟨_, _, session, call.perform_of_unprepared _ _ fault made, fun _ _ => .of_same rfl _⟩
  | ok command =>
    obtain ⟨outcome, executed, left, ran, ends⟩ :=
      Dispatch.execute_onlyEnds command { client with nonces } { use with session }
    have issued := call.issued_of_prepared _ command _ _ made
    rw [issued] at ends
    dsimp only at ends
    rw [handle] at ends
    cases outcome with
    | error fault =>
      have failed := call.perform_of_unexecuted _ _ _ command fault made ran
      exact ⟨_, executed, left, failed, fun _ _ => ends⟩
    | ok reply =>
      have performed : (call.perform : Action Fault (Dispatch σ) Answer).run ⟨client, some use⟩ =
          (finish call reply).run ⟨executed, some { use with session := left }⟩ := by
        rw [call.perform_eq, Action.run_bind, made]
        dsimp only
        rw [Action.run_bind, ran]
      obtain ⟨answer, inventory, finished, _⟩ := call.run_finish reply
        (⟨executed, some { use with session := left }⟩ : Dispatch σ)
      refine ⟨answer, _, left, performed.trans finished, ?_⟩
      rintro fault rfl
      have same : _ = _ := call.keepsOnFault_finish reply _ fault _ finished
      have kept : inventory = executed.inventory :=
        congrArg (fun dispatch => dispatch.client.inventory) same
      dsimp only
      rw [kept]
      exact ends

end AuthorizedCall

namespace Call

/-- A call ends sessions or evicts keys as it goes, before all of it has succeeded. -/
inductive Discards : Call → Prop where
  | terminate (name : String) : Discards (.terminate name)
  | evictAll (rounds : Nat) : Discards (.plain (.evictAll rounds))

/-- A call moves the session that it is given out of the module, or back. -/
inductive Moves : Call → Prop where
  | saveSession (name : String) : Moves (.saveSession name)
  | loadSession (name : String) (blob : Bytes) : Moves (.loadSession name blob)

/-- The handles of the sessions that a call authorizes commands with: the one it is given, and those
that are issued in its course. -/
def handles [Channel σ] (call : Call) (workspace : Workspace σ) : List UInt32 :=
  match call with
  | .authorized call (some loan) =>
    match workspace.session? loan.name with
    | none => []
    | some session =>
      session.handle ::
        call.issued ⟨workspace.client, some ⟨session, loan.secret, loan.continueSession⟩⟩
  | _ => []

end Call

namespace Workspace

theorem session?_hold_same (workspace : Workspace σ) (name other : String) (session : Session)
    (held : workspace.session? name = some session) :
    (workspace.hold name session).session? other = workspace.session? other := by
  by_cases same : other = name
  · rw [same, session?_hold, held]
  · exact session?_hold_of_ne workspace name other session same

/-- A call that fails leaves no trace but that the sessions it was begun under may be over. -/
structure KeepsOnFault [Channel σ] (call : Call) (before after : Workspace σ) : Prop where
  known : before.client.inventory.OnlyEnds after.client.inventory (call.handles before)
  held : call.Moves → ∀ name, after.session? name = before.session? name

variable [Channel σ]

omit [Channel σ] in
theorem inventory_onClient_of_error (workspace : Workspace σ)
    (action : Action Fault (Client σ) Answer) (fault : Fault)
    (keeps : action.KeepsOnFault Later.sameInventory)
    (failed : ((onClient action).run workspace).1 = .error fault) :
    ((onClient action).run workspace).2.client.inventory = workspace.client.inventory := by
  rw [onClient, Action.run_zoom] at failed ⊢
  exact keeps workspace.client fault _ (Prod.ext failed rfl)

theorem inventory_openSession_of_error (workspace : Workspace σ) (name : String)
    (kind : SessionKind) (secret : Secret) (fault : Fault)
    (failed : ((openSession name kind secret).run workspace).1 = .error fault) :
    ((openSession name kind secret).run workspace).2.client.inventory =
      workspace.client.inventory := by
  rcases Client.openSession_cases kind secret workspace.client with
    ⟨other, link, nonces, opened⟩ | ⟨session, link, nonces, opened, _⟩
  · rw [run_openSession_of_error workspace name kind secret other _ opened]
  · rw [run_openSession_of_ok workspace name kind secret session _ opened] at failed
    cases failed

theorem keepsOnFault_saveSession (workspace : Workspace σ) (name : String) (fault : Fault)
    (failed : ((Call.saveSession name).perform.run workspace).1 = .error fault) :
    KeepsOnFault (.saveSession name) workspace
      ((Call.saveSession name).perform.run workspace).2 := by
  cases held : workspace.session? name with
  | none =>
    rw [run_of_lost workspace (.saveSession name) name rfl held] at failed
    cases failed
  | some session =>
    obtain ⟨outcome, after, left, ran, saves⟩ :=
      run_saveSession_of_held Later.sameInventory_allowsSending workspace name session held
    rw [ran] at failed ⊢
    cases saves with
    | refused _ => exact ⟨.of_same rfl _, fun _ other => session?_hold_same _ name other _ held⟩
    | failed _ after _ same =>
      exact ⟨.of_same same _, fun _ other =>
        session?_hold_same { workspace with client := after } name other _ held⟩
    | saved _ _ _ _ => cases failed

/-- What was claimed for a session is given back when the session is not loaded. -/
theorem keepsOnFault_loadSession (workspace : Workspace σ) (name : String) (blob : Bytes)
    (fault : Fault)
    (failed : ((Call.loadSession name blob).perform.run workspace).1 = .error fault) :
    KeepsOnFault (.loadSession name blob) workspace
      ((Call.loadSession name blob).perform.run workspace).2 := by
  cases held : workspace.session? name with
  | none =>
    rw [run_of_lost workspace (.loadSession name blob) name rfl held] at failed
    cases failed
  | some session =>
    obtain ⟨outcome, after, left, ran, loads⟩ :=
      run_loadSession_of_held Later.sameInventory_allowsSending workspace name session blob held
    rw [ran] at failed ⊢
    cases loads with
    | refused _ => exact ⟨.of_same rfl _, fun _ other => session?_hold_same _ name other _ held⟩
    | reused _ _ => exact ⟨.of_same rfl _, fun _ other => session?_hold_same _ name other _ held⟩
    | failed _ after _ isNew same =>
      have spent : after.inventory = workspace.client.inventory.spend blob := same
      have released : after.inventory.release blob = workspace.client.inventory := by
        rw [spent, workspace.client.inventory.release_spend blob isNew]
      exact ⟨.of_same released _, fun _ other => session?_hold_same
        { workspace with
          client := { after with inventory := after.inventory.release blob } } name other _ held⟩
    | loaded _ _ _ _ _ => cases failed

theorem keepsOnFault_authorized (workspace : Workspace σ) (call : AuthorizedCall) (loan : Loan)
    (fault : Fault)
    (failed : ((Call.authorized call (some loan)).perform.run workspace).1 = .error fault) :
    KeepsOnFault (.authorized call (some loan)) workspace
      ((Call.authorized call (some loan)).perform.run workspace).2 := by
  cases held : workspace.session? loan.name with
  | none =>
    rw [run_of_lost workspace (.authorized call (some loan)) loan.name rfl held] at failed
    cases failed
  | some session =>
    obtain ⟨answer, after, left, performed, ends⟩ :=
      call.perform_onlyEnds workspace.client ⟨session, loan.secret, loan.continueSession⟩
    have ran := run_lend_of_held loan call.perform workspace session left answer after held
      performed
    rw [Call.perform, ran] at failed ⊢
    constructor
    · rw [Call.handles, held]
      exact ends fault failed
    · intro moves
      cases moves

theorem inventory_plain_of_error (workspace : Workspace σ) (call : PlainCall) (fault : Fault)
    (single : ∀ rounds, call ≠ .evictAll rounds)
    (others : ∀ hint keep saved, call = .loadContext hint keep saved → saved.sessionBlob? = none)
    (failed : ((Call.plain call).perform.run workspace).1 = .error fault) :
    ((Call.plain call).perform.run workspace).2.client.inventory = workspace.client.inventory :=
  inventory_onClient_of_error workspace call.perform fault
    (call.keepsOnFault_perform Later.sameInventory_allowsSending.requests single others) failed

theorem inventory_loadContext_of_error (workspace : Workspace σ) (hint : UInt32) (keep : Bool)
    (saved : SavedContext) (fault : Fault)
    (short : ∀ blob, ¬ (Call.plain (.loadContext hint keep saved)).Strands workspace blob)
    (failed : ((Call.plain (.loadContext hint keep saved)).perform.run workspace).1 =
      .error fault) :
    ((Call.plain (.loadContext hint keep saved)).perform.run workspace).2.client.inventory =
      workspace.client.inventory := by
  cases isBlob : saved.sessionBlob? with
  | none =>
    refine inventory_plain_of_error workspace _ fault (fun _ same => nomatch same) ?_ failed
    rintro _ _ _ ⟨⟩
    exact isBlob
  | some blob =>
    exact workspace.inventory_of_failed _ blob fault isBlob failed (short blob)

/-- A call that fails leaves what is known as it was, but for the sessions that it was begun under;
and a session to be moved stays what it is.  What ends things as it goes is left out, and the claim
on a saved session whose blob is too long to be sent stays. -/
theorem keepsOnFault (workspace : Workspace σ) (call : Call) (fault : Fault)
    (undisturbed : ¬ call.Discards) (failed : (call.perform.run workspace).1 = .error fault) :
    ((∀ blob, ¬ call.Strands workspace blob) →
      KeepsOnFault call workspace (call.perform.run workspace).2) ∧
    ∀ blob, call.Strands workspace blob →
      fault = .encoding (.blobTooLarge blob.length) ∧
      (call.perform.run workspace).2 =
        { workspace with
          client := { workspace.client with
            inventory := workspace.client.inventory.spend blob } } := by
  constructor
  · intro short
    cases call with
    | openOiap name =>
      rw [Call.perform_openOiap] at failed ⊢
      have same := inventory_openSession_of_error workspace name .oiap .wellKnown fault failed
      exact ⟨.of_same same _, fun moves => nomatch moves⟩
    | openOsap name entity secret =>
      rw [Call.perform_openOsap] at failed ⊢
      have same := inventory_openSession_of_error workspace name (.osap entity) secret fault failed
      exact ⟨.of_same same _, fun moves => nomatch moves⟩
    | terminate name => exact absurd (.terminate name) undisturbed
    | nextNonceOdd name =>
      refine ⟨?_, fun moves => nomatch moves⟩
      cases held : workspace.session? name with
      | none =>
        rw [run_of_lost workspace (.nextNonceOdd name) name rfl held]
        exact .of_same rfl _
      | some session =>
        rw [run_nextNonceOdd_of_held workspace name session _ _ _ held rfl]
        exact .of_same rfl _
    | saveSession name => exact keepsOnFault_saveSession workspace name fault failed
    | loadSession name blob => exact keepsOnFault_loadSession workspace name blob fault failed
    | plain call =>
      refine ⟨.of_same ?_ _, fun moves => nomatch moves⟩
      cases call with
      | loadContext hint keep saved =>
        exact inventory_loadContext_of_error workspace hint keep saved fault short failed
      | evictAll rounds => exact absurd (.evictAll rounds) undisturbed
      | _ =>
        refine inventory_plain_of_error workspace _ fault ?_ ?_ failed
        · intro rounds same
          cases same
        · intro hint keep saved same
          cases same
    | authorized call loan? =>
      cases loan? with
      | none =>
        have keeps := Client.keepsOnFault_unauthorized call.perform
          (call.keepsOnFault_perform (Later.sameInventory_allowsSending (σ := σ)).requests)
        have lends : ((Call.authorized call none).perform : Action Fault (Workspace σ) Answer) =
          onClient (Client.unauthorized call.perform) := rfl
        rw [lends] at failed ⊢
        have same := inventory_onClient_of_error workspace _ fault keeps failed
        exact ⟨.of_same same _, fun moves => nomatch moves⟩
      | some loan => exact keepsOnFault_authorized workspace call loan fault failed
  · intro blob strands
    have ran := workspace.run_of_strands call blob strands
    rw [ran] at failed ⊢
    exact ⟨(Except.error.inj failed).symm, rfl⟩

namespace Failing

open Stranding (loading)

/-- A workspace with one open session and one key that is known, and a module that gives one
answer. -/
def workspace (answer : Bytes) : Workspace Script where
  client :=
    { link := .fresh (.ofEntries [.answer answer])
      inventory := (Inventory.empty.addSession 7 .oiap).addKey 3 none
      nonces := ⟨fun number => .replicate 20 (.ofNat (3 + number)), 0⟩
      attempts := 1 }
  sessions := [("owner", .oiap 7 (.replicate 20 1))]

def refusal : Bytes := Bytes.word16 0xc4 ++ Bytes.bigEndian 4 10 ++ Bytes.word32 1

def signing : Call := .authorized (.sign 3 [0xaa]) (some ⟨"owner", .wellKnown, true⟩)

/-- A key that refuses to sign stays known, with its public part or without. -/
theorem keepsOnFault_of_refusal :
    ¬ signing.Discards ∧
      (signing.perform.run (workspace refusal)).1 = .error (.refused .sign 1) ∧
      (∀ blob, ¬ signing.Strands (workspace refusal) blob) ∧
      KeepsOnFault signing (workspace refusal) (signing.perform.run (workspace refusal)).2 := by
  have undisturbed : ¬ signing.Discards := fun discards => nomatch discards
  have failed : (signing.perform.run (workspace refusal)).1 = .error (.refused .sign 1) := rfl
  have short : ∀ blob, ¬ signing.Strands (workspace refusal) blob := by
    rintro blob ⟨⟨_, _, _, same, _⟩, _, _⟩
    cases same
  exact ⟨undisturbed, failed, short,
    (keepsOnFault (workspace refusal) signing _ undisturbed failed).1 short⟩

/-- The saved session is claimed and then not sent: the call fails, and leaves something else known
than before. -/
theorem spent_of_oversized :
    ¬ loading.Discards ∧
      ∃ fault, (loading.perform.run (workspace refusal)).1 = .error fault ∧
        (loading.perform.run (workspace refusal)).2.client.inventory.spent ≠
          (workspace refusal).client.inventory.spent := by
  obtain ⟨blob, strands⟩ := Stranding.strands_loading (workspace refusal) rfl
  rw [run_of_strands _ loading blob strands]
  exact ⟨fun discards => (nomatch discards), _, rfl, List.cons_ne_nil _ _⟩

end Failing

end Workspace

end TrustedPlatform

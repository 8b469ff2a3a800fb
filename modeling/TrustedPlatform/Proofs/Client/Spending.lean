import TrustedPlatform.Proofs.Client.Loading
import TrustedPlatform.Proofs.Client.Rest
import TrustedPlatform.Proofs.Client.Tracking

/-!
# Saved sessions that are loaded once

A saved session is known by the hash of its blob.  A load that succeeds spends it, a load that fails
does not, nothing else spends any, and only starting the module gives them back
(`Workspace.spent_cases`); so each is loaded at most once between two starts
(`Workspace.loadsOnce`).
-/

set_option autoImplicit false

namespace TrustedPlatform

theorem SavedContext.encode_of_short (saved : SavedContext)
    (additional : saved.additional.length < Bytes.capacity 4)
    (sensitive : saved.sensitive.length < Bytes.capacity 4) :
    ∃ blob, saved.encode = .ok blob ∧
      blob.length = saved.additional.length + saved.sensitive.length + 58 := by
  have sizedAdditional : Bytes.sized saved.additional =
      .ok (Bytes.bigEndian 4 saved.additional.length ++ saved.additional) := if_pos additional
  have sizedSensitive : Bytes.sized saved.sensitive =
      .ok (Bytes.bigEndian 4 saved.sensitive.length ++ saved.sensitive) := if_pos sensitive
  unfold encode
  rw [sizedAdditional, sizedSensitive]
  refine ⟨_, rfl, ?_⟩
  simp only [List.length_append, Bytes.length_word16, Bytes.length_word32, Block.length_bytes,
    Bytes.length_bigEndian]
  omega

variable {σ : Type} [Channel σ]

def Later.sameSpent : Later (Client σ) where
  related before after := after.inventory.spent = before.inventory.spent
  refl _ := rfl
  trans _ _ _ early late := late.trans early

theorem Later.sameSpent_allowsSending : (Later.sameSpent (σ := σ)).AllowsSending :=
  fun _ _ _ _ _ => rfl

theorem PlainCall.Notes.same_spent {call : PlainCall} {change : Inventory → Inventory}
    (notes : call.Notes change) (goesOn : ∀ kind, call ≠ .startup kind)
    (others : ∀ hint keep saved, call = .loadContext hint keep saved → saved.sessionBlob? = none)
    (inventory : Inventory) : (change inventory).spent = inventory.spent := by
  cases notes with
  | spend hint keep saved blob isBlob =>
    rw [others hint keep saved rfl] at isBlob
    cases isBlob
  | release hint keep saved blob isBlob =>
    rw [others hint keep saved rfl] at isBlob
    cases isBlob
  | startup kind => exact absurd rfl (goesOn kind)
  | _ => rfl

/-- Starting the module fails and changes nothing that is known, or forgets every session. -/
theorem Client.startup_cases (kind : StartupKind) (client : Client σ) :
    (∃ fault after, (startup kind).run client = (.error fault, after) ∧
        after.inventory = client.inventory) ∨
      ∃ after, (startup kind).run client = (.ok (), after) ∧
        after.inventory = client.inventory.restart := by
  have asked := keeps_ask { ordinal := .startup, parameters := Bytes.word16 kind.code }
    (Later.onlyLink_allowsSending _) (pure () : Decoder Unit) client
  unfold startup
  rw [Action.run_bind]
  cases ran : (ask { ordinal := .startup, parameters := Bytes.word16 kind.code }
      (pure () : Decoder Unit)).run client with
  | mk outcome after =>
    rw [ran] at asked
    obtain ⟨link, rfl⟩ := asked
    cases outcome with
    | error fault => exact Or.inl ⟨fault, _, rfl, rfl⟩
    | ok _ => exact Or.inr ⟨_, rfl, rfl⟩

/-- A call claims a saved session, and then cannot send its blob, which is too long. -/
structure Call.Strands (workspace : Workspace σ) (call : Call) (blob : Bytes) : Prop where
  context : ∃ hint keep saved,
    call = .plain (.loadContext hint keep saved) ∧ saved.sessionBlob? = some blob
  isNew : Sha1.hash blob ∉ workspace.client.inventory.spent
  large : Bytes.capacity 4 ≤ blob.length

namespace Workspace

/-- A call starts the module. -/
def Restarts (workspace : Workspace σ) (call : Call) : Prop :=
  ∃ kind answer, call = .plain (.startup kind) ∧ (call.perform.run workspace).1 = .ok answer

theorem startup_cases (workspace : Workspace σ) (kind : StartupKind) :
    (∃ fault, ((Call.plain (.startup kind)).perform.run workspace).1 = .error fault ∧
        ((Call.plain (.startup kind)).perform.run workspace).2.client.inventory =
          workspace.client.inventory) ∨
      ((Call.plain (.startup kind)).perform.run workspace).1 = .ok .nothing ∧
        ((Call.plain (.startup kind)).perform.run workspace).2.client.inventory =
          workspace.client.inventory.restart := by
  rw [Call.perform, PlainCall.perform, onClient, Action.run_zoom, Action.run_bind]
  rcases Client.startup_cases kind workspace.client with
    ⟨fault, after, failed, same⟩ | ⟨after, started, restarted⟩
  · rw [failed]
    exact Or.inl ⟨fault, rfl, same⟩
  · rw [started]
    exact Or.inr ⟨rfl, restarted⟩

theorem spent_openSession (workspace : Workspace σ) (name : String) (kind : SessionKind)
    (secret : Secret) :
    ((openSession name kind secret).run workspace).2.client.inventory.spent =
      workspace.client.inventory.spent := by
  rcases Client.openSession_cases kind secret workspace.client with
    ⟨fault, link, nonces, opened⟩ | ⟨session, link, nonces, opened, _⟩
  · rw [run_openSession_of_error workspace name kind secret fault _ opened]
  · rw [run_openSession_of_ok workspace name kind secret session _ opened]
    rfl

theorem spent_terminate (workspace : Workspace σ) (name : String) :
    ((Call.terminate name).perform.run workspace).2.client.inventory.spent =
      workspace.client.inventory.spent := by
  cases held : workspace.session? name with
  | none => rw [run_of_lost workspace (.terminate name) name rfl held]
  | some session =>
    rw [run_terminate_of_held workspace name session held]
    exact Client.keeps_terminate Later.sameSpent_allowsSending.requests session (fun _ => rfl)
      workspace.client

theorem spent_nextNonceOdd (workspace : Workspace σ) (name : String) :
    ((Call.nextNonceOdd name).perform.run workspace).2.client.inventory.spent =
      workspace.client.inventory.spent := by
  cases held : workspace.session? name with
  | none => rw [run_of_lost workspace (.nextNonceOdd name) name rfl held]
  | some session =>
    rw [run_nextNonceOdd_of_held workspace name session _ _ _ held rfl]
    rfl

theorem spent_saveSession (workspace : Workspace σ) (name : String) :
    ((Call.saveSession name).perform.run workspace).2.client.inventory.spent =
      workspace.client.inventory.spent := by
  cases held : workspace.session? name with
  | none => rw [run_of_lost workspace (.saveSession name) name rfl held]
  | some session =>
    obtain ⟨outcome, after, left, ran, saves⟩ :=
      run_saveSession_of_held Later.sameSpent_allowsSending workspace name session held
    rw [ran]
    cases saves with
    | refused _ => rfl
    | failed _ _ _ sent => exact sent
    | saved _ _ _ sent => exact sent

theorem spent_authorized (workspace : Workspace σ) (call : AuthorizedCall) (loan? : Option Loan) :
    ((Call.authorized call loan?).perform.run workspace).2.client.inventory.spent =
      workspace.client.inventory.spent := by
  cases loan? with
  | none =>
    exact Client.keeps_unauthorized _ (call.keeps_perform Later.sameSpent_allowsSending.requests
      fun change notes client => (notes.same client.inventory).2) workspace.client
  | some loan =>
    cases held : workspace.session? loan.name with
    | none => rw [run_of_lost workspace (.authorized call (some loan)) loan.name rfl held]
    | some session =>
      obtain ⟨answer, after, left, ran, ends⟩ :=
        run_authorized_of_held workspace call loan session held
      rw [ran]
      cases ends with
      | unprepared _ _ _ _ _ _ => rfl
      | repeats _ _ => rfl
      | dispatched _ _ _ _ tracks => exact tracks.spent

theorem spent_plain (workspace : Workspace σ) (call : PlainCall)
    (goesOn : ∀ kind, call ≠ .startup kind)
    (others : ∀ hint keep saved, call = .loadContext hint keep saved →
      saved.sessionBlob? = none) :
    ((Call.plain call).perform.run workspace).2.client.inventory.spent =
      workspace.client.inventory.spent :=
  call.keeps_perform Later.sameSpent_allowsSending.requests
    (fun _ notes client => notes.same_spent goesOn others client.inventory) workspace.client

/-- What a call makes of the saved sessions that were loaded again: it claims one, or it starts the
module, or they stay the same. -/
theorem spent_cases (workspace : Workspace σ) (call : Call) :
    (call.perform.run workspace).2.client.inventory.spent = workspace.client.inventory.spent ∨
      (∃ blob command, call.Loads workspace blob command ∧
        (call.perform.run workspace).2.client.inventory.spent =
          Sha1.hash blob :: workspace.client.inventory.spent) ∨
      (workspace.Restarts call ∧
        (call.perform.run workspace).2.client.inventory.spent = []) := by
  cases call with
  | openOiap name =>
    rw [Call.perform_openOiap]
    exact Or.inl (spent_openSession workspace name .oiap .wellKnown)
  | openOsap name entity secret =>
    rw [Call.perform_openOsap]
    exact Or.inl (spent_openSession workspace name (.osap entity) secret)
  | terminate name => exact Or.inl (spent_terminate workspace name)
  | nextNonceOdd name => exact Or.inl (spent_nextNonceOdd workspace name)
  | saveSession name => exact Or.inl (spent_saveSession workspace name)
  | loadSession name blob =>
    cases held : workspace.session? name with
    | none =>
      left
      rw [run_of_lost workspace (.loadSession name blob) name rfl held]
    | some session =>
      by_cases suspended : session.status = .suspended
      · rcases (loading_session workspace name session blob held suspended).spent with same | spent
        · exact Or.inl same
        · exact Or.inr (Or.inl ⟨blob, _, .session name session blob held suspended, spent⟩)
      · left
        rw [run_loadSession_of_unsuspended workspace name session held suspended blob]
        rfl
  | plain call =>
    cases call with
    | startup kind =>
      rcases startup_cases workspace kind with ⟨_, _, same⟩ | ⟨started, restarted⟩
      · exact Or.inl (congrArg Inventory.spent same)
      · exact Or.inr (Or.inr ⟨⟨kind, .nothing, rfl, started⟩, congrArg Inventory.spent restarted⟩)
    | loadContext hint keep saved =>
      cases isBlob : saved.sessionBlob? with
      | none =>
        left
        refine spent_plain workspace _ ?_ ?_
        · intro _ same
          cases same
        · rintro _ _ _ ⟨⟩
          exact isBlob
      | some blob =>
        rcases (loading_context workspace hint keep saved blob isBlob).spent with same | spent
        · exact Or.inl same
        · exact Or.inr (Or.inl ⟨blob, _, .context hint keep saved blob isBlob, spent⟩)
    | _ =>
      left
      refine spent_plain workspace _ ?_ ?_
      · intro _ same
        cases same
      · intro _ _ _ same
        cases same
  | authorized call loan? => exact Or.inl (spent_authorized workspace call loan?)

/-- As long as the module is not started, what was loaded again counts as such. -/
theorem spent_of_goesOn (workspace : Workspace σ) (calls : List Call) (digest : Digest)
    (goesOn : workspace.Throughout (fun before call => ¬ before.Restarts call) calls)
    (known : digest ∈ workspace.client.inventory.spent) :
    digest ∈ (workspace.run calls).2.client.inventory.spent := by
  refine goesOn.keeps (fun before => digest ∈ before.client.inventory.spent) ?_ known
  intro before call continues knownBefore
  rcases spent_cases before call with same | ⟨blob, _, _, spent⟩ | ⟨restarts, _⟩
  · rw [same]
    exact knownBefore
  · rw [spent]
    exact List.mem_cons_of_mem _ knownBefore
  · exact absurd restarts continues

/-- What holds of loading saved sessions again, in whatever state of a client and its sessions.
They are told apart by the hashes of their blobs. -/
structure LoadsOnce (workspace : Workspace σ) : Prop where
  -- What is to load a blob and does not fail has passed the checks, if it was given a session.
  passes : ∀ (call : Call) (blob : Bytes) (answer : Answer), call.blob? = some blob →
    (call.perform.run workspace).1 = .ok answer →
    answer = .lost ∨ ∃ command, call.Loads workspace blob command
  -- A load succeeds exactly if no other did before, and the module answers with a handle.
  loads_iff : ∀ (call : Call) (blob : Bytes) (command : Command),
    call.Loads workspace blob command →
    ((∃ answer, (call.perform.run workspace).1 = .ok answer) ↔
      Sha1.hash blob ∉ workspace.client.inventory.spent ∧
        command.plainFrame.length < Bytes.capacity 4 ∧
        ∃ handle link, (Link.transmit command.plainFrame).run workspace.client.link =
          (.ok (Command.handing handle).frame, link))
  -- After one that did, and until the module is started, every other is refused.
  refuses : ∀ (first : Call) (blob : Bytes) (command : Command),
    first.Loads workspace blob command →
    (∃ answer, (first.perform.run workspace).1 = .ok answer) →
    ∀ between, (first.perform.run workspace).2.Throughout
        (fun before call => ¬ before.Restarts call) between →
    ∀ (second : Call) (other : Command),
      second.Loads ((first.perform.run workspace).2.run between).2 blob other →
      (second.perform.run ((first.perform.run workspace).2.run between).2).1 =
          .error .contextReused ∧
        (second.perform.run ((first.perform.run workspace).2.run between).2).2.client =
          ((first.perform.run workspace).2.run between).2.client
  -- A load that fails leaves what is known as it was, unless its blob is claimed but too long to be
  -- sent.
  fails : ∀ (call : Call) (blob : Bytes) (fault : Fault), call.blob? = some blob →
    (call.perform.run workspace).1 = .error fault → ¬ call.Strands workspace blob →
    (call.perform.run workspace).2.client.inventory = workspace.client.inventory
  strands : ∀ (call : Call) (blob : Bytes), call.Strands workspace blob →
    call.perform.run workspace =
      (.error (.encoding (.blobTooLarge blob.length)),
        { workspace with
          client := { workspace.client with
            inventory := workspace.client.inventory.spend blob } })
  restarts : ∀ call, workspace.Restarts call →
    (call.perform.run workspace).2.client.inventory.spent = []
  others : ∀ call : Call, call.LoadsOther →
    (call.perform.run workspace).2.client.inventory.spent = workspace.client.inventory.spent ∧
      ((call.perform.run workspace).1 = .error .contextReused →
        workspace.client.Brought (call.perform.run workspace).2.client .contextReused)

/-- The claim on a saved session that is too long to be sent stays. -/
theorem run_of_strands (workspace : Workspace σ) (call : Call) (blob : Bytes)
    (strands : call.Strands workspace blob) :
    call.perform.run workspace =
      (.error (.encoding (.blobTooLarge blob.length)),
        { workspace with
          client := { workspace.client with
            inventory := workspace.client.inventory.spend blob } }) := by
  obtain ⟨⟨hint, keep, saved, rfl, isBlob⟩, isNew, large⟩ := strands
  have unsized : Bytes.sized blob = .error (.encoding (.blobTooLarge blob.length)) :=
    if_neg (Nat.not_lt.mpr large)
  have loads := Client.run_loadContext_of_session hint keep saved blob isBlob workspace.client
  rw [Action.run_bind, Client.run_claim, if_neg isNew] at loads
  dsimp only at loads
  rw [Action.run_bind, Action.run_ofExcept, unsized] at loads
  exact run_loadContext workspace hint keep saved _ _ loads

/-- A load that fails leaves what is known as it was, but for a blob too long to be sent. -/
theorem inventory_of_failed (workspace : Workspace σ) (call : Call) (blob : Bytes) (fault : Fault)
    (isBlob : call.blob? = some blob) (failed : (call.perform.run workspace).1 = .error fault)
    (short : ¬ call.Strands workspace blob) :
    (call.perform.run workspace).2.client.inventory = workspace.client.inventory := by
  cases call with
  | loadSession name loaded =>
    obtain rfl : loaded = blob := Option.some.inj isBlob
    cases held : workspace.session? name with
    | none =>
      rw [run_of_lost workspace (.loadSession name loaded) name rfl held] at failed
      cases failed
    | some session =>
      by_cases suspended : session.status = .suspended
      · have loading := loading_session workspace name session loaded held suspended
        rw [failed] at loading
        rcases loading.inventory_of_error with same | ⟨context, _⟩
        · exact same
        · cases context
      · rw [run_loadSession_of_unsuspended workspace name session held suspended loaded]
        rfl
  | plain call =>
    cases call with
    | loadContext hint keep saved =>
      have loading := loading_context workspace hint keep saved blob isBlob
      rw [failed] at loading
      rcases loading.inventory_of_error with same | ⟨_, isNew, large⟩
      · exact same
      · exact absurd ⟨⟨hint, keep, saved, rfl, isBlob⟩, isNew, large⟩ short
    | _ => cases isBlob
  | _ => cases isBlob

theorem loads_of_ok (workspace : Workspace σ) (call : Call) (blob : Bytes) (answer : Answer)
    (isBlob : call.blob? = some blob) (success : (call.perform.run workspace).1 = .ok answer) :
    answer = .lost ∨ ∃ command, call.Loads workspace blob command := by
  cases call with
  | loadSession name loaded =>
    obtain rfl : loaded = blob := Option.some.inj isBlob
    cases held : workspace.session? name with
    | none =>
      rw [run_of_lost workspace (.loadSession name loaded) name rfl held] at success
      cases success
      exact Or.inl rfl
    | some session =>
      by_cases suspended : session.status = .suspended
      · exact Or.inr ⟨_, .session name session loaded held suspended⟩
      · rw [run_loadSession_of_unsuspended workspace name session held suspended loaded] at success
        cases success
  | plain call =>
    cases call with
    | loadContext hint keep saved => exact Or.inr ⟨_, .context hint keep saved blob isBlob⟩
    | _ => cases isBlob
  | _ => cases isBlob

theorem brought_of_loadsOther (workspace : Workspace σ) (call : Call) (other : call.LoadsOther)
    (refused : (call.perform.run workspace).1 = .error .contextReused) :
    workspace.client.Brought (call.perform.run workspace).2.client .contextReused := by
  cases other with
  | context hint keep saved isOther =>
    cases ran : (Client.loadContext hint keep saved).run workspace.client with
    | mk outcome after =>
      rw [run_loadContext workspace hint keep saved outcome after ran] at refused ⊢
      cases outcome with
      | ok handle => cases refused
      | error fault =>
        cases refused
        exact Client.brought_of_loadContext hint keep saved isOther _ _ ran
  | key blob =>
    cases ran : (Client.loadSavedKey blob).run workspace.client with
    | mk outcome after =>
      rw [run_loadSavedKey workspace blob outcome after ran] at refused ⊢
      cases outcome with
      | ok handle => cases refused
      | error fault =>
        cases refused
        exact Client.brought_of_loadSavedKey blob _ _ ran

/-- After each load that succeeded, every other of the same blob is refused until the module is
started again; and a load that failed is no load. -/
theorem loadsOnce (workspace : Workspace σ) : workspace.LoadsOnce where
  passes := workspace.loads_of_ok
  loads_iff call blob command loads :=
    (loading_of_loads workspace call blob command loads).ok_iff loads
  refuses first blob command loads succeeds between goesOn second other loadsAgain := by
    obtain ⟨answer, success⟩ := succeeds
    have loading := loading_of_loads workspace first blob command loads
    rw [success] at loading
    have known : Sha1.hash blob ∈ (first.perform.run workspace).2.client.inventory.spent := by
      rw [loading.spent_of_ok]
      exact List.mem_cons_self
    have knownLater := spent_of_goesOn _ between _ goesOn known
    exact (loading_of_loads _ second blob other loadsAgain).refused_of_spent knownLater
  fails := workspace.inventory_of_failed
  strands := workspace.run_of_strands
  restarts := by
    rintro _ ⟨kind, answer, rfl, success⟩
    rcases startup_cases workspace kind with ⟨fault, failed, _⟩ | ⟨_, restarted⟩
    · rw [success] at failed
      cases failed
    · exact congrArg Inventory.spent restarted
  others call other := by
    refine ⟨?_, workspace.brought_of_loadsOther call other⟩
    cases other with
    | context hint keep saved isOther =>
      refine spent_plain workspace _ (fun _ same => nomatch same) ?_
      rintro _ _ _ ⟨⟩
      exact isOther
    | key blob =>
      exact spent_plain workspace _ (fun _ same => nomatch same) fun _ _ _ same => nomatch same

namespace Reload

open Rehearsal (opening saving)

def kept : Workspace Script :=
  ((fresh (.fresh (.ofEntries [.answer (opening 8 (List.replicate 20 1)), .answer (saving [0xaa]),
    .answer (opening 9 []), .answer (saving [0xaa])])
    ⟨fun number => Block.replicate 20 (.ofNat number), 0⟩ 1)).run
    [.openOiap "idle", .saveSession "idle"]).2

def load : Call := .loadSession "idle" [0xaa]

/-- The blob is loaded once, and not again although the session was saved in between. -/
theorem refused_of_reload :
    (load.perform.run kept).1 = .ok .nothing ∧
      (load.perform.run ((load.perform.run kept).2.run [.saveSession "idle"]).2).1 =
        .error .contextReused := by
  have suspended : (kept.session? "idle").map Session.status = some .suspended := rfl
  have suspendedAgain : (((load.perform.run kept).2.run [.saveSession "idle"]).2.session?
      "idle").map Session.status = some .suspended := rfl
  have succeeds : (load.perform.run kept).1 = .ok .nothing := rfl
  obtain ⟨session, held, rests⟩ := Option.map_eq_some_iff.mp suspended
  obtain ⟨again, heldAgain, restsAgain⟩ := Option.map_eq_some_iff.mp suspendedAgain
  have goesOn : (load.perform.run kept).2.Throughout
      (fun before call => ¬ before.Restarts call) [.saveSession "idle"] := by
    refine ⟨?_, trivial⟩
    rintro ⟨_, _, same, _⟩
    cases same
  exact ⟨succeeds, ((loadsOnce kept).refuses load [0xaa] _ (.session "idle" session _ held rests)
    ⟨_, succeeds⟩ _ goesOn load _ (.session "idle" again _ heldAgain restsAgain)).1⟩

end Reload

namespace Stranding

def oversized : SavedContext where
  resource := ResourceKind.auth.code
  handle := 7
  label := .replicate 16 0
  count := 1
  integrity := .replicate 20 0
  additional := List.replicate (Bytes.capacity 4 - 1) 0
  sensitive := []

def loading : Call := .plain (.loadContext 7 true oversized)

variable (workspace : Workspace σ)

omit [Channel σ] in
theorem strands_loading (unspent : workspace.client.inventory.spent = []) :
    ∃ blob, loading.Strands workspace blob := by
  have positive : 0 < Bytes.capacity 4 := by decide
  obtain ⟨blob, encoded, length⟩ := oversized.encode_of_short
    (by rw [oversized, List.length_replicate]; omega) positive
  have isBlob : oversized.sessionBlob? = some blob :=
    (oversized.sessionBlob?_eq_some_iff blob).mpr
      ⟨.auth, ResourceKind.ofCode?_code .auth, rfl, encoded⟩
  have large : Bytes.capacity 4 ≤ blob.length := by
    rw [length, oversized, List.length_replicate]
    omega
  refine ⟨blob, ⟨7, true, oversized, rfl, isBlob⟩, ?_, large⟩
  rw [unspent]
  exact List.not_mem_nil

def silent : Workspace Script :=
  fresh (.fresh (.ofEntries []) ⟨fun number => Block.replicate 20 (.ofNat number), 0⟩ 1)

/-- A load that failed with nothing sent is no longer possible: its blob counts as loaded. -/
theorem refused_of_oversized :
    ∃ fault, fault ≠ .contextReused ∧ (loading.perform.run silent).1 = .error fault ∧
      (loading.perform.run silent).2.client.link = silent.client.link ∧
      (loading.perform.run silent).2.client.inventory.spent ≠ silent.client.inventory.spent ∧
      (loading.perform.run (loading.perform.run silent).2).1 = .error .contextReused := by
  obtain ⟨blob, strands⟩ := strands_loading silent rfl
  obtain ⟨hint, keep, saved, same, isBlob⟩ := strands.context
  have ran := run_of_strands silent loading blob strands
  have known : Sha1.hash blob ∈ (loading.perform.run silent).2.client.inventory.spent := by
    rw [ran]
    exact List.mem_cons_self
  have again := loading_context (loading.perform.run silent).2 hint keep saved blob isBlob
  rw [← same] at again
  refine ⟨.encoding (.blobTooLarge blob.length), fun equal => (nomatch equal), ?_, ?_, ?_,
    (again.refused_of_spent known).1⟩
  · rw [ran]
  · rw [ran]
  · rw [ran]
    exact List.cons_ne_nil _ _

end Stranding

end Workspace

end TrustedPlatform

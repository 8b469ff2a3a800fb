import TrustedPlatform.Proofs.Client.Custody
import TrustedPlatform.Proofs.Client.Runs

/-!
# Loading saved sessions

A saved session is claimed, and its blob is sent to the module, which answers with a handle or not
at all.  Everything that a load can come to is said by `Workspace.Loading`, and when it succeeds by
`Workspace.Loading.ok_iff`.
-/

set_option autoImplicit false

namespace TrustedPlatform

namespace Command

def handing (handle : UInt32) : Response := success .response ⟨[handle], []⟩ []

def handed (command : Command) (answer : Except Fault Bytes) : Except Fault UInt32 :=
  command.read 0 answer >>= fun parts => parts.1.handle >>= fun handle =>
    parts.1.decode (pure ()) >>= fun _ => pure handle

variable (command : Command)

theorem handed_eq_ok_iff (one : command.outputHandles = 1) (answer : Except Fault Bytes)
    (handle : UInt32) :
    command.handed answer = .ok handle ↔ answer = .ok (handing handle).frame := by
  unfold handed
  constructor
  · intro success
    obtain ⟨⟨reply, digest, trailers⟩, found, remaining⟩ :=
      (outcome_bind_eq_ok_iff _ _ _).mp success
    obtain ⟨first, isFirst, remaining⟩ := (outcome_bind_eq_ok_iff _ _ _).mp remaining
    obtain ⟨_, nothing, shown⟩ := (outcome_bind_eq_ok_iff _ _ _).mp remaining
    obtain rfl : first = handle := Except.ok.inj shown
    obtain ⟨tag, framed, _, none, count, untrailed, _⟩ :=
      (read_eq_ok_iff _ _ _ _ _ _).mp found
    obtain rfl := List.length_eq_zero_iff.mp untrailed
    have response : tag = .response := by
      revert none
      cases tag <;> decide
    obtain ⟨handles, parameters⟩ := reply
    obtain ⟨only, rfl⟩ := List.length_eq_one_iff.mp (count.trans one)
    obtain rfl : only = first := Except.ok.inj isFirst
    obtain ⟨_, read, rest⟩ := (Decoder.complete_eq_ok_iff _ _ _).mp nothing
    cases read
    obtain rfl : parameters = [] := rest
    rw [framed, response]
    rfl
  · rintro rfl
    have found : command.read 0 (.ok (handing handle).frame) =
        .ok (⟨[handle], []⟩, command.outputDigest ⟨[handle], []⟩, []) := by
      refine (read_eq_ok_iff _ _ _ _ _ _).mpr ⟨.response, rfl, ?_, rfl, one.symm, rfl, rfl⟩
      rw [Response.length_frame]
      simp [success, headerSize, Bytes.capacity]
    rw [found]
    rfl

/-- What is not handed over was refused, or malformed: nothing else is read from an answer. -/
theorem handed_ne_reused (received : Bytes) :
    command.handed (.ok received) ≠ .error .contextReused := by
  have unread : ∀ fault, Fault.IsMalformed fault → fault ≠ .contextReused := by
    rintro _ ⟨cause, rfl⟩ same
    cases same
  unfold handed
  intro failed
  cases found : command.read 0 (.ok received) with
  | error fault =>
    rw [found] at failed
    obtain rfl : fault = .contextReused := Except.error.inj failed
    rcases command.read_eq_error 0 received _ found with malformed | ⟨_, _, _, same⟩
    · exact unread _ malformed rfl
    · cases same
  | ok parts =>
    obtain ⟨⟨handles, parameters⟩, digest, trailers⟩ := parts
    rw [found] at failed
    cases handles with
    | nil => cases failed
    | cons handle others =>
      change ((pure () : Decoder Unit).complete parameters >>= fun _ =>
        Except.ok handle) = _ at failed
      cases decoded : (pure () : Decoder Unit).complete parameters with
      | ok _ =>
        rw [decoded] at failed
        cases failed
      | error fault =>
        rw [decoded] at failed
        obtain rfl : fault = .contextReused := Except.error.inj failed
        exact unread _ (Action.FailsOnly.complete _ (.pure ()) _ _ decoded) rfl

end Command

namespace Client

variable {σ : Type} [Channel σ] (command : Command) (client : Client σ)
  (plain : command.newSecret = none) (once : command.ordinal.isRetryable = false)

include plain once

theorem run_askHandle (answer : Except Fault Bytes) (link : Link σ)
    (fits : command.plainFrame.length < Bytes.capacity 4)
    (transmitted : (Link.transmit command.plainFrame).run client.link = (answer, link)) :
    (unauthorized (Dispatch.askHandle command)).run client =
      (({ command with outputHandles := 1 } : Command).handed answer, { client with link }) := by
  have executed := Dispatch.run_execute_once { command with outputHandles := 1 } client _ _ once
    (Dispatch.executeOnce_of_plain { command with outputHandles := 1 } client answer link plain fits
      transmitted)
  rw [unauthorized, Action.run_zoom, Dispatch.run_askHandle command _ _ _ executed, Command.handed]
  cases ({ command with outputHandles := 1 } : Command).read 0 answer with
  | error fault => rfl
  | ok parts => rfl

omit plain in
theorem run_askHandle_of_large (large : Bytes.capacity 4 ≤ command.plainFrame.length) :
    ∃ cause, (unauthorized (Dispatch.askHandle command)).run client =
      (.error (.encoding cause), client) := by
  obtain ⟨cause, unsent⟩ := Dispatch.executeOnce_of_unsendable
    ({ command with outputHandles := 1 } : Command) client
    fun sendable => absurd sendable.2 (Nat.not_lt.mpr large)
  have executed := Dispatch.run_execute_once { command with outputHandles := 1 } client _ _ once
    unsent
  refine ⟨cause, ?_⟩
  rw [unauthorized, Action.run_zoom, Dispatch.run_askHandle command _ _ _ executed]
  rfl

/-- What a request for a handle comes to under a claim, which a failure takes back. -/
inductive Handing (blob : Bytes) (command : Command) (client : Client σ) :
    Except Fault UInt32 → Client σ → Prop where
  | unsendable (cause : EncodingCause) (large : Bytes.capacity 4 ≤ command.plainFrame.length) :
      Handing blob command client (.error (.encoding cause)) client
  | failed (fault : Fault) (answer : Except Fault Bytes) (link : Link σ)
      (fits : command.plainFrame.length < Bytes.capacity 4)
      (transmitted : (Link.transmit command.plainFrame).run client.link = (answer, link))
      (refused : command.handed answer = .error fault) :
      Handing blob command client (.error fault) { client with link }
  | handed (handle : UInt32) (link : Link σ) (fits : command.plainFrame.length < Bytes.capacity 4)
      (transmitted : (Link.transmit command.plainFrame).run client.link =
        (.ok (Command.handing handle).frame, link)) :
      Handing blob command client (.ok handle)
        { client with link, inventory := client.inventory.spend blob }

theorem handing_of_claimed (one : command.outputHandles = 1) (blob : Bytes)
    (isNew : Sha1.hash blob ∉ client.inventory.spent) :
    ∃ outcome after,
      (Custody.releasing blob (unauthorized (Dispatch.askHandle command))).run
          { client with inventory := client.inventory.spend blob } = (outcome, after) ∧
        Handing blob command client outcome after := by
  have same : ({ command with outputHandles := 1 } : Command) = command := by rw [← one]
  have released := client.inventory.release_spend blob isNew
  by_cases fits : command.plainFrame.length < Bytes.capacity 4
  · cases transmitted : (Link.transmit command.plainFrame).run client.link with
    | mk answer link =>
      have asked := run_askHandle command { client with inventory := client.inventory.spend blob }
        plain once answer link fits transmitted
      rw [same] at asked
      refine ⟨_, _, Custody.run_releasing blob _ _ _ _ asked, ?_⟩
      cases handed : command.handed answer with
      | error fault =>
        rw [Custody.unclaimed, released]
        exact .failed fault answer link fits transmitted handed
      | ok handle =>
        obtain rfl := (command.handed_eq_ok_iff one answer handle).mp handed
        exact .handed handle link fits transmitted
  · have large := Nat.not_lt.mp fits
    obtain ⟨cause, asked⟩ := run_askHandle_of_large command
      { client with inventory := client.inventory.spend blob } once large
    refine ⟨_, _, Custody.run_releasing blob _ _ _ _ asked, ?_⟩
    rw [Custody.unclaimed, released]
    exact .unsendable cause large

end Client

namespace Command

def loadingSession (blob : Bytes) : Command where
  ordinal := .loadAuthContext
  parameters := Bytes.bigEndian 4 blob.length ++ blob
  outputHandles := 1

def loadingContext (hint : UInt32) (keep : Bool) (blob : Bytes) : Command where
  ordinal := .loadContext
  parameters := Bytes.word32 hint ++ Bytes.flag keep ++ (Bytes.bigEndian 4 blob.length ++ blob)
  outputHandles := 1

theorem length_parameters_le (command : Command) :
    command.parameters.length ≤ command.plainFrame.length := by
  unfold plainFrame
  rw [Request.length_frame]
  dsimp only
  omega

theorem length_blob_le_loadingSession (blob : Bytes) :
    blob.length ≤ (loadingSession blob).plainFrame.length := by
  refine Nat.le_trans ?_ (loadingSession blob).length_parameters_le
  simp [loadingSession]

theorem length_blob_le_loadingContext (hint : UInt32) (keep : Bool) (blob : Bytes) :
    blob.length ≤ (loadingContext hint keep blob).plainFrame.length := by
  refine Nat.le_trans ?_ (loadingContext hint keep blob).length_parameters_le
  simp only [loadingContext, List.length_append]
  omega

end Command

namespace SavedContext

theorem sessionBlob?_eq_some_iff (saved : SavedContext) (blob : Bytes) :
    saved.sessionBlob? = some blob ↔
      ∃ kind, saved.resource? = some kind ∧ kind.isSession = true ∧ saved.encode = .ok blob := by
  unfold sessionBlob?
  cases saved.resource? with
  | none => simp
  | some kind =>
    cases isSession : kind.isSession with
    | false => simp [isSession]
    | true => cases saved.encode <;> simp [isSession, Except.toOption]

theorem only_encode (saved : SavedContext) : Fault.Only Fault.IsEncoding saved.encode :=
  .bind _ _ (Bytes.only_sized _) fun _ => .bind _ _ (Bytes.only_sized _) fun _ => .ok _

end SavedContext

variable {σ : Type} [Channel σ]

theorem Custody.handing_loadBlob (blob : Bytes) (client : Client σ)
    (isNew : Sha1.hash blob ∉ client.inventory.spent) :
    ∃ outcome after, (claiming blob (loadBlob blob)).run client = (outcome, after) ∧
      client.Handing blob (.loadingSession blob) outcome after := by
  rw [run_claiming, if_neg isNew]
  by_cases short : blob.length < Bytes.capacity 4
  · have asks : (loadBlob blob : Action Fault (Client σ) UInt32) =
        Client.unauthorized (Dispatch.askHandle (.loadingSession blob)) := by
      unfold loadBlob Bytes.sized
      rw [if_pos short]
      rfl
    rw [asks]
    exact Client.handing_of_claimed (.loadingSession blob) client rfl rfl rfl blob isNew
  · have large := Nat.le_trans (Nat.not_lt.mp short) (Command.length_blob_le_loadingSession blob)
    have failed : (loadBlob blob : Action Fault (Client σ) UInt32).run
        { client with inventory := client.inventory.spend blob } =
          (.error (.encoding (.blobTooLarge blob.length)),
            { client with inventory := client.inventory.spend blob }) := by
      unfold loadBlob Bytes.sized
      rw [if_neg short]
      rfl
    refine ⟨_, _, run_releasing blob _ _ _ _ failed, ?_⟩
    rw [unclaimed, client.inventory.release_spend blob isNew]
    exact .unsendable _ large

/-- The blob of a session is loaded under its claim, given its length in front. -/
theorem Client.run_loadContext_of_session (hint : UInt32) (keep : Bool) (saved : SavedContext)
    (blob : Bytes) (isBlob : saved.sessionBlob? = some blob) (client : Client σ) :
    (loadContext hint keep saved).run client =
      (Custody.claim blob >>= fun _ => Action.ofExcept (Bytes.sized blob) >>= fun sized =>
        Custody.releasing blob (loadSized hint keep sized)).run client := by
  obtain ⟨kind, isKind, isSession, encoded⟩ := (saved.sessionBlob?_eq_some_iff blob).mp isBlob
  have notKey : kind ≠ .key := by
    rintro rfl
    cases isSession
  have loads : (loadContext hint keep saved : Action Fault (Client σ) UInt32).run client =
      (loadBlob kind hint keep blob >>= pure).run client := by
    unfold loadContext
    rw [Action.run_bind, encoded, isKind]
    dsimp only [Action.run_ofExcept]
    simp only [if_neg notKey]
  rw [loads, bind_pure, loadBlob, if_pos isSession]

theorem Client.loadSized_eq (hint : UInt32) (keep : Bool) (blob : Bytes) :
    (loadSized hint keep (Bytes.bigEndian 4 blob.length ++ blob) :
        Action Fault (Client σ) UInt32) =
      unauthorized (Dispatch.askHandle (.loadingContext hint keep blob)) := by
  unfold loadSized Dispatch.askHandle Command.loadingContext
  rfl

/-- A call asks the module to load the blob of a saved session, with a command. -/
inductive Call.Loads (workspace : Workspace σ) : Call → Bytes → Command → Prop where
  | session (name : String) (session : Session) (blob : Bytes)
      (held : workspace.session? name = some session) (suspended : session.status = .suspended) :
      Loads workspace (.loadSession name blob) blob (.loadingSession blob)
  | context (hint : UInt32) (keep : Bool) (saved : SavedContext) (blob : Bytes)
      (isBlob : saved.sessionBlob? = some blob) :
      Loads workspace (.plain (.loadContext hint keep saved)) blob (.loadingContext hint keep blob)

/-- The blob of the saved session that a call is to load. -/
def Call.blob? : Call → Option Bytes
  | .loadSession _ blob => some blob
  | .plain (.loadContext _ _ saved) => saved.sessionBlob?
  | _ => none

/-- A call is to load a saved resource that is no session. -/
inductive Call.LoadsOther : Call → Prop where
  | context (hint : UInt32) (keep : Bool) (saved : SavedContext)
      (isOther : saved.sessionBlob? = none) : LoadsOther (.plain (.loadContext hint keep saved))
  | key (blob : Bytes) : LoadsOther (.plain (.loadSavedKey blob))

namespace Call.Loads

omit [Channel σ]

variable {workspace : Workspace σ} {call : Call} {blob : Bytes} {command : Command}
  (loads : call.Loads workspace blob command)

include loads

theorem outputHandles_eq : command.outputHandles = 1 := by
  cases loads with
  | session _ _ _ _ _ => rfl
  | context _ _ _ _ _ => rfl

theorem length_le : blob.length ≤ command.plainFrame.length := by
  cases loads with
  | session _ _ _ _ _ => exact Command.length_blob_le_loadingSession blob
  | context hint keep _ _ _ => exact Command.length_blob_le_loadingContext hint keep blob

end Call.Loads

namespace Workspace

inductive Loading (workspace : Workspace σ) (blob : Bytes) (command : Command) :
    Except Fault Answer → Client σ → Prop where
  | reused (known : Sha1.hash blob ∈ workspace.client.inventory.spent) :
      Loading workspace blob command (.error .contextReused) workspace.client
  | unsendable (cause : EncodingCause) (isNew : Sha1.hash blob ∉ workspace.client.inventory.spent)
      (large : Bytes.capacity 4 ≤ command.plainFrame.length) :
      Loading workspace blob command (.error (.encoding cause)) workspace.client
  | sticks (cause : EncodingCause) (isNew : Sha1.hash blob ∉ workspace.client.inventory.spent)
      (context : command.ordinal = .loadContext) (large : Bytes.capacity 4 ≤ blob.length) :
      Loading workspace blob command (.error (.encoding cause))
        { workspace.client with inventory := workspace.client.inventory.spend blob }
  | failed (fault : Fault) (answer : Except Fault Bytes) (link : Link σ)
      (isNew : Sha1.hash blob ∉ workspace.client.inventory.spent)
      (fits : command.plainFrame.length < Bytes.capacity 4)
      (transmitted : (Link.transmit command.plainFrame).run workspace.client.link = (answer, link))
      (refused : command.handed answer = .error fault) :
      Loading workspace blob command (.error fault) { workspace.client with link }
  | loaded (answer : Answer) (handle : UInt32) (after : Client σ)
      (isNew : Sha1.hash blob ∉ workspace.client.inventory.spent)
      (fits : command.plainFrame.length < Bytes.capacity 4)
      (transmitted : (Link.transmit command.plainFrame).run workspace.client.link =
        (.ok (Command.handing handle).frame, after.link))
      (spent : after.inventory.spent =
        Sha1.hash blob :: workspace.client.inventory.spent) :
      Loading workspace blob command (.ok answer) after

theorem loading_session (workspace : Workspace σ) (name : String) (session : Session)
    (blob : Bytes) (held : workspace.session? name = some session)
    (suspended : session.status = .suspended) :
    Loading workspace blob (.loadingSession blob)
      ((Call.loadSession name blob).perform.run workspace).1
      ((Call.loadSession name blob).perform.run workspace).2.client := by
  have entrusted : ∀ outcome after left,
      (Custody.load blob).run ⟨workspace.client, session⟩ = (outcome, ⟨after, left⟩) →
      (Call.loadSession name blob).perform.run workspace =
        (outcome.map fun _ => .nothing, { workspace with client := after }.hold name left) :=
    fun outcome after left loaded => run_entrust_of_held name _ workspace session left _ after held
      (Action.run_bind_pure _ (fun _ => Answer.nothing) _ _ _ loaded)
  by_cases known : Sha1.hash blob ∈ workspace.client.inventory.spent
  · have claiming := Custody.run_claiming blob (Custody.loadBlob blob) workspace.client
    rw [if_pos known] at claiming
    rw [entrusted _ _ _ (Custody.run_load_of_error _ _ session blob suspended _ claiming)]
    exact .reused known
  · obtain ⟨outcome, after, ran, handing⟩ := Custody.handing_loadBlob blob workspace.client known
    cases handing with
    | unsendable cause large =>
      rw [entrusted _ _ _ (Custody.run_load_of_error _ _ session blob suspended _ ran)]
      exact .unsendable cause known large
    | failed fault answer link fits transmitted refused =>
      rw [entrusted _ _ _ (Custody.run_load_of_error _ _ session blob suspended _ ran)]
      exact .failed fault answer link known fits transmitted refused
    | handed handle link fits transmitted =>
      rw [entrusted _ _ _ (Custody.run_load_of_ok _ _ session blob suspended handle ran)]
      exact .loaded .nothing handle _ known fits transmitted rfl

omit [Channel σ] in
theorem run_onClient_of_asked {α : Type} (workspace : Workspace σ)
    (action : Action Fault (Client σ) α) (shows : α → Answer) (outcome : Except Fault α) (after : Client σ)
    (ran : action.run workspace.client = (outcome, after)) :
    (onClient (do return shows (← action))).run workspace =
      (outcome.map shows, { workspace with client := after }) := by
  rw [onClient, Action.run_zoom, Action.run_bind_pure action shows _ _ _ ran]

theorem run_loadContext (workspace : Workspace σ) (hint : UInt32) (keep : Bool)
    (saved : SavedContext) (outcome : Except Fault UInt32) (after : Client σ)
    (ran : (Client.loadContext hint keep saved).run workspace.client = (outcome, after)) :
    (Call.plain (.loadContext hint keep saved)).perform.run workspace =
      (outcome.map fun handle => .number handle.toNat, { workspace with client := after }) :=
  run_onClient_of_asked workspace _ _ outcome after ran

theorem run_loadSavedKey (workspace : Workspace σ) (blob : Bytes) (outcome : Except Fault UInt32)
    (after : Client σ) (ran : (Client.loadSavedKey blob).run workspace.client = (outcome, after)) :
    (Call.plain (.loadSavedKey blob)).perform.run workspace =
      (outcome.map fun handle => .number handle.toNat, { workspace with client := after }) :=
  run_onClient_of_asked workspace _ _ outcome after ran

theorem loading_context (workspace : Workspace σ) (hint : UInt32) (keep : Bool)
    (saved : SavedContext) (blob : Bytes) (isBlob : saved.sessionBlob? = some blob) :
    Loading workspace blob (.loadingContext hint keep blob)
      ((Call.plain (.loadContext hint keep saved)).perform.run workspace).1
      ((Call.plain (.loadContext hint keep saved)).perform.run workspace).2.client := by
  have performed := run_loadContext workspace hint keep saved
  have loads := Client.run_loadContext_of_session hint keep saved blob isBlob workspace.client
  rw [Action.run_bind, Client.run_claim] at loads
  by_cases known : Sha1.hash blob ∈ workspace.client.inventory.spent
  · rw [if_pos known] at loads
    rw [performed _ _ loads]
    exact .reused known
  · rw [if_neg known] at loads
    dsimp only at loads
    rw [Action.run_bind, Action.run_ofExcept] at loads
    by_cases short : blob.length < Bytes.capacity 4
    · have sized : Bytes.sized blob = .ok (Bytes.bigEndian 4 blob.length ++ blob) := if_pos short
      rw [sized] at loads
      dsimp only at loads
      rw [Client.loadSized_eq] at loads
      obtain ⟨outcome, after, ran, handing⟩ := Client.handing_of_claimed
        (.loadingContext hint keep blob) workspace.client rfl rfl rfl blob known
      rw [performed _ _ (loads.trans ran)]
      cases handing with
      | unsendable cause large => exact .unsendable cause known large
      | failed fault answer link fits transmitted refused =>
        exact .failed fault answer link known fits transmitted refused
      | handed handle link fits transmitted => exact .loaded _ handle _ known fits transmitted rfl
    · have unsized : Bytes.sized blob = .error (.encoding (.blobTooLarge blob.length)) :=
        if_neg short
      rw [unsized] at loads
      rw [performed _ _ loads]
      exact .sticks _ known rfl (Nat.not_lt.mp short)

theorem loading_of_loads (workspace : Workspace σ) (call : Call) (blob : Bytes)
    (command : Command) (loads : call.Loads workspace blob command) :
    Loading workspace blob command (call.perform.run workspace).1
      (call.perform.run workspace).2.client := by
  cases loads with
  | session name session blob held suspended =>
    exact loading_session workspace name session blob held suspended
  | context hint keep saved blob isBlob =>
    exact loading_context workspace hint keep saved blob isBlob

theorem Loading.spent {workspace : Workspace σ} {blob : Bytes} {command : Command}
    {outcome : Except Fault Answer} {after : Client σ}
    (loading : Loading workspace blob command outcome after) :
    after.inventory.spent = workspace.client.inventory.spent ∨
      after.inventory.spent = Sha1.hash blob :: workspace.client.inventory.spent := by
  cases loading with
  | reused _ => exact Or.inl rfl
  | unsendable _ _ _ => exact Or.inl rfl
  | sticks _ _ _ _ => exact Or.inr rfl
  | failed _ _ _ _ _ _ _ => exact Or.inl rfl
  | loaded _ _ _ _ _ _ spent => exact Or.inr spent

theorem Loading.ok_iff {workspace : Workspace σ} {call : Call} {blob : Bytes} {command : Command}
    {outcome : Except Fault Answer} {after : Client σ}
    (loading : Loading workspace blob command outcome after)
    (loads : call.Loads workspace blob command) :
    (∃ answer, outcome = .ok answer) ↔
      Sha1.hash blob ∉ workspace.client.inventory.spent ∧
        command.plainFrame.length < Bytes.capacity 4 ∧
        ∃ handle link, (Link.transmit command.plainFrame).run workspace.client.link =
          (.ok (Command.handing handle).frame, link) := by
  constructor
  · rintro ⟨answer, rfl⟩
    cases loading with
    | loaded _ handle _ isNew fits transmitted _ => exact ⟨isNew, fits, handle, _, transmitted⟩
  · rintro ⟨isNew, fits, handle, link, transmitted⟩
    cases loading with
    | reused known => exact absurd known isNew
    | unsendable _ _ large => exact absurd fits (Nat.not_lt.mpr large)
    | sticks cause _ _ large =>
      have longer := Nat.le_trans large loads.length_le
      exact absurd fits (Nat.not_lt.mpr longer)
    | failed fault answer _ _ _ brought refused =>
      rw [transmitted] at brought
      cases brought
      rw [(command.handed_eq_ok_iff loads.outputHandles_eq _ handle).mpr rfl] at refused
      cases refused
    | loaded answer _ _ _ _ _ _ => exact ⟨answer, rfl⟩

theorem Loading.inventory_of_error {workspace : Workspace σ} {blob : Bytes} {command : Command}
    {fault : Fault} {after : Client σ}
    (loading : Loading workspace blob command (.error fault) after) :
    after.inventory = workspace.client.inventory ∨
      command.ordinal = .loadContext ∧ Sha1.hash blob ∉ workspace.client.inventory.spent ∧
        Bytes.capacity 4 ≤ blob.length := by
  cases loading with
  | reused _ => exact Or.inl rfl
  | unsendable _ _ _ => exact Or.inl rfl
  | sticks _ isNew context large => exact Or.inr ⟨context, isNew, large⟩
  | failed _ _ _ _ _ _ _ => exact Or.inl rfl

theorem Loading.spent_of_ok {workspace : Workspace σ} {blob : Bytes} {command : Command}
    {answer : Answer} {after : Client σ}
    (loading : Loading workspace blob command (.ok answer) after) :
    after.inventory.spent = Sha1.hash blob :: workspace.client.inventory.spent := by
  cases loading with
  | loaded _ _ _ _ _ _ spent => exact spent

theorem Loading.refused_of_spent {workspace : Workspace σ} {blob : Bytes} {command : Command}
    {outcome : Except Fault Answer} {after : Client σ}
    (loading : Loading workspace blob command outcome after)
    (known : Sha1.hash blob ∈ workspace.client.inventory.spent) :
    outcome = .error .contextReused ∧ after = workspace.client := by
  cases loading with
  | reused _ => exact ⟨rfl, rfl⟩
  | unsendable _ isNew _ => exact absurd known isNew
  | sticks _ isNew _ _ => exact absurd known isNew
  | failed _ _ _ isNew _ _ _ => exact absurd known isNew
  | loaded _ _ _ isNew _ _ _ => exact absurd known isNew

end Workspace

/-- The link brought a fault in the place of an answer. -/
def Client.Brought (client after : Client σ) (fault : Fault) : Prop :=
  ∃ request, (Link.transmit request).run client.link = (.error fault, after.link)

namespace Client

/-- Only the link can say of a request without a session that its context was loaded before. -/
theorem brought_of_askHandle (command : Command) (client after : Client σ)
    (plain : command.newSecret = none) (once : command.ordinal.isRetryable = false)
    (asked : (unauthorized (Dispatch.askHandle command)).run client =
      (.error .contextReused, after)) : client.Brought after .contextReused := by
  by_cases fits : command.plainFrame.length < Bytes.capacity 4
  · cases transmitted : (Link.transmit command.plainFrame).run client.link with
    | mk answer link =>
      rw [run_askHandle command client plain once answer link fits transmitted] at asked
      obtain ⟨refused, rfl⟩ := Prod.mk.inj asked
      cases answer with
      | ok received => exact absurd refused (Command.handed_ne_reused _ received)
      | error fault =>
        cases refused
        exact ⟨_, transmitted⟩
  · obtain ⟨cause, unsent⟩ := run_askHandle_of_large command client once (Nat.not_lt.mp fits)
    rw [unsent] at asked
    cases asked

theorem brought_of_loadSavedKey (blob : Bytes) (client after : Client σ)
    (failed : (loadSavedKey blob).run client = (.error .contextReused, after)) :
    client.Brought after .contextReused := by
  unfold loadSavedKey at failed
  rw [Action.run_bind, Action.run_ofExcept] at failed
  cases sized : Bytes.sized blob with
  | error fault =>
    obtain ⟨cause, rfl⟩ := Bytes.only_sized blob fault sized
    rw [sized] at failed
    cases failed
  | ok parameters =>
    rw [sized] at failed
    dsimp only at failed
    rw [Action.run_bind] at failed
    cases asked : (unauthorized (Dispatch.askHandle { ordinal := .loadKeyContext, parameters }) :
        Action Fault (Client σ) UInt32).run client with
    | mk outcome between =>
      rw [asked] at failed
      cases outcome with
      | ok handle => cases failed
      | error fault =>
        cases failed
        exact brought_of_askHandle _ client after rfl rfl asked

theorem brought_of_loadContext (hint : UInt32) (keep : Bool) (saved : SavedContext)
    (isOther : saved.sessionBlob? = none) (client after : Client σ)
    (failed : (loadContext hint keep saved).run client = (.error .contextReused, after)) :
    client.Brought after .contextReused := by
  unfold loadContext at failed
  rw [Action.run_bind, Action.run_ofExcept] at failed
  cases encoded : saved.encode with
  | error fault =>
    obtain ⟨cause, rfl⟩ := saved.only_encode fault encoded
    rw [encoded] at failed
    cases failed
  | ok blob =>
    rw [encoded] at failed
    dsimp only at failed
    cases isKind : saved.resource? with
    | none =>
      rw [isKind] at failed
      cases failed
    | some kind =>
      have noSession : ¬ kind.isSession = true := by
        intro isSession
        have isBlob := (saved.sessionBlob?_eq_some_iff blob).mpr ⟨kind, isKind, isSession, encoded⟩
        rw [isOther] at isBlob
        cases isBlob
      rw [isKind] at failed
      dsimp only at failed
      rw [Action.run_bind, loadBlob, if_neg noSession, Action.run_bind,
        Action.run_ofExcept] at failed
      cases sized : Bytes.sized blob with
      | error fault =>
        obtain ⟨cause, rfl⟩ := Bytes.only_sized blob fault sized
        rw [sized] at failed
        cases failed
      | ok parameters =>
        rw [sized] at failed
        dsimp only at failed
        cases asked : (loadSized hint keep parameters : Action Fault (Client σ) UInt32).run
            client with
        | mk outcome between =>
          rw [asked] at failed
          cases outcome with
          | error fault =>
            cases failed
            exact brought_of_askHandle _ client after rfl rfl asked
          | ok handle =>
            dsimp only at failed
            split at failed
            · cases failed
            · cases failed

end Client

end TrustedPlatform

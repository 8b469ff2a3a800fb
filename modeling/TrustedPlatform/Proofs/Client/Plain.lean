import TrustedPlatform.Proofs.Client.Opening
import TrustedPlatform.Proofs.Client.Stages

/-!
# What calls without a session keep

Without a session a client does two things: it sends frames without a trailer, and it changes what
it knows about the module.  A relation that both keep is kept by every such call
(`PlainCall.keeps_perform`); which changes a call may make is said once, by `PlainCall.Notes`.
-/

set_option autoImplicit false

namespace TrustedPlatform

def Ordinal.opensSession : Ordinal → Bool
  | .oiap | .osap => true
  | _ => false

namespace Inventory

def spend (inventory : Inventory) (blob : Bytes) : Inventory :=
  { inventory with spent := Sha1.hash blob :: inventory.spent }

theorem claim_of_spent (inventory : Inventory) (blob : Bytes)
    (known : Sha1.hash blob ∈ inventory.spent) :
    inventory.claim blob = .error .contextReused := by
  simp [claim, known]

theorem claim_of_new (inventory : Inventory) (blob : Bytes)
    (isNew : Sha1.hash blob ∉ inventory.spent) :
    inventory.claim blob = .ok (inventory.spend blob) :=
  (claim_eq_ok_iff inventory _ blob).mpr ⟨isNew, rfl⟩

theorem release_spend (inventory : Inventory) (blob : Bytes)
    (isNew : Sha1.hash blob ∉ inventory.spent) : (inventory.spend blob).release blob = inventory :=
  release_claim inventory _ blob (inventory.claim_of_new blob isNew)

end Inventory

/-- The bytes under which a saved session is loaded, if it is one and can be written. -/
def SavedContext.sessionBlob? (saved : SavedContext) : Option Bytes :=
  match saved.resource? with
  | some kind => if kind.isSession then saved.encode.toOption else none
  | none => none

namespace Later

variable {σ : Type}

/-- The relation holds of a client before and after a frame without a trailer was sent. -/
def AllowsSending [Channel σ] (later : Later (Client σ)) : Prop :=
  ∀ (command : Command) (client : Client σ) (answer : Except Fault Bytes) (link : Link σ),
    (Link.transmit command.plainFrame).run client.link = (answer, link) →
    later.related client { client with link }

/-- The relation holds of a client before and after the frame of one command, without a trailer,
was sent. -/
def AllowsRequest [Channel σ] (later : Later (Client σ)) (command : Command) : Prop :=
  ∀ (client : Client σ) (answer : Except Fault Bytes) (link : Link σ),
    (Link.transmit command.plainFrame).run client.link = (answer, link) →
    later.related client { client with link }

/-- So it does for every command that opens no session. -/
def AllowsRequests [Channel σ] (later : Later (Client σ)) : Prop :=
  ∀ command : Command, command.ordinal.opensSession = false → later.AllowsRequest command

theorem AllowsSending.requests [Channel σ] {later : Later (Client σ)}
    (sends : later.AllowsSending) : later.AllowsRequests :=
  fun command _ => sends command

/-- The relation holds of a client before and after a change of its inventory. -/
def AllowsNoting (later : Later (Client σ)) (change : Inventory → Inventory) : Prop :=
  ∀ client : Client σ,
    later.related client { client with inventory := change client.inventory }

def withoutSession (later : Later (Client σ)) : Later (Dispatch σ) where
  related before after :=
    before.use? = none → after.use? = none ∧ later.related before.client after.client
  refl dispatch lentNone := ⟨lentNone, later.refl _⟩
  trans := by
    intro first second third early late lentNone
    obtain ⟨still, begun⟩ := early lentNone
    obtain ⟨last, ended⟩ := late still
    exact ⟨last, later.trans _ _ _ begun ended⟩

def onlyLink : Later (Client σ) where
  related before after := ∃ link, after = { before with link }
  refl client := ⟨client.link, rfl⟩
  trans := by
    rintro first _ _ ⟨_, rfl⟩ ⟨link, rfl⟩
    exact ⟨link, rfl⟩

theorem onlyLink_allowsSending [Channel σ] : (onlyLink (σ := σ)).AllowsSending :=
  fun _ _ _ link _ => ⟨link, rfl⟩

end Later

open TrustedPlatform.Action

namespace Dispatch

variable {σ : Type} {later : Later (Client σ)}

theorem keeps_of_same {α : Type} (action : Action Fault (Dispatch σ) α)
    (same : ∀ client, (action.run ⟨client, none⟩).2 = ⟨client, none⟩) :
    action.Keeps later.withoutSession := by
  rintro ⟨client, use?⟩ lentNone
  obtain rfl : use? = none := lentNone
  rw [same client]
  exact ⟨rfl, later.refl client⟩

theorem keeps_settle :
    (modify settle : Action Fault (Dispatch σ) Unit).Keeps later.withoutSession :=
  keeps_of_same _ fun _ => rfl

theorem keeps_note (change : Inventory → Inventory) (allowed : later.AllowsNoting change) :
    (onClient (Client.note change) :
      Action Fault (Dispatch σ) Unit).Keeps later.withoutSession := by
  intro dispatch lentNone
  exact ⟨lentNone, allowed dispatch.client⟩

variable [Channel σ]

theorem keeps_executeOnce (command : Command) (sends : later.AllowsRequest command) :
    (executeOnce command : Action Fault (Dispatch σ) Reply).Keeps later.withoutSession := by
  rintro ⟨client, use?⟩ lentNone
  obtain rfl : use? = none := lentNone
  by_cases sendable : command.newSecret = none ∧ command.plainFrame.length < Bytes.capacity 4
  · cases transmitted : (Link.transmit command.plainFrame).run client.link with
    | mk answer link =>
      rw [executeOnce_of_plain command client answer link sendable.1 sendable.2 transmitted]
      exact ⟨rfl, sends client answer link transmitted⟩
  · obtain ⟨cause, failed⟩ := executeOnce_of_unsendable command client sendable
    rw [failed]
    exact ⟨rfl, later.refl client⟩

theorem keeps_replaceSession :
    (replaceSession : Action Fault (Dispatch σ) Unit).Keeps later.withoutSession :=
  keeps_of_same _ fun _ => rfl

theorem keeps_executeUpTo (command : Command) (sends : later.AllowsRequest command)
    (further : Nat) :
    (executeUpTo command further : Action Fault (Dispatch σ) Reply).Keeps
      later.withoutSession := by
  induction further with
  | zero => exact keeps_executeOnce command sends
  | succ further inductionHypothesis =>
    refine .bind _ _ (.attempt _ (keeps_executeOnce command sends)) fun outcome => ?_
    cases outcome with
    | ok reply => exact .pure reply
    | error fault =>
      dsimp only
      split
      · exact .bind _ _ keeps_replaceSession fun _ => inductionHypothesis
      · exact .throw fault

theorem keeps_execute (command : Command) (sends : later.AllowsRequest command) :
    (execute command : Action Fault (Dispatch σ) Reply).Keeps later.withoutSession := by
  refine .bind _ _ .get fun dispatch => ?_
  refine .bind _ _ (.attempt _ (keeps_executeUpTo command sends _)) fun outcome => ?_
  exact .bind _ _ keeps_settle fun _ => .ofExcept outcome

theorem keeps_ask {α : Type} (command : Command) (sends : later.AllowsRequest command)
    (decoder : Decoder α) :
    (ask command decoder : Action Fault (Dispatch σ) α).Keeps later.withoutSession :=
  .bind _ _ (keeps_execute command sends) fun _ => .ofExcept _

theorem keeps_askHandle (command : Command) (sends : later.AllowsRequest command) :
    (askHandle command : Action Fault (Dispatch σ) UInt32).Keeps later.withoutSession :=
  .bind _ _ (keeps_execute _ sends) fun _ => .bind _ _ (.ofExcept _) fun _ =>
    .bind _ _ (.ofExcept _) fun _ => .pure _

end Dispatch

namespace Client

variable {σ : Type} {later : Later (Client σ)}

theorem keeps_unauthorized {α : Type} (action : Action Fault (Dispatch σ) α)
    (keeps : action.Keeps later.withoutSession) : (unauthorized action).Keeps later :=
  fun client => (keeps ⟨client, none⟩ rfl).2

theorem keeps_note (change : Inventory → Inventory) (allowed : later.AllowsNoting change) :
    (note change : Action Fault (Client σ) Unit).Keeps later :=
  allowed

variable [Channel σ]

theorem keeps_ask {α : Type} (command : Command) (sends : later.AllowsRequest command)
    (decoder : Decoder α) : (ask command decoder : Action Fault (Client σ) α).Keeps later :=
  .bind _ _ (keeps_unauthorized _ (Dispatch.keeps_executeOnce command sends)) fun _ => .ofExcept _

theorem keeps_execute (command : Command) (sends : later.AllowsRequest command) :
    (unauthorized (Dispatch.execute command) : Action Fault (Client σ) Reply).Keeps later :=
  keeps_unauthorized _ (Dispatch.keeps_execute command sends)

theorem keeps_askHandle (command : Command) (sends : later.AllowsRequest command) :
    (unauthorized (Dispatch.askHandle command) : Action Fault (Client σ) UInt32).Keeps later :=
  keeps_unauthorized _ (Dispatch.keeps_askHandle command sends)

theorem keeps_terminate (sends : later.AllowsRequests) (session : Session)
    (forgets : later.AllowsNoting fun inventory => inventory.removeSession session.handle) :
    (terminate session : Action Fault (Client σ) Unit).Keeps later :=
  .bind _ _ (keeps_note _ forgets) fun _ =>
    .bind _ _ (keeps_execute _ (sends _ rfl)) fun _ => .pure ()

theorem keeps_evictKey (sends : later.AllowsRequests) (handle : UInt32)
    (forgets : later.AllowsNoting fun inventory => inventory.removeKey handle) :
    (evictKey handle : Action Fault (Client σ) Unit).Keeps later :=
  .bind _ _ (keeps_execute _ (sends _ rfl)) fun _ => keeps_note _ forgets

theorem keeps_capability (sends : later.AllowsRequests) (area : Capability) (detail : Bytes) :
    (capability area detail : Action Fault (Client σ) Bytes).Keeps later :=
  .bind _ _ (.ofExcept _) fun _ => keeps_ask _ (sends _ rfl) _

theorem keeps_capabilityHandles (sends : later.AllowsRequests) (area : Capability)
    (detail : Bytes) : (capabilityHandles area detail : Action Fault (Client σ) _).Keeps later :=
  .bind _ _ (keeps_capability sends area detail) fun _ => .bind _ _ (.ofExcept _) fun _ => .pure _

theorem keeps_listKeys (sends : later.AllowsRequests)
    (refreshes : ∀ handles, later.AllowsNoting fun inventory => inventory.refreshKeys handles) :
    (listKeys : Action Fault (Client σ) (List UInt32)).Keeps later :=
  .bind _ _ (keeps_capabilityHandles sends _ _) fun handles =>
    .bind _ _ (keeps_note _ (refreshes handles)) fun _ => .pure _

theorem keeps_evictListed (lists : (listKeys : Action Fault (Client σ) (List UInt32)).Keeps later)
    (evicts : ∀ handle, (evictKey handle : Action Fault (Client σ) Unit).Keeps later)
    (last : Option UInt32) (evicted rounds : Nat) :
    (evictListed last evicted rounds : Action Fault (Client σ) (Option Nat)).Keeps later := by
  induction rounds generalizing last evicted with
  | zero => exact .pure none
  | succ rounds inductionHypothesis =>
    refine .bind _ _ lists fun handles => ?_
    cases handles with
    | nil => exact .pure _
    | cons next others =>
      dsimp only
      split
      · exact .throw _
      · exact .bind _ _ (evicts next) fun _ => inductionHypothesis _ _

omit [Channel σ] in
theorem run_claim (blob : Bytes) (client : Client σ) :
    (Custody.claim blob).run client =
      if Sha1.hash blob ∈ client.inventory.spent then (.error .contextReused, client)
      else (.ok (), { client with inventory := client.inventory.spend blob }) := by
  unfold Custody.claim
  rw [Action.run_bind, Action.run_get]
  dsimp only
  rw [Action.run_bind, Action.run_ofExcept]
  by_cases known : Sha1.hash blob ∈ client.inventory.spent
  · rw [if_pos known, Inventory.claim_of_spent client.inventory blob known]
  · rw [if_neg known, Inventory.claim_of_new client.inventory blob known]
    rfl

omit [Channel σ] in
theorem keeps_claim (blob : Bytes)
    (spends : later.AllowsNoting fun inventory => inventory.spend blob) :
    (Custody.claim blob : Action Fault (Client σ) Unit).Keeps later := by
  intro client
  rw [run_claim]
  split
  · exact later.refl client
  · exact spends client

omit [Channel σ] in
theorem keeps_releasing {α : Type} (blob : Bytes) (action : Action Fault (Client σ) α)
    (keeps : action.Keeps later)
    (releases : later.AllowsNoting fun inventory => inventory.release blob) :
    (Custody.releasing blob action).Keeps later := by
  refine .bind _ _ (.attempt _ keeps) fun outcome => ?_
  cases outcome with
  | ok value => exact .pure value
  | error fault => exact .bind _ _ (keeps_note _ releases) fun _ => .throw fault

theorem keeps_loadSized (sends : later.AllowsRequests) (hint : UInt32) (keep : Bool)
    (sized : Bytes) : (loadSized hint keep sized : Action Fault (Client σ) UInt32).Keeps later :=
  keeps_askHandle _ (sends _ rfl)

theorem keeps_loadBlob (kind : ResourceKind) (hint : UInt32) (keep : Bool) (blob : Bytes)
    (loads : ∀ sized, Bytes.sized blob = .ok sized →
      (loadSized hint keep sized : Action Fault (Client σ) UInt32).Keeps later)
    (spends : kind.isSession = true → later.AllowsNoting fun inventory => inventory.spend blob)
    (releases : kind.isSession = true →
      later.AllowsNoting fun inventory => inventory.release blob) :
    (loadBlob kind hint keep blob : Action Fault (Client σ) UInt32).Keeps later := by
  unfold loadBlob
  split
  · rename_i isSession
    exact .bind _ _ (keeps_claim blob (spends isSession)) fun _ => .bindOutcome _ _
      fun sized fits => keeps_releasing blob _ (loads sized fits) (releases isSession)
  · exact .bindOutcome _ _ loads

theorem keeps_saveContext (handle : UInt32) (kind : ResourceKind) (label : Block 16)
    (asks : (ask
      { ordinal := .saveContext, handles := [handle],
        parameters := Bytes.word32 kind.code ++ label.bytes } Decoder.sized :
          Action Fault (Client σ) Bytes).Keeps later)
    (forgets : kind.isSession = true →
      later.AllowsNoting fun inventory => inventory.removeSession handle) :
    (saveContext handle kind label : Action Fault (Client σ) SavedContext).Keeps later := by
  have ends : ∀ saved : SavedContext,
      (if kind.isSession then do
          note fun inventory => inventory.removeSession handle
          return saved
        else return saved : Action Fault (Client σ) SavedContext).Keeps later := by
    intro saved
    split
    · rename_i isSession
      exact .bind _ _ (keeps_note _ (forgets isSession)) fun _ => .pure _
    · exact .pure _
  refine .bind _ _ asks fun blob => .bind _ _ (.ofExcept _) fun saved => ?_
  dsimp only
  split
  · exact .bind _ _ (.throw _) fun _ => ends saved
  · exact ends saved

theorem keeps_loadContext (sends : later.AllowsRequests) (hint : UInt32) (keep : Bool)
    (saved : SavedContext)
    (adds : ∀ handle, later.AllowsNoting fun inventory => inventory.addKey handle none)
    (spends : ∀ blob, saved.sessionBlob? = some blob →
      later.AllowsNoting fun inventory => inventory.spend blob)
    (releases : ∀ blob, saved.sessionBlob? = some blob →
      later.AllowsNoting fun inventory => inventory.release blob) :
    (loadContext hint keep saved : Action Fault (Client σ) UInt32).Keeps later := by
  refine .bindOutcome _ _ fun blob encoded => ?_
  cases found : saved.resource? with
  | none => exact .throw _
  | some kind =>
    have isBlob : kind.isSession = true → saved.sessionBlob? = some blob := by
      intro isSession
      simp [SavedContext.sessionBlob?, found, isSession, encoded, Except.toOption]
    have loads := keeps_loadBlob kind hint keep blob
      (fun sized _ => keeps_loadSized sends hint keep sized)
      (fun isSession => spends blob (isBlob isSession))
      (fun isSession => releases blob (isBlob isSession))
    refine .bind _ _ loads fun handle => ?_
    dsimp only
    split
    · exact .bind _ _ (keeps_note _ (adds handle)) fun _ => .pure _
    · exact .pure _

theorem keeps_loadSavedKey (sends : later.AllowsRequests) (blob : Bytes)
    (adds : ∀ handle, later.AllowsNoting fun inventory => inventory.addKey handle none) :
    (loadSavedKey blob : Action Fault (Client σ) UInt32).Keeps later :=
  .bind _ _ (.ofExcept _) fun _ => .bind _ _ (keeps_askHandle _ (sends _ rfl)) fun handle =>
    .bind _ _ (keeps_note _ (adds handle)) fun _ => .pure _

theorem keeps_resetRegisters (sends : later.AllowsRequests) (selection : RegisterSelection) :
    (resetRegisters selection : Action Fault (Client σ) Unit).Keeps later :=
  .bind _ _ (.ofExcept _) fun _ => keeps_ask _ (sends _ rfl) _

theorem keeps_randomChunk (sends : later.AllowsRequests) (wanted : Nat) :
    (randomChunk wanted : Action Fault (Client σ) Bytes).Keeps later := by
  refine .bind _ _ (keeps_ask _ (sends _ rfl) _) fun chunk => ?_
  have ends : (if wanted < chunk.length then do
      let _ ← (throw (.malformed (.tooManyRandomBytes chunk.length wanted)) :
        Action Fault (Client σ) PUnit)
      return chunk
    else return chunk : Action Fault (Client σ) Bytes).Keeps later := by
    split
    · exact .bind _ _ (.throw _) fun _ => .pure _
    · exact .pure _
  dsimp only
  split
  · exact .bind _ _ (.throw _) fun _ => ends
  · exact ends

theorem keeps_randomChunks (sends : later.AllowsRequests) (missing chunks : Nat) :
    (randomChunks missing chunks : Action Fault (Client σ) Bytes).Keeps later := by
  induction chunks generalizing missing with
  | zero => exact .pure []
  | succ chunks inductionHypothesis =>
    unfold randomChunks
    split
    · exact .pure []
    · exact .bind _ _ (keeps_randomChunk sends _) fun chunk =>
        .bind _ _ (inductionHypothesis _) fun _ => .pure _

theorem keeps_stirRandom (sends : later.AllowsRequests) (entropy : Bytes) :
    (stirRandom entropy : Action Fault (Client σ) Unit).Keeps later := by
  unfold stirRandom
  dsimp only
  split
  · exact .bind _ _ (.throw _) fun _ => .bind _ _ (.ofExcept _) fun _ => keeps_ask _ (sends _ rfl) _
  · exact .bind _ _ (.ofExcept _) fun _ => keeps_ask _ (sends _ rfl) _

theorem keeps_auditPages (sends : later.AllowsRequests) (start : UInt32) (pages : Nat) :
    (auditPages start pages : Action Fault (Client σ) AuditListing).Keeps later := by
  induction pages generalizing start with
  | zero => exact .throw _
  | succ pages inductionHypothesis =>
    refine .bind _ _ (keeps_ask _ (sends _ rfl) _) fun page => ?_
    split
    · exact .pure _
    · split
      · exact .throw _
      · exact .bind _ _ (inductionHypothesis _) fun _ => .pure _

end Client

namespace PlainCall

/-- The changes that a call may make to what is known about the module. -/
inductive Notes : PlainCall → (Inventory → Inventory) → Prop where
  | flushKey (handle : UInt32) (kind : ResourceKind) :
      Notes (.flush handle kind) fun inventory => inventory.removeKey handle
  | flushSession (handle : UInt32) (kind : ResourceKind) (isSession : kind.isSession = true) :
      Notes (.flush handle kind) fun inventory => inventory.removeSession handle
  | evictKey (handle : UInt32) :
      Notes (.evictKey handle) fun inventory => inventory.removeKey handle
  | listKeys (handles : List UInt32) :
      Notes .listKeys fun inventory => inventory.refreshKeys handles
  | listAll (rounds : Nat) (handles : List UInt32) :
      Notes (.evictAll rounds) fun inventory => inventory.refreshKeys handles
  | evictAll (rounds : Nat) (handle : UInt32) :
      Notes (.evictAll rounds) fun inventory => inventory.removeKey handle
  | loadSavedKey (blob : Bytes) (handle : UInt32) :
      Notes (.loadSavedKey blob) fun inventory => inventory.addKey handle none
  | saveContext (handle : UInt32) (kind : ResourceKind) (label : Block 16)
      (isSession : kind.isSession = true) :
      Notes (.saveContext handle kind label) fun inventory => inventory.removeSession handle
  | loadKey (hint : UInt32) (keep : Bool) (saved : SavedContext) (handle : UInt32) :
      Notes (.loadContext hint keep saved) fun inventory => inventory.addKey handle none
  | spend (hint : UInt32) (keep : Bool) (saved : SavedContext) (blob : Bytes)
      (isBlob : saved.sessionBlob? = some blob) :
      Notes (.loadContext hint keep saved) fun inventory => inventory.spend blob
  | release (hint : UInt32) (keep : Bool) (saved : SavedContext) (blob : Bytes)
      (isBlob : saved.sessionBlob? = some blob) :
      Notes (.loadContext hint keep saved) fun inventory => inventory.release blob
  | startup (kind : StartupKind) : Notes (.startup kind) Inventory.restart
  | auditListing (listing : AuditListing) :
      Notes .auditListing fun inventory =>
        { inventory with audit := .ofListing listing.ordinals listing.digest listing.counter }

variable {σ : Type} {later : Later (Client σ)} [Channel σ]

open Client

theorem keeps_flush (sends : later.AllowsRequests) (handle : UInt32) (kind : ResourceKind)
    (notes : ∀ change, Notes (.flush handle kind) change → later.AllowsNoting change) :
    (Client.flush handle kind : Action Fault (Client σ) Unit).Keeps later := by
  refine .bind _ _ (keeps_execute _ (sends _ rfl)) fun _ => keeps_note _ ?_
  by_cases isKey : kind = .key
  · simpa only [if_pos isKey] using notes _ (.flushKey handle kind)
  · by_cases isSession : kind.isSession = true
    · simpa only [if_neg isKey, if_pos isSession] using
        notes _ (.flushSession handle kind isSession)
    · intro client
      simpa only [if_neg isKey, if_neg isSession] using later.refl client

/-- What sending and its own notes keep is kept by a call that takes no session. -/
theorem keeps_perform (call : PlainCall) (sends : later.AllowsRequests)
    (notes : ∀ change, call.Notes change → later.AllowsNoting change) :
    (call.perform : Action Fault (Client σ) Answer).Keeps later := by
  cases call with
  | endpoint => exact .bind _ _ .get fun _ => .pure _
  | flush handle kind => exact .bind _ _ (keeps_flush sends handle kind notes) fun _ => .pure _
  | evictKey handle =>
    exact .bind _ _ (keeps_evictKey sends handle (notes _ (.evictKey handle))) fun _ => .pure _
  | listKeys =>
    exact .bind _ _ (keeps_listKeys sends fun handles => notes _ (.listKeys handles))
      fun _ => .pure _
  | keyHandles => exact .bind _ _ (keeps_capabilityHandles sends _ _) fun _ => .pure _
  | evictAll rounds =>
    have lists := keeps_listKeys sends fun handles => notes _ (.listAll rounds handles)
    have evicts := fun handle => keeps_evictKey sends handle (notes _ (.evictAll rounds handle))
    refine .bind _ _ (keeps_evictListed lists evicts none 0 rounds) fun count => ?_
    cases count with
    | none => exact .pure _
    | some _ => exact .pure _
  | saveKey handle => exact .bind _ _ (keeps_ask _ (sends _ rfl) _) fun _ => .pure _
  | loadSavedKey blob =>
    exact .bind _ _
      (keeps_loadSavedKey sends blob fun handle => notes _ (.loadSavedKey blob handle))
      fun _ => .pure _
  | saveContext handle kind label =>
    have asks := keeps_ask
      { ordinal := .saveContext, handles := [handle],
        parameters := Bytes.word32 kind.code ++ label.bytes } (sends _ rfl) Decoder.sized
    exact .bind _ _ (keeps_saveContext handle kind label asks fun isSession =>
      notes _ (.saveContext handle kind label isSession)) fun _ => .pure _
  | loadContext hint keep saved =>
    exact .bind _ _ (keeps_loadContext sends hint keep saved
      (fun handle => notes _ (.loadKey hint keep saved handle))
      (fun blob isBlob => notes _ (.spend hint keep saved blob isBlob))
      (fun blob isBlob => notes _ (.release hint keep saved blob isBlob))) fun _ => .pure _
  | readCounter number => exact .bind _ _ (keeps_ask _ (sends _ rfl) _) fun _ => .pure _
  | extend register value => exact .bind _ _ (keeps_ask _ (sends _ rfl) _) fun _ => .pure _
  | readRegister register => exact .bind _ _ (keeps_ask _ (sends _ rfl) _) fun _ => .pure _
  | resetRegisters selection =>
    exact .bind _ _ (keeps_resetRegisters sends selection) fun _ => .pure _
  | readIntegrity index => exact .bind _ _ (keeps_ask _ (sends _ rfl) _) fun _ => .pure _
  | startup kind =>
    exact .bind _ _ (.bind _ _ (keeps_ask _ (sends _ rfl) _) fun _ =>
      keeps_note _ (notes _ (.startup kind))) fun _ => .pure _
  | selfTest => exact .bind _ _ (keeps_ask _ (sends _ rfl) _) fun _ => .pure _
  | continueSelfTest => exact .bind _ _ (keeps_ask _ (sends _ rfl) _) fun _ => .pure _
  | testResult => exact .bind _ _ (keeps_ask _ (sends _ rfl) _) fun _ => .pure _
  | random count => exact .bind _ _ (keeps_randomChunks sends count count) fun _ => .pure _
  | stirRandom entropy => exact .bind _ _ (keeps_stirRandom sends entropy) fun _ => .pure _
  | capability area detail =>
    exact .bind _ _ (keeps_capability sends area detail) fun _ => .pure _
  | capabilityNumber area detail =>
    exact .bind _ _ (.bind _ _ (keeps_capability sends area _) fun _ => .ofExcept _)
      fun _ => .pure _
  | resourceHandles kind => exact .bind _ _ (keeps_capabilityHandles sends _ _) fun _ => .pure _
  | auditPage start => exact .bind _ _ (keeps_ask _ (sends _ rfl) _) fun _ => .pure _
  | auditListing =>
    exact .bind _ _ (.bind _ _ (keeps_auditPages sends _ _) fun listing =>
      .bind _ _ (keeps_note _ (notes _ (.auditListing listing))) fun _ => .pure _) fun _ => .pure _

end PlainCall

namespace AuthorizedCall

variable {σ : Type} {later : Later (Client σ)}

theorem keeps_prepare_unlent (call : AuthorizedCall) :
    (prepare call : Action Fault (Dispatch σ) Command).Keeps later.withoutSession := by
  refine Dispatch.keeps_of_same _ fun client => ?_
  rcases call.run_prepare (⟨client, none⟩ : Dispatch σ) with ⟨same, _⟩ | ⟨same, _⟩
  · exact same
  · exact same

theorem opensNone_prepare (call : AuthorizedCall) :
    (prepare call : Action Fault (Dispatch σ) Command).Yields
      fun command => command.ordinal.opensSession = false := by
  cases call with
  | loadKey older parent key =>
    refine .bind _ _ fun _ => .pure _ ?_
    cases older with
    | false => rfl
    | true => rfl
  | publicKey handle => exact .pure _ rfl
  | createKey parent usage migration template =>
    exact .bind _ _ fun _ => .bind _ _ fun _ => .bind _ _ fun _ => .pure _ rfl
  | sign handle message => exact .bind _ _ fun _ => .pure _ rfl
  | createCounter secret label => exact .bind _ _ fun _ => .pure _ rfl
  | incrementCounter number => exact .pure _ rfl
  | releaseCounter byOwner number =>
    refine .pure _ ?_
    cases byOwner with
    | false => rfl
    | true => rfl
  | writeIntegrity index value => exact .pure _ rfl
  | signedAudit key close antiReplay => exact .pure _ rfl
  | setAudited ordinal audited => exact .pure _ rfl

theorem keeps_asking [Channel σ] (call : AuthorizedCall) (sends : later.AllowsRequests) :
    (prepare call >>= fun command => Dispatch.execute command :
      Action Fault (Dispatch σ) Reply).Keeps later.withoutSession :=
  .bindYielded _ _ call.keeps_prepare_unlent call.opensNone_prepare fun command opensNone =>
    Dispatch.keeps_execute command (sends command opensNone)

/-- So is it by a call that may take a session and is lent none. -/
theorem keeps_perform [Channel σ] (call : AuthorizedCall) (sends : later.AllowsRequests)
    (notes : ∀ change, call.Notes change → later.AllowsNoting change) :
    (call.perform : Action Fault (Dispatch σ) Answer).Keeps later.withoutSession := by
  rw [call.perform_eq, ← bind_assoc]
  exact .bind _ _ (call.keeps_asking sends) fun reply =>
    call.keeps_finish reply fun change noted => Dispatch.keeps_note change (notes change noted)

end AuthorizedCall

end TrustedPlatform

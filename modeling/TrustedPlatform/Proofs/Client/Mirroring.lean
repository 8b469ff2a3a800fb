import TrustedPlatform.Proofs.Client.Plain
import TrustedPlatform.Proofs.Module.KeyService

/-!
# Keys that are known and keys that are there

A client that knows the keys of a module knows them after everything that the module serves, too
(`Later.mirroring`): a request for a key brings about the same change in what is known as in what is
there.  Requests that leave the keys alone need no look at their replies (`TakesOver.of_leaves`).
-/

set_option autoImplicit false

namespace TrustedPlatform

open TrustedPlatform.Action

def Later.mirroring {σ : Type} : Later (Client (Tapped σ)) where
  related before after :=
    ∃ sent, after.link.record = before.link.record ++ sent ∧
      ∀ store next : KeyStore, store.Mirrors before.inventory → store.Serves sent next →
        next.Mirrors after.inventory
  refl client := by
    refine ⟨[], (List.append_nil _).symm, fun store next mirrors serves => ?_⟩
    rw [(KeyStore.serves_nil_iff store next).mp serves]
    exact mirrors
  trans := by
    rintro first second third ⟨early, begun, knows⟩ ⟨late, ended, knowsLate⟩
    refine ⟨early ++ late, by rw [ended, begun, List.append_assoc], ?_⟩
    intro store next mirrors serves
    obtain ⟨between, served, rest⟩ := serves.split
    exact knowsLate between next (knows store between mirrors served) rest

theorem Later.mirroring_of_same {σ : Type} {before after : Client (Tapped σ)}
    (link : after.link = before.link) (keys : after.inventory.keys = before.inventory.keys) :
    mirroring.related before after := by
  refine ⟨[], by rw [link, List.append_nil], fun store next mirrors serves => ?_⟩
  rw [(KeyStore.serves_nil_iff store next).mp serves]
  exact mirrors.same keys

theorem Later.mirroring_allowsNoting {σ : Type} (change : Inventory → Inventory)
    (same : ∀ inventory, (change inventory).keys = inventory.keys) :
    (mirroring (σ := σ)).AllowsNoting change :=
  fun client => mirroring_of_same rfl (same client.inventory)

variable {σ : Type} [Channel σ]

namespace Client

section Replies

variable {τ α : Type}

/-- What is done with the reply to a command changes what is known of the keys as the command was
granted. -/
structure TakesOver (view : τ → Client (Tapped σ)) (command : Command)
    (next : Reply → Action Fault τ α) : Prop where
  still : ∀ reply state, (view ((next reply).run state).2).link = (view state).link
  noted : ∀ reply state (store last : KeyStore), store.Mirrors (view state).inventory →
    store.Grants command.handles command.parameters command.errand reply last →
    last.Mirrors (view ((next reply).run state).2).inventory

variable {view : τ → Client (Tapped σ)} {command : Command} {next : Reply → Action Fault τ α}

omit [Channel σ] in
theorem TakesOver.of_leaves (leaves : command.errand = .leaves)
    (still : ∀ reply state, (view ((next reply).run state).2).link = (view state).link)
    (same : ∀ reply state,
      (view ((next reply).run state).2).inventory.keys = (view state).inventory.keys) :
    TakesOver view command next where
  still := still
  noted := by
    intro reply state store last mirrors granted
    rw [leaves] at granted
    cases granted
    exact mirrors.same (same reply state)

omit [Channel σ] in
theorem Commands.mirroring {request : Action Fault τ Reply} {state : τ} {sent : List Exchange}
    (commands : (view state).Commands command (view (request.run state).2) (request.run state).1
      sent) (takesOver : TakesOver view command next) :
    Later.mirroring.related (view state) (view ((request >>= next).run state).2) := by
  obtain ⟨recorded, known, turns⟩ := commands
  rw [run_bind]
  cases ran : request.run state with
  | mk outcome between =>
    rw [ran] at recorded known turns
    cases outcome with
    | error fault =>
      refine ⟨sent, recorded, fun store last mirrors serves => ?_⟩
      obtain rfl : last = store := turns store last serves
      exact mirrors.same known
    | ok reply =>
      refine ⟨sent, (congrArg Link.record (takesOver.still reply between)).trans recorded, ?_⟩
      intro store last mirrors serves
      exact takesOver.noted reply between store last (mirrors.same known) (turns store last serves)

end Replies

/-- An action without a session that sends a command, and does nothing else. -/
def Requests (command : Command) (action : Action Fault (Client (Tapped σ)) Reply) : Prop :=
  ∀ client : Client (Tapped σ), ∃ sent,
    client.Commands command (action.run client).2 (action.run client).1 sent

namespace Requests

variable (command : Command) (standard : command.Standard) (plain : command.newSecret = none)

include standard plain

theorem executeOnce :
    Requests command (unauthorized (Dispatch.executeOnce (σ := Tapped σ) command)) :=
  fun client => Dispatch.executeOnce_commands command standard plain ⟨client, none⟩
    fun _ _ _ _ _ _ lent => nomatch lent

theorem execute (once : command.ordinal.isRetryable = false) :
    Requests command (unauthorized (Dispatch.execute (σ := Tapped σ) command)) :=
  fun client => Dispatch.execute_commands command standard plain ⟨client, none⟩
    (fun _ _ _ _ _ _ lent => nomatch lent) once

end Requests

omit [Channel σ] in
theorem Requests.keeps {α : Type} {command : Command}
    {action : Action Fault (Client (Tapped σ)) Reply}
    {next : Reply → Action Fault (Client (Tapped σ)) α} (requests : Requests command action)
    (takesOver : TakesOver (fun client => client) command next) :
    (action >>= next).Keeps Later.mirroring := by
  intro client
  obtain ⟨sent, commands⟩ := requests client
  exact commands.mirroring takesOver

theorem keeps_ask_of_leaves {α : Type} (command : Command) (decoder : Decoder α)
    (standard : command.Standard) (plain : command.newSecret = none)
    (leaves : command.errand = .leaves) :
    (ask command decoder : Action Fault (Client (Tapped σ)) α).Keeps Later.mirroring :=
  (Requests.executeOnce command standard plain).keeps
    (.of_leaves leaves (fun _ _ => rfl) fun _ _ => rfl)

theorem evictKey_mirrors (handle : UInt32) :
    (evictKey handle : Action Fault (Client (Tapped σ)) Unit).Keeps Later.mirroring := by
  refine (Requests.execute _ ⟨rfl, rfl, rfl⟩ rfl rfl).keeps ⟨fun _ _ => rfl, ?_⟩
  intro reply client store last mirrors granted
  change store.Grants [handle] [] .removes reply last at granted
  cases granted with
  | removes _ _ named =>
    cases named
    exact mirrors.remove handle

theorem flush_mirrors (handle : UInt32) (kind : ResourceKind) :
    (flush handle kind : Action Fault (Client (Tapped σ)) Unit).Keeps Later.mirroring := by
  refine (Requests.execute _ ⟨rfl, rfl, rfl⟩ rfl rfl).keeps ?_
  by_cases isKey : kind = .key
  · subst isKey
    refine ⟨fun _ _ => rfl, ?_⟩
    intro reply client store last mirrors granted
    change store.Grants [handle] _ .removes reply last at granted
    cases granted with
    | removes _ _ named =>
      cases named
      exact mirrors.remove handle
  · have otherCode : Bytes.word32 kind.code ≠ Bytes.word32 ResourceKind.key.code := by
      intro same
      have code := congrArg ResourceKind.ofCode? (Bytes.word32_injective _ _ same)
      rw [ResourceKind.ofCode?_code, ResourceKind.ofCode?_code] at code
      exact isKey (Option.some.inj code)
    refine .of_leaves (if_neg otherCode) (fun _ _ => rfl) fun _ client => ?_
    change (if kind = .key then _ else if kind.isSession then _ else _ : Inventory).keys = _
    rw [if_neg isKey]
    split
    · rfl
    · rfl

theorem listKeys_mirrors :
    (listKeys : Action Fault (Client (Tapped σ)) (List UInt32)).Keeps Later.mirroring := by
  have shape : (listKeys : Action Fault (Client (Tapped σ)) (List UInt32)) =
      unauthorized (Dispatch.executeOnce
        { ordinal := .getCapability, parameters := keyListing }) >>= fun reply =>
          Action.ofExcept (reply.decode Decoder.sized) >>= fun answer =>
            Action.ofExcept (HandleList.decode.complete answer) >>= fun list =>
              note (fun inventory => inventory.refreshKeys list.handles) >>= fun _ =>
                pure list.handles := by
    have sized : Bytes.sized [] = .ok (Bytes.withLength []) := rfl
    simp only [listKeys, keyHandles, capabilityHandles, capability, ask, bind_assoc, pure_bind]
    rw [sized]
    rfl
  rw [shape]
  refine (Requests.executeOnce _ ⟨rfl, rfl, rfl⟩ rfl).keeps ⟨fun reply client => ?_, ?_⟩
  · rw [run_bind, run_ofExcept]
    cases reply.decode Decoder.sized with
    | error fault => rfl
    | ok answer =>
      dsimp only
      rw [run_bind, run_ofExcept]
      cases HandleList.decode.complete answer with
      | error fault => rfl
      | ok list => rfl
  · intro reply client store last mirrors granted
    change store.Grants [] keyListing .lists reply last at granted
    cases granted with
    | lists listed list written exact =>
      rw [run_bind, run_ofExcept]
      cases decoded : (⟨[], list.withLength⟩ : Reply).decode Decoder.sized with
      | error fault => exact mirrors
      | ok answer =>
        obtain ⟨_, same⟩ := (Decoder.Reads.sized.complete_iff _ _).mp decoded
        obtain ⟨_, rfl⟩ := List.append_inj same (by simp)
        dsimp only
        rw [run_bind, run_ofExcept, written]
        exact mirrors.refreshed listed exact

theorem evictAll_mirrors (rounds : Nat) :
    (evictAll rounds : Action Fault (Client (Tapped σ)) (Option Nat)).Keeps Later.mirroring :=
  keeps_evictListed listKeys_mirrors evictKey_mirrors none 0 rounds

theorem openSession_mirrors (kind : SessionKind) (secret : Secret) :
    (openSession kind secret : Action Fault (Client (Tapped σ)) Session).Keeps
      Later.mirroring := by
  have adds : ∀ handle, (note fun inventory => inventory.addSession handle kind :
      Action Fault (Client (Tapped σ)) Unit).Keeps Later.mirroring :=
    fun handle => keeps_note _ (Later.mirroring_allowsNoting _ fun _ => rfl)
  cases kind with
  | oiap =>
    exact .bind _ _ (keeps_ask_of_leaves _ _ ⟨rfl, rfl, rfl⟩ rfl rfl) fun output =>
      .bind _ _ (adds output.1) fun _ => .pure _
  | osap entity =>
    have draws : (drawNonce : Action Fault (Client (Tapped σ)) Digest).Keeps Later.mirroring :=
      fun client => Later.mirroring_of_same rfl rfl
    exact .bind _ _ draws fun _ =>
      .bind _ _ (keeps_ask_of_leaves _ _ ⟨rfl, rfl, rfl⟩ rfl rfl) fun output =>
        .bind _ _ (adds output.1) fun _ => .pure _

theorem saveContext_mirrors (handle : UInt32) (kind : ResourceKind) (label : Block 16) :
    (saveContext handle kind label : Action Fault (Client (Tapped σ)) SavedContext).Keeps
      Later.mirroring :=
  keeps_saveContext handle kind label (keeps_ask_of_leaves _ _ ⟨rfl, rfl, rfl⟩ rfl rfl)
    fun _ => Later.mirroring_allowsNoting _ fun _ => rfl

section Handles

variable (command : Command) (standard : ({ command with outputHandles := 1 } : Command).Standard)
  (plain : command.newSecret = none) (once : command.ordinal.isRetryable = false)

include standard plain once

theorem keeps_askHandle_of_leaves (leaves : command.errand = .leaves) :
    (unauthorized (Dispatch.askHandle command) : Action Fault (Client (Tapped σ)) UInt32).Keeps
      Later.mirroring := by
  rw [unauthorized_askHandle]
  exact (Requests.execute _ standard plain once).keeps
    (.of_leaves leaves (fun _ _ => rfl) fun _ _ => rfl)

/-- A key that was saved is known from its loading on, without its public part. -/
theorem keeps_loadingSaved (saved : command.errand = .loadsSaved) :
    (unauthorized (Dispatch.askHandle command) >>= fun handle =>
      note (fun inventory => inventory.addKey handle none) >>= fun _ =>
        pure handle : Action Fault (Client (Tapped σ)) UInt32).Keeps Later.mirroring := by
  rw [unauthorized_askHandle, bind_assoc]
  refine (Requests.execute _ standard plain once).keeps ⟨fun reply client => ?_, ?_⟩
  · rw [run_bind, run_ofExcept]
    cases reply.onlyHandle with
    | error fault => rfl
    | ok handle => rfl
  · intro reply client store last mirrors granted
    change store.Grants _ _ command.errand reply last at granted
    rw [saved] at granted
    cases granted with
    | loadsSaved key handle _ => exact mirrors.put handle key none fun _ known => nomatch known

end Handles

theorem loadSavedKey_mirrors (blob : Bytes) :
    (loadSavedKey blob : Action Fault (Client (Tapped σ)) UInt32).Keeps Later.mirroring :=
  .bind _ _ (.ofExcept _) fun _ => keeps_loadingSaved _ ⟨rfl, rfl, rfl⟩ rfl rfl rfl

section Contexts

variable (hint : UInt32) (keep : Bool) (saved : SavedContext) (blob sized : Bytes)
  (encoded : saved.encode = .ok blob) (fits : Bytes.sized blob = .ok sized)

include encoded fits

omit [Channel σ] in
theorem contextKind?_of_sized :
    contextKind? (Bytes.word32 hint ++ Bytes.flag keep ++ sized) = saved.resource? := by
  obtain ⟨short, rfl⟩ := (Bytes.sized_eq_ok_iff blob sized).mp fits
  exact contextKind?_of_encode hint keep saved blob encoded short

theorem loadSized_mirrors_of_leaves (other : saved.resource? ≠ some .key) :
    (loadSized hint keep sized : Action Fault (Client (Tapped σ)) UInt32).Keeps
      Later.mirroring := by
  refine keeps_askHandle_of_leaves _ ⟨rfl, rfl, rfl⟩ rfl rfl ?_
  change (if contextKind? _ = some ResourceKind.key then _ else _ : KeyErrand) = _
  rw [contextKind?_of_sized hint keep saved blob sized encoded fits, if_neg other]

theorem loadSized_mirrors_of_key (isKey : saved.resource? = some .key) :
    (loadSized hint keep sized >>= fun handle =>
      note (fun inventory => inventory.addKey handle none) >>= fun _ =>
        pure handle : Action Fault (Client (Tapped σ)) UInt32).Keeps Later.mirroring := by
  refine keeps_loadingSaved _ ⟨rfl, rfl, rfl⟩ rfl rfl ?_
  change (if contextKind? _ = some ResourceKind.key then _ else _ : KeyErrand) = _
  rw [contextKind?_of_sized hint keep saved blob sized encoded fits, if_pos isKey]

end Contexts

theorem loadContext_mirrors (hint : UInt32) (keep : Bool) (saved : SavedContext) :
    (loadContext hint keep saved : Action Fault (Client (Tapped σ)) UInt32).Keeps
      Later.mirroring := by
  refine .bindOutcome _ _ fun blob encoded => ?_
  cases found : saved.resource? with
  | none => exact .throw _
  | some kind =>
    by_cases isKey : kind = .key
    · subst isKey
      have shape : (loadBlob .key hint keep blob : Action Fault (Client (Tapped σ)) UInt32) =
          Action.ofExcept (Bytes.sized blob) >>= fun sized => loadSized hint keep sized := rfl
      dsimp only
      rw [shape, bind_assoc]
      exact .bindOutcome _ _ fun sized fits =>
        loadSized_mirrors_of_key hint keep saved blob sized encoded fits found
    · have other : saved.resource? ≠ some .key := by
        rw [found]
        exact fun same => isKey (Option.some.inj same)
      refine .bind _ _ (keeps_loadBlob kind hint keep blob
        (fun sized fits => loadSized_mirrors_of_leaves hint keep saved blob sized encoded fits other)
        (fun _ => Later.mirroring_allowsNoting _ fun _ => rfl)
        (fun _ => Later.mirroring_allowsNoting _ fun _ => rfl)) fun handle => ?_
      dsimp only
      rw [if_neg isKey]
      exact .pure _

end Client

end TrustedPlatform

import TrustedPlatform.Proofs.Client.Loading
import TrustedPlatform.Proofs.Client.Opening
import TrustedPlatform.Proofs.Structure.Layouts

/-!
# Sending back what was read

What is read from bytes is written as those bytes.  A saved context is the case that matters most:
the module made it, only the module can open it, and it is given back as it came.

* `Layout.canonical`: reading loses nothing, and a saved context is loaded as it was saved.
-/

set_option autoImplicit false

namespace TrustedPlatform

def Command.savingContext (handle : UInt32) (kind : ResourceKind) (label : Block 16) : Command where
  ordinal := .saveContext
  handles := [handle]
  parameters := Bytes.word32 kind.code ++ label.bytes

theorem Command.length_savingContext (handle : UInt32) (kind : ResourceKind) (label : Block 16) :
    (savingContext handle kind label).plainFrame.length < Bytes.capacity 4 := by
  unfold plainFrame savingContext
  rw [Request.length_frame]
  simp [headerSize, Bytes.capacity]

def Command.giving (blob : Bytes) : Response := success .response ⟨[], blob.withLength⟩ []

theorem SavedContext.encode_of_complete (bytes : Bytes) (saved : SavedContext)
    (read : SavedContext.decode.complete bytes = .ok saved) : saved.encode = .ok bytes := by
  obtain ⟨legible, rfl⟩ := (reads.complete_iff bytes saved).mp read
  refine saved.sends.ok fun part among exceeds => ?_
  have sentOnly := (legible part among).sentOnly exceeds
  simp only [parts, List.mem_cons, List.not_mem_nil, or_false] at among
  rcases among with rfl | rfl
  · exact sentOnly
  · exact sentOnly

namespace Client

variable {σ : Type} [Channel σ]

theorem saveContext_ok (handle : UInt32) (kind : ResourceKind) (label : Block 16)
    (client after : Client σ) (saved : SavedContext)
    (success : (saveContext handle kind label).run client = (.ok saved, after)) :
    ∃ raw, (Link.transmit (Command.savingContext handle kind label).plainFrame).run
        client.link = (.ok (Command.giving raw).frame, after.link) ∧
      SavedContext.decode.complete raw = .ok saved ∧ saved.resource? = some kind := by
  have fits := Command.length_savingContext handle kind label
  cases transmitted : (Link.transmit (Command.savingContext handle kind label).plainFrame).run
      client.link with
  | mk answer link =>
    have asked := run_ask (Command.savingContext handle kind label) Decoder.sized client answer
      link rfl fits transmitted
    unfold saveContext at success
    obtain ⟨raw, between, given, success⟩ := (Action.bind_eq_ok_iff _ _ _ _ _).mp success
    obtain ⟨found, again, decoded, success⟩ := (Action.bind_eq_ok_iff _ _ _ _ _).mp success
    obtain ⟨isContext, rfl⟩ := Prod.mk.inj decoded
    obtain ⟨brought, rfl⟩ := Prod.mk.inj (asked.symm.trans given)
    obtain ⟨⟨handles, parameters⟩, rfl, _, none, isSized⟩ :=
      (Command.value_eq_ok_iff _ _ _ _).mp brought
    obtain rfl := List.length_eq_zero_iff.mp none
    obtain ⟨_, rfl⟩ := (Decoder.Reads.sized.complete_iff _ _).mp isSized
    have ends : found = saved ∧ found.resource? = some kind ∧ after.link = link := by
      by_cases same : found.resource? = some kind
      · by_cases isSession : kind.isSession = true
        · rw [if_neg (not_not_intro same), if_pos isSession] at success
          cases success
          exact ⟨rfl, same, rfl⟩
        · rw [if_neg (not_not_intro same), if_neg isSession] at success
          cases success
          exact ⟨rfl, same, rfl⟩
      · rw [if_pos same] at success
        cases success
    obtain ⟨rfl, same, kept⟩ := ends
    rw [kept]
    exact ⟨raw, rfl, isContext, same⟩

theorem link_askHandle (command : Command) (client : Client σ) (plain : command.newSecret = none)
    (once : command.ordinal.isRetryable = false)
    (fits : command.plainFrame.length < Bytes.capacity 4) :
    ((unauthorized (Dispatch.askHandle command)).run client).2.link =
      ((Link.transmit command.plainFrame).run client.link).2 := by
  cases transmitted : (Link.transmit command.plainFrame).run client.link with
  | mk answer link => rw [run_askHandle command client plain once answer link fits transmitted]

omit [Channel σ] in
theorem link_releasing {α : Type} (blob : Bytes) (action : Action Fault (Client σ) α)
    (client : Client σ) :
    ((Custody.releasing blob action).run client).2.link = (action.run client).2.link := by
  rw [Custody.run_releasing blob action client _ _ rfl]
  cases (action.run client).1 with
  | error fault => rfl
  | ok value => rfl

/-- Nothing on this side keeps a saved resource from being loaded: it is no session that was loaded
before, and the request for it can be sent. -/
def MayLoad (client : Client σ) (kind : ResourceKind) (hint : UInt32) (keep : Bool)
    (raw : Bytes) : Prop :=
  (kind.isSession = true → Sha1.hash raw ∉ client.inventory.spent) ∧
    (Command.loadingContext hint keep raw).plainFrame.length < Bytes.capacity 4

variable (hint : UInt32) (keep : Bool) (saved : SavedContext) (kind : ResourceKind) (raw : Bytes)
  (client : Client σ)

theorem loadBlob_of_new
    (isNew : kind.isSession = true → Sha1.hash raw ∉ client.inventory.spent) :
    ∃ claimed : Client σ, claimed.link = client.link ∧
      ((loadBlob kind hint keep raw).run client).1 =
        ((Action.ofExcept (Bytes.sized raw) >>= loadSized hint keep).run claimed).1 ∧
      ((loadBlob kind hint keep raw).run client).2.link =
        ((Action.ofExcept (Bytes.sized raw) >>= loadSized hint keep).run claimed).2.link := by
  unfold loadBlob
  by_cases isSession : kind.isSession = true
  · refine ⟨{ client with inventory := client.inventory.spend raw }, rfl, ?_⟩
    rw [if_pos isSession, Action.run_bind, run_claim, if_neg (isNew isSession)]
    dsimp only
    rw [Action.run_bind, Action.run_bind, Action.run_ofExcept]
    cases Bytes.sized raw with
    | error fault => exact ⟨rfl, rfl⟩
    | ok sized =>
      dsimp only
      rw [link_releasing, Custody.run_releasing raw _ _ _ _ rfl]
      exact ⟨rfl, rfl⟩
  · rw [if_neg isSession]
    exact ⟨client, rfl, rfl, rfl⟩

theorem link_loadBlob (mayLoad : client.MayLoad kind hint keep raw) :
    ((loadBlob kind hint keep raw).run client).2.link =
      ((Link.transmit (Command.loadingContext hint keep raw).plainFrame).run client.link).2 := by
  obtain ⟨isNew, fits⟩ := mayLoad
  have short := Nat.lt_of_le_of_lt (Command.length_blob_le_loadingContext hint keep raw) fits
  have sized : Bytes.sized raw = .ok (Bytes.bigEndian 4 raw.length ++ raw) := if_pos short
  obtain ⟨claimed, same, _, link⟩ := loadBlob_of_new hint keep kind raw client isNew
  rw [link, Action.run_bind, Action.run_ofExcept, sized]
  dsimp only
  rw [loadSized_eq, link_askHandle _ claimed rfl rfl fits, same]

theorem loadBlob_of_held (held : ¬ client.MayLoad kind hint keep raw) :
    (∃ fault, ((loadBlob kind hint keep raw).run client).1 = .error fault ∧
        (fault = .contextReused ∨ fault.IsEncoding)) ∧
      ((loadBlob kind hint keep raw).run client).2.link = client.link := by
  by_cases again : kind.isSession = true ∧ Sha1.hash raw ∈ client.inventory.spent
  · unfold loadBlob
    rw [if_pos again.1, Action.run_bind, run_claim, if_pos again.2]
    exact ⟨⟨_, rfl, Or.inl rfl⟩, rfl⟩
  · have isNew : kind.isSession = true → Sha1.hash raw ∉ client.inventory.spent :=
      fun isSession known => again ⟨isSession, known⟩
    have large := Nat.not_lt.mp fun fits => held ⟨isNew, fits⟩
    obtain ⟨claimed, same, outcome, link⟩ := loadBlob_of_new hint keep kind raw client isNew
    rw [outcome, link, Action.run_bind, Action.run_ofExcept]
    by_cases short : raw.length < Bytes.capacity 4
    · have sized : Bytes.sized raw = .ok (Bytes.bigEndian 4 raw.length ++ raw) := if_pos short
      obtain ⟨cause, unsent⟩ := run_askHandle_of_large (.loadingContext hint keep raw) claimed rfl
        large
      rw [sized]
      dsimp only
      rw [loadSized_eq, unsent]
      exact ⟨⟨_, rfl, Or.inr ⟨cause, rfl⟩⟩, same⟩
    · have unsized : Bytes.sized raw = .error (.encoding (.blobTooLarge raw.length)) := if_neg short
      rw [unsized]
      exact ⟨⟨_, rfl, Or.inr ⟨_, rfl⟩⟩, same⟩

theorem loadContext_of_loadBlob (isKind : saved.resource? = some kind)
    (encoded : saved.encode = .ok raw) :
    ((loadContext hint keep saved).run client).1 = ((loadBlob kind hint keep raw).run client).1 ∧
      ((loadContext hint keep saved).run client).2.link =
        ((loadBlob kind hint keep raw).run client).2.link := by
  unfold loadContext
  rw [Action.run_bind, encoded]
  dsimp only [Action.run_ofExcept]
  rw [isKind]
  dsimp only
  rw [Action.run_bind]
  cases loaded : (loadBlob kind hint keep raw).run client with
  | mk outcome after =>
    cases outcome with
    | error fault => exact ⟨rfl, rfl⟩
    | ok handle =>
      dsimp only
      by_cases isKey : kind = .key
      · rw [if_pos isKey]
        exact ⟨rfl, rfl⟩
      · rw [if_neg isKey]
        exact ⟨rfl, rfl⟩

/-- A saved resource that was read from bytes is loaded with those bytes, or not at all. -/
theorem loadContext_resends (read : SavedContext.decode.complete raw = .ok saved)
    (isKind : saved.resource? = some kind) :
    (client.MayLoad kind hint keep raw → ((loadContext hint keep saved).run client).2.link =
        ((Link.transmit (Command.loadingContext hint keep raw).plainFrame).run client.link).2) ∧
      (¬ client.MayLoad kind hint keep raw →
        (∃ fault, ((loadContext hint keep saved).run client).1 = .error fault ∧
          (fault = .contextReused ∨ fault.IsEncoding)) ∧
        ((loadContext hint keep saved).run client).2.link = client.link) := by
  obtain ⟨outcome, link⟩ := loadContext_of_loadBlob hint keep saved kind raw client isKind
    (saved.encode_of_complete raw read)
  rw [outcome, link]
  exact ⟨link_loadBlob hint keep kind raw client, loadBlob_of_held hint keep kind raw client⟩

end Client

/-- What is read is written as it was, unless a limit that only sending looks at is exceeded.  A
saved context is given back to a module as one gave it out, unless it is not sent at all. -/
theorem Layout.canonical :
    (∀ (layout : Layout) (bytes : Bytes) (value : layout.Value),
      layout.decode.complete bytes = .ok value →
        (layout.encode value = .ok bytes ∨
            ∃ cause, layout.encode value = .error (.encoding cause)) ∧
          ((∃ cause, layout.encode value = .error (.encoding cause)) ↔
            ∃ part ∈ layout.parts value, part.SentOnly ∧ part.Exceeds) ∧
          ∀ other, layout.decode.complete other = .ok value → other = bytes) ∧
    ∀ {σ : Type} [Channel σ] (handle : UInt32) (kind : ResourceKind) (label : Block 16)
      (client after : Client σ) (saved : SavedContext),
      (Client.saveContext handle kind label).run client = (.ok saved, after) →
        ∃ raw, (Link.transmit (Command.savingContext handle kind label).plainFrame).run
            client.link = (.ok (Command.giving raw).frame, after.link) ∧
          SavedContext.decode.complete raw = .ok saved ∧
          ∀ {τ : Type} [Channel τ] (hint : UInt32) (keep : Bool) (later : Client τ),
            (later.MayLoad kind hint keep raw →
              ((Client.loadContext hint keep saved).run later).2.link =
                ((Link.transmit (Command.loadingContext hint keep raw).plainFrame).run
                  later.link).2) ∧
            (¬ later.MayLoad kind hint keep raw →
              (∃ fault, ((Client.loadContext hint keep saved).run later).1 = .error fault ∧
                (fault = .contextReused ∨ fault.IsEncoding)) ∧
              ((Client.loadContext hint keep saved).run later).2.link = later.link) := by
  constructor
  · intro layout bytes value read
    obtain ⟨sent, limits⟩ := layout.encode_of_complete value bytes read
    refine ⟨sent, limits, fun other readOther => ?_⟩
    obtain ⟨_, _, whole⟩ := (layout.complete_eq_ok_iff value bytes).mp read
    obtain ⟨_, _, wholeOther⟩ := (layout.complete_eq_ok_iff value other).mp readOther
    rw [whole, wholeOther]
  · intro σ _ handle kind label client after saved success
    obtain ⟨raw, transmitted, read, isKind⟩ :=
      Client.saveContext_ok handle kind label client after saved success
    refine ⟨raw, transmitted, read, fun {τ} _ hint keep later => ?_⟩
    exact Client.loadContext_resends hint keep saved kind raw later read isKind

namespace SavedContext.Rehearsal

def savedKey : SavedContext := ⟨1, 5, .replicate 16 7, 3, .replicate 20 9, [], [0xaa, 0xbb]⟩

def keeper : Client Script :=
  .fresh (.ofEntries [.answer (Command.giving savedKey.written).frame,
    .answer (Command.handing 6).frame]) ⟨fun number => Block.replicate 20 (.ofNat number), 0⟩ 1

def saved : Except Fault SavedContext × Client Script :=
  (Client.saveContext 5 .key (.replicate 16 7)).run keeper

/-- The saved key is read from what the module gave out, and is loaded as that. -/
theorem canonical_of_savedKey :
    Layout.savedContext.encode savedKey = .ok savedKey.written ∧
      ((Client.loadContext 5 true savedKey).run saved.2).2.link =
        ((Link.transmit (Command.loadingContext 5 true savedKey.written).plainFrame).run
          saved.2.link).2 := by
  have read : Layout.savedContext.decode.complete savedKey.written = .ok savedKey := rfl
  have success : (Client.saveContext 5 .key (.replicate 16 7)).run keeper =
      (.ok savedKey, saved.2) := rfl
  obtain ⟨sent | ⟨_, refused⟩, _, unique⟩ :=
    Layout.canonical.1 Layout.savedContext savedKey.written savedKey read
  · obtain ⟨raw, _, isSaved, loads⟩ :=
      Layout.canonical.2 5 .key (.replicate 16 7) keeper saved.2 savedKey success
    obtain rfl : raw = savedKey.written := unique raw isSaved
    have mayLoad : saved.2.MayLoad .key 5 true savedKey.written :=
      ⟨fun isSession => (nomatch isSession), by decide⟩
    exact ⟨sent, (loads 5 true saved.2).1 mayLoad⟩
  · cases refused

end SavedContext.Rehearsal

end TrustedPlatform

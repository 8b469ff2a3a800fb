import TrustedPlatform.Client.SavedContext
import TrustedPlatform.Inventory
import TrustedPlatform.Proofs.Module.Vault
import TrustedPlatform.Proofs.Structure.Written
import TrustedPlatform.Structure.HandleList

/-!
# A module that keeps keys

What a module keeps of its keys is the public part of each, by handle (`KeyStore`).  A request puts
a key under a handle that is free, takes one away, shows what is there, or leaves the keys alone
(`KeyErrand.of`, `KeyStore.Grants`).  A request that is refused changes nothing.

An inventory mirrors the keys of a module if it knows their handles, and no public part but theirs
(`KeyStore.Mirrors`).
-/

set_option autoImplicit false

namespace TrustedPlatform

namespace Table

variable {α : Type}

theorem contains_eq_isSome (table : Table α) (key : UInt32) :
    table.contains key = (table.get? key).isSome := rfl

theorem get?_insertIfNew (table : Table α) (key other : UInt32) (value : α) :
    (table.insertIfNew key value).get? other =
      if other = key then some ((table.get? key).getD value) else table.get? other := by
  unfold insertIfNew contains
  cases held : table.get? key with
  | none => simp [get?_insert]
  | some found =>
    by_cases same : other = key
    · simp [same, held]
    · simp [same]

/-- Many keys are put into a table, and no value that was there is lost. -/
theorem get?_foldl_insertIfNew (table : Table α) (keys : List UInt32) (value : α)
    (other : UInt32) :
    (keys.foldl (fun table key => table.insertIfNew key value) table).get? other =
      if other ∈ keys then some ((table.get? other).getD value) else table.get? other := by
  induction keys generalizing table with
  | nil => simp
  | cons key keys inductionHypothesis =>
    rw [List.foldl_cons, inductionHypothesis, get?_insertIfNew]
    by_cases same : other = key
    · simp [same]
    · simp [same]

end Table

namespace Inventory

variable (inventory : Inventory) (handle other : UInt32)

theorem contains_addKey (publicKey : Option PublicKey) :
    (inventory.addKey handle publicKey).keys.contains other =
      if other = handle then true else inventory.keys.contains other := by
  unfold addKey Table.contains
  rw [Table.get?_insert]
  split <;> rfl

theorem publicKey?_addKey (publicKey : Option PublicKey) :
    (inventory.addKey handle publicKey).publicKey? other =
      if other = handle then publicKey else inventory.publicKey? other := by
  unfold publicKey? addKey
  dsimp only
  rw [Table.get?_insert]
  split <;> rfl

theorem contains_removeKey :
    (inventory.removeKey handle).keys.contains other =
      if other = handle then false else inventory.keys.contains other := by
  unfold removeKey Table.contains
  rw [Table.get?_erase]
  split <;> rfl

theorem publicKey?_removeKey :
    (inventory.removeKey handle).publicKey? other =
      if other = handle then none else inventory.publicKey? other := by
  unfold publicKey? removeKey
  dsimp only
  rw [Table.get?_erase]
  split <;> rfl

theorem get?_refreshKeys (handles : List UInt32) :
    (inventory.refreshKeys handles).keys.get? other =
      if other ∈ handles then some (inventory.publicKey? other) else none := by
  unfold refreshKeys publicKey?
  dsimp only
  rw [Table.get?_foldl_insertIfNew, Table.get?_restrict]
  by_cases listed : other ∈ handles
  · simp only [listed, List.contains_iff_mem, if_true, Option.some.injEq]
    cases inventory.keys.get? other <;> rfl
  · simp [listed]

end Inventory

/-- What a request to load a saved resource brings: the resource under its length, after where it is
to be put. -/
def contextRequest : Decoder Bytes := do
  let _ ← Decoder.word32
  let _ ← Decoder.flag
  Decoder.sized

def contextKind? (parameters : Bytes) : Option ResourceKind := do
  let blob ← (contextRequest.complete parameters).toOption
  let saved ← (SavedContext.decode.complete blob).toOption
  saved.resource?

theorem contextKind?_of_encode (hint : UInt32) (keep : Bool) (saved : SavedContext) (blob : Bytes)
    (encoded : saved.encode = .ok blob) (fits : blob.length < Bytes.capacity 4) :
    contextKind? (Bytes.word32 hint ++ Bytes.flag keep ++ blob.withLength) = saved.resource? := by
  have reads : contextRequest.Reads fun found bytes => found.length < Bytes.capacity 4 ∧
      ∃ hint keep, bytes = Bytes.word32 hint ++ Bytes.flag keep ++ found.withLength := by
    refine (Decoder.Reads.bind .word32 fun _ => .bind .flag fun _ => .sized).congr ?_
    intro found bytes
    simp [-Bool.exists_bool]
  obtain ⟨legible, written⟩ := (saved.sends.ok_iff blob).mp encoded
  have requested := (reads.complete_iff _ blob).mpr ⟨fits, hint, keep, rfl⟩
  have whole := (SavedContext.reads.complete_iff blob saved).mpr
    ⟨fun part among => .of_not_exceeds (legible part among), written⟩
  unfold contextKind?
  rw [requested]
  change ((SavedContext.decode.complete blob).toOption >>= SavedContext.resource?) = _
  rw [whole]
  rfl

def keyListing : Bytes := Bytes.word32 Capability.keyHandle.code ++ Bytes.withLength []

inductive KeyErrand where
  | loads
  | loadsSaved
  | removes
  | shows
  | lists
  -- The request has nothing to do with the keys, or leaves them as they are.
  | leaves

def KeyErrand.of (ordinal : Ordinal) (parameters : Bytes) : KeyErrand :=
  match ordinal with
  | .loadKey | .loadKey2 => .loads
  | .loadKeyContext => .loadsSaved
  | .loadContext => if contextKind? parameters = some .key then .loadsSaved else .leaves
  | .evictKey => .removes
  | .flushSpecific => if parameters = Bytes.word32 ResourceKind.key.code then .removes else .leaves
  | .getPubKey => .shows
  | .getCapability => if parameters = keyListing then .lists else .leaves
  | _ => .leaves

/-- The keys that a module holds. -/
structure KeyStore where
  keys : Table PublicKey

namespace KeyStore

def empty : KeyStore := ⟨.empty⟩

def put (store : KeyStore) (handle : UInt32) (key : PublicKey) : KeyStore :=
  ⟨store.keys.insert handle key⟩

def remove (store : KeyStore) (handle : UInt32) : KeyStore := ⟨store.keys.erase handle⟩

/-- How a request for an errand is granted, and what keys there are then. -/
inductive Grants (store : KeyStore) (handles : List UInt32) (parameters : Bytes) :
    KeyErrand → Reply → KeyStore → Prop where
  | loads (key : KeyBlob) (handle : UInt32)
      (isKey : KeyBlob.decode.complete parameters = .ok key)
      (isFree : store.keys.contains handle = false) :
      Grants store handles parameters .loads ⟨[handle], []⟩ (store.put handle key.publicKey)
  | loadsSaved (key : PublicKey) (handle : UInt32)
      (isFree : store.keys.contains handle = false) :
      Grants store handles parameters .loadsSaved ⟨[handle], []⟩ (store.put handle key)
  | removes (handle : UInt32) (reply : Reply) (named : handles = [handle]) :
      Grants store handles parameters .removes reply (store.remove handle)
  | shows (handle : UInt32) (key : PublicKey) (reply : Reply) (named : handles = [handle])
      (held : store.keys.get? handle = some key)
      (shown : PublicKey.decode.complete reply.parameters = .ok key) :
      Grants store handles parameters .shows reply store
  | lists (listed : List UInt32) (list : Bytes)
      (written : HandleList.decode.complete list = .ok ⟨listed⟩)
      (exact : ∀ handle, handle ∈ listed ↔ store.keys.contains handle = true) :
      Grants store handles parameters .lists ⟨[], list.withLength⟩ store
  | leaves (reply : Reply) : Grants store handles parameters .leaves reply store

/-- How a module answers a request, and what keys it holds then.  What is granted is answered under
the tag for as many trailers as the request had. -/
inductive Answers (store : KeyStore) (request : Request) : Bytes → KeyStore → Prop where
  | refuses (received : Bytes) (response : Response)
      (parsed : Response.parse received = .ok response)
      (failed : response.code ≠ ResultCode.success) : Answers store request received store
  | grants (tag : Tag) (reply : Reply) (trailers : List ResponseTrailer) (next : KeyStore)
      (tagged : tag.responseTrailers? = some request.trailers.length)
      (count : trailers.length = request.trailers.length)
      (outputs : reply.handles.length = request.ordinal.outputCount)
      (fits : (Command.success tag reply trailers).frame.length < Bytes.capacity 4)
      (granted : store.Grants request.handles request.parameters
        (.of request.ordinal request.parameters) reply next) :
      Answers store request (Command.success tag reply trailers).frame next

/-- A module serves exchanges one after the other.  Every one of them is completed. -/
inductive Serves : KeyStore → List Exchange → KeyStore → Prop where
  | done (store : KeyStore) : Serves store [] store
  | answers (store next last : KeyStore) (request : Request) (received response : Bytes)
      (rest : List Exchange) (reads : Request.Reads received request)
      (answered : store.Answers request response next) (served : Serves next rest last) :
      Serves store (⟨received, .ok response⟩ :: rest) last

theorem serves_nil_iff (store last : KeyStore) : store.Serves [] last ↔ last = store := by
  constructor
  · intro serves
    cases serves
    rfl
  · rintro rfl
    exact .done last

theorem Serves.split {store last : KeyStore} {early late : List Exchange}
    (serves : store.Serves (early ++ late) last) :
    ∃ between, store.Serves early between ∧ between.Serves late last := by
  induction early generalizing store with
  | nil => exact ⟨store, .done store, serves⟩
  | cons exchange early inductionHypothesis =>
    cases serves with
    | answers _ next _ request received response _ reads answered served =>
      obtain ⟨between, first, second⟩ := inductionHypothesis served
      exact ⟨between, .answers store next between request received response early reads answered
        first, second⟩

theorem Serves.answered {store last : KeyStore} {bytes : Bytes} {request : Request}
    {answer : Except Fault Bytes} (serves : store.Serves [⟨bytes, answer⟩] last)
    (reads : Request.Reads bytes request) :
    ∃ response, answer = .ok response ∧ store.Answers request response last := by
  cases serves with
  | answers _ next _ other _ response _ also answered served =>
    obtain rfl := (serves_nil_iff _ _).mp served
    rw [reads.unique also]
    exact ⟨response, rfl, answered⟩

/-- What is known of the keys is what the module holds: their handles, and no public part but
theirs. -/
structure Mirrors (store : KeyStore) (inventory : Inventory) : Prop where
  handles : ∀ handle, inventory.keys.contains handle = store.keys.contains handle
  publicKeys : ∀ handle key, inventory.publicKey? handle = some key →
    store.keys.get? handle = some key

theorem contains_put (store : KeyStore) (handle other : UInt32) (key : PublicKey) :
    (store.put handle key).keys.contains other =
      if other = handle then true else store.keys.contains other := by
  unfold put Table.contains
  rw [Table.get?_insert]
  split <;> rfl

theorem contains_remove (store : KeyStore) (handle other : UInt32) :
    (store.remove handle).keys.contains other =
      if other = handle then false else store.keys.contains other := by
  unfold remove Table.contains
  rw [Table.get?_erase]
  split <;> rfl

namespace Mirrors

theorem of_empty (inventory : Inventory) (none : inventory.keys = .empty) :
    empty.Mirrors inventory := by
  constructor
  · intro handle
    rw [none]
    rfl
  · intro handle key known
    rw [Inventory.publicKey?, none] at known
    cases known

variable {store : KeyStore} {inventory : Inventory} (mirrors : store.Mirrors inventory)

include mirrors

theorem put (handle : UInt32) (key : PublicKey) (known? : Option PublicKey)
    (right : ∀ known, known? = some known → known = key) :
    (store.put handle key).Mirrors (inventory.addKey handle known?) := by
  constructor
  · intro other
    rw [Inventory.contains_addKey, contains_put, mirrors.handles]
  · intro other found known
    rw [Inventory.publicKey?_addKey] at known
    unfold KeyStore.put
    rw [Table.get?_insert]
    by_cases same : other = handle
    · rw [if_pos same] at known ⊢
      rw [right found known]
    · rw [if_neg same] at known ⊢
      exact mirrors.publicKeys other found known

theorem remove (handle : UInt32) : (store.remove handle).Mirrors (inventory.removeKey handle) := by
  constructor
  · intro other
    rw [Inventory.contains_removeKey, contains_remove, mirrors.handles]
  · intro other found known
    rw [Inventory.publicKey?_removeKey] at known
    unfold KeyStore.remove
    rw [Table.get?_erase]
    by_cases same : other = handle
    · rw [if_pos same] at known
      cases known
    · rw [if_neg same] at known ⊢
      exact mirrors.publicKeys other found known

theorem shown (handle : UInt32) (key : PublicKey) (held : store.keys.get? handle = some key) :
    store.Mirrors (inventory.addKey handle (some key)) := by
  constructor
  · intro other
    rw [Inventory.contains_addKey, mirrors.handles]
    by_cases same : other = handle
    · rw [if_pos same, same, Table.contains, held]
      rfl
    · rw [if_neg same]
  · intro other found known
    rw [Inventory.publicKey?_addKey] at known
    by_cases same : other = handle
    · rw [if_pos same] at known
      rw [same, held, known]
    · rw [if_neg same] at known
      exact mirrors.publicKeys other found known

theorem refreshed (listed : List UInt32)
    (exact : ∀ handle, handle ∈ listed ↔ store.keys.contains handle = true) :
    store.Mirrors (inventory.refreshKeys listed) := by
  constructor
  · intro handle
    rw [Table.contains_eq_isSome, Inventory.get?_refreshKeys]
    by_cases among : handle ∈ listed
    · rw [if_pos among, (exact handle).mp among]
      rfl
    · have absent : store.keys.contains handle = false :=
        Bool.eq_false_iff.mpr fun held => among ((exact handle).mpr held)
      rw [if_neg among, absent]
      rfl
  · intro handle key known
    unfold Inventory.publicKey? at known
    rw [Inventory.get?_refreshKeys] at known
    by_cases among : handle ∈ listed
    · rw [if_pos among] at known
      exact mirrors.publicKeys handle key known
    · rw [if_neg among] at known
      cases known

theorem same {other : Inventory} (same : other.keys = inventory.keys) : store.Mirrors other := by
  constructor
  · rw [same]
    exact mirrors.handles
  · unfold Inventory.publicKey?
    rw [same]
    exact mirrors.publicKeys

end Mirrors

end KeyStore

end TrustedPlatform

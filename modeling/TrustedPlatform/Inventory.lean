import TrustedPlatform.Session.Basic
import TrustedPlatform.Structure.CounterValue
import TrustedPlatform.Structure.Key
import TrustedPlatform.Table

/-!
# The inventory

What is known, on this side of the channel, about the volatile memory of the module: the open
sessions, the loaded keys, the saved sessions that were loaded again, and the commands it audits.

* `claim_eq_ok_iff`: a saved session can be claimed exactly when it was not claimed before.
* `release_claim`: giving up a claim that was granted restores the inventory.
-/

set_option autoImplicit false

namespace TrustedPlatform

structure AuditRecord where
  audited : Table Unit
  digest : Option Digest
  counter : Option CounterValue

namespace AuditRecord

def empty : AuditRecord := ⟨.empty, none, none⟩

def isAudited (record : AuditRecord) (ordinal : UInt32) : Bool := record.audited.contains ordinal

def setAudited (record : AuditRecord) (ordinal : UInt32) (audited : Bool) : AuditRecord :=
  { record with
    audited :=
      if audited then record.audited.insert ordinal () else record.audited.erase ordinal }

def report (record : AuditRecord) (digest : Digest) (counter : CounterValue) : AuditRecord :=
  { record with digest := some digest, counter := some counter }

def ofListing (ordinals : List UInt32) (digest : Digest) (counter : CounterValue) : AuditRecord where
  audited := ordinals.foldl (fun audited ordinal => audited.insert ordinal ()) .empty
  digest := some digest
  counter := some counter

end AuditRecord

/-- What is known about the module's memory. -/
structure Inventory where
  sessions : Table SessionKind
  -- The loaded keys, with the public part of those that showed it.
  keys : Table (Option PublicKey)
  spent : List Digest
  audit : AuditRecord

namespace Inventory

def empty : Inventory := ⟨.empty, .empty, [], .empty⟩

def publicKey? (inventory : Inventory) (handle : UInt32) : Option PublicKey :=
  (inventory.keys.get? handle).join

def addSession (inventory : Inventory) (handle : UInt32) (kind : SessionKind) : Inventory :=
  { inventory with sessions := inventory.sessions.insert handle kind }

def removeSession (inventory : Inventory) (handle : UInt32) : Inventory :=
  { inventory with sessions := inventory.sessions.erase handle }

def addKey (inventory : Inventory) (handle : UInt32) (publicKey : Option PublicKey) : Inventory :=
  { inventory with keys := inventory.keys.insert handle publicKey }

def removeKey (inventory : Inventory) (handle : UInt32) : Inventory :=
  { inventory with keys := inventory.keys.erase handle }

/-- Takes over a listing of the loaded keys; the public parts known before stay known. -/
def refreshKeys (inventory : Inventory) (handles : List UInt32) : Inventory :=
  { inventory with
    keys := handles.foldl (fun keys handle => keys.insertIfNew handle none)
      (inventory.keys.restrict handles.contains) }

/-- Marks a saved session as loaded again.  That can be done once. -/
def claim (inventory : Inventory) (blob : Bytes) : Except Fault Inventory :=
  if inventory.spent.contains (Sha1.hash blob) then .error .contextReused
  else .ok { inventory with spent := Sha1.hash blob :: inventory.spent }

def release (inventory : Inventory) (blob : Bytes) : Inventory :=
  { inventory with spent := inventory.spent.filter (· ≠ Sha1.hash blob) }

/-- The module started: every session is gone, and so is every saved one. -/
def restart (inventory : Inventory) : Inventory :=
  { inventory with sessions := .empty, spent := [] }

@[simp] theorem get?_addSession (inventory : Inventory) (handle other : UInt32)
    (kind : SessionKind) :
    (inventory.addSession handle kind).sessions.get? other =
      if other = handle then some kind else inventory.sessions.get? other :=
  Table.get?_insert inventory.sessions handle other kind

@[simp] theorem get?_removeSession (inventory : Inventory) (handle other : UInt32) :
    (inventory.removeSession handle).sessions.get? other =
      if other = handle then none else inventory.sessions.get? other :=
  Table.get?_erase inventory.sessions handle other

theorem claim_eq_ok_iff (inventory after : Inventory) (blob : Bytes) :
    inventory.claim blob = .ok after ↔
      Sha1.hash blob ∉ inventory.spent ∧
        after = { inventory with spent := Sha1.hash blob :: inventory.spent } := by
  unfold claim
  by_cases known : Sha1.hash blob ∈ inventory.spent
  · simp [known]
  · have fresh : ¬ inventory.spent.contains (Sha1.hash blob) = true := by simpa using known
    rw [if_neg fresh]
    constructor
    · intro granted
      exact ⟨known, (Except.ok.inj granted).symm⟩
    · rintro ⟨_, shown⟩
      rw [shown]

theorem release_claim (inventory after : Inventory) (blob : Bytes)
    (granted : inventory.claim blob = .ok after) : after.release blob = inventory := by
  obtain ⟨new, shown⟩ := (claim_eq_ok_iff inventory after blob).mp granted
  have dropped :
      (Sha1.hash blob :: inventory.spent).filter (· ≠ Sha1.hash blob) = inventory.spent := by
    rw [List.filter_cons_of_neg (by simp)]
    apply List.filter_eq_self.mpr
    intro digest known
    have different : digest ≠ Sha1.hash blob := fun same => new (same ▸ known)
    simpa using different
  rw [shown]
  show ({ inventory with
    spent := (Sha1.hash blob :: inventory.spent).filter (· ≠ Sha1.hash blob) } : Inventory) =
      inventory
  rw [dropped]

end Inventory

end TrustedPlatform

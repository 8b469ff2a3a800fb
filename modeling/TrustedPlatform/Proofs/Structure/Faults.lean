import TrustedPlatform.Structure.Key

/-!
# Faults of writing

A value that cannot be written fails to be encoded, and in no other way: `KeyBlob.only_encode`.
-/

set_option autoImplicit false

namespace TrustedPlatform

theorem outcome_bind_eq_ok_iff {ε α β : Type} (first : Except ε α) (next : α → Except ε β)
    (value : β) :
    first >>= next = .ok value ↔ ∃ middle, first = .ok middle ∧ next middle = .ok value := by
  cases first with
  | error fault =>
    constructor
    · intro failed
      cases failed
    · rintro ⟨_, same, _⟩
      cases same
  | ok middle =>
    constructor
    · intro success
      exact ⟨middle, rfl, success⟩
    · rintro ⟨_, same, success⟩
      cases same
      exact success

namespace Fault

/-- The fault is about a value that cannot be sent. -/
def IsEncoding (fault : Fault) : Prop := ∃ cause, fault = .encoding cause

theorem IsEncoding.isLocal {fault : Fault} (encoding : fault.IsEncoding) :
    fault.isLocal = true := by
  obtain ⟨_, rfl⟩ := encoding
  rfl

/-- Every fault that an outcome can be is one that is allowed. -/
def Only {α : Type} (allowed : Fault → Prop) (outcome : Except Fault α) : Prop :=
  ∀ fault, outcome = .error fault → allowed fault

namespace Only

variable {α β : Type} {allowed : Fault → Prop}

theorem ok (value : α) : Only allowed (.ok value : Except Fault α) :=
  fun _ failed => nomatch failed

theorem error (fault : Fault) (isAllowed : allowed fault) :
    Only allowed (.error fault : Except Fault α) := by
  rintro other ⟨⟩
  exact isAllowed

theorem bind (first : Except Fault α) (next : α → Except Fault β) (firstOnly : Only allowed first)
    (nextOnly : ∀ value, Only allowed (next value)) : Only allowed (first >>= next) := by
  cases first with
  | error fault => exact error fault (firstOnly fault rfl)
  | ok value => exact nextOnly value

theorem mono {also : Fault → Prop} (outcome : Except Fault α) (only : Only allowed outcome)
    (implied : ∀ fault, allowed fault → also fault) : Only also outcome :=
  fun fault failed => implied fault (only fault failed)

theorem map (outcome : Except Fault α) (change : α → β) (only : Only allowed outcome) :
    Only allowed (outcome.map change) := by
  cases outcome with
  | error fault => exact error fault (only fault rfl)
  | ok value => exact ok (change value)

end Only

end Fault

open Fault

theorem Bytes.only_sized (blob : Bytes) : Only IsEncoding (Bytes.sized blob) := by
  unfold Bytes.sized
  split
  · exact .ok _
  · exact .error _ ⟨_, rfl⟩

theorem RsaParameters.only_encode (parameters : RsaParameters) :
    Only IsEncoding parameters.encode := by
  unfold encode
  split
  · exact .error _ ⟨_, rfl⟩
  · exact .bind _ _ (Bytes.only_sized _) fun _ => .ok _

theorem AlgorithmParameters.only_encode (parameters : AlgorithmParameters) :
    Only IsEncoding parameters.encode := by
  cases parameters with
  | rsa parameters => exact parameters.only_encode
  | raw bytes => exact .ok bytes

theorem KeyParameters.only_encode (parameters : KeyParameters) :
    Only IsEncoding parameters.encode :=
  .bind _ _ parameters.details.only_encode fun _ => .bind _ _ (Bytes.only_sized _) fun _ => .ok _

theorem PublicModulus.only_encode (modulus : PublicModulus) : Only IsEncoding modulus.encode := by
  unfold encode
  split
  · exact .error _ ⟨_, rfl⟩
  · exact Bytes.only_sized _

theorem KeyFormat.only_encode (format : KeyFormat) : Only IsEncoding format.encode := by
  cases format with
  | older version =>
    unfold encode
    dsimp only
    split
    · exact .ok _
    · exact .error _ ⟨_, rfl⟩
  | newer => exact .ok _

theorem KeyBlob.only_encode (key : KeyBlob) : Only IsEncoding key.encode :=
  .bind _ _ key.format.only_encode fun _ => .bind _ _ key.parameters.only_encode fun _ =>
    .bind _ _ (Bytes.only_sized _) fun _ => .bind _ _ key.modulus.only_encode fun _ =>
      .bind _ _ (Bytes.only_sized _) fun _ => .ok _

theorem PublicKey.only_encode (key : PublicKey) : Only IsEncoding key.encode :=
  .bind _ _ key.parameters.only_encode fun _ => .bind _ _ key.modulus.only_encode fun _ => .ok _

end TrustedPlatform

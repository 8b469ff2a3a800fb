import TrustedPlatform.Proofs.Frame.RequestReading
import TrustedPlatform.Proofs.Register.Selection
import TrustedPlatform.Register

/-!
# What the hashes of registers bind

A composite hash stands for one selection and the values of its registers: both are read off the
bytes that are hashed (`Register.compositeBytes_injective`), so two composites with one hash are a
collision (`Register.composite_binds`).  In the same way the value of a register stands for
everything that it was extended with: two histories of one length that end in the same value are the
same, or somewhere in them two different strings have one hash (`Register.replay_binds`).
-/

set_option autoImplicit false

namespace TrustedPlatform

/-- Two strings that the hash does not tell apart. -/
structure Sha1.Collision (first second : Bytes) : Prop where
  differ : first ≠ second
  same : hash first = hash second

namespace Register

/-! ## Composites -/

theorem length_flatMap_values (values : List Digest) :
    (values.flatMap Block.bytes).length = values.length * 20 :=
  Bytes.length_flatMap_of_sized _ _ Block.length_bytes values

theorem encode_eq_ok_iff (selection : RegisterSelection) (bytes : Bytes) :
    selection.encode = .ok bytes ↔ selection.bitmap.length ≤ 4 ∧ bytes = selection.written := by
  rw [selection.sends.ok_iff]
  refine and_congr_left fun _ => ?_
  rw [RegisterSelection.parts, List.forall_mem_singleton]
  exact Nat.not_lt

/-- A selection and the values of its registers have a composite unless the selection is too wide or
their count is not that of its registers. -/
theorem compositeBytes_eq_ok_iff (selection : RegisterSelection) (values : List Digest)
    (bytes : Bytes) :
    compositeBytes selection values = .ok bytes ↔
      (selection.bitmap.length ≤ 4 ∧ values.length = selection.size) ∧
        bytes = selection.written ++ Bytes.withLength (values.flatMap Block.bytes) := by
  unfold compositeBytes
  rw [selection.length_indices]
  by_cases counted : selection.size = values.length
  · have few : selection.bitmap.length ≤ 4 →
        (values.flatMap Block.bytes).length < Bytes.capacity 4 := by
      intro narrow
      have bound : selection.size ≤ selection.bitmap.length * 8 := by
        have counts := List.countP_le_length (p := selection.marks)
          (l := List.range (selection.bitmap.length * 8))
        rwa [List.length_range] at counts
      have room : Bytes.capacity 4 = 4294967296 := rfl
      rw [length_flatMap_values, ← counted]
      omega
    rw [if_neg (not_not.mpr counted), and_iff_left counted.symm, outcome_bind_eq_ok_iff]
    constructor
    · rintro ⟨bitmap, encoded, others⟩
      obtain ⟨contents, fits, whole⟩ := (outcome_bind_eq_ok_iff _ _ _).mp others
      obtain ⟨narrow, rfl⟩ := (encode_eq_ok_iff _ _).mp encoded
      obtain ⟨_, rfl⟩ := (Bytes.sized_eq_ok_iff _ _).mp fits
      cases whole
      exact ⟨narrow, rfl⟩
    · rintro ⟨narrow, rfl⟩
      refine ⟨_, (encode_eq_ok_iff _ _).mpr ⟨narrow, rfl⟩, (outcome_bind_eq_ok_iff _ _ _).mpr ?_⟩
      exact ⟨_, (Bytes.sized_eq_ok_iff _ _).mpr ⟨few narrow, rfl⟩, rfl⟩
  · rw [if_pos counted]
    constructor
    · intro failed
      cases failed
    · rintro ⟨⟨_, same⟩, _⟩
      exact absurd same.symm counted

theorem only_compositeBytes (selection : RegisterSelection) (values : List Digest) :
    Fault.Only Fault.IsEncoding (compositeBytes selection values) := by
  unfold compositeBytes
  split
  · exact .error _ ⟨_, rfl⟩
  · exact .bind _ _ selection.sends.only fun _ =>
      .bind _ _ (Bytes.only_sized _) fun _ => .ok _

theorem compositeBytes_injective (selection other : RegisterSelection)
    (values others : List Digest) (bytes : Bytes)
    (hashed : compositeBytes selection values = .ok bytes)
    (also : compositeBytes other others = .ok bytes) : selection = other ∧ values = others := by
  obtain ⟨⟨narrow, counted⟩, split⟩ := (compositeBytes_eq_ok_iff _ _ _).mp hashed
  obtain ⟨⟨narrowAlso, countedAlso⟩, splitAlso⟩ := (compositeBytes_eq_ok_iff _ _ _).mp also
  rw [split, RegisterSelection.written, RegisterSelection.written, List.append_assoc,
    List.append_assoc] at splitAlso
  -- The width of the bitmap is written first, and says where the bitmap ends.
  obtain ⟨widths, behind⟩ := List.append_inj splitAlso (by simp)
  have room : Bytes.capacity 2 = 65536 := rfl
  have width : selection.bitmap.length = other.bitmap.length := by
    rw [← Bytes.ofBigEndian_bigEndian 2 selection.bitmap.length (by omega), widths,
      Bytes.ofBigEndian_bigEndian 2 other.bitmap.length (by omega)]
  obtain ⟨bitmaps, contents⟩ := List.append_inj behind width
  obtain ⟨bitmap⟩ := selection
  obtain rfl : bitmap = other.bitmap := bitmaps
  -- The bitmap says how many values there are.
  have count : values.length = others.length := counted.trans countedAlso.symm
  obtain ⟨_, sameValues⟩ := List.append_inj contents (by simp)
  exact ⟨rfl, Bytes.flatMap_injective Block.bytes 20 Block.length_bytes (fun _ _ => Block.ext) _ _
    count sameValues⟩

theorem compositeHash_eq_ok_iff (selection : RegisterSelection) (values : List Digest)
    (digest : Digest) :
    compositeHash selection values = .ok digest ↔
      ∃ bytes, compositeBytes selection values = .ok bytes ∧ Sha1.hash bytes = digest := by
  unfold compositeHash
  cases compositeBytes selection values with
  | error fault => simp [Except.map]
  | ok bytes => simp [Except.map]

/-- A composite can be had exactly for a bitmap of at most four bytes and one value for every bit
that is set in it, and anything else is refused as what cannot be written.  Different composites
have different strings to be hashed, so that one hash for both is a collision. -/
theorem composite_binds (selection : RegisterSelection) (values : List Digest) :
    ((∃ digest, compositeHash selection values = .ok digest) ↔
        selection.bitmap.length ≤ 4 ∧ values.length = selection.size) ∧
      (∀ fault, compositeHash selection values = .error fault →
        ∃ cause, fault = .encoding cause) ∧
      ∀ digest, compositeHash selection values = .ok digest →
        ∃ bytes, compositeBytes selection values = .ok bytes ∧ digest = Sha1.hash bytes ∧
          ∀ (other : RegisterSelection) (others : List Digest) (otherDigest : Digest),
            compositeHash other others = .ok otherDigest →
            selection ≠ other ∨ values ≠ others →
            ∃ otherBytes, compositeBytes other others = .ok otherBytes ∧
              otherDigest = Sha1.hash otherBytes ∧ bytes ≠ otherBytes ∧
              (digest = otherDigest → Sha1.Collision bytes otherBytes) := by
  refine ⟨?_, ?_, ?_⟩
  · constructor
    · rintro ⟨digest, found⟩
      obtain ⟨bytes, hashed, _⟩ := (compositeHash_eq_ok_iff _ _ _).mp found
      exact ((compositeBytes_eq_ok_iff _ _ _).mp hashed).1
    · intro fits
      exact ⟨_, (compositeHash_eq_ok_iff _ _ _).mpr
        ⟨_, (compositeBytes_eq_ok_iff _ _ _).mpr ⟨fits, rfl⟩, rfl⟩⟩
  · exact Fault.Only.map _ Sha1.hash (only_compositeBytes selection values)
  · intro digest found
    obtain ⟨bytes, hashed, rfl⟩ := (compositeHash_eq_ok_iff _ _ _).mp found
    refine ⟨bytes, hashed, rfl, fun other others otherDigest foundAlso differ => ?_⟩
    obtain ⟨otherBytes, also, rfl⟩ := (compositeHash_eq_ok_iff _ _ _).mp foundAlso
    have apart : bytes ≠ otherBytes := by
      rintro rfl
      obtain ⟨sameSelection, sameValues⟩ :=
        compositeBytes_injective selection other values others bytes hashed also
      rcases differ with differ | differ
      · exact differ sameSelection
      · exact differ sameValues
    exact ⟨otherBytes, also, rfl, apart, fun same => ⟨apart, same⟩⟩

namespace Composites

def values : List Digest := [.replicate 20 1, .replicate 20 2]

/-- A zero byte behind a bitmap selects nothing more, and makes another composite; a fifth byte is
one too many. -/
theorem composite_binds_trailing_zero :
    (∃ bytes others, compositeBytes ⟨[3, 0, 0]⟩ values = .ok bytes ∧
        compositeHash ⟨[3, 0, 0]⟩ values = .ok (Sha1.hash bytes) ∧
        compositeBytes ⟨[3, 0, 0, 0]⟩ values = .ok others ∧
        compositeHash ⟨[3, 0, 0, 0]⟩ values = .ok (Sha1.hash others) ∧
        (⟨[3, 0, 0]⟩ : RegisterSelection) ≠ ⟨[3, 0, 0, 0]⟩ ∧ bytes ≠ others) ∧
      ¬ ∃ digest, compositeHash ⟨[3, 0, 0, 0, 0]⟩ values = .ok digest := by
  obtain ⟨possible, _, binds⟩ := composite_binds ⟨[3, 0, 0]⟩ values
  obtain ⟨possibleAlso, _, _⟩ := composite_binds ⟨[3, 0, 0, 0]⟩ values
  obtain ⟨digest, found⟩ := possible.mpr (by decide)
  obtain ⟨otherDigest, foundAlso⟩ := possibleAlso.mpr (by decide)
  obtain ⟨bytes, hashed, rfl, apart⟩ := binds digest found
  have differ : (⟨[3, 0, 0]⟩ : RegisterSelection) ≠ ⟨[3, 0, 0, 0]⟩ := by decide
  obtain ⟨others, hashedAlso, rfl, unlike, _⟩ := apart _ _ otherDigest foundAlso (Or.inl differ)
  refine ⟨⟨bytes, others, hashed, found, hashedAlso, foundAlso, differ, unlike⟩, fun wider => ?_⟩
  exact absurd ((composite_binds ⟨[3, 0, 0, 0, 0]⟩ values).1.mp wider).1 (by decide)

end Composites

/-! ## Replays -/

def extensions (current : Digest) : List Digest → List Bytes
  | [] => []
  | value :: values => (current.bytes ++ value.bytes) :: extensions (extend current value) values

theorem length_of_extensions (current : Digest) (values : List Digest) :
    ∀ bytes ∈ extensions current values, bytes.length = 40 := by
  induction values generalizing current with
  | nil => exact List.forall_mem_nil _
  | cons value values inductionHypothesis =>
    refine List.forall_mem_cons.mpr ⟨?_, inductionHypothesis _⟩
    rw [List.length_append, Block.length_bytes, Block.length_bytes]

/-- Two extensions end in different values unless they begin with the same, or collide. -/
theorem extend_binds (current other value otherValue : Digest)
    (same : extend current value = extend other otherValue) :
    (current = other ∧ value = otherValue) ∨
      Sha1.Collision (current.bytes ++ value.bytes) (other.bytes ++ otherValue.bytes) := by
  by_cases alike : current.bytes ++ value.bytes = other.bytes ++ otherValue.bytes
  · obtain ⟨currents, values⟩ := List.append_inj alike (by simp)
    exact Or.inl ⟨Block.ext currents, Block.ext values⟩
  · exact Or.inr ⟨alike, same⟩

theorem replay_binds (first second : Digest) (values others : List Digest)
    (count : values.length = others.length) (same : replay first values = replay second others) :
    (first = second ∧ values = others) ∨
      ∃ bytes ∈ extensions first values, ∃ otherBytes ∈ extensions second others,
        Sha1.Collision bytes otherBytes := by
  induction values generalizing first second others with
  | nil =>
    obtain rfl := List.length_eq_zero_iff.mp count.symm
    exact Or.inl ⟨same, rfl⟩
  | cons value values inductionHypothesis =>
    cases others with
    | nil => cases count
    | cons other others =>
      have fewer : values.length = others.length := Nat.succ.inj count
      -- The ends agree, so the rest agrees with what the first extensions made, or collides.
      rcases inductionHypothesis (extend first value) (extend second other) others fewer same with
        ⟨begun, rfl⟩ | ⟨bytes, among, otherBytes, amongOthers, collision⟩
      · rcases extend_binds first second value other begun with ⟨rfl, rfl⟩ | collision
        · exact Or.inl ⟨rfl, rfl⟩
        · exact Or.inr ⟨_, List.mem_cons_self, _, List.mem_cons_self, collision⟩
      · exact Or.inr ⟨bytes, List.mem_cons_of_mem _ among, otherBytes,
          List.mem_cons_of_mem _ amongOthers, collision⟩

end Register

end TrustedPlatform

import TrustedPlatform.Proofs.Frame.RequestGrammar
import TrustedPlatform.Proofs.Structure.Written

/-!
# Reading requests

A module reads a request by its command, which says how many handles stand before the parameters,
and by its tag, which says how many trailers stand behind them.  There is no more than one way to
read a frame: `Request.Reads.unique`.
-/

set_option autoImplicit false

namespace TrustedPlatform

namespace Ordinal

def handleCount : Ordinal → Nat
  | .loadKey | .loadKey2 | .getPubKey | .evictKey | .createWrapKey | .sign | .saveKeyContext
  | .saveAuthContext | .saveContext | .flushSpecific | .getAuditDigestSigned => 1
  | _ => 0

end Ordinal

theorem Bytes.word32_injective (first second : UInt32)
    (same : Bytes.word32 first = Bytes.word32 second) : first = second :=
  Decoder.Reads.word32.unique rfl same

theorem Bytes.word16_injective (first second : UInt16)
    (same : Bytes.word16 first = Bytes.word16 second) : first = second :=
  Decoder.Reads.word16.unique rfl same

theorem Ordinal.code_injective (first second : Ordinal) (same : first.code = second.code) :
    first = second := by
  have known := Ordinal.ofCode?_code first
  rw [same, Ordinal.ofCode?_code] at known
  exact (Option.some.inj known).symm

theorem Tag.code_injective (first second : Tag) (same : first.code = second.code) : first = second := by
  have known := Tag.ofCode?_code first
  rw [same, Tag.ofCode?_code] at known
  exact (Option.some.inj known).symm

theorem EntityKind.code_injective (first second : EntityKind) (same : first.code = second.code) :
    first = second := by
  revert same
  cases first <;> cases second <;> decide

theorem Tag.eq_of_ofTrailers? (count : Nat) (tag : Tag) (known : Tag.ofTrailers? count = some tag) :
    count = tag.code.toNat - 0xc1 := by
  unfold Tag.ofTrailers? at known
  split at known
  · cases known
    rfl
  · cases known
    rfl
  · cases known
    rfl
  · cases known

theorem RequestTrailer.encode_injective (first second : RequestTrailer)
    (same : first.encode = second.encode) : first = second :=
  RequestTrailer.reads.unique rfl same

theorem Bytes.flatMap_injective {α : Type} (encode : α → Bytes) (size : Nat)
    (sized : ∀ value, (encode value).length = size)
    (injective : ∀ first second, encode first = encode second → first = second)
    (firsts seconds : List α) (count : firsts.length = seconds.length)
    (same : firsts.flatMap encode = seconds.flatMap encode) : firsts = seconds := by
  induction firsts generalizing seconds with
  | nil => exact (List.length_eq_zero_iff.mp count.symm).symm
  | cons first firsts inductionHypothesis =>
    cases seconds with
    | nil => cases count
    | cons second seconds =>
      rw [List.flatMap_cons, List.flatMap_cons] at same
      obtain ⟨head, tail⟩ := List.append_inj same (by rw [sized, sized])
      rw [injective first second head,
        inductionHypothesis seconds (Nat.succ.inj count) tail]

namespace Request

/-- Some bytes are the frame of a request. -/
structure Reads (bytes : Bytes) (request : Request) : Prop where
  framed : ∃ tag, Tag.ofTrailers? request.trailers.length = some tag ∧ bytes = request.frame tag
  handles : request.handles.length = request.ordinal.handleCount

theorem Reads.unique {bytes : Bytes} {first second : Request} (reads : Reads bytes first)
    (also : Reads bytes second) : first = second := by
  obtain ⟨⟨tag, trailers, rfl⟩, handles⟩ := reads
  obtain ⟨⟨other, otherTrailers, same⟩, otherHandles⟩ := also
  unfold frame at same
  simp only [List.append_assoc] at same
  -- The head is read from the front; it gives the count of handles, and of trailers at the end.
  obtain ⟨tags, afterTag⟩ := List.append_inj same (by simp)
  obtain ⟨_, afterLength⟩ := List.append_inj afterTag (by simp)
  obtain ⟨ordinals, body⟩ := List.append_inj afterLength (by simp)
  have ordinal := Ordinal.code_injective _ _ (Bytes.word32_injective _ _ ordinals)
  obtain rfl := Tag.code_injective _ _ (Bytes.word16_injective _ _ tags)
  have trailerCount := (Tag.eq_of_ofTrailers? _ tag trailers).trans
    (Tag.eq_of_ofTrailers? _ tag otherTrailers).symm
  have handleCount : first.handles.length = second.handles.length := by
    rw [handles, otherHandles, ordinal]
  obtain ⟨handleBytes, rest⟩ := List.append_inj body (by
    rw [Bytes.length_flatMap_word32, Bytes.length_flatMap_word32, handleCount])
  obtain ⟨parameters, trailerBytes⟩ := List.append_inj' rest (by
    rw [length_flatMap_encode, length_flatMap_encode, trailerCount])
  have sameHandles := Bytes.flatMap_injective Bytes.word32 4 Bytes.length_word32
    Bytes.word32_injective _ _ handleCount handleBytes
  have sameTrailers := Bytes.flatMap_injective RequestTrailer.encode RequestTrailer.size
    RequestTrailer.length_encode RequestTrailer.encode_injective _ _ trailerCount trailerBytes
  obtain ⟨_, _, _, _⟩ := first
  obtain ⟨_, _, _, _⟩ := second
  cases ordinal
  cases sameHandles
  cases parameters
  cases sameTrailers
  rfl

end Request

end TrustedPlatform

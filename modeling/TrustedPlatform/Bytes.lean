/-!
# Bytes

Byte strings are lists, so that every question about a layout is a question about lists.  Numbers
travel with their most significant byte first; fields of a fixed width are `Block`s.

* `ofBigEndian_bigEndian`: a number that fits its width reads back.
* `bigEndian_ofBigEndian`: every byte string is the writing of the number it denotes.
-/

set_option autoImplicit false

namespace TrustedPlatform

abbrev Bytes := List UInt8

namespace Bytes

/-- A number in a given count of bytes, most significant first; what does not fit is dropped. -/
def bigEndian : Nat → Nat → Bytes
  | 0, _ => []
  | width + 1, number => bigEndian width (number / 256) ++ [UInt8.ofNat (number % 256)]

def ofBigEndian (bytes : Bytes) : Nat :=
  bytes.foldl (fun number byte => number * 256 + byte.toNat) 0

def capacity : Nat → Nat
  | 0 => 1
  | width + 1 => capacity width * 256

@[simp] theorem length_bigEndian (width number : Nat) :
    (bigEndian width number).length = width := by
  induction width generalizing number with
  | zero => rfl
  | succ width inductionHypothesis => simp [bigEndian, inductionHypothesis]

theorem ofBigEndian_append_singleton (bytes : Bytes) (last : UInt8) :
    ofBigEndian (bytes ++ [last]) = ofBigEndian bytes * 256 + last.toNat := by
  simp [ofBigEndian]

theorem ofBigEndian_bigEndian (width number : Nat) (fits : number < capacity width) :
    ofBigEndian (bigEndian width number) = number := by
  induction width generalizing number with
  | zero =>
    have isZero : number = 0 := by simpa [capacity] using fits
    subst isZero
    rfl
  | succ width inductionHypothesis =>
    have shorter : number / 256 < capacity width := by
      rw [capacity] at fits
      omega
    rw [bigEndian, ofBigEndian_append_singleton, inductionHypothesis _ shorter]
    have lastByte : (UInt8.ofNat (number % 256)).toNat = number % 256 := by
      simp [UInt8.toNat_ofNat']
    rw [lastByte]
    omega

/-- What holds of the empty string and survives one more byte at the end holds of every string. -/
theorem induction_from_end {motive : Bytes → Prop} (empty : motive [])
    (extended : ∀ bytes last, motive bytes → motive (bytes ++ [last])) (bytes : Bytes) :
    motive bytes := by
  have reversed : ∀ backwards : Bytes, motive backwards.reverse := by
    intro backwards
    induction backwards with
    | nil => exact empty
    | cons last backwards inductionHypothesis =>
      rw [List.reverse_cons]
      exact extended _ _ inductionHypothesis
  simpa using reversed bytes.reverse

theorem bigEndian_ofBigEndian (bytes : Bytes) :
    bigEndian bytes.length (ofBigEndian bytes) = bytes := by
  refine induction_from_end (motive := fun bytes =>
    bigEndian bytes.length (ofBigEndian bytes) = bytes) rfl ?_ bytes
  intro bytes last inductionHypothesis
  have bound : last.toNat < 256 := last.toNat_lt
  have quotient : (ofBigEndian bytes * 256 + last.toNat) / 256 = ofBigEndian bytes := by omega
  have remainder : (ofBigEndian bytes * 256 + last.toNat) % 256 = last.toNat := by omega
  rw [ofBigEndian_append_singleton, List.length_append, List.length_singleton, bigEndian,
    quotient, remainder, inductionHypothesis]
  simp

theorem ofBigEndian_lt (bytes : Bytes) : ofBigEndian bytes < capacity bytes.length := by
  refine induction_from_end (motive := fun bytes =>
    ofBigEndian bytes < capacity bytes.length) (by decide) ?_ bytes
  intro bytes last inductionHypothesis
  have bound : last.toNat < 256 := last.toNat_lt
  rw [ofBigEndian_append_singleton, List.length_append, List.length_singleton, capacity]
  omega

def pieces {α : Type} (size : Nat) : Nat → List α → List (List α)
  | 0, _ => []
  | count + 1, all => all.take size :: pieces size count (all.drop size)

def ofText (text : String) : Bytes := text.toList.flatMap String.utf8EncodeChar

end Bytes

structure Block (width : Nat) where
  bytes : Bytes
  length_bytes : bytes.length = width
  deriving DecidableEq

namespace Bytes

def word16 (number : UInt16) : Bytes := bigEndian 2 number.toNat

def word32 (number : UInt32) : Bytes := bigEndian 4 number.toNat

@[simp] theorem length_word16 (number : UInt16) : (word16 number).length = 2 :=
  length_bigEndian 2 number.toNat

@[simp] theorem length_word32 (number : UInt32) : (word32 number).length = 4 :=
  length_bigEndian 4 number.toNat

end Bytes

namespace Block

variable {width : Nat}

attribute [simp] Block.length_bytes

@[ext] theorem ext {first second : Block width} (same : first.bytes = second.bytes) :
    first = second := by
  cases first
  cases second
  cases same
  rfl

def ofBytes? (width : Nat) (bytes : Bytes) : Option (Block width) :=
  if exact : bytes.length = width then some ⟨bytes, exact⟩ else none

def get (block : Block width) (place : Fin width) : UInt8 :=
  block.bytes.get (place.cast block.length_bytes.symm)

def replicate (width : Nat) (byte : UInt8) : Block width :=
  ⟨List.replicate width byte, List.length_replicate⟩

def padded (width : Nat) (bytes : Bytes) : Block width where
  bytes := bytes.take width ++ List.replicate (width - bytes.length) 0
  length_bytes := by
    simp only [List.length_append, List.length_take, List.length_replicate]
    omega

def xor (first second : Block width) : Block width where
  bytes := List.zipWith (· ^^^ ·) first.bytes second.bytes
  length_bytes := by simp

instance : Inhabited (Block width) := ⟨replicate width 0⟩

theorem ofBytes?_eq_some_iff (bytes : Bytes) (block : Block width) :
    ofBytes? width bytes = some block ↔ bytes = block.bytes := by
  unfold ofBytes?
  by_cases exact : bytes.length = width
  · rw [dif_pos exact]
    constructor
    · intro found
      cases Option.some.inj found
      rfl
    · intro same
      subst same
      rfl
  · rw [dif_neg exact]
    constructor
    · intro found
      cases found
    · intro same
      exact absurd (same ▸ block.length_bytes) exact

theorem xor_xor_cancel (first mask : Block width) : (first.xor mask).xor mask = first := by
  apply ext
  have pointwise : ∀ (left right : Bytes), left.length = right.length →
      List.zipWith (· ^^^ ·) (List.zipWith (· ^^^ ·) left right) right = left := by
    intro left
    induction left with
    | nil => intro right _; simp
    | cons byte left inductionHypothesis =>
      intro right sameLength
      cases right with
      | nil => simp at sameLength
      | cons other right =>
        simp only [List.zipWith_cons_cons, List.cons.injEq]
        refine ⟨?_, inductionHypothesis right (by simpa using sameLength)⟩
        rw [UInt8.xor_assoc, UInt8.xor_self, UInt8.xor_zero]
  exact pointwise first.bytes mask.bytes (by simp)

end Block

/-- A hash value, nonce or authorization value: twenty bytes. -/
abbrev Digest := Block 20

end TrustedPlatform

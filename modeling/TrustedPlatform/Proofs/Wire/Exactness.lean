import TrustedPlatform.Wire.Reader
import TrustedPlatform.Wire.Writer

/-!
# Reading is exact

A decoder succeeds with a value exactly when the bytes at hand begin with the writing of that
value, and then it moves past that writing and no further.  There is one equivalence for each
primitive read; a decoder put together from them is opened by `Action.bind_eq_ok_iff`.
-/

set_option autoImplicit false

namespace TrustedPlatform

namespace Bytes

theorem ofNat_ofBigEndian_eq_iff_word16 (bytes : Bytes) (number : UInt16)
    (exact : bytes.length = 2) :
    UInt16.ofNat (ofBigEndian bytes) = number ↔ bytes = word16 number := by
  have small : ofBigEndian bytes < 2 ^ 16 := by
    have bound := ofBigEndian_lt bytes
    rw [exact] at bound
    simpa [capacity] using bound
  have written : bigEndian 2 (ofBigEndian bytes) = bytes := by
    have again := bigEndian_ofBigEndian bytes
    rwa [exact] at again
  constructor
  · intro same
    have value : number.toNat = ofBigEndian bytes := by
      rw [← same, UInt16.toNat_ofNat', Nat.mod_eq_of_lt small]
    rw [word16, value, written]
  · intro same
    have value : ofBigEndian bytes = number.toNat := by
      rw [same, word16]
      exact ofBigEndian_bigEndian 2 number.toNat (by simpa [capacity] using number.toNat_lt)
    rw [value]
    exact UInt16.ofNat_toNat

theorem ofNat_ofBigEndian_eq_iff_word32 (bytes : Bytes) (number : UInt32)
    (exact : bytes.length = 4) :
    UInt32.ofNat (ofBigEndian bytes) = number ↔ bytes = word32 number := by
  have small : ofBigEndian bytes < 2 ^ 32 := by
    have bound := ofBigEndian_lt bytes
    rw [exact] at bound
    simpa [capacity] using bound
  have written : bigEndian 4 (ofBigEndian bytes) = bytes := by
    have again := bigEndian_ofBigEndian bytes
    rwa [exact] at again
  constructor
  · intro same
    have value : number.toNat = ofBigEndian bytes := by
      rw [← same, UInt32.toNat_ofNat', Nat.mod_eq_of_lt small]
    rw [word32, value, written]
  · intro same
    have value : ofBigEndian bytes = number.toNat := by
      rw [same, word32]
      exact ofBigEndian_bigEndian 4 number.toNat (by simpa [capacity] using number.toNat_lt)
    rw [value]
    exact UInt32.ofNat_toNat

theorem ofNat_ofBigEndian_word16 (number : UInt16) :
    UInt16.ofNat (ofBigEndian (word16 number)) = number :=
  (ofNat_ofBigEndian_eq_iff_word16 _ _ (length_word16 number)).mpr rfl

theorem ofNat_ofBigEndian_word32 (number : UInt32) :
    UInt32.ofNat (ofBigEndian (word32 number)) = number :=
  (ofNat_ofBigEndian_eq_iff_word32 _ _ (length_word32 number)).mpr rfl

theorem flatten_pieces {α : Type} (size count : Nat) (all : List α) :
    (pieces size count all).flatten = all.take (size * count) := by
  induction count generalizing all with
  | zero => rfl
  | succ count inductionHypothesis =>
    rw [pieces, List.flatten_cons, inductionHypothesis, Nat.mul_succ, Nat.add_comm,
      List.take_add]

theorem pieces_flatMap {α : Type} (encode : α → Bytes) (size : Nat)
    (sized : ∀ value, (encode value).length = size) (values : List α) (later : Bytes) :
    pieces size values.length (values.flatMap encode ++ later) = values.map encode := by
  induction values with
  | nil => rfl
  | cons value values inductionHypothesis =>
    rw [List.length_cons, pieces, List.flatMap_cons, List.append_assoc,
      List.take_left' (sized value), List.drop_left' (sized value), inductionHypothesis,
      List.map_cons]

@[simp] theorem length_flag (value : Bool) : (flag value).length = 1 := rfl

theorem length_flatMap_of_sized {α : Type} (encode : α → Bytes) (size : Nat)
    (sized : ∀ value, (encode value).length = size) (values : List α) :
    (values.flatMap encode).length = values.length * size := by
  induction values with
  | nil => exact (Nat.zero_mul size).symm
  | cons value values inductionHypothesis =>
    rw [List.flatMap_cons, List.length_append, inductionHypothesis, sized, List.length_cons,
      Nat.succ_mul, Nat.add_comm]

theorem length_flatMap_word32 (numbers : List UInt32) :
    (numbers.flatMap word32).length = 4 * numbers.length := by
  rw [length_flatMap_of_sized word32 4 length_word32, Nat.mul_comm]

theorem eq_flatMap_word32_of_length (count : Nat) (bytes : Bytes)
    (exact : bytes.length = 4 * count) :
    ∃ numbers : List UInt32, numbers.length = count ∧ bytes = numbers.flatMap word32 := by
  induction count generalizing bytes with
  | zero => exact ⟨[], rfl, List.length_eq_zero_iff.mp exact⟩
  | succ count inductionHypothesis =>
    have headLength : (bytes.take 4).length = 4 := by
      rw [List.length_take]
      omega
    have tailLength : (bytes.drop 4).length = 4 * count := by
      rw [List.length_drop]
      omega
    obtain ⟨numbers, length, tail⟩ := inductionHypothesis (bytes.drop 4) tailLength
    have head : bytes.take 4 = word32 (UInt32.ofNat (ofBigEndian (bytes.take 4))) :=
      (ofNat_ofBigEndian_eq_iff_word32 _ _ headLength).mp rfl
    refine ⟨UInt32.ofNat (ofBigEndian (bytes.take 4)) :: numbers, by rw [List.length_cons, length],
      ?_⟩
    rw [List.flatMap_cons, ← head, ← tail, List.take_append_drop]

end Bytes

namespace Decoder

variable {α : Type}

theorem run_take_eq_ok_iff (item : String) (count : Nat) (reader after : Reader) (bytes : Bytes) :
    (take item count).run reader = (.ok bytes, after) ↔
      bytes.length = count ∧ reader.rest = bytes ++ after.rest ∧
        after.position = reader.position + count := by
  rw [run_take]
  by_cases short : reader.rest.length < count
  · rw [if_pos short]
    constructor
    · intro failed
      cases failed
    · rintro ⟨exact, split, _⟩
      rw [split, List.length_append, exact] at short
      omega
  · rw [if_neg short]
    constructor
    · intro done
      cases done
      refine ⟨?_, (List.take_append_drop count reader.rest).symm, rfl⟩
      rw [List.length_take]
      omega
    · rintro ⟨exact, split, moved⟩
      obtain ⟨position, rest⟩ := after
      have taken : reader.rest.take count = bytes := by
        rw [split, ← exact, List.take_left]
      have dropped : reader.rest.drop count = rest := by
        rw [split, ← exact, List.drop_left]
      rw [taken, dropped]
      cases moved
      rfl

theorem run_block_eq_ok_iff (width : Nat) (reader after : Reader) (field : Block width) :
    (block width).run reader = (.ok field, after) ↔
      reader.rest = field.bytes ++ after.rest ∧ after.position = reader.position + width := by
  by_cases enough : (reader.rest.take width).length = width
  · simp only [block, dif_pos enough, Prod.mk.injEq, Except.ok.injEq]
    constructor
    · rintro ⟨rfl, rfl⟩
      exact ⟨(List.take_append_drop width reader.rest).symm, rfl⟩
    · rintro ⟨split, moved⟩
      obtain ⟨position, rest⟩ := after
      have taken : reader.rest.take width = field.bytes := by
        rw [split]
        exact List.take_left' field.length_bytes
      have dropped : reader.rest.drop width = rest := by
        rw [split]
        exact List.drop_left' field.length_bytes
      refine ⟨Block.ext taken, ?_⟩
      rw [dropped]
      cases moved
      rfl
  · simp only [block, dif_neg enough, Prod.mk.injEq, reduceCtorEq, false_and, false_iff, not_and]
    intro split
    exfalso
    apply enough
    rw [List.length_take, split, List.length_append, field.length_bytes]
    omega

theorem run_word16_eq_ok_iff (reader after : Reader) (number : UInt16) :
    word16.run reader = (.ok number, after) ↔
      reader.rest = Bytes.word16 number ++ after.rest ∧
        after.position = reader.position + 2 := by
  rw [word16, Action.bind_eq_ok_iff]
  constructor
  · rintro ⟨bytes, between, taken, shown⟩
    obtain ⟨exact, split, moved⟩ := (run_take_eq_ok_iff _ _ _ _ _).mp taken
    rw [Action.run_pure] at shown
    cases shown
    rw [(Bytes.ofNat_ofBigEndian_eq_iff_word16 bytes _ exact).mp rfl] at split
    exact ⟨split, moved⟩
  · rintro ⟨split, moved⟩
    have exact : (Bytes.word16 number).length = 2 := Bytes.length_word16 number
    refine ⟨Bytes.word16 number, after, ?_, ?_⟩
    · exact (run_take_eq_ok_iff _ _ _ _ _).mpr ⟨exact, split, moved⟩
    · rw [Action.run_pure, (Bytes.ofNat_ofBigEndian_eq_iff_word16 _ number exact).mpr rfl]

theorem run_word32_eq_ok_iff (reader after : Reader) (number : UInt32) :
    word32.run reader = (.ok number, after) ↔
      reader.rest = Bytes.word32 number ++ after.rest ∧
        after.position = reader.position + 4 := by
  rw [word32, Action.bind_eq_ok_iff]
  constructor
  · rintro ⟨bytes, between, taken, shown⟩
    obtain ⟨exact, split, moved⟩ := (run_take_eq_ok_iff _ _ _ _ _).mp taken
    rw [Action.run_pure] at shown
    cases shown
    rw [(Bytes.ofNat_ofBigEndian_eq_iff_word32 bytes _ exact).mp rfl] at split
    exact ⟨split, moved⟩
  · rintro ⟨split, moved⟩
    have exact : (Bytes.word32 number).length = 4 := Bytes.length_word32 number
    refine ⟨Bytes.word32 number, after, ?_, ?_⟩
    · exact (run_take_eq_ok_iff _ _ _ _ _).mpr ⟨exact, split, moved⟩
    · rw [Action.run_pure, (Bytes.ofNat_ofBigEndian_eq_iff_word32 _ number exact).mpr rfl]

theorem run_times_word32_eq_ok_iff (count : Nat) (reader after : Reader) (numbers : List UInt32) :
    (times count word32).run reader = (.ok numbers, after) ↔
      numbers.length = count ∧ reader.rest = numbers.flatMap Bytes.word32 ++ after.rest ∧
        after.position = reader.position + 4 * count := by
  induction count generalizing reader numbers with
  | zero =>
    show (Except.ok [], reader) = (Except.ok numbers, after) ↔ _
    simp only [Prod.mk.injEq, Except.ok.injEq]
    constructor
    · rintro ⟨rfl, rfl⟩
      exact ⟨rfl, rfl, rfl⟩
    · rintro ⟨none, split, moved⟩
      obtain rfl := List.length_eq_zero_iff.mp none
      obtain ⟨position, rest⟩ := after
      refine ⟨rfl, ?_⟩
      obtain rfl : position = reader.position := moved
      obtain rfl : reader.rest = rest := split
      rfl
  | succ count inductionHypothesis =>
    rw [times, Action.bind_eq_ok_iff]
    constructor
    · rintro ⟨first, second, readFirst, remaining⟩
      obtain ⟨others, third, readOthers, shown⟩ :=
        (Action.bind_eq_ok_iff _ _ _ _ _).mp remaining
      obtain ⟨splitFirst, movedFirst⟩ := (run_word32_eq_ok_iff _ _ _).mp readFirst
      rw [Action.run_pure] at shown
      cases shown
      obtain ⟨length, splitOthers, movedOthers⟩ := (inductionHypothesis _ _).mp readOthers
      refine ⟨by rw [List.length_cons, length], ?_, by omega⟩
      rw [splitFirst, splitOthers, List.flatMap_cons, List.append_assoc]
    · rintro ⟨length, split, moved⟩
      cases numbers with
      | nil => cases length
      | cons first others =>
        rw [List.flatMap_cons, List.append_assoc] at split
        refine ⟨first, ⟨reader.position + 4, _⟩, (run_word32_eq_ok_iff _ _ _).mpr ⟨split, rfl⟩,
          ?_⟩
        refine (Action.bind_eq_ok_iff _ _ _ _ _).mpr ⟨others, after, ?_, Action.run_pure _ _⟩
        refine (inductionHypothesis _ _).mpr ⟨by simpa using length, rfl, ?_⟩
        show after.position = reader.position + 4 + 4 * count
        omega

theorem run_byte_eq_ok_iff (reader after : Reader) (value : UInt8) :
    byte.run reader = (.ok value, after) ↔
      reader.rest = value :: after.rest ∧ after.position = reader.position + 1 := by
  have single : ∀ first : UInt8, UInt8.ofNat (Bytes.ofBigEndian [first]) = first := by
    intro first
    simp [Bytes.ofBigEndian]
  rw [byte, Action.bind_eq_ok_iff]
  constructor
  · rintro ⟨bytes, between, taken, shown⟩
    obtain ⟨exact, split, moved⟩ := (run_take_eq_ok_iff _ _ _ _ _).mp taken
    obtain ⟨first, rfl⟩ := List.length_eq_one_iff.mp exact
    rw [Action.run_pure, single first] at shown
    cases shown
    exact ⟨split, moved⟩
  · rintro ⟨split, moved⟩
    refine ⟨[value], after, (run_take_eq_ok_iff _ _ _ _ _).mpr ⟨rfl, split, moved⟩, ?_⟩
    rw [Action.run_pure, single value]

theorem run_flag_eq_ok_iff (reader after : Reader) (value : Bool) :
    flag.run reader = (.ok value, after) ↔
      reader.rest = Bytes.flag value ++ after.rest ∧
        after.position = reader.position + 1 := by
  rw [flag, Action.bind_eq_ok_iff]
  constructor
  · rintro ⟨read, between, taken, shown⟩
    obtain ⟨split, moved⟩ := (run_byte_eq_ok_iff _ _ _).mp taken
    by_cases zero : read = 0
    · subst zero
      rw [if_pos rfl, Action.run_pure] at shown
      cases shown
      exact ⟨split, moved⟩
    · rw [if_neg zero] at shown
      by_cases one : read = 1
      · subst one
        rw [if_pos rfl, Action.run_pure] at shown
        cases shown
        exact ⟨split, moved⟩
      · rw [if_neg one, Action.run_throw] at shown
        cases shown
  · rintro ⟨split, moved⟩
    cases value with
    | false => exact ⟨0, after, (run_byte_eq_ok_iff _ _ _).mpr ⟨split, moved⟩, rfl⟩
    | true => exact ⟨1, after, (run_byte_eq_ok_iff _ _ _).mpr ⟨split, moved⟩, rfl⟩

theorem run_rest_eq_ok_iff (reader after : Reader) (bytes : Bytes) :
    rest.run reader = (.ok bytes, after) ↔
      bytes = reader.rest ∧ after = ⟨reader.position + reader.rest.length, []⟩ := by
  simp only [rest, Prod.mk.injEq, Except.ok.injEq]
  constructor
  · rintro ⟨rfl, rfl⟩
    exact ⟨rfl, rfl⟩
  · rintro ⟨rfl, rfl⟩
    exact ⟨rfl, rfl⟩

theorem run_finish_eq_ok_iff (reader after : Reader) :
    finish.run reader = (.ok (), after) ↔ reader.rest = [] ∧ after = reader := by
  obtain ⟨position, bytes⟩ := reader
  cases bytes with
  | nil =>
    show (Except.ok (), Reader.mk position []) = (Except.ok (), after) ↔ _
    simp only [Prod.mk.injEq, true_and]
    exact eq_comm
  | cons head tail =>
    show (Except.error _, Reader.mk position (head :: tail)) = (Except.ok (), after) ↔ _
    simp only [Prod.mk.injEq, reduceCtorEq, false_and]

/-- A whole byte string has a value exactly when the decoder reads that value and leaves
nothing. -/
theorem complete_eq_ok_iff (decoder : Decoder α) (bytes : Bytes) (value : α) :
    decoder.complete bytes = .ok value ↔
      ∃ after, decoder.run (Reader.ofBytes bytes) = (.ok value, after) ∧ after.rest = [] := by
  have opened : decoder.complete bytes = .ok value ↔
      ∃ after, (do
        let value ← decoder
        finish
        return value : Decoder α).run (Reader.ofBytes bytes) = (.ok value, after) := by
    unfold complete
    constructor
    · intro success
      exact ⟨_, Prod.ext success rfl⟩
    · rintro ⟨after, success⟩
      rw [success]
  rw [opened]
  constructor
  · rintro ⟨after, success⟩
    obtain ⟨read, between, decoded, remaining⟩ := (Action.bind_eq_ok_iff _ _ _ _ _).mp success
    obtain ⟨_, last, finished, shown⟩ := (Action.bind_eq_ok_iff _ _ _ _ _).mp remaining
    obtain ⟨empty, same⟩ := (run_finish_eq_ok_iff _ _).mp finished
    rw [Action.run_pure] at shown
    cases shown
    exact ⟨between, decoded, empty⟩
  · rintro ⟨after, decoded, empty⟩
    refine ⟨after, (Action.bind_eq_ok_iff _ _ _ _ _).mpr ⟨value, after, decoded, ?_⟩⟩
    exact (Action.bind_eq_ok_iff _ _ _ _ _).mpr
      ⟨(), after, (run_finish_eq_ok_iff _ _).mpr ⟨empty, rfl⟩, Action.run_pure _ _⟩

end Decoder

end TrustedPlatform

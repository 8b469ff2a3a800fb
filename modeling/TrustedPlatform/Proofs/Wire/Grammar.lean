import Mathlib.Tactic.Simproc.ExistsAndEq
import TrustedPlatform.Proofs.Wire.Exactness

/-!
# Grammars

A grammar says which byte strings write a value.  `Decoder.Reads` ties a decoder to one: it finds a
value exactly where the bytes at hand begin with a writing of that value, and moves past that
writing.  There is one rule for each primitive read and one for each way to put reads together, so
that a decoder is followed field by field.

* `Reads.complete_iff`: a whole byte string has a value exactly when it writes that value.
-/

set_option autoImplicit false

namespace TrustedPlatform

namespace Bytes

def withLength (blob : Bytes) : Bytes := bigEndian 4 blob.length ++ blob

theorem withLength_eq_word32 (blob : Bytes) (fits : blob.length < capacity 4) :
    blob.withLength = word32 (.ofNat blob.length) ++ blob := by
  have number : (UInt32.ofNat blob.length).toNat = blob.length :=
    UInt32.toNat_ofNat_of_lt' (by simpa [capacity, UInt32.size] using fits)
  rw [withLength, word32, number]

theorem bigEndian_two_eq_word16 (number : Nat) (fits : number < capacity 2) :
    bigEndian 2 number = word16 (.ofNat number) := by
  have same : (UInt16.ofNat number).toNat = number :=
    UInt16.toNat_ofNat_of_lt' (by simpa [capacity, UInt16.size] using fits)
  rw [word16, same]

theorem toNat_lt_capacity_four (number : UInt32) : number.toNat < capacity 4 := by
  simpa [capacity] using number.toNat_lt

theorem toNat_lt_capacity_two (number : UInt16) : number.toNat < capacity 2 := by
  simpa [capacity] using number.toNat_lt

end Bytes

namespace Decoder

variable {α β : Type}

/-- A value is read exactly where a writing of it stands, and that writing is moved past. -/
def Reads (decoder : Decoder α) (writes : α → Bytes → Prop) : Prop :=
  ∀ reader after value, decoder.run reader = (.ok value, after) ↔
    ∃ bytes, writes value bytes ∧ reader.rest = bytes ++ after.rest ∧
      after.position = reader.position + bytes.length

namespace Reads

theorem complete_iff {decoder : Decoder α} {writes : α → Bytes → Prop}
    (reads : decoder.Reads writes) (bytes : Bytes) (value : α) :
    decoder.complete bytes = .ok value ↔ writes value bytes := by
  rw [complete_eq_ok_iff]
  constructor
  · rintro ⟨after, decoded, empty⟩
    obtain ⟨writing, written, split, _⟩ := (reads _ _ _).mp decoded
    rw [empty, List.append_nil] at split
    have whole : bytes = writing := split
    rw [whole]
    exact written
  · intro written
    refine ⟨⟨bytes.length, []⟩, (reads _ _ _).mpr ⟨bytes, written, ?_, ?_⟩, rfl⟩
    · simp [Reader.ofBytes]
    · simp [Reader.ofBytes]

theorem unique {decoder : Decoder α} {writes : α → Bytes → Prop} (reads : decoder.Reads writes)
    {bytes : Bytes} {first second : α} (written : writes first bytes)
    (also : writes second bytes) : first = second := by
  have read := (reads.complete_iff bytes first).mpr written
  rw [(reads.complete_iff bytes second).mpr also] at read
  exact (Except.ok.inj read).symm

theorem congr {decoder : Decoder α} {writes also : α → Bytes → Prop} (reads : decoder.Reads writes)
    (same : ∀ value bytes, writes value bytes ↔ also value bytes) : decoder.Reads also := by
  intro reader after value
  rw [reads]
  simp only [same]

theorem pure (value : α) :
    (Pure.pure value : Decoder α).Reads fun other bytes => other = value ∧ bytes = [] := by
  rintro ⟨position, rest⟩ ⟨later, left⟩ other
  rw [Action.run_pure]
  constructor
  · rintro ⟨⟩
    exact ⟨[], ⟨rfl, rfl⟩, rfl, rfl⟩
  · rintro ⟨_, ⟨rfl, rfl⟩, same, moved⟩
    obtain rfl : rest = left := same
    obtain rfl : later = position := moved
    rfl

theorem bind {first : Decoder α} {next : α → Decoder β} {writes : α → Bytes → Prop}
    {others : α → β → Bytes → Prop} (readsFirst : first.Reads writes)
    (readsNext : ∀ value, (next value).Reads (others value)) :
    (first >>= next).Reads fun value bytes => ∃ middle front back,
      writes middle front ∧ others middle value back ∧ bytes = front ++ back := by
  intro reader after value
  rw [Action.bind_eq_ok_iff]
  constructor
  · rintro ⟨middle, between, ranFirst, ranNext⟩
    obtain ⟨front, written, split, moved⟩ := (readsFirst _ _ _).mp ranFirst
    obtain ⟨back, also, rest, movedOn⟩ := (readsNext _ _ _ _).mp ranNext
    refine ⟨front ++ back, ⟨middle, front, back, written, also, rfl⟩, ?_, ?_⟩
    · rw [split, rest, List.append_assoc]
    · rw [movedOn, moved, List.length_append, Nat.add_assoc]
  · rintro ⟨_, ⟨middle, front, back, written, also, rfl⟩, split, moved⟩
    refine ⟨middle, ⟨reader.position + front.length, back ++ after.rest⟩,
      (readsFirst _ _ _).mpr ⟨front, written, ?_, rfl⟩,
      (readsNext _ _ _ _).mpr ⟨back, also, rfl, ?_⟩⟩
    · rw [split, List.append_assoc]
    · rw [moved, List.length_append, Nat.add_assoc]

theorem ofExcept (outcome : Except Fault α) :
    Reads (Action.ofExcept outcome) fun value bytes => outcome = .ok value ∧ bytes = [] := by
  cases outcome with
  | ok found =>
    refine (pure found).congr fun value bytes => ?_
    rw [Except.ok.injEq, eq_comm]
  | error fault =>
    intro reader after value
    simp

theorem guard {refuses : Prop} [Decidable refuses] (fault : Fault) {decoder : Decoder α}
    {writes : α → Bytes → Prop} (reads : decoder.Reads writes) :
    (if refuses then (throw fault : Decoder PUnit) >>= fun _ => decoder else decoder).Reads
      fun value bytes => ¬ refuses ∧ writes value bytes := by
  by_cases refused : refuses
  · intro reader after value
    rw [if_pos refused]
    simp [refused]
  · rw [if_neg refused]
    exact reads.congr fun value bytes => by simp [refused]

/-- Bytes that were looked at stay to be read, and have to be part of what is read. -/
theorem peek (count : Nat) {next : Bytes → Decoder α} (writes : Bytes → α → Bytes → Prop)
    (reads : ∀ head, (next head).Reads (writes head))
    (covers : ∀ head value bytes, writes head value bytes → count ≤ bytes.length) :
    (Decoder.peek count >>= next).Reads fun value bytes =>
      writes (bytes.take count) value bytes := by
  intro reader after value
  have seen : ∀ bytes, count ≤ bytes.length → reader.rest = bytes ++ after.rest →
      reader.rest.take count = bytes.take count := by
    intro bytes long split
    rw [split, List.take_append_of_le_length long]
  rw [Action.run_bind]
  by_cases short : (reader.rest.take count).length < count
  · have failed : (Decoder.peek count).run reader =
        (.error (.malformed (.peekUnderflow count)), reader) := if_pos short
    rw [failed]
    constructor
    · intro success
      cases success
    · rintro ⟨bytes, written, split, _⟩
      have long := covers _ _ _ written
      rw [seen bytes long split, List.length_take] at short
      omega
  · have peeked : (Decoder.peek count).run reader = (.ok (reader.rest.take count), reader) :=
      if_neg short
    rw [peeked]
    dsimp only
    rw [reads]
    constructor
    · rintro ⟨bytes, written, split, moved⟩
      refine ⟨bytes, ?_, split, moved⟩
      rw [← seen bytes (covers _ _ _ written) split]
      exact written
    · rintro ⟨bytes, written, split, moved⟩
      refine ⟨bytes, ?_, split, moved⟩
      rw [seen bytes (covers _ _ _ written) split]
      exact written

/-- To hold a size against the bytes at hand refuses nothing that could have been read. -/
theorem enough {decoder : Decoder α} {writes : α → Bytes → Prop} (size : Nat)
    (fault : Reader → Fault) (reads : decoder.Reads writes)
    (covers : ∀ value bytes, writes value bytes → size ≤ bytes.length) :
    (get >>= fun reader : Reader =>
      if reader.remaining < size then (throw (fault reader) : Decoder PUnit) >>= fun _ => decoder
      else decoder).Reads writes := by
  intro reader after value
  rw [Action.run_bind, Action.run_get]
  dsimp only
  by_cases short : reader.remaining < size
  · rw [if_pos short]
    constructor
    · intro success
      cases success
    · rintro ⟨bytes, written, split, _⟩
      have long := covers value bytes written
      have total : reader.remaining = bytes.length + after.rest.length := by
        rw [Reader.remaining, split, List.length_append]
      omega
  · rw [if_neg short]
    exact reads reader after value

theorem take (item : String) (count : Nat) :
    (Decoder.take item count).Reads fun value bytes => value.length = count ∧ bytes = value := by
  intro reader after value
  rw [run_take_eq_ok_iff]
  constructor
  · rintro ⟨exact, split, moved⟩
    exact ⟨value, ⟨exact, rfl⟩, split, by rw [exact]; exact moved⟩
  · rintro ⟨_, ⟨exact, rfl⟩, split, moved⟩
    exact ⟨exact, split, by rw [← exact]; exact moved⟩

theorem block (width : Nat) :
    (Decoder.block width).Reads fun field bytes => bytes = field.bytes := by
  intro reader after field
  rw [run_block_eq_ok_iff]
  simp

theorem word16 : Decoder.word16.Reads fun number bytes => bytes = Bytes.word16 number := by
  intro reader after number
  rw [run_word16_eq_ok_iff]
  simp

theorem word32 : Decoder.word32.Reads fun number bytes => bytes = Bytes.word32 number := by
  intro reader after number
  rw [run_word32_eq_ok_iff]
  simp

theorem words (count : Nat) :
    (Decoder.times count Decoder.word32).Reads fun numbers bytes =>
      numbers.length = count ∧ bytes = numbers.flatMap Bytes.word32 := by
  intro reader after numbers
  rw [run_times_word32_eq_ok_iff]
  constructor
  · rintro ⟨exact, split, moved⟩
    refine ⟨_, ⟨exact, rfl⟩, split, ?_⟩
    rw [Bytes.length_flatMap_word32, exact]
    exact moved
  · rintro ⟨_, ⟨exact, rfl⟩, split, moved⟩
    rw [Bytes.length_flatMap_word32, exact] at moved
    exact ⟨exact, split, moved⟩

theorem byte : Decoder.byte.Reads fun value bytes => bytes = [value] := by
  intro reader after value
  rw [run_byte_eq_ok_iff]
  simp

theorem flag : Decoder.flag.Reads fun value bytes => bytes = Bytes.flag value := by
  intro reader after value
  rw [run_flag_eq_ok_iff]
  simp

theorem sized :
    Decoder.sized.Reads fun blob bytes =>
      blob.length < Bytes.capacity 4 ∧ bytes = blob.withLength := by
  refine (bind word32 fun size => take "bytes" size.toNat).congr fun blob bytes => ?_
  constructor
  · rintro ⟨size, _, _, rfl, ⟨exact, rfl⟩, rfl⟩
    refine ⟨by rw [exact]; exact Bytes.toNat_lt_capacity_four size, ?_⟩
    rw [Bytes.withLength, exact]
    rfl
  · rintro ⟨fits, rfl⟩
    have number : blob.length = (UInt32.ofNat blob.length).toNat :=
      (UInt32.toNat_ofNat_of_lt' (by simpa [Bytes.capacity, UInt32.size] using fits)).symm
    exact ⟨_, _, _, rfl, ⟨number, rfl⟩, blob.withLength_eq_word32 fits⟩

theorem sized16 :
    Decoder.sized16.Reads fun blob bytes =>
      blob.length < Bytes.capacity 2 ∧ bytes = Bytes.bigEndian 2 blob.length ++ blob := by
  refine (bind word16 fun size => take "bytes" size.toNat).congr fun blob bytes => ?_
  constructor
  · rintro ⟨size, _, _, rfl, ⟨exact, rfl⟩, rfl⟩
    refine ⟨by rw [exact]; exact Bytes.toNat_lt_capacity_two size, ?_⟩
    rw [exact]
    rfl
  · rintro ⟨fits, rfl⟩
    have number : blob.length = (UInt16.ofNat blob.length).toNat :=
      (UInt16.toNat_ofNat_of_lt' (by simpa [Bytes.capacity, UInt16.size] using fits)).symm
    exact ⟨_, _, _, rfl, ⟨number, rfl⟩, by rw [Bytes.bigEndian_two_eq_word16 _ fits]⟩

end Reads

end Decoder

end TrustedPlatform

import TrustedPlatform.CommandLine.Operand
import TrustedPlatform.Proofs.Text.Digits
import TrustedPlatform.Tool.Failure

/-!
# Operands

Each reader of operands accepts exactly the texts of its grammar, each with the value that its
digits denote, and so what the tool prints as a handle or as bytes is read back as the same handle
and the same bytes (`Operand.accepts_iff`).
-/

set_option autoImplicit false

namespace TrustedPlatform.Operand

open Text Text.Numeral

def marks : List (List Char) := [['0', 'x'], ['0', 'X']]

/-- Characters that a property is about stand behind a mark or without one. -/
def MayBeMarked (property : List Char → Prop) (characters : List Char) : Prop :=
  ∃ mark ∈ [] :: marks, ∃ rest, characters = mark ++ rest ∧ property rest

/-! ## Marks -/

theorem unmarked?_eq_some (text : String) (mark rest : List Char) (isMark : mark ∈ marks)
    (marked : text.toList = mark ++ rest) : unmarked? text = some (String.ofList rest) := by
  unfold unmarked?
  rw [marked]
  rcases List.mem_pair.mp isMark with rfl | rfl <;> rfl

theorem marked_of_unmarked? (text digits : String) (found : unmarked? text = some digits) :
    ∃ mark ∈ marks, text.toList = mark ++ digits.toList := by
  unfold unmarked? at found
  split at found
  · rename_i rest marked
    cases found
    exact ⟨['0', 'x'], List.mem_cons_self, by rw [marked, String.toList_ofList]; rfl⟩
  · rename_i rest marked
    cases found
    exact ⟨['0', 'X'], by simp [marks], by rw [marked, String.toList_ofList]; rfl⟩
  · cases found

/-- What never begins with a mark itself may be marked without doubt about what is meant. -/
theorem unmarked_iff (property : List Char → Prop) (text : String)
    (unmarkedOnly : ∀ mark ∈ marks, ∀ rest, ¬ property (mark ++ rest)) :
    property (unmarked text).toList ↔ MayBeMarked property text.toList := by
  unfold unmarked
  constructor
  · intro holds
    cases found : unmarked? text with
    | none =>
      rw [found] at holds
      exact ⟨[], List.mem_cons_self, text.toList, rfl, holds⟩
    | some digits =>
      rw [found] at holds
      obtain ⟨mark, isMark, marked⟩ := marked_of_unmarked? text digits found
      exact ⟨mark, List.mem_cons_of_mem _ isMark, digits.toList, marked, holds⟩
  · rintro ⟨mark, isMark, rest, marked, holds⟩
    rcases List.mem_cons.mp isMark with rfl | isMark
    · cases found : unmarked? text with
      | none => rwa [Option.getD_none, marked]
      | some digits =>
        obtain ⟨mark, isMark, also⟩ := marked_of_unmarked? text digits found
        rw [List.nil_append] at marked
        rw [← marked, also] at holds
        exact absurd holds (unmarkedOnly mark isMark _)
    · rwa [unmarked?_eq_some text mark rest isMark marked, Option.getD_some, String.toList_ofList]

theorem exists_of_mem_marks (mark : List Char) (isMark : mark ∈ marks) :
    ∃ character, mark = ['0', character] ∧ ∀ radix value, ¬ IsDigit radix character value := by
  have codes : 'x' ∉ smallDigits ++ capitalDigits ∧ 'X' ∉ smallDigits ++ capitalDigits := by decide
  rcases List.mem_pair.mp isMark with rfl | rfl
  · exact ⟨'x', rfl, fun _ _ isDigit => codes.1 isDigit.mem⟩
  · exact ⟨'X', rfl, fun _ _ isDigit => codes.2 isDigit.mem⟩

theorem not_writes_marked (radix number : Nat) (mark : List Char) (isMark : mark ∈ marks)
    (rest : List Char) : ¬ Writes radix (mark ++ rest) number := by
  obtain ⟨character, rfl, noDigit⟩ := exists_of_mem_marks mark isMark
  rintro ⟨sign, among, digits, whole, denotes⟩
  rcases List.mem_pair.mp among with rfl | rfl
  · rw [List.nil_append] at whole
    rw [← whole] at denotes
    obtain ⟨value, isDigit⟩ := denotes.isDigit character (by simp)
    exact noDigit radix value isDigit
  · cases whole

theorem not_spells_marked (bytes : Bytes) (mark : List Char) (isMark : mark ∈ marks)
    (rest : List Char) : ¬ Spells bytes (mark ++ rest) := by
  obtain ⟨character, rfl, noDigit⟩ := exists_of_mem_marks mark isMark
  intro spells
  cases spells with
  | cons byte high low bytes characters isHigh isLow spells => exact noDigit _ _ isLow

/-! ## Readers -/

theorem mapError_eq_ok_iff {Cause Other Value : Type} (rename : Cause → Other)
    (result : Except Cause Value) (value : Value) :
    result.mapError rename = .ok value ↔ result = .ok value := by
  cases result with
  | error cause => exact ⟨nofun, nofun⟩
  | ok found => exact ⟨fun same => by cases same; rfl, fun same => by cases same; rfl⟩

theorem word_eq_ok_iff (radix : Nat) (text : String) (value : UInt32) (positive : 0 < radix)
    (small : radix ≤ 16) :
    word radix text = .ok value ↔ Writes radix text.toList value.toNat := by
  have read := fun number => natural_eq_ok_iff radix largestWord number text positive small
  unfold word
  constructor
  · intro found
    cases same : natural radix largestWord text with
    | error cause =>
      rw [same] at found
      cases found
    | ok number =>
      rw [same] at found
      cases found
      obtain ⟨writes, within⟩ := (read number).mp same
      rwa [UInt32.toNat_ofNat_of_lt' (Nat.lt_of_le_pred (by decide) within)]
  · intro writes
    have within : value.toNat ≤ largestWord := Nat.le_pred_of_lt value.toNat_lt
    rw [(read value.toNat).mpr ⟨writes, within⟩]
    exact congrArg Except.ok UInt32.ofNat_toNat

theorem handle_eq_ok_iff (text : String) (value : UInt32) :
    handle text = .ok value ↔ MayBeMarked (Writes 16 · value.toNat) text.toList := by
  rw [handle, mapError_eq_ok_iff, word_eq_ok_iff 16 _ value (by decide) (Nat.le_refl 16)]
  exact unmarked_iff (Writes 16 · value.toNat) text (not_writes_marked 16 value.toNat)

/-- A number is read in hexadecimal digits behind a mark, and in decimal ones without. -/
theorem number_eq_ok_iff (text : String) (value : UInt32) :
    number text = .ok value ↔
      (∃ mark ∈ marks, ∃ rest, text.toList = mark ++ rest ∧ Writes 16 rest value.toNat) ∨
        Writes 10 text.toList value.toNat := by
  rw [number, mapError_eq_ok_iff]
  cases found : unmarked? text with
  | some digits =>
    obtain ⟨mark, isMark, marked⟩ := marked_of_unmarked? text digits found
    have undecimal : ¬ Writes 10 text.toList value.toNat := by
      rw [marked]
      exact not_writes_marked 10 value.toNat mark isMark _
    rw [or_iff_left undecimal]
    constructor
    · intro read
      exact ⟨mark, isMark, digits.toList, marked,
        (word_eq_ok_iff 16 digits value (by decide) (Nat.le_refl 16)).mp read⟩
    · rintro ⟨other, isOther, rest, also, writes⟩
      rw [unmarked?_eq_some text other rest isOther also] at found
      cases found
      refine (word_eq_ok_iff 16 _ value (by decide) (Nat.le_refl 16)).mpr ?_
      rwa [String.toList_ofList]
  | none =>
    have isUnmarked : ¬ ∃ mark ∈ marks, ∃ rest,
        text.toList = mark ++ rest ∧ Writes 16 rest value.toNat := by
      rintro ⟨mark, isMark, rest, marked, _⟩
      rw [unmarked?_eq_some text mark rest isMark marked] at found
      cases found
    rw [or_iff_right isUnmarked]
    exact word_eq_ok_iff 10 text value (by decide) (by decide)

theorem bytes_eq_ok_iff (text : String) (read : Bytes) :
    bytes text = .ok read ↔ MayBeMarked (Spells read) text.toList := by
  rw [bytes, mapError_eq_ok_iff, Hex.decode_eq_ok_iff]
  exact unmarked_iff _ text (not_spells_marked read)

theorem digest_eq_ok_iff_bytes (text : String) (read : Bytes) :
    (∃ value, digest text = .ok value ∧ value.bytes = read) ↔
      bytes text = .ok read ∧ read.length = 20 := by
  constructor
  · rintro ⟨value, found, rfl⟩
    exact ⟨(digest_eq_ok_iff text value).mp found, value.length_bytes⟩
  · rintro ⟨found, length⟩
    exact ⟨⟨read, length⟩, (digest_eq_ok_iff text _).mpr found, rfl⟩

/-! ## What the tool prints -/

theorem handle_displayHandle (value : UInt32) : handle (Tool.displayHandle value) = .ok value := by
  refine (handle_eq_ok_iff _ value).mpr ⟨[], List.mem_cons_self, _, rfl, ?_⟩
  exact ⟨[], List.mem_cons_self, _, rfl, Hex.denotes_ofNatCapital 8 value.toNat⟩

theorem number_toString (value : UInt32) : number (toString value) = .ok value := by
  have written : (toString value).toList = Nat.toDigits 10 value.toNat := String.toList_ofList
  exact (number_eq_ok_iff _ value).mpr (Or.inr ⟨[], List.mem_cons_self, Nat.toDigits 10 value.toNat,
    written, Denotes.toDigits 10 value.toNat (by decide) (by decide)⟩)

theorem bytes_encode (written : Bytes) : bytes (Hex.encode written) = .ok written :=
  (bytes_eq_ok_iff _ written).mpr ⟨[], List.mem_cons_self, _, rfl, Hex.spells_encode written⟩

/-- Texts are read exactly by their grammars: handles in hexadecimal digits, numbers in hexadecimal
ones behind a mark and in decimal ones without, bytes in two digits each, and digests as twenty
bytes; what the tool prints is among these texts. -/
theorem accepts_iff :
    (∀ (text : String) (value : UInt32),
      handle text = .ok value ↔ MayBeMarked (Writes 16 · value.toNat) text.toList) ∧
    (∀ (text : String) (value : UInt32),
      number text = .ok value ↔
        (∃ mark ∈ marks, ∃ rest, text.toList = mark ++ rest ∧ Writes 16 rest value.toNat) ∨
          Writes 10 text.toList value.toNat) ∧
    (∀ (text : String) (read : Bytes),
      bytes text = .ok read ↔ MayBeMarked (Spells read) text.toList) ∧
    (∀ (text : String) (read : Bytes),
      (∃ value, digest text = .ok value ∧ value.bytes = read) ↔
        bytes text = .ok read ∧ read.length = 20) ∧
    (∀ value : UInt32, handle (Tool.displayHandle value) = .ok value ∧
      (Tool.displayHandle value).toList.length = 8 ∧
      ∀ character ∈ (Tool.displayHandle value).toList, character ∈ capitalDigits) ∧
    (∀ written : Bytes, bytes (Hex.encode written) = .ok written) :=
  ⟨handle_eq_ok_iff, number_eq_ok_iff, bytes_eq_ok_iff, digest_eq_ok_iff_bytes,
    fun value => ⟨handle_displayHandle value,
      Hex.length_ofNatCapital 8 value.toNat (by decide) value.toNat_lt,
      Hex.mem_capitalDigits_of_ofNatCapital 8 value.toNat⟩,
    bytes_encode⟩

end TrustedPlatform.Operand

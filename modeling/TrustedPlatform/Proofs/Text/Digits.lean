import Mathlib.Data.Nat.Digits.Lemmas
import Mathlib.Tactic.IntervalCases
import TrustedPlatform.Text.Hex
import TrustedPlatform.Text.Numeral

/-!
# Digits

A digit of a radix up to sixteen stands in one of two rows of sixteen characters (`IsDigit`), and
digits denote a number by their places (`Denotes`).  A numeral is read exactly as the number that it
denotes, within its bound (`Numeral.natural_eq_ok_iff`), and bytes are read exactly from two digits
each (`Hex.decode_eq_ok_iff`).  What is written in digits denotes what was written
(`Hex.denotes_ofNatCapital`, `Hex.spells_encode`).
-/

set_option autoImplicit false

namespace TrustedPlatform.Text

def smallDigits : List Char := "0123456789abcdef".toList

def capitalDigits : List Char := "0123456789ABCDEF".toList

/-- A character is the digit of a value, as a small or as a capital letter from ten on. -/
def IsDigit (radix : Nat) (character : Char) (value : Nat) : Prop :=
  value < radix ∧
    (smallDigits[value]? = some character ∨ capitalDigits[value]? = some character)

/-- Digits, one at least, denote a number. -/
def Denotes (radix : Nat) (characters : List Char) (number : Nat) : Prop :=
  characters ≠ [] ∧ ∃ values, List.Forall₂ (IsDigit radix) characters values ∧
    number = Nat.ofDigits radix values.reverse

/-- Bytes are spelled by two digits each, the high half first. -/
inductive Spells : Bytes → List Char → Prop where
  | nil : Spells [] []
  | cons (byte : UInt8) (high low : Char) (bytes : Bytes) (characters : List Char)
      (isHigh : IsDigit 16 high (byte.toNat / 16)) (isLow : IsDigit 16 low (byte.toNat % 16))
      (spells : Spells bytes characters) : Spells (byte :: bytes) (high :: low :: characters)

theorem le_iff_toNat_le (first second : Char) :
    first ≤ second ↔ first.toNat ≤ second.toNat := by
  rw [Char.le_def, UInt32.le_iff_toNat_le]
  rfl

section

variable {radix value : Nat} {character : Char}

theorem Numeral.place_of_digit? (found : Numeral.digit? radix character = some value) :
    value < radix ∧ (value ≤ 9 ∧ character.toNat = 48 + value ∨
      10 ≤ value ∧ (character.toNat = 87 + value ∨ character.toNat = 55 + value)) := by
  have bounds : '0'.toNat = 48 ∧ '9'.toNat = 57 ∧ 'a'.toNat = 97 ∧ 'z'.toNat = 122 ∧
      'A'.toNat = 65 ∧ 'Z'.toNat = 90 := by decide
  unfold Numeral.digit? at found
  simp only [le_iff_toNat_le] at found
  split_ifs at found
  all_goals
    cases found
    omega

theorem Numeral.digit?_eq_some_iff (small : radix ≤ 16) :
    Numeral.digit? radix character = some value ↔ IsDigit radix character value := by
  constructor
  · intro found
    obtain ⟨below, place⟩ := Numeral.place_of_digit? found
    have bound : value < 16 := Nat.lt_of_lt_of_le below small
    refine ⟨below, ?_⟩
    clear found below
    rw [← Char.ofNat_toNat character]
    rcases place with ⟨decimal, place⟩ | ⟨letter, place | place⟩
    · rw [place]
      exact Or.inl (by interval_cases value <;> rfl)
    · rw [place]
      exact Or.inl (by interval_cases value <;> rfl)
    · rw [place]
      exact Or.inr (by interval_cases value <;> rfl)
  · rintro ⟨below, spelled⟩
    have bound : value < 16 := Nat.lt_of_lt_of_le below small
    unfold Numeral.digit?
    interval_cases value <;> rcases spelled with same | same <;> cases same <;> exact if_pos below

theorem Hex.value?_eq_some_iff :
    Hex.value? character = some value ↔ IsDigit 16 character value := by
  have bounds : '0'.toNat = 48 ∧ '9'.toNat = 57 ∧ 'a'.toNat = 97 ∧ 'z'.toNat = 122 ∧
      'A'.toNat = 65 ∧ 'Z'.toNat = 90 ∧ 'f'.toNat = 102 ∧ 'F'.toNat = 70 := by decide
  have same : Hex.value? character = Numeral.digit? 16 character := by
    unfold Hex.value? Numeral.digit?
    simp only [le_iff_toNat_le]
    split_ifs <;> first | rfl | omega
  rw [same, Numeral.digit?_eq_some_iff (Nat.le_refl 16)]

end

namespace IsDigit

variable {radix value : Nat} {character : Char}

theorem unique (small : radix ≤ 16) {other : Nat} (isDigit : IsDigit radix character value)
    (also : IsDigit radix character other) : value = other := by
  have found := (Numeral.digit?_eq_some_iff small).mpr isDigit
  rw [(Numeral.digit?_eq_some_iff small).mpr also] at found
  exact (Option.some.inj found).symm

theorem toNat_lt (small : radix ≤ 16) (isDigit : IsDigit radix character value) :
    character.toNat < 128 := by
  obtain ⟨below, place⟩ :=
    Numeral.place_of_digit? ((Numeral.digit?_eq_some_iff small).mpr isDigit)
  omega

theorem mem (isDigit : IsDigit radix character value) :
    character ∈ smallDigits ++ capitalDigits := by
  obtain ⟨_, same | same⟩ := isDigit
  · exact List.mem_append_left _ (List.mem_of_getElem? same)
  · exact List.mem_append_right _ (List.mem_of_getElem? same)

theorem digitChar (small : radix ≤ 16) (below : value < radix) :
    IsDigit radix value.digitChar value := by
  have bound : value < 16 := Nat.lt_of_lt_of_le below small
  refine ⟨below, Or.inl ?_⟩
  clear below
  interval_cases value <;> rfl

theorem capital (isDigit : IsDigit 16 character value) :
    IsDigit 16 character.toUpper value ∧ character.toUpper ∈ capitalDigits := by
  obtain ⟨below, spelled⟩ := isDigit
  have upper : capitalDigits[value]? = some character.toUpper := by
    interval_cases value <;> rcases spelled with same | same <;> cases same <;> rfl
  exact ⟨⟨below, Or.inr upper⟩, List.mem_of_getElem? upper⟩

end IsDigit

/-! ## Numerals -/

namespace Denotes

variable {radix number : Nat} {characters : List Char}

theorem isDigit (denotes : Denotes radix characters number) :
    ∀ character ∈ characters, ∃ value, IsDigit radix character value := by
  obtain ⟨-, values, digits, -⟩ := denotes
  induction digits with
  | nil => simp
  | cons first _ inductionHypothesis =>
    rintro character (_ | ⟨_, later⟩)
    · exact ⟨_, first⟩
    · exact inductionHypothesis character later

theorem digit (character : Char) (value : Nat) (isDigit : IsDigit radix character value) :
    Denotes radix [character] value :=
  ⟨List.cons_ne_nil _ _, [value], .cons isDigit .nil, Nat.ofDigits_singleton.symm⟩

/-- One more digit counts once, and those before it count as often as the radix says. -/
theorem append_digit (denotes : Denotes radix characters number) (character : Char) (value : Nat)
    (isDigit : IsDigit radix character value) :
    Denotes radix (characters ++ [character]) (number * radix + value) := by
  obtain ⟨_, values, digits, rfl⟩ := denotes
  refine ⟨by simp, values ++ [value], List.rel_append digits (.cons isDigit .nil), ?_⟩
  rw [List.reverse_append, List.reverse_singleton, List.singleton_append, Nat.ofDigits_cons,
    Nat.mul_comm, Nat.add_comm]

theorem zero_cons (denotes : Denotes radix characters number) (positive : 0 < radix) :
    Denotes radix ('0' :: characters) number := by
  obtain ⟨_, values, digits, rfl⟩ := denotes
  refine ⟨List.cons_ne_nil _ _, 0 :: values, .cons ⟨positive, Or.inl rfl⟩ digits, ?_⟩
  rw [List.reverse_cons, Nat.ofDigits_append, Nat.ofDigits_singleton, Nat.mul_zero, Nat.add_zero]

theorem zeros_append (denotes : Denotes radix characters number) (positive : 0 < radix)
    (count : Nat) : Denotes radix (List.replicate count '0' ++ characters) number := by
  induction count with
  | zero => exact denotes
  | succ count inductionHypothesis => exact inductionHypothesis.zero_cons positive

theorem capital (denotes : Denotes 16 characters number) :
    Denotes 16 (characters.map Char.toUpper) number := by
  obtain ⟨isSome, values, digits, same⟩ := denotes
  refine ⟨by simpa using isSome, values, ?_, same⟩
  exact List.forall₂_map_left_iff.mpr (digits.imp fun _ _ isDigit => isDigit.capital.1)

theorem toDigits (radix number : Nat) (positive : 1 < radix) (small : radix ≤ 16) :
    Denotes radix (Nat.toDigits radix number) number := by
  induction number using Nat.strong_induction_on with
  | _ number inductionHypothesis =>
    rw [Nat.toDigits_eq_if positive]
    by_cases single : number < radix
    · rw [if_pos single]
      exact .digit _ _ (.digitChar small single)
    · rw [if_neg single]
      have large : 0 < number := Nat.lt_of_lt_of_le (Nat.lt_trans one_pos positive)
        (Nat.not_lt.mp single)
      have shorter := inductionHypothesis (number / radix) (Nat.div_lt_self large positive)
      have below : number % radix < radix := Nat.mod_lt number (Nat.lt_trans one_pos positive)
      have last := shorter.append_digit _ _ (.digitChar small below)
      rwa [Nat.div_add_mod'] at last

end Denotes

namespace Numeral

def placed (radix start : Nat) (values : List Nat) : Nat :=
  values.foldl (fun number value => number * radix + value) start

theorem placed_zero (radix : Nat) (values : List Nat) :
    placed radix 0 values = Nat.ofDigits radix values.reverse := by
  rw [placed, Nat.ofDigits_eq_foldr, List.foldr_reverse]
  simp only [Nat.cast_id, Nat.mul_comm radix, Nat.add_comm]

theorem le_placed (radix start : Nat) (positive : 0 < radix) (values : List Nat) :
    start ≤ placed radix start values := by
  induction values generalizing start with
  | nil => exact Nat.le_refl start
  | cons value values inductionHypothesis =>
    have grown : start ≤ start * radix := Nat.le_mul_of_pos_right start positive
    exact Nat.le_trans (Nat.le_trans grown (Nat.le_add_right _ value)) (inductionHypothesis _)

/-- A digit more never makes a number smaller, so a number that is within its bound was so all the
time. -/
theorem digits_eq_ok_iff (radix bound start number : Nat) (outside : Fault) (characters : List Char)
    (positive : 0 < radix) (small : radix ≤ 16) (begun : start ≤ bound) :
    digits radix bound outside start characters = .ok number ↔
      ∃ values, List.Forall₂ (IsDigit radix) characters values ∧
        number = placed radix start values ∧ number ≤ bound := by
  induction characters generalizing start with
  | nil =>
    rw [digits, Except.ok.injEq]
    constructor
    · rintro rfl
      exact ⟨[], .nil, rfl, begun⟩
    · rintro ⟨_, ⟨⟩, rfl, _⟩
      rfl
  | cons character characters inductionHypothesis =>
    rw [digits]
    cases found : digit? radix character with
    | none =>
      refine ⟨fun failed => (nomatch failed), ?_⟩
      rintro ⟨_, digits, _⟩
      cases digits with
      | cons isDigit _ =>
        rw [(digit?_eq_some_iff small).mpr isDigit] at found
        cases found
    | some value =>
      have isDigit := (digit?_eq_some_iff small).mp found
      dsimp only
      by_cases beyond : bound < start * radix + value
      · rw [if_pos beyond]
        refine ⟨fun failed => (nomatch failed), ?_⟩
        rintro ⟨_, digits, rfl, within⟩
        cases digits with
        | @cons _ other _ values also _ =>
          obtain rfl := isDigit.unique small also
          have grown := le_placed radix (start * radix + value) positive values
          exact absurd (Nat.le_trans grown within) (Nat.not_le.mpr beyond)
      · rw [if_neg beyond, inductionHypothesis _ (Nat.not_lt.mp beyond)]
        constructor
        · rintro ⟨values, digits, same, within⟩
          exact ⟨value :: values, .cons isDigit digits, same, within⟩
        · rintro ⟨_, digits, same, within⟩
          cases digits with
          | @cons _ other _ values also digits =>
            obtain rfl := isDigit.unique small also
            exact ⟨values, digits, same, within⟩

theorem digits_eq_ok_iff_denotes (radix bound number : Nat) (outside : Fault)
    (characters : List Char) (positive : 0 < radix) (small : radix ≤ 16)
    (isSome : characters ≠ []) :
    digits radix bound outside 0 characters = .ok number ↔
      Denotes radix characters number ∧ number ≤ bound := by
  rw [digits_eq_ok_iff radix bound 0 number outside characters positive small (Nat.zero_le bound)]
  simp only [placed_zero, Denotes]
  constructor
  · rintro ⟨values, digits, same, within⟩
    exact ⟨⟨isSome, values, digits, same⟩, within⟩
  · rintro ⟨⟨_, values, digits, same⟩, within⟩
    exact ⟨values, digits, same, within⟩

/-- What may stand before the digits of a number: nothing, or one plus sign. -/
def signs : List (List Char) := [[], ['+']]

/-- Characters write a number: one sign or none, and the digits behind it. -/
def Writes (radix : Nat) (characters : List Char) (number : Nat) : Prop :=
  ∃ sign ∈ signs, ∃ digits, characters = sign ++ digits ∧ Denotes radix digits number

theorem writes_plus_iff (radix number : Nat) (characters : List Char) :
    Writes radix ('+' :: characters) number ↔ Denotes radix characters number := by
  constructor
  · rintro ⟨sign, among, digits, whole, denotes⟩
    rcases List.mem_pair.mp among with rfl | rfl
    · rw [List.nil_append] at whole
      rw [← whole] at denotes
      obtain ⟨value, isDigit⟩ := denotes.isDigit '+' List.mem_cons_self
      exact absurd isDigit.mem (by decide)
    · cases whole
      exact denotes
  · intro denotes
    exact ⟨['+'], by simp [signs], characters, rfl, denotes⟩

theorem writes_iff_of_unsigned (radix number : Nat) (characters : List Char)
    (unsigned : ∀ rest, characters ≠ '+' :: rest) :
    Writes radix characters number ↔ Denotes radix characters number := by
  constructor
  · rintro ⟨sign, among, digits, rfl, denotes⟩
    rcases List.mem_pair.mp among with rfl | rfl
    · exact denotes
    · exact absurd rfl (unsigned digits)
  · intro denotes
    exact ⟨[], List.mem_cons_self, characters, rfl, denotes⟩

/-- A number within its bound is read exactly from the characters that write it. -/
theorem natural_eq_ok_iff (radix bound number : Nat) (text : String) (positive : 0 < radix)
    (small : radix ≤ 16) :
    natural radix bound text = .ok number ↔ Writes radix text.toList number ∧ number ≤ bound := by
  unfold natural
  generalize text.toList = characters
  split
  · rw [writes_iff_of_unsigned radix number [] nofun]
    exact ⟨nofun, fun written => absurd rfl written.1.1⟩
  · rw [writes_plus_iff]
    exact ⟨nofun, fun written => absurd rfl written.1.1⟩
  · rename_i rest isSome
    rw [writes_plus_iff]
    exact digits_eq_ok_iff_denotes radix bound number _ rest positive small isSome
  · rename_i isSome _ unsigned
    rw [writes_iff_of_unsigned radix number characters unsigned]
    exact digits_eq_ok_iff_denotes radix bound number _ characters positive small isSome

end Numeral

/-! ## Two digits for a byte -/

namespace Hex

theorem utf8EncodeChar_of_lt (character : Char) (small : character.toNat < 128) :
    String.utf8EncodeChar character = [UInt8.ofNat character.toNat] := by
  unfold String.utf8EncodeChar
  exact if_pos (Nat.le_of_lt_succ small)

theorem utf8EncodeChar_of_ge (character : Char) (large : 128 ≤ character.toNat) :
    ∃ first others, String.utf8EncodeChar character = first :: others ∧ 128 ≤ first.toNat := by
  unfold String.utf8EncodeChar
  simp only [Char.toNat_val]
  rw [if_neg (by omega)]
  split
  · exact ⟨_, _, rfl, by rw [UInt8.toNat_ofNat']; omega⟩
  · split
    · exact ⟨_, _, rfl, by rw [UInt8.toNat_ofNat']; omega⟩
    · exact ⟨_, _, rfl, by rw [UInt8.toNat_ofNat']; omega⟩

theorem utf8EncodeChar_eq_cons (character : Char) :
    ∃ first others, String.utf8EncodeChar character = first :: others := by
  by_cases small : character.toNat < 128
  · exact ⟨_, _, utf8EncodeChar_of_lt character small⟩
  · obtain ⟨first, others, written, _⟩ := utf8EncodeChar_of_ge character (Nat.not_lt.mp small)
    exact ⟨first, others, written⟩

def digit? (byte : UInt8) : Option Nat := value? (Char.ofNat byte.toNat)

theorem toNat_ofNat_toNat (byte : UInt8) : (Char.ofNat byte.toNat).toNat = byte.toNat := by
  have bound := byte.toNat_lt
  have valid : byte.toNat.isValidChar := Or.inl (by omega)
  rw [Char.ofNat, dif_pos valid]
  rfl

theorem isDigit_of_digit? (character : Char) (first : UInt8) (others : Bytes) (value : Nat)
    (written : String.utf8EncodeChar character = first :: others)
    (found : digit? first = some value) : others = [] ∧ IsDigit 16 character value := by
  have isDigit := value?_eq_some_iff.mp found
  have below := isDigit.toNat_lt (Nat.le_refl 16)
  rw [toNat_ofNat_toNat] at below
  by_cases small : character.toNat < 128
  · rw [utf8EncodeChar_of_lt character small] at written
    cases written
    rw [UInt8.toNat_ofNat', Nat.mod_eq_of_lt (by omega), Char.ofNat_toNat] at isDigit
    exact ⟨rfl, isDigit⟩
  · obtain ⟨_, _, also, large⟩ := utf8EncodeChar_of_ge character (Nat.not_lt.mp small)
    rw [also] at written
    cases written
    exact absurd large (Nat.not_le.mpr below)

theorem digit?_of_isDigit (character : Char) (value : Nat) (isDigit : IsDigit 16 character value) :
    ∃ byte, String.utf8EncodeChar character = [byte] ∧ digit? byte = some value := by
  have small := isDigit.toNat_lt (Nat.le_refl 16)
  refine ⟨_, utf8EncodeChar_of_lt character small, value?_eq_some_iff.mpr ?_⟩
  rwa [UInt8.toNat_ofNat', Nat.mod_eq_of_lt (by omega), Char.ofNat_toNat]

theorem pair_of_decodeFrom (place : Nat) (high : UInt8) (behind bytes : Bytes)
    (decoded : decodeFrom place (high :: behind) = .ok bytes) :
    ∃ low rest upper lower others, behind = low :: rest ∧ digit? high = some upper ∧
      digit? low = some lower ∧ decodeFrom (place + 2) rest = .ok others ∧
      bytes = UInt8.ofNat (upper * 16 + lower) :: others := by
  cases behind with
  | nil => cases decoded
  | cons low rest =>
    rw [decodeFrom] at decoded
    split at decoded
    · cases decoded
    · cases decoded
    · rename_i upper lower isUpper isLower
      split at decoded
      · cases decoded
      · rename_i others also
        cases decoded
        exact ⟨low, rest, upper, lower, others, rfl, isUpper, isLower, also, rfl⟩

theorem halves (upper lower : Nat) (upperSmall : upper < 16) (lowerSmall : lower < 16) :
    (UInt8.ofNat (upper * 16 + lower)).toNat / 16 = upper ∧
      (UInt8.ofNat (upper * 16 + lower)).toNat % 16 = lower := by
  rw [UInt8.toNat_ofNat', Nat.mod_eq_of_lt (by omega)]
  omega

/-- Whatever is read as bytes spells them: what is read as a digit is one character, so the
characters are taken in pairs as the bytes of the text are. -/
theorem spells_of_decodeFrom (place : Nat) (characters : List Char) (bytes : Bytes)
    (decoded : decodeFrom place (characters.flatMap String.utf8EncodeChar) = .ok bytes) :
    Spells bytes characters := by
  induction bytes generalizing place characters with
  | nil =>
    cases characters with
    | nil => exact .nil
    | cons high characters =>
      obtain ⟨first, others, written⟩ := utf8EncodeChar_eq_cons high
      rw [List.flatMap_cons, written, List.cons_append] at decoded
      obtain ⟨_, _, _, _, _, _, _, _, _, impossible⟩ :=
        pair_of_decodeFrom place first _ [] decoded
      cases impossible
  | cons byte bytes inductionHypothesis =>
    cases characters with
    | nil => cases decoded
    | cons high characters =>
      obtain ⟨first, others, written⟩ := utf8EncodeChar_eq_cons high
      rw [List.flatMap_cons, written, List.cons_append] at decoded
      obtain ⟨second, rest, upper, lower, bytes, after, isUpper, isLower, decoded, same⟩ :=
        pair_of_decodeFrom place first _ _ decoded
      cases same
      obtain ⟨rfl, isHigh⟩ := isDigit_of_digit? high first others upper written isUpper
      cases characters with
      | nil => cases after
      | cons low characters =>
        obtain ⟨_, others, written⟩ := utf8EncodeChar_eq_cons low
        rw [List.flatMap_cons, written, List.nil_append, List.cons_append] at after
        cases after
        obtain ⟨rfl, isLow⟩ := isDigit_of_digit? low second others lower written isLower
        obtain ⟨highHalf, lowHalf⟩ := halves upper lower isHigh.1 isLow.1
        refine .cons _ high low bytes characters ?_ ?_ (inductionHypothesis _ characters decoded)
        · rwa [highHalf]
        · rwa [lowHalf]

theorem decodeFrom_of_spells (place : Nat) (characters : List Char) (bytes : Bytes)
    (spells : Spells bytes characters) :
    decodeFrom place (characters.flatMap String.utf8EncodeChar) = .ok bytes := by
  induction spells generalizing place with
  | nil => rfl
  | cons byte high low bytes characters isHigh isLow spells inductionHypothesis =>
    obtain ⟨first, written, isUpper⟩ := digit?_of_isDigit high _ isHigh
    obtain ⟨second, also, isLower⟩ := digit?_of_isDigit low _ isLow
    have whole : UInt8.ofNat (byte.toNat / 16 * 16 + byte.toNat % 16) = byte := by
      rw [Nat.div_add_mod', UInt8.ofNat_toNat]
    have rest := inductionHypothesis (place + 2)
    rw [digit?] at isUpper isLower
    rw [List.flatMap_cons, List.flatMap_cons, written, also]
    simp only [List.singleton_append, decodeFrom, isUpper, isLower, rest, whole]

theorem utf8_length_of_spells (bytes : Bytes) (characters : List Char)
    (spells : Spells bytes characters) :
    (characters.flatMap String.utf8EncodeChar).length = 2 * bytes.length := by
  induction spells with
  | nil => rfl
  | cons byte high low bytes characters isHigh isLow spells inductionHypothesis =>
    obtain ⟨first, written, _⟩ := digit?_of_isDigit high _ isHigh
    obtain ⟨second, also, _⟩ := digit?_of_isDigit low _ isLow
    rw [List.flatMap_cons, List.flatMap_cons, written, also, List.singleton_append,
      List.singleton_append, List.length_cons, List.length_cons, inductionHypothesis,
      List.length_cons]
    rfl

theorem decode_eq_ok_iff (text : String) (bytes : Bytes) :
    decode text = .ok bytes ↔ Spells bytes text.toList := by
  unfold decode Bytes.ofText
  dsimp only
  by_cases odd : (text.toList.flatMap String.utf8EncodeChar).length % 2 = 1
  · rw [if_pos odd]
    refine ⟨fun failed => (nomatch failed), fun spells => ?_⟩
    rw [utf8_length_of_spells bytes _ spells] at odd
    omega
  · rw [if_neg odd]
    exact ⟨spells_of_decodeFrom 0 text.toList bytes, decodeFrom_of_spells 0 text.toList bytes⟩

theorem spells_encode (bytes : Bytes) : Spells bytes (encode bytes).toList := by
  have isDigit : ∀ value < 16, IsDigit 16 (digit value) value := by
    intro value small
    refine ⟨small, Or.inl ?_⟩
    interval_cases value <;> rfl
  rw [encode, String.toList_ofList]
  induction bytes with
  | nil => exact .nil
  | cons byte bytes inductionHypothesis =>
    have bound := byte.toNat_lt
    exact .cons byte _ _ bytes _ (isDigit _ (by omega)) (isDigit _ (by omega)) inductionHypothesis

theorem denotes_ofNat (width number : Nat) : Denotes 16 (ofNat width number).toList number := by
  rw [ofNat, String.toList_ofList]
  exact (Denotes.toDigits 16 number (by decide) (Nat.le_refl 16)).zeros_append (by decide) _

theorem denotes_ofNatCapital (width number : Nat) :
    Denotes 16 (ofNatCapital width number).toList number := by
  rw [ofNatCapital, String.toList_map]
  exact (denotes_ofNat width number).capital

theorem mem_capitalDigits_of_ofNatCapital (width number : Nat) :
    ∀ character ∈ (ofNatCapital width number).toList, character ∈ capitalDigits := by
  intro character among
  rw [ofNatCapital, String.toList_map] at among
  obtain ⟨small, isSmall, rfl⟩ := List.mem_map.mp among
  obtain ⟨value, isDigit⟩ := (denotes_ofNat width number).isDigit small isSmall
  exact isDigit.capital.2

/-- A number that is not too large is written in exactly as many digits as were wanted. -/
theorem length_ofNatCapital (width number : Nat) (wanted : 0 < width)
    (small : number < 16 ^ width) :
    (ofNatCapital width number).toList.length = width := by
  have fits : (Nat.toDigits 16 number).length ≤ width :=
    (Nat.length_toDigits_le_iff (by decide) wanted).mpr small
  rw [ofNatCapital, ofNat, String.toList_map, String.toList_ofList, List.length_map,
    List.length_append, List.length_replicate]
  omega

end Hex

end TrustedPlatform.Text

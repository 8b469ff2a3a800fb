/-!
# Numerals

Whole numbers written in digits of a radix, with an optional sign, within the bounds of a type.
Digits are read from the left, and the first thing wrong decides the fault: a text such as `99…9x`
is too large before its last character is looked at.
-/

set_option autoImplicit false

namespace TrustedPlatform.Text.Numeral

/-- Why a text is no numeral of the wanted type. -/
inductive Fault where
  | empty
  | notDigit
  | tooLarge
  | tooSmall
  deriving DecidableEq, Repr

def Fault.message : Fault → String
  | .empty => "cannot parse integer from empty string"
  | .notDigit => "invalid digit found in string"
  | .tooLarge => "number too large to fit in target type"
  | .tooSmall => "number too small to fit in target type"

/-- The value of a digit in a radix up to thirty-six; letters of either case follow nine. -/
def digit? (radix : Nat) (character : Char) : Option Nat :=
  let value :=
    if '0' ≤ character ∧ character ≤ '9' then character.toNat - 48
    else if 'a' ≤ character ∧ character ≤ 'z' then character.toNat - 87
    else if 'A' ≤ character ∧ character ≤ 'Z' then character.toNat - 55
    else radix
  if value < radix then some value else none

/-- Reads digits on top of a value; leaving the bound behind is the fault `outside`. -/
def digits (radix bound : Nat) (outside : Fault) (value : Nat) : List Char → Except Fault Nat
  | [] => .ok value
  | character :: rest =>
    match digit? radix character with
    | none => .error .notDigit
    | some digit =>
      let next := value * radix + digit
      if bound < next then .error outside else digits radix bound outside next rest

/-- A number from zero to `bound`, after one plus sign or none.  A sign alone is no number. -/
def natural (radix bound : Nat) (text : String) : Except Fault Nat :=
  match text.toList with
  | [] => .error .empty
  | ['+'] => .error .notDigit
  | '+' :: rest => digits radix bound .tooLarge 0 rest
  | all => digits radix bound .tooLarge 0 all

def integer (radix bound : Nat) (text : String) : Except Fault Int :=
  match text.toList with
  | [] => .error .empty
  | ['+'] => .error .notDigit
  | ['-'] => .error .notDigit
  | '+' :: rest => (digits radix bound .tooLarge 0 rest).map Int.ofNat
  | '-' :: rest => (digits radix (bound + 1) .tooSmall 0 rest).map fun value => -Int.ofNat value
  | all => (digits radix bound .tooLarge 0 all).map Int.ofNat

end TrustedPlatform.Text.Numeral

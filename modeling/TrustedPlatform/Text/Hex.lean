import TrustedPlatform.Bytes
import TrustedPlatform.Text.Quoted

/-!
# Hexadecimal text

Two digits a byte, the high half first.  Writing uses small letters; reading takes both cases.
-/

set_option autoImplicit false

namespace TrustedPlatform.Text.Hex

def digit (value : Nat) : Char :=
  if value < 10 then Char.ofNat (48 + value) else Char.ofNat (87 + value)

def value? (character : Char) : Option Nat :=
  if '0' ≤ character ∧ character ≤ '9' then some (character.toNat - 48)
  else if 'a' ≤ character ∧ character ≤ 'f' then some (character.toNat - 87)
  else if 'A' ≤ character ∧ character ≤ 'F' then some (character.toNat - 55)
  else none

def ofByte (byte : UInt8) : List Char :=
  [digit (byte.toNat / 16), digit (byte.toNat % 16)]

def encode (bytes : Bytes) : String :=
  String.ofList (bytes.flatMap ofByte)

def ofNat (width number : Nat) : String :=
  let digits := Nat.toDigits 16 number
  String.ofList (List.replicate (width - digits.length) '0' ++ digits)

def ofNatCapital (width number : Nat) : String :=
  (ofNat width number).map Char.toUpper

/-- Why a text is not hexadecimal. -/
inductive Fault where
  | oddLength
  -- A byte that is no digit, and its place in the text.
  | notDigit (byte : UInt8) (place : Nat)
  deriving DecidableEq, Repr

def Fault.message : Fault → String
  | .oddLength => "Odd number of digits"
  | .notDigit byte place =>
    s!"Invalid character {Quoted.character (Char.ofNat byte.toNat)} at position {place}"

def decodeFrom (place : Nat) : Bytes → Except Fault Bytes
  | [] => .ok []
  | [_] => .error .oddLength
  | high :: low :: rest =>
    match value? (Char.ofNat high.toNat), value? (Char.ofNat low.toNat) with
    | none, _ => .error (.notDigit high place)
    | some _, none => .error (.notDigit low (place + 1))
    | some upper, some lower =>
      match decodeFrom (place + 2) rest with
      | .error fault => .error fault
      | .ok bytes => .ok (UInt8.ofNat (upper * 16 + lower) :: bytes)

/-- Reads a text of digit pairs; an odd count of bytes is noticed before any wrong digit. -/
def decode (text : String) : Except Fault Bytes :=
  let bytes := Bytes.ofText text
  if bytes.length % 2 = 1 then .error .oddLength else decodeFrom 0 bytes

end TrustedPlatform.Text.Hex

import TrustedPlatform.Bytes

/-!
# Reading UTF-8 leniently

Bytes that form no character are replaced: each longest run that could have begun a character, and
each byte that could not, becomes one U+FFFD.
-/

set_option autoImplicit false

namespace TrustedPlatform.Text.Lenient

def replacement : Char := Char.ofNat 0xfffd

/-- What a leading byte announces: the count of bytes that follow it, and the bounds of the first
of them. -/
def announced (lead : Nat) : Option (Nat × Nat × Nat) :=
  if lead < 0x80 then some (0, 0x80, 0xbf)
  else if 0xc2 ≤ lead ∧ lead ≤ 0xdf then some (1, 0x80, 0xbf)
  else if lead = 0xe0 then some (2, 0xa0, 0xbf)
  else if lead = 0xed then some (2, 0x80, 0x9f)
  else if 0xe1 ≤ lead ∧ lead ≤ 0xef then some (2, 0x80, 0xbf)
  else if lead = 0xf0 then some (3, 0x90, 0xbf)
  else if 0xf1 ≤ lead ∧ lead ≤ 0xf3 then some (3, 0x80, 0xbf)
  else if lead = 0xf4 then some (3, 0x80, 0x8f)
  else none

def leadBits (count lead : Nat) : Nat :=
  match count with
  | 0 => lead
  | 1 => lead % 0x20
  | 2 => lead % 0x10
  | _ => lead % 0x08

/-- Where the reading stands: between characters, or inside one, with the bytes still owed, the
bounds of the next of them and the bits so far. -/
inductive Position where
  | between
  | inside (owed low high bits : Nat)
  deriving DecidableEq, Repr

def start (byte : Nat) : List Char × Position :=
  match announced byte with
  | none => ([replacement], .between)
  | some (0, _, _) => ([Char.ofNat byte], .between)
  | some (count, low, high) => ([], .inside count low high (leadBits count byte))

/-- Reads one byte: the characters it completes, and where the reading stands after it. -/
def step : Position → Nat → List Char × Position
  | .between, byte => start byte
  | .inside owed low high bits, byte =>
    if low ≤ byte ∧ byte ≤ high then
      let all := bits * 0x40 + byte % 0x40
      if owed ≤ 1 then ([Char.ofNat all], .between)
      else ([], .inside (owed - 1) 0x80 0xbf all)
    else
      let (characters, position) := start byte
      (replacement :: characters, position)

/-- Reads bytes from a position on; a character cut off by the end is replaced. -/
def read : Position → Bytes → List Char
  | .between, [] => []
  | .inside _ _ _ _, [] => [replacement]
  | position, byte :: rest =>
    let (characters, next) := step position byte.toNat
    characters ++ read next rest

def decode (bytes : Bytes) : String :=
  String.ofList (read .between bytes)

end TrustedPlatform.Text.Lenient

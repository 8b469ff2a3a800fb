import TrustedPlatform.SystemFault
import TrustedPlatform.Text.Numeral

/-!
# Hosts

How a machine can be named: by an address of four parts, by an address of eight groups, or by a
domain name.  A machine that has no network comes to a different end with each.
-/

set_option autoImplicit false

namespace TrustedPlatform.Host

/-- A number in an address of four parts: in octal after a zero, in hexadecimal after a zero and an
x, otherwise in decimal.  The bound is that of a whole address. -/
def part? (text : String) : Option Nat :=
  let read (radix : Nat) (digits : List Char) : Option Nat :=
    (Text.Numeral.digits radix (UInt32.size - 1) .tooLarge 0 digits).toOption
  match text.toList with
  | [] => none
  | ['0', 'x'] | ['0', 'X'] => none
  | '0' :: 'x' :: digits | '0' :: 'X' :: digits => read 16 digits
  | '0' :: digits => read 8 digits
  | digits => read 10 digits

def lastPartBound : Nat → Nat
  | 0 => 0xffffffff
  | 1 => 0xffffff
  | 2 => 0xffff
  | _ => 0xff

/-- Whether a text is an address of up to four parts.  The last part fills up what the others leave
out. -/
def isAddress4 (text : String) : Bool :=
  match ((text.splitOn ".").map part?).reverse with
  | some last :: earlier =>
    earlier.length ≤ 3 && last ≤ lastPartBound earlier.length &&
      earlier.all fun part? => part?.any (· ≤ 0xff)
  | _ => false

def isGroup (text : String) : Bool :=
  text ≠ "" && text.length ≤ 4 && text.toList.all fun digit =>
    (Text.Numeral.digit? 16 digit).isSome

def isAddress6 (text : String) : Bool :=
  let groups (part : String) : List String := if part = "" then [] else part.splitOn ":"
  match text.splitOn "::" with
  | [whole] => (groups whole).length = 8 && (groups whole).all isGroup
  | [front, back] =>
    let all := groups front ++ groups back
    all.length ≤ 7 && all.all isGroup
  | _ => false

def isLabel (text : String) : Bool :=
  text ≠ "" && text.length ≤ 63 && text.toList.all fun character =>
    character.isAlphanum || character = '-' || character = '_'

/-- The steps of a domain name.  The name of the root may stand at the end. -/
def labels (text : String) : List String :=
  let all := text.splitOn "."
  if all.getLast? = some "" then all.dropLast else all

def isDomainName (text : String) : Bool :=
  text = "." ||
    (text ≠ "" && !text.startsWith "-" && (labels text).all isLabel &&
      (".".intercalate (labels text)).length ≤ 253)

def offline (host : String) : SystemFault :=
  if isAddress4 host ∨ host.map Char.toLower = "localhost" then .networkUnreachable
  else if isAddress6 host then .addressUnavailable
  else if isDomainName host then .lookupFailed
  else .hostUnknown

end TrustedPlatform.Host

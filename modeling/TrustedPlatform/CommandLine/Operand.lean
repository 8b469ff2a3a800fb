import TrustedPlatform.Bytes
import TrustedPlatform.Text.Hex
import TrustedPlatform.Text.Numeral
import TrustedPlatform.Text.Quoted

/-!
# Operands

The values that stand on a command line: handles in hexadecimal digits, numbers in decimal ones
unless they are marked, and byte strings in pairs of hexadecimal digits.  Before hexadecimal digits
the mark `0x` may stand.

* `number_of_marked`: a marked number is read as a handle is.
* `digest_eq_ok_iff`: a digest is a byte string of twenty bytes.
-/

set_option autoImplicit false

namespace TrustedPlatform.Operand

/-- Why a text is not the value it stands for. -/
inductive Fault where
  | handle (text : String) (cause : Text.Numeral.Fault)
  | number (text : String) (cause : Text.Numeral.Fault)
  | hex (text : String) (cause : Text.Hex.Fault)
  | digestLength (size : Nat)
  | plain (cause : Text.Numeral.Fault)
  | outside (value : Int) (largest : Nat)
  deriving DecidableEq, Repr

def Fault.message : Fault → String
  | .handle text cause => s!"invalid handle {Text.Quoted.text text}: {cause.message}"
  | .number text cause => s!"invalid number {Text.Quoted.text text}: {cause.message}"
  | .hex text cause => s!"invalid hex {Text.Quoted.text text}: {cause.message}"
  | .digestLength size => s!"expected a 20 byte digest, got {size} bytes"
  | .plain cause => cause.message
  | .outside value largest => s!"{value} is not in 0..={largest}"

def unmarked? (text : String) : Option String :=
  match text.toList with
  | '0' :: 'x' :: rest => some (String.ofList rest)
  | '0' :: 'X' :: rest => some (String.ofList rest)
  | _ => none

def unmarked (text : String) : String := (unmarked? text).getD text

def largestWord : Nat := UInt32.size - 1

def word (radix : Nat) (digits : String) : Except Text.Numeral.Fault UInt32 :=
  (Text.Numeral.natural radix largestWord digits).map UInt32.ofNat

def handle (text : String) : Except Fault UInt32 :=
  (word 16 (unmarked text)).mapError (.handle text)

def number (text : String) : Except Fault UInt32 :=
  (match unmarked? text with
    | some digits => word 16 digits
    | none => word 10 text).mapError (.number text)

def bytes (text : String) : Except Fault Bytes :=
  (Text.Hex.decode (unmarked text)).mapError (.hex text)

def digest (text : String) : Except Fault Digest :=
  match bytes text with
  | .error fault => .error fault
  | .ok bytes =>
    match Block.ofBytes? 20 bytes with
    | some digest => .ok digest
    | none => .error (.digestLength bytes.length)

def count (text : String) : Except Fault Nat :=
  (Text.Numeral.natural 10 (UInt64.size - 1) text).mapError .plain

/-- A size, in decimal digits.  A number that is too large, or negative, is still read as one. -/
def size (text : String) : Except Fault UInt32 :=
  match Text.Numeral.integer 10 (UInt64.size / 2 - 1) text with
  | .error cause => .error (.plain cause)
  | .ok value =>
    if 0 ≤ value ∧ value ≤ largestWord then .ok (UInt32.ofNat value.toNat)
    else .error (.outside value largestWord)

theorem number_of_marked (text digits : String) (marked : unmarked? text = some digits)
    (value : UInt32) : number text = .ok value ↔ handle text = .ok value := by
  simp only [number, handle, unmarked, marked, Option.getD_some]
  cases word 16 digits with
  | error cause => exact ⟨nofun, nofun⟩
  | ok found => exact Iff.rfl

theorem digest_eq_ok_iff (text : String) (value : Digest) :
    digest text = .ok value ↔ bytes text = .ok value.bytes := by
  unfold digest
  cases bytes text with
  | error fault => simp
  | ok found =>
    rw [Except.ok.injEq, ← Block.ofBytes?_eq_some_iff]
    dsimp only
    cases Block.ofBytes? 20 found <;> simp

end TrustedPlatform.Operand

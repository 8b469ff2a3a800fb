import TrustedPlatform.Action
import TrustedPlatform.Fault

/-!
# Reading fields

A reader stands at a position in a byte string; a decoder moves it forward and yields a value.  A
read that finds too few bytes moves nothing, and a reader never sees the bytes behind it again.

* `run_take`: what a read of a count of bytes yields and leaves.
-/

set_option autoImplicit false

namespace TrustedPlatform

/-- A position in a byte string, and the bytes from there on. -/
structure Reader where
  position : Nat
  rest : Bytes
  deriving DecidableEq, Repr

def Reader.ofBytes (bytes : Bytes) : Reader := ⟨0, bytes⟩

def Reader.remaining (reader : Reader) : Nat := reader.rest.length

/-- What reads a value of type `α`. -/
abbrev Decoder (α : Type) := Action Fault Reader α

namespace Decoder

/-- A count of bytes; `item` says in a fault what was being read. -/
def take (item : String) (count : Nat) : Decoder Bytes where
  run reader :=
    let taken := reader.rest.take count
    if taken.length < count then
      (.error (.malformed (.underflow item count reader.remaining)), reader)
    else (.ok taken, ⟨reader.position + count, reader.rest.drop count⟩)

def block (width : Nat) : Decoder (Block width) where
  run reader :=
    let taken := reader.rest.take width
    if enough : taken.length = width then
      (.ok ⟨taken, enough⟩, ⟨reader.position + width, reader.rest.drop width⟩)
    else (.error (.malformed (.underflow "fixed array" width reader.remaining)), reader)

def byte : Decoder UInt8 := do
  let bytes ← take "u8" 1
  return UInt8.ofNat (Bytes.ofBigEndian bytes)

def word16 : Decoder UInt16 := do
  let bytes ← take "u16" 2
  return UInt16.ofNat (Bytes.ofBigEndian bytes)

def word32 : Decoder UInt32 := do
  let bytes ← take "u32" 4
  return UInt32.ofNat (Bytes.ofBigEndian bytes)

/-- A truth value: the byte zero or the byte one. -/
def flag : Decoder Bool := do
  let value ← byte
  if value = 0 then return false
  else if value = 1 then return true
  else throw (.malformed (.notBoolean value))

def digest : Decoder Digest := block 20

def bytes (count : Nat) : Decoder Bytes := take "bytes" count

def sized : Decoder Bytes := do
  let size ← word32
  bytes size.toNat

def sized16 : Decoder Bytes := do
  let size ← word16
  bytes size.toNat

def rest : Decoder Bytes where
  run reader := (.ok reader.rest, ⟨reader.position + reader.rest.length, []⟩)

def skip (count : Nat) : Decoder Unit := do
  let _ ← take "skipped bytes" count

def peek (count : Nat) : Decoder Bytes where
  run reader :=
    let seen := reader.rest.take count
    if seen.length < count then (.error (.malformed (.peekUnderflow count)), reader)
    else (.ok seen, reader)

def finish : Decoder Unit where
  run reader :=
    if reader.rest.isEmpty then (.ok (), reader)
    else (.error (.malformed (.trailingBytes reader.remaining)), reader)

def times {α : Type} (count : Nat) (item : Decoder α) : Decoder (List α) :=
  match count with
  | 0 => return []
  | count + 1 => do
    let first ← item
    let others ← times count item
    return first :: others

def complete {α : Type} (decoder : Decoder α) (bytes : Bytes) : Except Fault α :=
  ((do
    let value ← decoder
    finish
    return value : Decoder α).run (Reader.ofBytes bytes)).1

theorem run_take (item : String) (count : Nat) (reader : Reader) :
    (take item count).run reader =
      if reader.rest.length < count then
        (.error (.malformed (.underflow item count reader.rest.length)), reader)
      else
        (.ok (reader.rest.take count), ⟨reader.position + count, reader.rest.drop count⟩) := by
  have shorter : (reader.rest.take count).length < count ↔ reader.rest.length < count := by
    rw [List.length_take]
    omega
  simp only [take, Reader.remaining]
  by_cases short : reader.rest.length < count
  · rw [if_pos short, if_pos (shorter.mpr short)]
  · rw [if_neg short, if_neg (fun taken => short (shorter.mp taken))]

end Decoder

inductive Read where
  | byte
  | flag
  | word16
  | word32
  | block (width : Nat)
  | sized
  | sized16
  | rest
  | finish
  | bytes (count : Nat)
  | skip (count : Nat)
  | peek (count : Nat)
  deriving DecidableEq, Repr

inductive ReadValue where
  | nothing
  | flag (value : Bool)
  | number (value : Nat)
  | bytes (value : Bytes)
  deriving DecidableEq, Repr

def Read.perform : Read → Decoder ReadValue
  | .byte => do return .number (← Decoder.byte).toNat
  | .flag => do return .flag (← Decoder.flag)
  | .word16 => do return .number (← Decoder.word16).toNat
  | .word32 => do return .number (← Decoder.word32).toNat
  | .block width => do return .bytes (← Decoder.block width).bytes
  | .sized => do return .bytes (← Decoder.sized)
  | .sized16 => do return .bytes (← Decoder.sized16)
  | .rest => do return .bytes (← Decoder.rest)
  | .finish => do
    Decoder.finish
    return .nothing
  | .bytes count => do return .bytes (← Decoder.bytes count)
  | .skip count => do
    Decoder.skip count
    return .nothing
  | .peek count => do return .bytes (← Decoder.peek count)

end TrustedPlatform

import TrustedPlatform.Fault

/-!
# Writing fields

A request grows field by field.  Numbers are written most significant byte first, and a blob of
variable length follows its size; only that size can be too large.  A write that fails changes
nothing.

* `sized_eq_ok_iff`: a blob is refused exactly when its size does not fit.
-/

set_option autoImplicit false

namespace TrustedPlatform

namespace Bytes

def flag (value : Bool) : Bytes := [if value then 1 else 0]

def sized (blob : Bytes) : Except Fault Bytes :=
  if blob.length < capacity 4 then .ok (bigEndian 4 blob.length ++ blob)
  else .error (.encoding (.blobTooLarge blob.length))

def sized16 (blob : Bytes) : Except Fault Bytes :=
  if blob.length < capacity 2 then .ok (bigEndian 2 blob.length ++ blob)
  else .error (.encoding (.blobTooLarge blob.length))

theorem sized_eq_ok_iff (blob written : Bytes) :
    sized blob = .ok written ↔
      blob.length < capacity 4 ∧ written = bigEndian 4 blob.length ++ blob := by
  unfold sized
  split <;> rename_i fits
  · simp only [Except.ok.injEq, fits, true_and]
    exact eq_comm
  · simp only [reduceCtorEq, fits, false_and]

theorem sized16_eq_ok_iff (blob written : Bytes) :
    sized16 blob = .ok written ↔
      blob.length < capacity 2 ∧ written = bigEndian 2 blob.length ++ blob := by
  unfold sized16
  split <;> rename_i fits
  · simp only [Except.ok.injEq, fits, true_and]
    exact eq_comm
  · simp only [reduceCtorEq, fits, false_and]

def overwrite (bytes : Bytes) (position : Nat) (replacement : Bytes) : Bytes :=
  bytes.take position ++ replacement ++ bytes.drop (position + replacement.length)

end Bytes

inductive Write where
  | byte (value : UInt8)
  | flag (value : Bool)
  | word16 (value : UInt16)
  | word32 (value : UInt32)
  | raw (bytes : Bytes)
  | sized (blob : Bytes)
  | sized16 (blob : Bytes)
  | patch16 (position : Nat) (value : UInt16)
  | patch32 (position : Nat) (value : UInt32)
  deriving DecidableEq, Repr

def Write.perform (written : Bytes) : Write → Except Fault Bytes
  | .byte value => .ok (written ++ [value])
  | .flag value => .ok (written ++ Bytes.flag value)
  | .word16 value => .ok (written ++ Bytes.word16 value)
  | .word32 value => .ok (written ++ Bytes.word32 value)
  | .raw bytes => .ok (written ++ bytes)
  | .sized blob => (Bytes.sized blob).map (written ++ ·)
  | .sized16 blob => (Bytes.sized16 blob).map (written ++ ·)
  | .patch16 position value => .ok (written.overwrite position (Bytes.word16 value))
  | .patch32 position value => .ok (written.overwrite position (Bytes.word32 value))

end TrustedPlatform

import TrustedPlatform.Wire.Reader
import TrustedPlatform.Wire.Writer

/-!
# Register selections

A selection is a bitmap: register `i` is bit `i % 8` of byte `i / 8`.
-/

set_option autoImplicit false

namespace TrustedPlatform

structure RegisterSelection where
  bitmap : Bytes
  deriving DecidableEq, Repr

namespace RegisterSelection

def byteOf (registers : List UInt32) (place : Nat) : UInt8 :=
  (List.range 8).foldl
    (fun byte bit =>
      if registers.any fun register => register.toNat == place * 8 + bit then
        byte ||| (1 <<< UInt8.ofNat bit)
      else byte) 0

def ofIndices (registers : List UInt32) : Except Fault RegisterSelection :=
  let largest := registers.foldl max 0
  let width := max (largest.toNat / 8 + 1) 3
  if widestSelection < width then .error (.encoding (.registerOutOfRange largest))
  else .ok ⟨(List.range width).map (byteOf registers)⟩

def indices (selection : RegisterSelection) : List UInt32 :=
  selection.bitmap.zipIdx.flatMap fun (byte, place) =>
    (List.range 8).filterMap fun bit =>
      if byte &&& (1 <<< UInt8.ofNat bit) ≠ 0 then some (UInt32.ofNat (place * 8 + bit))
      else none

def encode (selection : RegisterSelection) : Except Fault Bytes :=
  if widestSelection < selection.bitmap.length then
    .error (.encoding (.selectionTooWide selection.bitmap.length))
  else Bytes.sized16 selection.bitmap

def decode : Decoder RegisterSelection := do return ⟨← Decoder.sized16⟩

end RegisterSelection

end TrustedPlatform

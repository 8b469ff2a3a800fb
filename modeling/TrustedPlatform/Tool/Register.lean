import TrustedPlatform.Client.Capability
import TrustedPlatform.Client.Register
import TrustedPlatform.Tool.Desk

/-!
# Registers at the desk

Extending, showing and resetting configuration registers, and showing and writing data integrity
registers.

Configuration registers are shown in a row, from one number up to another that is not in the row
any more.  The largest number has none behind it, so the register with that number has no row.

* `run_readRegisters_of_lt`: the row of one register has one register, if there is a next number.
* `run_readRegisters_of_last`: the program breaks off at the register that has no next number.
-/

set_option autoImplicit false

namespace TrustedPlatform.Tool

variable {σ : Type} [Channel σ]

def registerLine (register : UInt32) (value : Digest) : String :=
  let digits := toString register
  let shown := if digits.length < 2 then "0" ++ digits else digits
  s!"PCR {shown} = {Text.Hex.encode value.bytes}"

def extend (register : UInt32) (value : Digest) : Work σ Unit := do
  let after ← Desk.during (.extendingRegister register)
    (Desk.onClient (Client.extend register value))
  Desk.print (registerLine register after)

def showRow (first : Nat) : Nat → Work σ Unit
  | 0 => return
  | others + 1 => do
    let register := UInt32.ofNat first
    let value ← Desk.during (.readingRegister register)
      (Desk.onClient (Client.readRegister register))
    Desk.print (registerLine register value)
    showRow (first + 1) others

def numberBehind (register : UInt32) : Except Failure UInt32 :=
  if register.toNat + 1 < UInt32.size then .ok (register + 1) else .error .ofOverflow

def readRegisters : Option UInt32 → Work σ Unit
  | some register => do
    let behind ← Action.ofExcept (numberBehind register)
    showRow register.toNat (behind.toNat - register.toNat)
  | none => do
    let count ← Desk.during .countingRegisters
      (Desk.onClient (Client.capabilityNumber .property registerCountProperty))
    showRow 0 count.toNat

def resetRegisters (registers : List UInt32) : Work σ Unit := do
  let selection ← Desk.checked (RegisterSelection.ofIndices registers)
  Desk.during .resettingRegisters (Desk.onClient (Client.resetRegisters selection))
  let shown := ", ".intercalate (selection.indices.map toString)
  Desk.print s!"Reset PCRs [{shown}]"

def readIntegrity (index : UInt32) : Work σ Unit := do
  let value ← Desk.during (.readingIntegrity index) (Desk.onClient (Client.readIntegrity index))
  Desk.print s!"DIR {index} = {Text.Hex.encode value.bytes}"

def writeIntegrity (index : UInt32) (value : Digest) (ownerSecret : SecretSource) :
    Work σ Unit := do
  let owner ← Desk.input (ownerSecret.secret "owner")
  Desk.authorized .dirWriteAuth ownerEntity owner (Dispatch.writeIntegrity index value)
  Desk.print s!"DIR {index} written"

theorem run_readRegisters_of_lt (register : UInt32) (desk : Desk σ)
    (before : register.toNat + 1 < UInt32.size) :
    (readRegisters (some register)).run desk = (showRow register.toNat 1).run desk := by
  have next : (register + 1).toNat = register.toNat + 1 := by
    rw [UInt32.toNat_add]
    exact Nat.mod_eq_of_lt before
  rw [readRegisters, numberBehind, if_pos before, Action.run_bind, Action.run_ofExcept]
  dsimp only
  rw [next, Nat.add_sub_cancel_left]

theorem run_readRegisters_of_last (register : UInt32) (desk : Desk σ)
    (last : ¬ register.toNat + 1 < UInt32.size) :
    (readRegisters (some register)).run desk = (.error .ofOverflow, desk) := by
  rw [readRegisters, numberBehind, if_neg last, Action.run_bind, Action.run_ofExcept]

end TrustedPlatform.Tool

import TrustedPlatform.Proofs.Client.Inquiry
import TrustedPlatform.Proofs.Module.Coupling
import TrustedPlatform.Proofs.Module.Serving
import TrustedPlatform.Register

/-!
# A module that extends registers

A module keeps a value for every register (`RegisterBank`).  To extend a register it hashes the
value together with the new one, and a success shows what the register holds then
(`RegisterBank.Answers`).  An extension may be carried out and its answer lost.
-/

set_option autoImplicit false

namespace TrustedPlatform

namespace Command

def extending (register : UInt32) (value : Digest) : Command where
  ordinal := .extend
  parameters := Bytes.word32 register ++ value.bytes

def readingRegister (register : UInt32) : Command where
  ordinal := .pcrRead
  parameters := Bytes.word32 register

def showing (value : Digest) : Bytes := (success .response ⟨[], value.bytes⟩ []).frame

theorem length_showing (value : Digest) : (showing value).length = 30 := by
  unfold showing
  rw [Response.length_frame]
  simp [success, headerSize]

theorem value_digest_eq_ok_iff (command : Command) (none : command.outputHandles = 0)
    (answer : Except Fault Bytes) (value : Digest) :
    command.value Decoder.digest answer = .ok value ↔ answer = .ok (showing value) := by
  rw [value_eq_ok_iff, none]
  constructor
  · rintro ⟨⟨handles, parameters⟩, framed, _, count, decoded⟩
    obtain rfl := List.length_eq_zero_iff.mp count
    obtain rfl := ((Decoder.Reads.block 20).complete_iff _ _).mp decoded
    exact framed
  · rintro rfl
    have fits : (showing value).length < Bytes.capacity 4 := by
      rw [length_showing]
      decide
    exact ⟨_, rfl, fits, rfl, ((Decoder.Reads.block 20).complete_iff _ _).mpr rfl⟩

theorem showing_injective (first second : Digest) (same : showing first = showing second) :
    first = second := by
  have found := ((readingRegister 0).value_digest_eq_ok_iff rfl (.ok (showing first)) first).mpr rfl
  rw [same, ((readingRegister 0).value_digest_eq_ok_iff rfl _ second).mpr rfl] at found
  exact (Except.ok.inj found).symm

end Command

structure RegisterBank where
  value : UInt32 → Digest

namespace RegisterBank

def extend (bank : RegisterBank) (register : UInt32) (value : Digest) : RegisterBank where
  value other :=
    if other = register then Register.extend (bank.value register) value else bank.value other

theorem value_extend_self (bank : RegisterBank) (register : UInt32) (value : Digest) :
    (bank.extend register value).value register = Register.extend (bank.value register) value :=
  if_pos rfl

theorem value_extend_of_ne (bank : RegisterBank) (register other : UInt32) (value : Digest)
    (differ : other ≠ register) : (bank.extend register value).value other = bank.value other :=
  if_neg differ

/-- An answer that shows a value shows this one. -/
def ShowsOnly (answer : Except Fault Bytes) (value : Digest) : Prop :=
  ∀ found, answer = .ok (Command.showing found) → found = value

theorem showsOnly_showing (value : Digest) : ShowsOnly (.ok (Command.showing value)) value :=
  fun _ same => (Command.showing_injective _ _ (Except.ok.inj same)).symm

/-- How a module answers a request, and what its registers hold then. -/
inductive Answers (bank : RegisterBank) (request : Request) (answer : Except Fault Bytes) :
    RegisterBank → Prop where
  | measures (register : UInt32) (value : Digest) (asked : request.ordinal = .extend)
      (named : request.parameters = Bytes.word32 register ++ value.bytes)
      (shows : ShowsOnly answer (Register.extend (bank.value register) value)) :
      Answers bank request answer (bank.extend register value)
  | refuses (asked : request.ordinal = .extend)
      (silent : ∀ value, answer ≠ .ok (Command.showing value)) : Answers bank request answer bank
  | reads (register : UInt32) (asked : request.ordinal = .pcrRead)
      (named : request.parameters = Bytes.word32 register)
      (shows : ShowsOnly answer (bank.value register)) : Answers bank request answer bank
  | others (next : RegisterBank) (notExtended : request.ordinal ≠ .extend)
      (notRead : request.ordinal ≠ .pcrRead) : Answers bank request answer next

/-- A module serves exchanges one after the other. -/
def Serves : RegisterBank → List Exchange → RegisterBank → Prop := Serving Answers

variable {bank next : RegisterBank} {answer : Except Fault Bytes}

/-- An extension is carried out or not, and the answer does not show that it was if it was not. -/
theorem Answers.of_extending {register : UInt32} {value : Digest}
    (answers : bank.Answers (Command.extending register value).plainRequest answer next) :
    (next = bank.extend register value ∧
        ShowsOnly answer (Register.extend (bank.value register) value)) ∨
      (next = bank ∧ ∀ found, answer ≠ .ok (Command.showing found)) := by
  cases answers with
  | measures other found _ named shows =>
    obtain ⟨registers, values⟩ := List.append_inj named (by simp)
    obtain rfl := Bytes.word32_injective _ _ registers
    obtain rfl := Block.ext values
    exact Or.inl ⟨rfl, shows⟩
  | refuses _ silent => exact Or.inr ⟨rfl, silent⟩
  | reads _ asked _ _ => cases asked
  | others _ notExtended _ => exact absurd rfl notExtended

theorem Answers.of_reading {register : UInt32}
    (answers : bank.Answers (Command.readingRegister register).plainRequest answer next) :
    next = bank ∧ ShowsOnly answer (bank.value register) := by
  cases answers with
  | measures _ _ asked _ _ => cases asked
  | refuses asked _ => cases asked
  | reads other _ named shows =>
    obtain rfl := Bytes.word32_injective _ _ named
    exact ⟨rfl, shows⟩
  | others _ _ notRead => exact absurd rfl notRead

end RegisterBank

end TrustedPlatform

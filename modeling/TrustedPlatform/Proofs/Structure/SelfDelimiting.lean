import TrustedPlatform.Proofs.Structure.Layouts
import TrustedPlatform.Proofs.Structure.Malformed

/-!
# Structures end by themselves

Where a structure ends is said by its own bytes.  A decoder with a grammar that calls whatever it
refuses malformed finds the same value at the same place whatever follows, and finds none where a
byte is missing (`Decoder.Reads.selfDelimiting`); so does the decoder of every structure
(`Form.delimits`).
-/

set_option autoImplicit false

namespace TrustedPlatform

open TrustedPlatform.Action

/-! ## Decoders with a grammar -/

namespace Decoder

variable {α : Type}

/-- The first bytes of a string, up to a position, are all that a value was read from. -/
structure Delimits (decoder : Decoder α) (bytes : Bytes) (value : α) (position : Nat) : Prop where
  within : position ≤ bytes.length
  -- Whatever follows them, the same value is found at the same position.
  longer : ∀ other, bytes.take position <+: other →
    decoder.run (.ofBytes other) = (.ok value, ⟨position, other.drop position⟩)
  inside : ∀ reader : Reader, bytes.take position <+: reader.rest →
    decoder.run reader = (.ok value, ⟨reader.position + position, reader.rest.drop position⟩)
  shorter : ∀ other, other <+: bytes.take position → other ≠ bytes.take position →
    (∃ cause, (decoder.run (.ofBytes other)).1 = .error (.malformed cause)) ∧
      ∃ cause, decoder.complete other = .error (.malformed cause)
  trailing : position < bytes.length →
    ∃ cause, decoder.complete bytes = .error (.malformed cause)

/-- Whatever a decoder finds is delimited by the bytes that it moved past. -/
def SelfDelimiting (decoder : Decoder α) : Prop :=
  ∀ bytes value after, decoder.run (.ofBytes bytes) = (.ok value, after) →
    decoder.Delimits bytes value after.position

variable {decoder : Decoder α} {writes : α → Bytes → Prop}

theorem Reads.run_of_writes (reads : decoder.Reads writes) {value : α} {writing : Bytes}
    (written : writes value writing) (reader : Reader) (begins : writing <+: reader.rest) :
    decoder.run reader =
      (.ok value, ⟨reader.position + writing.length, reader.rest.drop writing.length⟩) := by
  obtain ⟨later, split⟩ := begins
  refine (reads _ _ _).mpr ⟨writing, written, ?_, rfl⟩
  rw [← split, List.drop_left]

theorem Reads.eq_of_prefix (reads : decoder.Reads writes) {first second : α}
    {writing longer : Bytes} (written : writes first writing) (also : writes second longer)
    (begins : writing <+: longer) : writing = longer := by
  have found := reads.run_of_writes written (.ofBytes longer) begins
  rw [reads.run_of_writes also (.ofBytes longer) (List.prefix_refl longer)] at found
  have positions := congrArg (·.2.position) found
  exact begins.eq_of_length (Nat.add_left_cancel positions).symm

theorem Reads.selfDelimiting (reads : decoder.Reads writes)
    (fails : decoder.FailsOnly Fault.IsMalformed) : decoder.SelfDelimiting := by
  intro bytes value after found
  obtain ⟨writing, written, split, moved⟩ := (reads _ _ _).mp found
  have position : after.position = writing.length := moved.trans (Nat.zero_add _)
  have whole : bytes = writing ++ after.rest := split
  have front : bytes.take after.position = writing := by
    rw [whole, position, List.take_left]
  have complete : ∀ other, (∀ value, ¬ writes value other) →
      ∃ cause, decoder.complete other = .error (.malformed cause) := by
    intro other unwritten
    cases outcome : decoder.complete other with
    | ok value => exact absurd ((reads.complete_iff other value).mp outcome) (unwritten value)
    | error fault =>
      obtain ⟨cause, rfl⟩ := FailsOnly.complete decoder fails other fault outcome
      exact ⟨cause, rfl⟩
  refine ⟨?_, ?_, ?_, ?_, ?_⟩
  · rw [whole, position, List.length_append]
    exact Nat.le_add_right _ _
  · intro other begins
    rw [front] at begins
    have again := reads.run_of_writes written (.ofBytes other) begins
    rw [again, position, Reader.ofBytes, Nat.zero_add]
  · intro reader begins
    rw [front] at begins
    rw [reads.run_of_writes written reader begins, position]
  · intro other cut different
    rw [front] at cut different
    constructor
    · cases outcome : decoder.run (.ofBytes other) with
      | mk result left =>
        cases result with
        | error fault =>
          obtain ⟨cause, rfl⟩ := fails (.ofBytes other) fault (by rw [outcome])
          exact ⟨cause, rfl⟩
        | ok second =>
          obtain ⟨part, also, rest, _⟩ := (reads _ _ _).mp outcome
          have begins : part <+: other := ⟨left.rest, rest.symm⟩
          have same := reads.eq_of_prefix also written (begins.trans cut)
          rw [same] at begins
          exact absurd (cut.eq_of_length (Nat.le_antisymm cut.length_le begins.length_le))
            different
    · exact complete other fun second also =>
        different (reads.eq_of_prefix also written cut)
  · intro more
    refine complete bytes fun second also => ?_
    have same := reads.eq_of_prefix written also ⟨after.rest, whole.symm⟩
    rw [position, same] at more
    exact Nat.lt_irrefl _ more

end Decoder

/-! ## The structures -/

theorem Layout.decode_failsOnly (layout : Layout) :
    layout.decode.FailsOnly Fault.IsMalformed := by
  cases layout with
  | structVersion => exact StructVersion.decode_failsOnly
  | rsaParameters => exact RsaParameters.decode_failsOnly
  | keyParameters => exact KeyParameters.decode_failsOnly
  | publicModulus => exact PublicModulus.decode_failsOnly
  | publicKey => exact PublicKey.decode_failsOnly
  | keyBlob => exact KeyBlob.decode_failsOnly
  | registerSelection => exact RegisterSelection.decode_failsOnly
  | counterValue => exact CounterValue.decode_failsOnly
  | savedContext => exact SavedContext.decode_failsOnly
  | handleList => exact HandleList.decode_failsOnly
  | requestTrailer => exact RequestTrailer.decode_failsOnly
  | responseTrailer => exact ResponseTrailer.decode_failsOnly

/-- What is read as a whole: the structures, those that are only read included, and the fields that
stand for themselves. -/
inductive Form where
  | twoWay (layout : Layout)
  | auditPage
  | byte
  | word16
  | word32
  | digest
  deriving DecidableEq, Repr

namespace Form

def Value : Form → Type
  | twoWay layout => layout.Value
  | auditPage => AuditPage
  | byte => UInt8
  | word16 => UInt16
  | word32 => UInt32
  | digest => Digest

def decode : (form : Form) → Decoder form.Value
  | twoWay layout => layout.decode
  | auditPage => AuditPage.decode
  | byte => Decoder.byte
  | word16 => Decoder.word16
  | word32 => Decoder.word32
  | digest => Decoder.digest

/-- Every structure ends by itself: any string that begins with the bytes it was read from has the
same value at the same position, and none has where one of them is missing. -/
theorem delimits (form : Form) : form.decode.SelfDelimiting := by
  cases form with
  | twoWay layout => exact layout.reads.selfDelimiting layout.decode_failsOnly
  | auditPage => exact AuditPage.reads.selfDelimiting AuditPage.decode_failsOnly
  | byte => exact Decoder.Reads.byte.selfDelimiting .byte
  | word16 => exact Decoder.Reads.word16.selfDelimiting .word16
  | word32 => exact Decoder.Reads.word32.selfDelimiting .word32
  | digest => exact (Decoder.Reads.block 20).selfDelimiting (.block 20)

/-- A list of one handle is read to its end, with a byte behind it that is not part of it. -/
theorem delimits_handle :
    (Form.twoWay .handleList).decode.Delimits [0, 1, 0, 0, 0, 5, 9] (HandleList.mk [5]) 6 :=
  delimits (.twoWay .handleList) [0, 1, 0, 0, 0, 5, 9] (HandleList.mk [5]) ⟨6, [9]⟩ rfl

end Form

end TrustedPlatform

import TrustedPlatform.Proofs.Wire.Cursor

/-!
# Writer and reader are dual

Fields written one after the other are read back as they were written, by the reads that belong to
them, and then nothing is left; fields that cannot be written are as if they were not there
(`Field.reads_back`).  With what is sound about any reads of any bytes this is `Field.wire_sound`.
-/

set_option autoImplicit false

namespace TrustedPlatform

/-- A write that has a read of its own: it adds to what was written, and changes none of it. -/
inductive Field where
  | byte (value : UInt8)
  | flag (value : Bool)
  | word16 (value : UInt16)
  | word32 (value : UInt32)
  | raw (bytes : Bytes)
  | sized (blob : Bytes)
  | sized16 (blob : Bytes)
  deriving DecidableEq, Repr

namespace Field

def write : Field → Write
  | byte value => .byte value
  | flag value => .flag value
  | word16 value => .word16 value
  | word32 value => .word32 value
  | raw bytes => .raw bytes
  | sized blob => .sized blob
  | sized16 blob => .sized16 blob

/-- The read that belongs to a write; bytes as they are do not tell how many there are. -/
def read : Field → Read
  | byte _ => .byte
  | flag _ => .flag
  | word16 _ => .word16
  | word32 _ => .word32
  | raw bytes => .bytes bytes.length
  | sized _ => .sized
  | sized16 _ => .sized16

def value : Field → ReadValue
  | byte value => .number value.toNat
  | flag value => .flag value
  | word16 value => .number value.toNat
  | word32 value => .number value.toNat
  | raw bytes => .bytes bytes
  | sized blob => .bytes blob
  | sized16 blob => .bytes blob

def written : Field → Bytes
  | byte value => [value]
  | flag value => Bytes.flag value
  | word16 value => Bytes.word16 value
  | word32 value => Bytes.word32 value
  | raw bytes => bytes
  | sized blob => Bytes.bigEndian 4 blob.length ++ blob
  | sized16 blob => Bytes.bigEndian 2 blob.length ++ blob

/-- The size of a blob can be written. -/
def Fits : Field → Prop
  | sized blob => blob.length < Bytes.capacity 4
  | sized16 blob => blob.length < Bytes.capacity 2
  | _ => True

instance (field : Field) : Decidable field.Fits := by
  cases field <;> unfold Fits <;> infer_instance

/-! ## Writes one after the other -/

/-- Writes one after the other: what is written in the end, and the writes that did not fail. -/
def writeAll (before : Bytes) : List Field → Bytes × List Field
  | [] => (before, [])
  | field :: later =>
    match field.write.perform before with
    | .ok longer => ((writeAll longer later).1, field :: (writeAll longer later).2)
    | .error _ => writeAll before later

theorem perform_write (before : Bytes) (field : Field) (fits : field.Fits) :
    field.write.perform before = .ok (before ++ field.written) := by
  cases field with
  | sized blob =>
    rw [write, Write.perform, (Bytes.sized_eq_ok_iff blob _).mpr ⟨fits, rfl⟩]
    rfl
  | sized16 blob =>
    rw [write, Write.perform, (Bytes.sized16_eq_ok_iff blob _).mpr ⟨fits, rfl⟩]
    rfl
  | _ => rfl

theorem perform_write_of_not_fits (before : Bytes) (field : Field) (large : ¬ field.Fits) :
    ∃ fault, field.write.perform before = .error fault := by
  cases field with
  | sized blob => exact ⟨_, congrArg (Except.map (before ++ ·)) (if_neg large)⟩
  | sized16 blob => exact ⟨_, congrArg (Except.map (before ++ ·)) (if_neg large)⟩
  | _ => exact absurd trivial large

theorem writeAll_eq (before : Bytes) (fields : List Field) :
    writeAll before fields =
      (before ++ (fields.filter (·.Fits)).flatMap written, fields.filter (·.Fits)) := by
  induction fields generalizing before with
  | nil => rw [writeAll, List.filter_nil, List.flatMap_nil, List.append_nil]
  | cons field fields inductionHypothesis =>
    rw [writeAll]
    by_cases fits : field.Fits
    · rw [perform_write before field fits, List.filter_cons_of_pos (by simpa using fits)]
      simp only [inductionHypothesis, List.flatMap_cons, List.append_assoc]
    · obtain ⟨fault, failed⟩ := perform_write_of_not_fits before field fits
      rw [failed, List.filter_cons_of_neg (by simpa using fits)]
      exact inductionHypothesis before

/-! ## Reading back -/

theorem perform_read (field : Field) (fits : field.Fits) (position : Nat) (behind : Bytes) :
    field.read.perform.run ⟨position, field.written ++ behind⟩ =
      (.ok field.value, ⟨position + field.written.length, behind⟩) := by
  cases field with
  | byte value =>
    exact Action.run_bind_of_ok _ _ _ _ value ((Decoder.Reads.byte _ _ _).mpr ⟨_, rfl, rfl, rfl⟩)
  | flag value =>
    exact Action.run_bind_of_ok _ _ _ _ value ((Decoder.Reads.flag _ _ _).mpr ⟨_, rfl, rfl, rfl⟩)
  | word16 value =>
    exact Action.run_bind_of_ok _ _ _ _ value
      ((Decoder.Reads.word16 _ _ _).mpr ⟨_, rfl, rfl, rfl⟩)
  | word32 value =>
    exact Action.run_bind_of_ok _ _ _ _ value
      ((Decoder.Reads.word32 _ _ _).mpr ⟨_, rfl, rfl, rfl⟩)
  | raw bytes =>
    exact Action.run_bind_of_ok _ _ _ _ bytes
      ((Decoder.Reads.take _ _ _ _ _).mpr ⟨_, ⟨rfl, rfl⟩, rfl, rfl⟩)
  | sized blob =>
    exact Action.run_bind_of_ok _ _ _ _ blob
      ((Decoder.Reads.sized _ _ _).mpr ⟨_, ⟨fits, rfl⟩, rfl, rfl⟩)
  | sized16 blob =>
    exact Action.run_bind_of_ok _ _ _ _ blob
      ((Decoder.Reads.sized16 _ _ _).mpr ⟨_, ⟨fits, rfl⟩, rfl, rfl⟩)

theorem outcomes_of_fits (fields : List Field) (fits : ∀ field ∈ fields, field.Fits)
    (position : Nat) :
    (Read.steps ⟨position, fields.flatMap written⟩ (fields.map read ++ [.finish])).map
        ReadStep.outcome =
      fields.map (fun field => .ok field.value) ++ [.ok .nothing] := by
  induction fields generalizing position with
  | nil => rfl
  | cons field fields inductionHypothesis =>
    have first := perform_read field (fits field List.mem_cons_self) position
      (fields.flatMap written)
    have others := inductionHypothesis (fun later among => fits later (.tail _ among))
      (position + field.written.length)
    rw [List.flatMap_cons, List.map_cons, List.cons_append, Read.steps, first]
    dsimp only
    rw [List.map_cons, others, List.map_cons, List.cons_append]

/-- What was written is read back, in the order in which it was written, and nothing is left. -/
theorem reads_back (fields : List Field) :
    (Read.steps (.ofBytes (writeAll [] fields).1)
        ((writeAll [] fields).2.map read ++ [.finish])).map ReadStep.outcome =
      (writeAll [] fields).2.map (fun field => .ok field.value) ++ [.ok .nothing] := by
  rw [writeAll_eq]
  refine outcomes_of_fits _ ?_ 0
  intro field among
  simpa using (List.mem_filter.mp among).2

/-- The fields that can be written are read back as they were written, whatever writes failed in
between, and any reads of any bytes are sound. -/
theorem wire_sound :
    (∀ fields : List Field,
      (writeAll [] fields).2 = fields.filter (·.Fits) ∧
      (Read.steps (.ofBytes (writeAll [] fields).1)
          ((writeAll [] fields).2.map read ++ [.finish])).map ReadStep.outcome =
        (writeAll [] fields).2.map (fun field => .ok field.value) ++ [.ok .nothing]) ∧
    ∀ (data : Bytes) (reads : List Read),
      Read.SoundRun data (Read.steps (.ofBytes data) reads) :=
  ⟨fun fields => ⟨by rw [writeAll_eq], reads_back fields⟩, Read.soundRun_steps⟩

end Field

end TrustedPlatform

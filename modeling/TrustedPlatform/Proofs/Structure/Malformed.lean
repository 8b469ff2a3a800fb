import TrustedPlatform.Proofs.Wire.Malformed
import TrustedPlatform.Structure.AuditPage
import TrustedPlatform.Structure.HandleList
import TrustedPlatform.Structure.Key
import TrustedPlatform.Structure.RegisterSelection
import TrustedPlatform.Structure.SavedContext

/-!
# Faults of reading structures

What cannot be read as a structure is malformed, whatever the structure, and in no other way.
-/

set_option autoImplicit false

namespace TrustedPlatform

open TrustedPlatform.Action

namespace Action.FailsOnly

theorem sized : Decoder.sized.FailsOnly Fault.IsMalformed := bind _ _ word32 fun _ => take _ _

theorem sized16 : Decoder.sized16.FailsOnly Fault.IsMalformed := bind _ _ word16 fun _ => take _ _

theorem skip (count : Nat) : (Decoder.skip count).FailsOnly Fault.IsMalformed :=
  bind _ _ (take _ _) fun _ => pure _

theorem peek (count : Nat) : (Decoder.peek count).FailsOnly Fault.IsMalformed := by
  intro reader fault failed
  by_cases short : (reader.rest.take count).length < count
  · simp only [Decoder.peek, if_pos short, Except.error.injEq] at failed
    rw [← failed]
    exact ⟨_, rfl⟩
  · simp only [Decoder.peek, if_neg short, reduceCtorEq] at failed

end Action.FailsOnly

theorem StructVersion.decode_failsOnly : StructVersion.decode.FailsOnly Fault.IsMalformed :=
  .bind _ _ (.block 4) fun _ => .pure _

theorem RsaParameters.decode_failsOnly : RsaParameters.decode.FailsOnly Fault.IsMalformed :=
  .bind _ _ .word32 fun _ => .bind _ _ .word32 fun _ => .bind _ _ .sized fun _ => .pure _

theorem AlgorithmParameters.isMalformed_of_ofBlob (algorithm : UInt32) (blob : Bytes)
    (fault : Fault) (failed : ofBlob algorithm blob = .error fault) : fault.IsMalformed := by
  unfold ofBlob at failed
  split at failed
  · cases read : RsaParameters.decode.complete blob with
    | ok parameters =>
      rw [read] at failed
      cases failed
    | error other =>
      rw [read] at failed
      cases failed
      exact FailsOnly.complete _ RsaParameters.decode_failsOnly _ _ read
  · cases failed

theorem KeyParameters.decode_failsOnly : KeyParameters.decode.FailsOnly Fault.IsMalformed :=
  .bind _ _ .word32 fun _ => .bind _ _ .word16 fun _ => .bind _ _ .word16 fun _ =>
    .bind _ _ .sized fun _ =>
      .bind _ _ (.ofExcept _ (AlgorithmParameters.isMalformed_of_ofBlob _ _)) fun _ => .pure _

theorem PublicModulus.decode_failsOnly : PublicModulus.decode.FailsOnly Fault.IsMalformed :=
  .bind _ _ .sized fun _ => .pure _

theorem PublicKey.decode_failsOnly : PublicKey.decode.FailsOnly Fault.IsMalformed :=
  .bind _ _ KeyParameters.decode_failsOnly fun _ =>
    .bind _ _ PublicModulus.decode_failsOnly fun _ => .pure _

theorem KeyFormat.decode_failsOnly : KeyFormat.decode.FailsOnly Fault.IsMalformed := by
  refine .bind _ _ (.peek 2) fun head => ?_
  split
  · refine .bind _ _ (.skip 2) fun _ => .bind _ _ .word16 fun fill => ?_
    dsimp only
    split
    · exact .bind _ _ (.throw _ ⟨_, rfl⟩) fun _ => .pure _
    · exact .pure _
  · refine .bind _ _ StructVersion.decode_failsOnly fun version => ?_
    dsimp only
    split
    · exact .bind _ _ (.throw _ ⟨_, rfl⟩) fun _ => .pure _
    · exact .pure _

theorem KeyBlob.decode_failsOnly : KeyBlob.decode.FailsOnly Fault.IsMalformed :=
  .bind _ _ KeyFormat.decode_failsOnly fun _ => .bind _ _ .word16 fun _ =>
    .bind _ _ .word32 fun _ => .bind _ _ .byte fun _ =>
      .bind _ _ KeyParameters.decode_failsOnly fun _ => .bind _ _ .sized fun _ =>
        .bind _ _ PublicModulus.decode_failsOnly fun _ => .bind _ _ .sized fun _ => .pure _

theorem CounterValue.decode_failsOnly : CounterValue.decode.FailsOnly Fault.IsMalformed := by
  have fields : FailsOnly Fault.IsMalformed (do
      let label ← Decoder.block 4
      let count ← Decoder.word32
      return ⟨label, count⟩ : Decoder CounterValue) :=
    .bind _ _ (.block 4) fun _ => .bind _ _ .word32 fun _ => .pure _
  refine .bind _ _ .word16 fun tag => ?_
  dsimp only
  split
  · exact .bind _ _ (.throw _ ⟨_, rfl⟩) fun _ => fields
  · exact fields

theorem HandleList.decode_failsOnly : HandleList.decode.FailsOnly Fault.IsMalformed := by
  refine .bind _ _ .word16 fun count => .bind _ _ .get fun reader => ?_
  have handles := FailsOnly.times count.toNat Decoder.word32 .word32
  dsimp only
  split
  · exact .bind _ _ (.throw _ ⟨_, rfl⟩) fun _ => .bind _ _ handles fun _ => .pure _
  · exact .bind _ _ handles fun _ => .pure _

theorem AuditPage.decode_failsOnly : AuditPage.decode.FailsOnly Fault.IsMalformed := by
  refine .bind _ _ CounterValue.decode_failsOnly fun counter => .bind _ _ (.block 20) fun digest =>
    .bind _ _ .flag fun more => .bind _ _ .sized fun list => ?_
  dsimp only
  split
  · exact .bind _ _ (.throw _ ⟨_, rfl⟩) fun _ => .pure _
  · exact .pure _

theorem SavedContext.decode_failsOnly : SavedContext.decode.FailsOnly Fault.IsMalformed := by
  have fields : FailsOnly Fault.IsMalformed (do
      let resource ← Decoder.word32
      let handle ← Decoder.word32
      let label ← Decoder.block 16
      let count ← Decoder.word32
      let integrity ← Decoder.digest
      let additional ← Decoder.sized
      let sensitive ← Decoder.sized
      return ⟨resource, handle, label, count, integrity, additional, sensitive⟩ :
        Decoder SavedContext) :=
    .bind _ _ .word32 fun _ => .bind _ _ .word32 fun _ => .bind _ _ (.block 16) fun _ =>
      .bind _ _ .word32 fun _ => .bind _ _ (.block 20) fun _ => .bind _ _ .sized fun _ =>
        .bind _ _ .sized fun _ => .pure _
  refine .bind _ _ .word16 fun tag => ?_
  dsimp only
  split
  · exact .bind _ _ (.throw _ ⟨_, rfl⟩) fun _ => fields
  · exact fields

theorem RegisterSelection.decode_failsOnly :
    RegisterSelection.decode.FailsOnly Fault.IsMalformed :=
  .bind _ _ .sized16 fun _ => .pure _

theorem RequestTrailer.decode_failsOnly : RequestTrailer.decode.FailsOnly Fault.IsMalformed :=
  .bind _ _ .word32 fun _ => .bind _ _ (.block 20) fun _ => .bind _ _ .flag fun _ =>
    .bind _ _ (.block 20) fun _ => .pure _

end TrustedPlatform

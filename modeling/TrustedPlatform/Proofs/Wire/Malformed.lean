import TrustedPlatform.Proofs.Action.Keeps
import TrustedPlatform.Proofs.Frame.ResponseGrammar

/-!
# Faults of reading

Whatever a decoder finds wrong with the bytes at hand, it calls them malformed
(`Action.FailsOnly`).  That goes for the parts of a response, too (`Response.isMalformed_of_parse`,
`Response.isMalformed_of_splitTrailers`).
-/

set_option autoImplicit false

namespace TrustedPlatform

namespace Fault

/-- The fault is about bytes that were received. -/
def IsMalformed (fault : Fault) : Prop := ∃ cause, fault = .malformed cause

theorem IsMalformed.isLocal {fault : Fault} (malformed : fault.IsMalformed) :
    fault.isLocal = true := by
  obtain ⟨_, rfl⟩ := malformed
  rfl

end Fault

namespace Action.FailsOnly

variable {α : Type}

theorem take (item : String) (count : Nat) : (Decoder.take item count).FailsOnly Fault.IsMalformed := by
  intro reader fault failed
  rw [Decoder.run_take] at failed
  by_cases short : reader.rest.length < count
  · rw [if_pos short] at failed
    cases failed
    exact ⟨_, rfl⟩
  · rw [if_neg short] at failed
    cases failed

theorem block (width : Nat) : (Decoder.block width).FailsOnly Fault.IsMalformed := by
  intro reader fault failed
  by_cases enough : (reader.rest.take width).length = width
  · simp only [Decoder.block, dif_pos enough, reduceCtorEq] at failed
  · simp only [Decoder.block, dif_neg enough, Except.error.injEq] at failed
    rw [← failed]
    exact ⟨_, rfl⟩

theorem byte : Decoder.byte.FailsOnly Fault.IsMalformed :=
  bind _ _ (take _ _) fun _ => pure _

theorem word16 : Decoder.word16.FailsOnly Fault.IsMalformed :=
  bind _ _ (take _ _) fun _ => pure _

theorem word32 : Decoder.word32.FailsOnly Fault.IsMalformed :=
  bind _ _ (take _ _) fun _ => pure _

theorem flag : Decoder.flag.FailsOnly Fault.IsMalformed := by
  refine bind _ _ byte fun value => ?_
  by_cases zero : value = 0
  · rw [if_pos zero]
    exact pure false
  · rw [if_neg zero]
    by_cases one : value = 1
    · rw [if_pos one]
      exact pure true
    · rw [if_neg one]
      exact throw _ ⟨_, rfl⟩

theorem rest : Decoder.rest.FailsOnly Fault.IsMalformed := by
  intro reader fault failed
  cases failed

theorem finish : Decoder.finish.FailsOnly Fault.IsMalformed := by
  rintro ⟨position, bytes⟩ fault failed
  cases bytes with
  | nil => cases failed
  | cons head tail =>
    cases failed
    exact ⟨_, rfl⟩

theorem times (count : Nat) (item : Decoder α) (itemFails : item.FailsOnly Fault.IsMalformed) :
    (Decoder.times count item).FailsOnly Fault.IsMalformed := by
  induction count with
  | zero => exact pure []
  | succ count inductionHypothesis =>
    exact bind _ _ itemFails fun _ => bind _ _ inductionHypothesis fun _ => pure _

theorem complete (decoder : Decoder α) (decoderFails : decoder.FailsOnly Fault.IsMalformed)
    (bytes : Bytes) (fault : Fault) (failed : decoder.complete bytes = .error fault) :
    fault.IsMalformed := by
  have whole : FailsOnly Fault.IsMalformed (do
      let value ← decoder
      Decoder.finish
      return value : Decoder α) :=
    bind _ _ decoderFails fun _ => bind _ _ finish fun _ => pure _
  exact whole (Reader.ofBytes bytes) fault failed

end Action.FailsOnly

open TrustedPlatform.Action

theorem ResponseTrailer.decode_failsOnly : ResponseTrailer.decode.FailsOnly Fault.IsMalformed :=
  FailsOnly.bind _ _ (FailsOnly.block 20) fun _ =>
    FailsOnly.bind _ _ FailsOnly.flag fun _ =>
      FailsOnly.bind _ _ (FailsOnly.block 20) fun _ => FailsOnly.pure _

namespace Response

theorem isMalformed_of_tagOf (code : UInt16) (fault : Fault) (failed : tagOf code = .error fault) :
    fault.IsMalformed := by
  unfold tagOf at failed
  split at failed
  · cases failed
  · cases failed
    exact ⟨_, rfl⟩

theorem decode_failsOnly (received : Nat) : (decode received).FailsOnly Fault.IsMalformed := by
  refine FailsOnly.bind _ _ FailsOnly.word16 fun code => ?_
  refine FailsOnly.bind _ _ (FailsOnly.ofExcept _ (isMalformed_of_tagOf code)) fun tag => ?_
  refine FailsOnly.bind _ _ FailsOnly.word32 fun declared => ?_
  dsimp only
  by_cases different : received ≠ declared.toNat
  · rw [if_pos different]
    exact FailsOnly.bind _ _ (FailsOnly.throw _ ⟨_, rfl⟩) fun _ =>
      FailsOnly.bind _ _ FailsOnly.word32 fun _ =>
        FailsOnly.bind _ _ FailsOnly.rest fun _ => FailsOnly.pure _
  · rw [if_neg different]
    exact FailsOnly.bind _ _ FailsOnly.word32 fun _ =>
      FailsOnly.bind _ _ FailsOnly.rest fun _ => FailsOnly.pure _

theorem isMalformed_of_parse (received : Bytes) (fault : Fault)
    (failed : parse received = .error fault) : fault.IsMalformed := by
  unfold parse at failed
  by_cases short : received.length < headerSize
  · rw [if_pos short] at failed
    cases failed
    exact ⟨_, rfl⟩
  · rw [if_neg short] at failed
    exact decode_failsOnly _ _ fault failed

theorem isMalformed_of_trailersOf (count : Nat) (bytes : Bytes) (fault : Fault)
    (failed : trailersOf count bytes = .error fault) : fault.IsMalformed := by
  induction count generalizing bytes with
  | zero => cases failed
  | succ count inductionHypothesis =>
    rw [trailersOf_succ] at failed
    cases readFirst : ResponseTrailer.decode.complete (bytes.take ResponseTrailer.size) with
    | error other =>
      rw [readFirst] at failed
      cases failed
      exact FailsOnly.complete _ ResponseTrailer.decode_failsOnly _ _ readFirst
    | ok first =>
      cases readOthers : trailersOf count (bytes.drop ResponseTrailer.size) with
      | error other =>
        rw [readFirst, readOthers] at failed
        cases failed
        exact inductionHypothesis _ readOthers
      | ok others =>
        rw [readFirst, readOthers] at failed
        cases failed

theorem isMalformed_of_splitTrailers (response : Response) (expected : Nat) (fault : Fault)
    (failed : response.splitTrailers expected = .error fault) : fault.IsMalformed := by
  unfold splitTrailers at failed
  split at failed
  · cases failed
    exact ⟨_, rfl⟩
  · split at failed
    · cases failed
      exact ⟨_, rfl⟩
    · cases found : trailersOf expected (response.data.drop (response.lengthBefore expected)) with
      | error other =>
        rw [found] at failed
        cases failed
        exact isMalformed_of_trailersOf _ _ _ found
      | ok trailers =>
        rw [found] at failed
        cases failed

end Response

end TrustedPlatform

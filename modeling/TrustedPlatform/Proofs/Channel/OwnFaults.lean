import TrustedPlatform.Channel.Connection
import TrustedPlatform.Proofs.Action.Keeps
import TrustedPlatform.Proofs.Channel.Tap
import TrustedPlatform.Proofs.Structure.Faults
import TrustedPlatform.Proofs.Wire.Malformed

/-!
# Faults of channels

A result code is what the module answers with.  A connection hands answers on without looking for
one, so none of its own faults carries any (`Connection.ownFaults`), and neither does what can be
wrong with the settings for it.
-/

set_option autoImplicit false

namespace TrustedPlatform

namespace Fault

/-- The fault carries no result code. -/
def Codeless (fault : Fault) : Prop := fault.resultCode? = none

theorem IsMalformed.codeless {fault : Fault} (malformed : fault.IsMalformed) : fault.Codeless :=
  (isLocal_iff fault).mp malformed.isLocal

theorem IsEncoding.codeless {fault : Fault} (encoding : fault.IsEncoding) : fault.Codeless :=
  (isLocal_iff fault).mp encoding.isLocal

end Fault

/-- The faults of a channel are its own, and carry no result code. -/
structure Channel.OwnFaults (σ : Type) [Channel σ] : Prop where
  send : ∀ request, (Channel.send request : Action Fault σ Unit).FailsOnly Fault.Codeless
  receive : (Channel.receive : Action Fault σ Bytes).FailsOnly Fault.Codeless
  reopen : (Channel.reopen : Action Fault σ Unit).FailsOnly Fault.Codeless

theorem Tapped.ownFaults {σ : Type} [Channel σ] (own : Channel.OwnFaults σ) :
    Channel.OwnFaults (Tapped σ) where
  send request tapped := own.send request tapped.channel
  receive tapped := own.receive tapped.channel
  reopen tapped := own.reopen tapped.channel

theorem codeless_declaredLength (limit : Nat) (header : Bytes) :
    Fault.Only Fault.Codeless (declaredLength limit header) := by
  unfold declaredLength
  dsimp only
  split
  · exact .error _ rfl
  · split
    · exact .error _ rfl
    · exact .ok _

namespace Inflow

theorem codeless_ended (inflow : Inflow) (activity cause : String) (patience : Duration) :
    (inflow.ended activity cause patience).Codeless := by
  unfold ended
  split <;> rfl

theorem codeless_readExact (activity : String) (patience : Duration) (count : Nat) :
    (readExact activity patience count).FailsOnly Fault.Codeless := by
  intro inflow fault failed
  unfold readExact at failed
  dsimp only at failed
  split at failed
  · cases failed
    exact inflow.codeless_ended _ _ _
  · cases failed

theorem codeless_readFrame (limit : Nat) (patience : Duration) :
    (readFrame limit patience).FailsOnly Fault.Codeless :=
  .bind _ _ (codeless_readExact _ _ _) fun header =>
    .bind _ _ (.ofExcept _ (codeless_declaredLength limit header)) fun _ =>
      .bind _ _ (codeless_readExact _ _ _) fun _ => .pure _

theorem codeless_gather (limit : Nat) (atEnd : Fault) (codeless : atEnd.Codeless)
    (gathered : Bytes) (reads : List Bytes) :
    Fault.Only Fault.Codeless (gather limit atEnd gathered reads).1 := by
  induction reads generalizing gathered with
  | nil => exact .error atEnd codeless
  | cons read reads inductionHypothesis =>
    unfold gather
    dsimp only
    split
    · exact inductionHypothesis _
    · have believed := codeless_declaredLength limit (gathered ++ read)
      split
      · rename_i fault refused
        exact .error fault (believed fault refused)
      · split
        · exact inductionHypothesis _
        · exact .ok _

theorem codeless_gatherFrame (limit : Nat) (patience : Duration) :
    (gatherFrame limit patience).FailsOnly Fault.Codeless :=
  fun inflow => codeless_gather limit _ (inflow.codeless_ended _ _ _) [] inflow.reads

end Inflow

namespace Connection

theorem codeless_reopen : reopen.FailsOnly Fault.Codeless := by
  intro connection fault failed
  unfold reopen at failed
  dsimp only at failed
  split at failed
  · cases failed
    rfl
  · split at failed
    · cases failed
      rfl
    · cases failed

theorem codeless_opened : opened.FailsOnly Fault.Codeless := by
  refine .bind _ _ .get fun connection => ?_
  split
  · exact .pure _
  · exact .throw _ rfl
  · exact .throw _ rfl
  · exact .bind _ _ codeless_reopen fun _ => .bind _ _ .get fun _ => .pure _

theorem codeless_send (request : Bytes) : (send request).FailsOnly Fault.Codeless := by
  refine .bind _ _ codeless_opened fun inflow => .bind _ _ .get fun connection => ?_
  split
  · exact fun _ _ failed => nomatch failed
  · exact .throw _ rfl
  · exact .pure ()

theorem codeless_receive : receive.FailsOnly Fault.Codeless := by
  refine .bind _ _ codeless_opened fun inflow => .bind _ _ .get fun connection => ?_
  refine .bind _ _ (fun _ _ failed => nomatch failed) fun _ => .ofExcept _ ?_
  split
  · exact Inflow.codeless_gatherFrame _ _ inflow
  · exact Inflow.codeless_readFrame _ _ inflow

theorem ownFaults : Channel.OwnFaults Connection :=
  ⟨codeless_send, codeless_receive, codeless_reopen⟩

theorem codeless_connect (settings : Settings) (site : Site) :
    Fault.Only Fault.Codeless (connect settings site) := by
  intro fault failed
  unfold connect at failed
  dsimp only at failed
  split at failed
  · cases failed
  · rename_i other _ refused
    cases failed
    exact codeless_reopen _ fault (congrArg Prod.fst refused)

end Connection

namespace Settings

theorem codeless_endpointOf (lookup : String → Option String) :
    Fault.Only Fault.Codeless (endpointOf lookup) := by
  unfold endpointOf
  split
  · exact .ok _
  · split
    · exact .ok _
    · split
      · exact .ok _
      · exact .error _ rfl
  · exact .ok _

theorem codeless_ofEnvironment (lookup : String → Option String) :
    Fault.Only Fault.Codeless (ofEnvironment lookup) := by
  refine .bind _ _ (codeless_endpointOf lookup) fun endpoint => ?_
  split
  · exact .ok _
  · split
    · exact .ok _
    · exact .error _ rfl

theorem codeless_validate (settings : Settings) : Fault.Only Fault.Codeless settings.validate := by
  unfold validate
  split
  · exact .error _ rfl
  · split
    · exact .error _ rfl
    · split
      · exact .error _ rfl
      · exact .ok _

end Settings

end TrustedPlatform

import TrustedPlatform.Proofs.Client.RelayedCalls
import TrustedPlatform.Proofs.Tool.Leaving

/-!
# The status of a failed call

Of the status that a call of the tool ends with, the operating system keeps the low eight bits.
They tell every failure from success but one kind: a refusal by the module with a result code whose
low byte is zero (`Failure.keptStatus_eq_zero_iff`).  Such a code is always the one that the last
request of the call was answered with: `Invocation.processStatus_eq_zero_iff`.
-/

set_option autoImplicit false

namespace TrustedPlatform.Tool

/-- What the operating system keeps of the status that a program ends with. -/
def keptStatus (status : Int) : Nat := (status % 256).toNat

def Report.processStatus {σ : Type} (report : Report σ) : Nat := keptStatus report.exitStatus

theorem keptStatus_toInt32 (code : UInt32) : keptStatus code.toInt32.toInt = code.toNat % 256 := by
  have signed : code.toInt32.toInt = (code.toNat : Int).bmod (2 ^ 32) := by
    rw [Int32.toInt, UInt32.toBitVec_toInt32, BitVec.toInt_eq_toNat_bmod, UInt32.toNat_toBitVec]
  have low : (code.toNat : Int).bmod (2 ^ 32) % 256 = (code.toNat : Int) % 256 := by
    rw [Int.bmod_def]
    split <;> omega
  rw [keptStatus, signed, low]
  omega

namespace Failure

theorem exitStatus_of_code (failure : Failure) (code : UInt32)
    (carries : failure.resultCode? = some code) : failure.exitStatus = code.toInt32.toInt := by
  obtain ⟨trail, cause⟩ := failure
  cases cause with
  | module fault =>
    have same : fault.resultCode? = some code := carries
    simp only [exitStatus, same]
  | input _ => cases carries
  | unfinished => cases carries
  | overflow => cases carries

theorem exitStatus_of_codeless (failure : Failure) (codeless : failure.Codeless) :
    failure.exitStatus = -1 ∨ failure.exitStatus = -2 ∨ failure.exitStatus = 101 := by
  obtain ⟨trail, cause⟩ := failure
  cases cause with
  | input fault => exact Or.inr (Or.inl (exitStatus_of_input trail fault))
  | module fault =>
    exact Or.inl (exitStatus_of_local trail fault ((Fault.isLocal_iff fault).mpr codeless))
  | unfinished => exact Or.inl rfl
  | overflow => exact Or.inr (Or.inr rfl)

/-- Whatever was being done, a failure looks like success exactly if it stands for a result code
whose low byte is zero. -/
theorem keptStatus_eq_zero_iff (failure : Failure) :
    keptStatus failure.exitStatus = 0 ↔
      ∃ code, failure.resultCode? = some code ∧ 256 ∣ code.toNat := by
  cases found : failure.resultCode? with
  | none =>
    refine ⟨fun zero => ?_, fun ⟨_, same, _⟩ => nomatch same⟩
    rcases failure.exitStatus_of_codeless found with status | status | status
    · rw [status] at zero
      exact absurd zero (by decide)
    · rw [status] at zero
      exact absurd zero (by decide)
    · rw [status] at zero
      exact absurd zero (by decide)
  | some code =>
    rw [failure.exitStatus_of_code code found, keptStatus_toInt32, ← Nat.dvd_iff_mod_eq_zero]
    constructor
    · exact fun divides => ⟨code, rfl, divides⟩
    · rintro ⟨_, ⟨⟩, divides⟩
      exact divides

end Failure

variable {σ α : Type}

theorem Invocation.codeless_settings (invocation : Invocation)
    (environment : String → Option String) (failure : Failure)
    (failed : invocation.settings environment = .error failure) : failure.Codeless := by
  unfold Invocation.settings at failed
  split at failed
  · rename_i fault refused
    cases failed
    exact Settings.codeless_ofEnvironment environment fault refused
  · cases failed

theorem Surroundings.codeless_channel (surroundings : Surroundings σ)
    (connecting : ∀ settings, Fault.Only Fault.Codeless (surroundings.connect settings))
    (settings : Settings) (failure : Failure)
    (failed : surroundings.tapped.channel settings = .error failure) : failure.Codeless := by
  unfold Surroundings.channel at failed
  split at failed
  · rename_i fault refused
    cases failed
    exact settings.codeless_validate fault refused
  · split at failed
    · rename_i fault refused
      cases failed
      exact (connecting settings).map _ _ fault refused
    · cases failed

namespace Desk

def record (desk : Desk (Tapped σ)) : List Exchange := desk.client.record

theorem relays_onClient (action : Action Fault (Client (Tapped σ)) α)
    (relays : action.Relays Client.record Fault.resultCode?) :
    (onClient action : Work (Tapped σ) α).Relays record Failure.resultCode? :=
  .zoom _ _ _ (.mapFault Failure.ofFault action relays fun _ => rfl) (fun _ => rfl) fun _ _ => rfl

theorem relays_during (trail : List Activity) (work : Work (Tapped σ) α)
    (relays : work.Relays record Failure.resultCode?) :
    (trail.foldr during work).Relays record Failure.resultCode? := by
  induction trail with
  | nil => exact relays
  | cons activity trail inductionHypothesis =>
    exact .mapFault _ _ inductionHypothesis fun _ => rfl

theorem relays_lending (use : SessionUse) (action : Action Fault (Dispatch (Tapped σ)) α)
    (relays : action.Relays Dispatch.record Fault.resultCode?) :
    (lending use action).Relays Client.record Fault.resultCode? :=
  .zoom _ _ action relays (fun _ => rfl) fun _ _ => rfl

variable [Channel σ] (own : Channel.OwnFaults σ)

include own

theorem relays_maybeAuthorized (ordinal : Ordinal) (entity : Entity) (secret? : Option Secret)
    (action : Action Fault (Dispatch (Tapped σ)) α)
    (relays : action.Relays Dispatch.record Fault.resultCode?) :
    (maybeAuthorized ordinal entity secret? action).Relays record Failure.resultCode? := by
  cases secret? with
  | none =>
    exact relays_during [.performing ordinal] _
      (relays_onClient _ (Client.relays_unauthorized action relays))
  | some secret =>
    have opens : (openFor ordinal entity secret : Action Fault (Client (Tapped σ)) Session).Relays
        Client.record Fault.resultCode? := by
      rw [openFor_eq]
      exact Client.relays_openSession own _ secret
    exact .bind _ _ (relays_during [.openingSession ordinal] _ (relays_onClient _ opens))
      fun session => relays_during [.performing ordinal] _
        (relays_onClient _ (relays_lending _ action relays))

end Desk

section

variable [Channel σ] (own : Channel.OwnFaults σ)

include own

/-- A procedure fails with a result code only if its last request was refused with it. -/
theorem Procedure.relays {work : Work (Tapped σ) α} (procedure : Procedure work) :
    work.Relays Desk.record Failure.resultCode? := by
  induction procedure with
  | aside work isAside =>
    exact .silent work (fun desk => congrArg Client.record (isAside.keeps desk)) isAside.codeless
  | draw => exact Desk.relays_onClient _ Client.relays_drawNonce
  | plain trail call shows action performs =>
    refine Desk.relays_during trail _ (Desk.relays_onClient action (.of_returning action shows ?_))
    rw [← performs]
    exact call.relays_perform own
  | authorized call shows action performs ordinal entity secret? =>
    refine Desk.relays_maybeAuthorized own ordinal entity secret? action
      (.of_returning action shows ?_)
    rw [← performs]
    exact call.relays_perform own
  | bind first next _ _ firstRelays nextRelays => exact .bind first next firstRelays nextRelays

/-- A call that fails with a result code had its last request refused with it. -/
theorem Invocation.relays_run (invocation : Invocation) (surroundings : Surroundings σ)
    (connecting : ∀ settings, Fault.Only Fault.Codeless (surroundings.connect settings))
    (failure : Failure) (code : UInt32)
    (failed : (invocation.run surroundings.tapped).outcome = .error failure)
    (carries : failure.resultCode? = some code) :
    ∃ channel, (invocation.run surroundings.tapped).channel? = some channel ∧
      LastRefused channel.record code := by
  unfold Invocation.run at failed ⊢
  dsimp only at failed ⊢
  cases read : invocation.settings surroundings.tapped.environment with
  | error refused =>
    simp only [read] at failed
    cases failed
    rw [invocation.codeless_settings _ failure read] at carries
    cases carries
  | ok settings =>
    cases met : surroundings.tapped.channel settings with
    | error refused =>
      simp only [read, met] at failed
      cases failed
      rw [surroundings.codeless_channel connecting settings failure met] at carries
      cases carries
    | ok fresh =>
      simp only [read, met] at failed ⊢
      let client := Client.fresh fresh surroundings.tapped.nonces settings.attempts.toNat
      obtain ⟨sent, recorded, refused⟩ := (invocation.subcommand.procedure_perform
        surroundings.tapped.rounds).relays own ⟨client, surroundings.tapped.files, []⟩ _ _ rfl
      have begun : client.link.record = [] := surroundings.channel_tapped settings fresh met
      have whole : _ = client.link.record ++ sent := recorded
      rw [begun, List.nil_append] at whole
      refine ⟨_, rfl, ?_⟩
      have last := refused failure code failed carries
      rw [← whole] at last
      exact last

/-- A call that fails looks like one that succeeds only if the module refused its last request, with
a result code whose low byte is zero.  No other failure does, be it of an input, of the channel or
of what the module answers. -/
theorem Invocation.processStatus_eq_zero_iff (invocation : Invocation)
    (surroundings : Surroundings σ)
    (connecting : ∀ settings, Fault.Only Fault.Codeless (surroundings.connect settings))
    (failure : Failure) (failed : (invocation.run surroundings.tapped).outcome = .error failure) :
    (invocation.run surroundings.tapped).processStatus = 0 ↔
      ∃ channel code, (invocation.run surroundings.tapped).channel? = some channel ∧
        LastRefused channel.record code ∧ failure.resultCode? = some code ∧ 256 ∣ code.toNat := by
  have status : (invocation.run surroundings.tapped).exitStatus = failure.exitStatus := by
    unfold Report.exitStatus
    rw [failed]
  rw [Report.processStatus, status, failure.keptStatus_eq_zero_iff]
  constructor
  · rintro ⟨code, carries, divides⟩
    obtain ⟨channel, left, last⟩ :=
      invocation.relays_run own surroundings connecting failure code failed carries
    exact ⟨channel, code, left, last, carries, divides⟩
  · rintro ⟨_, code, _, _, carries, divides⟩
    exact ⟨code, carries, divides⟩

end

namespace ExitStatus

def surroundings (code : UInt32) : Surroundings Connection where
  environment _ := none
  connect settings := Connection.connect settings (.serving [⟨Leaving.refusal code, false⟩])
  files := ⟨[], .root⟩
  nonces := ⟨fun number => .replicate 20 (.ofNat number), 0⟩
  rounds := 1

def reading : Invocation := ⟨false, .readRegisters (some 0)⟩

def refused (code : UInt32) : Failure :=
  ⟨[.readingRegister 0], .module (.refused .pcrRead code)⟩

/-- A refusal because the module has to be tested first shows. -/
theorem shown_of_refusal :
    (∀ settings, Fault.Only Fault.Codeless ((surroundings 0x801).connect settings)) ∧
      (reading.run (surroundings 0x801).tapped).outcome = .error (refused 0x801) ∧
      (reading.run (surroundings 0x801).tapped).processStatus ≠ 0 := by
  have connecting : ∀ settings, Fault.Only Fault.Codeless ((surroundings 0x801).connect settings) :=
    fun settings => Connection.codeless_connect settings _
  have failed : (reading.run (surroundings 0x801).tapped).outcome = .error (refused 0x801) := rfl
  refine ⟨connecting, failed, fun zero => ?_⟩
  obtain ⟨_, _, _, _, ⟨⟩, divides⟩ := (reading.processStatus_eq_zero_iff Connection.ownFaults
    (surroundings 0x801) connecting _ failed).mp zero
  exact absurd divides (by decide)

/-- A module that is busy makes a call fail with the status of success. -/
theorem hidden_of_busy :
    (reading.run (surroundings ResultCode.retry).tapped).outcome =
        .error (refused ResultCode.retry) ∧
      (reading.run (surroundings ResultCode.retry).tapped).processStatus = 0 :=
  ⟨rfl, rfl⟩

end ExitStatus

end TrustedPlatform.Tool

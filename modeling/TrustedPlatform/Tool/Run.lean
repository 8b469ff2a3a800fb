import TrustedPlatform.Settings
import TrustedPlatform.Text.Lenient
import TrustedPlatform.Tool.Audit
import TrustedPlatform.Tool.Counter
import TrustedPlatform.Tool.Key
import TrustedPlatform.Tool.Register
import TrustedPlatform.Tool.SavedContext
import TrustedPlatform.Tool.Upkeep

/-!
# Running the tool

One call of the tool from the environment to its report: the settings are read and checked, the
module is connected to, and the subcommand is carried out.

* `exitStatus_of_ok`: a run that succeeds ends with zero.
* `run_of_settings_error`: settings that cannot be read end the run before anything is sent.
-/

set_option autoImplicit false

namespace TrustedPlatform.Tool

variable {σ : Type}

/-- Carries out a subcommand.  The count of rounds is for evicting every key. -/
def Subcommand.perform [Channel σ] (rounds : Nat) : Subcommand → Work σ Unit
  | .loadKey parent parentSecret input older => Tool.loadKey parent parentSecret input older
  | .listKeys => Tool.listKeys
  | .evictKey handle => Tool.evictKey handle
  | .evictAll => Tool.evictAll rounds
  | .publicKey handle secret output? => Tool.publicKey handle secret output?
  | .createKey parent parentSecret keySecret migrationPassword? usage bits output =>
    Tool.createKey parent parentSecret keySecret migrationPassword? usage bits output
  | .sign handle secret input output? => Tool.sign handle secret input output?
  | .createCounter ownerSecret password label => Tool.createCounter ownerSecret password label
  | .incrementCounter number password => Tool.incrementCounter number password
  | .readCounter number => Tool.readCounter number
  | .releaseCounter number password byOwner => Tool.releaseCounter number password byOwner
  | .extend register value => Tool.extend register value
  | .readRegisters register? => Tool.readRegisters register?
  | .resetRegisters registers => Tool.resetRegisters registers
  | .readIntegrity index => Tool.readIntegrity index
  | .writeIntegrity index value ownerSecret => Tool.writeIntegrity index value ownerSecret
  | .saveContext handle kind label older output => Tool.saveContext handle kind label older output
  | .loadContext input hint keep older => Tool.loadContext input hint keep older
  | .selfTest remaining => Tool.selfTest remaining
  | .random count stir? output? => Tool.random count stir? output?
  | .capability area detail? => Tool.capability area detail?
  | .auditListing => Tool.auditListing
  | .signedAudit key secret antiReplay? close => Tool.signedAudit key secret antiReplay? close
  | .setAudited ordinal audited ownerSecret => Tool.setAudited ordinal audited ownerSecret
  | .startup kind => Tool.startup kind

/-- What the tool finds where it is called. -/
structure Surroundings (σ : Type) where
  environment : String → Option String
  connect : Settings → Except Fault σ
  files : Files
  nonces : NonceSource
  rounds : Nat

structure Report (σ : Type) where
  outcome : Except Failure Unit
  printed : Bytes
  files : Files
  -- The channel as it was left, if there was one.
  channel? : Option σ

namespace Report

def output (report : Report σ) : String := Text.Lenient.decode report.printed

def exitStatus (report : Report σ) : Int :=
  match report.outcome with
  | .ok () => 0
  | .error failure => failure.exitStatus

def message? (report : Report σ) : Option String :=
  match report.outcome with
  | .ok () => none
  | .error failure => some failure.message

def panicked (report : Report σ) : Bool :=
  match report.outcome with
  | .ok () => false
  | .error failure => failure.isPanic

theorem exitStatus_of_ok (report : Report σ) (succeeded : report.outcome = .ok ()) :
    report.exitStatus = 0 := by
  simp [exitStatus, succeeded]

end Report

def Invocation.settings (invocation : Invocation) (environment : String → Option String) :
    Except Failure Settings :=
  match Settings.ofEnvironment environment with
  | .error fault => .error ((Failure.ofFault fault).during .readingSettings)
  | .ok settings => .ok { settings with dumpWire := invocation.verbose }

def Surroundings.channel (surroundings : Surroundings σ) (settings : Settings) :
    Except Failure σ :=
  match settings.validate with
  | .error fault => .error ((Failure.ofFault fault).during .connecting)
  | .ok () =>
    match surroundings.connect settings with
    | .error fault => .error ((Failure.ofFault fault).during .connecting)
    | .ok channel => .ok channel

def Invocation.run [Channel σ] (invocation : Invocation) (surroundings : Surroundings σ) :
    Report σ :=
  let refuse (failure : Failure) : Report σ := ⟨.error failure, [], surroundings.files, none⟩
  match invocation.settings surroundings.environment with
  | .error failure => refuse failure
  | .ok settings =>
    match surroundings.channel settings with
    | .error failure => refuse failure
    | .ok channel =>
      let client := Client.fresh channel surroundings.nonces settings.attempts.toNat
      let (outcome, desk) :=
        (invocation.subcommand.perform surroundings.rounds).run ⟨client, surroundings.files, []⟩
      ⟨outcome, desk.printed.reverse.flatten, desk.files, some desk.client.link.channel⟩

theorem run_of_settings_error [Channel σ] (invocation : Invocation)
    (surroundings : Surroundings σ) (fault : Fault)
    (refused : Settings.ofEnvironment surroundings.environment = .error fault) :
    invocation.run surroundings =
      ⟨.error ⟨[.readingSettings], .module fault⟩, [], surroundings.files, none⟩ := by
  simp [Invocation.run, Invocation.settings, refused, Failure.during, Failure.ofFault]

end TrustedPlatform.Tool

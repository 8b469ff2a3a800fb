import TrustedPlatform.Client.Audit
import TrustedPlatform.Client.Counter
import TrustedPlatform.Client.Random
import TrustedPlatform.Client.Register
import TrustedPlatform.Client.SavedContext
import TrustedPlatform.Client.Startup

/-!
# Calls

Everything a client can be asked to do, as data, and a workspace in which calls are carried out one
after the other.  The sessions of a workspace have names, so that a call can say which one it is
to be authorized with.

* `perform_of_lost`: a call that names a session which is not held changes nothing.
-/

set_option autoImplicit false

namespace TrustedPlatform

inductive PlainCall where
  | endpoint
  | flush (handle : UInt32) (kind : ResourceKind)
  | evictKey (handle : UInt32)
  | listKeys
  | keyHandles
  | evictAll (rounds : Nat)
  | saveKey (handle : UInt32)
  | loadSavedKey (blob : Bytes)
  | saveContext (handle : UInt32) (kind : ResourceKind) (label : Block 16)
  | loadContext (hint : UInt32) (keep : Bool) (saved : SavedContext)
  | readCounter (number : UInt32)
  | extend (register : UInt32) (value : Digest)
  | readRegister (register : UInt32)
  | resetRegisters (selection : RegisterSelection)
  | readIntegrity (index : UInt32)
  | startup (kind : StartupKind)
  | selfTest
  | continueSelfTest
  | testResult
  | random (count : Nat)
  | stirRandom (entropy : Bytes)
  | capability (area : Capability) (detail : Bytes)
  | capabilityNumber (area : Capability) (detail : UInt32)
  | resourceHandles (kind : ResourceKind)
  | auditPage (start : UInt32)
  | auditListing

inductive AuthorizedCall where
  | loadKey (older : Bool) (parent : UInt32) (key : KeyBlob)
  | publicKey (handle : UInt32)
  | createKey (parent : UInt32) (usage migration : Secret) (template : KeyBlob)
  | sign (handle : UInt32) (message : Bytes)
  | createCounter (secret : Secret) (label : Block 4)
  | incrementCounter (number : UInt32)
  | releaseCounter (byOwner : Bool) (number : UInt32)
  | writeIntegrity (index : UInt32) (value : Digest)
  | signedAudit (key : UInt32) (close : Bool) (antiReplay : Digest)
  | setAudited (ordinal : UInt32) (audited : Bool)

structure Loan where
  name : String
  secret : Secret
  continueSession : Bool

inductive Call where
  | openOiap (name : String)
  | openOsap (name : String) (entity : Entity) (secret : Secret)
  | terminate (name : String)
  | nextNonceOdd (name : String)
  | saveSession (name : String)
  | loadSession (name : String) (blob : Bytes)
  | plain (call : PlainCall)
  | authorized (call : AuthorizedCall) (loan? : Option Loan)

inductive Answer where
  | nothing
  | text (text : String)
  | number (number : Nat)
  | bytes (bytes : Bytes)
  | handles (handles : List UInt32)
  | publicKey (key : PublicKey)
  | key (key : KeyBlob)
  | saved (saved : SavedContext)
  | newCounter (number : UInt32) (value : CounterValue)
  | counter (value : CounterValue)
  | page (page : AuditPage)
  | listing (listing : AuditListing)
  | signedAudit (audit : SignedAudit)
  | unfinished
  | lost

/-- A client with the sessions that are held, by name. -/
structure Workspace (σ : Type) where
  client : Client σ
  sessions : List (String × Session)

namespace Workspace

variable {σ α : Type}

def fresh (client : Client σ) : Workspace σ := ⟨client, []⟩

def session? (workspace : Workspace σ) (name : String) : Option Session :=
  workspace.sessions.lookup name

def drop (workspace : Workspace σ) (name : String) : Workspace σ :=
  { workspace with sessions := workspace.sessions.filter fun held => held.1 != name }

def hold (workspace : Workspace σ) (name : String) (session : Session) : Workspace σ :=
  { workspace with sessions := (name, session) :: (workspace.drop name).sessions }

def onClient (action : Action Fault (Client σ) α) : Action Fault (Workspace σ) α :=
  action.zoom Workspace.client fun client workspace => { workspace with client }

/-- What a session is lent for.  Whatever becomes of the session is kept. -/
def lend (loan? : Option Loan) (action : Action Fault (Dispatch σ) Answer) :
    Action Fault (Workspace σ) Answer :=
  match loan? with
  | none => onClient (Client.unauthorized action)
  | some loan =>
    { run := fun workspace =>
        match workspace.session? loan.name with
        | none => (.ok .lost, workspace)
        | some session =>
          let (outcome, after) :=
            action.run ⟨workspace.client, some ⟨session, loan.secret, loan.continueSession⟩⟩
          let workspace := { workspace with client := after.client }
          match after.use? with
          | none => (outcome, workspace)
          | some use => (outcome, workspace.hold loan.name use.session) }

def entrust (name : String) (action : Action Fault (Custody σ) Answer) :
    Action Fault (Workspace σ) Answer where
  run workspace :=
    match workspace.session? name with
    | none => (.ok .lost, workspace)
    | some session =>
      let (outcome, after) := action.run ⟨workspace.client, session⟩
      (outcome, { workspace with client := after.client }.hold name after.session)

end Workspace

variable {σ : Type} [Channel σ]

def PlainCall.perform : PlainCall → Action Fault (Client σ) Answer
  | .endpoint => do return .text (← get).link.endpoint
  | .flush handle kind => do
    Client.flush handle kind
    return .nothing
  | .evictKey handle => do
    Client.evictKey handle
    return .nothing
  | .listKeys => do return .handles (← Client.listKeys)
  | .keyHandles => do return .handles (← Client.keyHandles)
  | .evictAll rounds => do
    match ← Client.evictAll rounds with
    | some count => return .number count
    | none => return .unfinished
  | .saveKey handle => do return .bytes (← Client.saveKey handle)
  | .loadSavedKey blob => do return .number (← Client.loadSavedKey blob).toNat
  | .saveContext handle kind label => do return .saved (← Client.saveContext handle kind label)
  | .loadContext hint keep saved => do
    return .number (← Client.loadContext hint keep saved).toNat
  | .readCounter number => do return .counter (← Client.readCounter number)
  | .extend register value => do return .bytes (← Client.extend register value).bytes
  | .readRegister register => do return .bytes (← Client.readRegister register).bytes
  | .resetRegisters selection => do
    Client.resetRegisters selection
    return .nothing
  | .readIntegrity index => do return .bytes (← Client.readIntegrity index).bytes
  | .startup kind => do
    Client.startup kind
    return .nothing
  | .selfTest => do
    Client.selfTest
    return .nothing
  | .continueSelfTest => do
    Client.continueSelfTest
    return .nothing
  | .testResult => do return .bytes (← Client.testResult)
  | .random count => do return .bytes (← Client.random count)
  | .stirRandom entropy => do
    Client.stirRandom entropy
    return .nothing
  | .capability area detail => do return .bytes (← Client.capability area detail)
  | .capabilityNumber area detail => do
    return .number (← Client.capabilityNumber area detail).toNat
  | .resourceHandles kind => do return .handles (← Client.resourceHandles kind)
  | .auditPage start => do return .page (← Client.auditPage start)
  | .auditListing => do return .listing (← Client.auditListing)

def AuthorizedCall.perform : AuthorizedCall → Action Fault (Dispatch σ) Answer
  | .loadKey older parent key => do return .number (← Dispatch.loadKey older parent key).toNat
  | .publicKey handle => do return .publicKey (← Dispatch.publicKey handle)
  | .createKey parent usage migration template => do
    return .key (← Dispatch.createKey parent usage migration template)
  | .sign handle message => do return .bytes (← Dispatch.sign handle message)
  | .createCounter secret label => do
    let (number, value) ← Dispatch.createCounter secret label
    return .newCounter number value
  | .incrementCounter number => do return .counter (← Dispatch.incrementCounter number)
  | .releaseCounter byOwner number => do
    Dispatch.releaseCounter byOwner number
    return .nothing
  | .writeIntegrity index value => do
    Dispatch.writeIntegrity index value
    return .nothing
  | .signedAudit key close antiReplay => do
    return .signedAudit (← Dispatch.signedAudit key close antiReplay)
  | .setAudited ordinal audited => do
    Dispatch.setAudited ordinal audited
    return .nothing

def Call.perform : Call → Action Fault (Workspace σ) Answer
  | .openOiap name => do
    let session ← Workspace.onClient Client.openOiap
    modify fun workspace => workspace.hold name session
    return .nothing
  | .openOsap name entity secret => do
    let session ← Workspace.onClient (Client.openOsap entity secret)
    modify fun workspace => workspace.hold name session
    return .nothing
  | .terminate name => do
    match (← get).session? name with
    | none => return .lost
    | some session =>
      modify fun workspace => workspace.drop name
      Workspace.onClient (Client.terminate session)
      return .nothing
  | .nextNonceOdd name => Workspace.entrust name do
    return .bytes (← Custody.nextNonceOdd).bytes
  | .saveSession name => Workspace.entrust name do return .bytes (← Custody.save)
  | .loadSession name blob => Workspace.entrust name do
    Custody.load blob
    return .nothing
  | .plain call => Workspace.onClient call.perform
  | .authorized call loan? => Workspace.lend loan? call.perform

def Workspace.run (workspace : Workspace σ) : List Call → List (Except Fault Answer) × Workspace σ
  | [] => ([], workspace)
  | call :: calls =>
    let (outcome, after) := call.perform.run workspace
    let (outcomes, final) := after.run calls
    (outcome :: outcomes, final)

theorem perform_of_lost (call : AuthorizedCall) (loan : Loan) (workspace : Workspace σ)
    (lost : workspace.session? loan.name = none) :
    (Call.perform (.authorized call (some loan))).run workspace = (.ok .lost, workspace) := by
  simp [Call.perform, Workspace.lend, lost]

end TrustedPlatform

import TrustedPlatform.Proofs.Client.Loading
import TrustedPlatform.Proofs.Client.Relaying
import TrustedPlatform.Proofs.Register.Selection
import TrustedPlatform.Tool.Run

/-!
# Procedures

What a subcommand does is put together from asides, which leave the client alone, and from calls,
one after the other: `Subcommand.procedure_perform`.  What holds of each of these, and of a sequence
if it holds of its parts, holds of every subcommand, by induction on `Procedure`.
-/

set_option autoImplicit false

namespace TrustedPlatform.Tool

def Failure.resultCode? (failure : Failure) : Option UInt32 :=
  match failure.cause with
  | .module fault => fault.resultCode?
  | .input _ | .unfinished | .overflow => none

def Failure.Codeless (failure : Failure) : Prop := failure.resultCode? = none

variable {σ α β : Type}

def Desk.sameClient : Later (Desk σ) where
  related before after := after.client = before.client
  refl _ := rfl
  trans _ _ _ early late := late.trans early

/-- Work that has nothing to do with the client, nor with result codes. -/
structure Aside (work : Work σ α) : Prop where
  keeps : work.Keeps Desk.sameClient
  codeless : work.FailsOnly Failure.Codeless

namespace Aside

theorem pure (value : α) : Aside (Pure.pure value : Work σ α) := ⟨.pure value, .pure value⟩

theorem get : Aside (MonadState.get : Work σ (Desk σ)) := ⟨.get, .get⟩

theorem throw (failure : Failure) (codeless : failure.Codeless) :
    Aside (MonadExcept.throw failure : Work σ α) := ⟨.throw failure, .throw failure codeless⟩

theorem bind (first : Work σ α) (next : α → Work σ β) (firstAside : Aside first)
    (nextAside : ∀ value, Aside (next value)) : Aside (first >>= next) :=
  ⟨.bind _ _ firstAside.keeps fun value => (nextAside value).keeps,
    .bind _ _ firstAside.codeless fun value => (nextAside value).codeless⟩

theorem forM (items : List α) (work : α → Work σ Unit) (isAside : ∀ item, Aside (work item)) :
    Aside (items.forM work) := by
  induction items with
  | nil => exact .pure ()
  | cons item items inductionHypothesis =>
    exact .bind _ _ (isAside item) fun _ => inductionHypothesis

theorem emit (bytes : Bytes) : Aside (Desk.emit bytes : Work σ Unit) :=
  ⟨fun _ => rfl, fun _ _ failed => nomatch failed⟩

theorem print (line : String) : Aside (Desk.print line : Work σ Unit) := emit _

theorem reject (fault : InputFault) : Aside (Desk.reject fault : Work σ α) := throw _ rfl

theorem input (read : Files → Except InputFault α) : Aside (Desk.input read : Work σ α) := by
  refine .bind _ _ .get fun desk => ⟨.ofExcept _, .ofExcept _ fun failure failed => ?_⟩
  cases found : read desk.files with
  | ok value =>
    rw [found] at failed
    cases failed
  | error fault =>
    rw [found] at failed
    cases failed
    rfl

theorem checked (outcome : Except Fault α) (encodes : Fault.Only Fault.IsEncoding outcome) :
    Aside (Desk.checked outcome : Work σ α) := by
  refine ⟨.ofExcept _, .ofExcept _ fun failure failed => ?_⟩
  cases outcome with
  | ok value => cases failed
  | error fault =>
    cases failed
    exact (encodes fault rfl).codeless

theorem stored (path : String) (stored : Except SystemFault Files) :
    Aside (match stored with
      | .error cause => Desk.reject (.cannotWrite path cause)
      | .ok files => modify fun desk => { desk with files } : Work σ Unit) := by
  cases stored with
  | error cause => exact reject _
  | ok files => exact ⟨fun _ => rfl, fun _ _ failed => nomatch failed⟩

theorem write (path : String) (contents : Bytes) :
    Aside (Desk.write path contents : Work σ Unit) := by
  refine .bind _ _ .get fun desk => ?_
  dsimp only
  split
  · exact reject _
  · split
    · exact .bind _ _ (emit contents) fun _ => stored path _
    · exact stored path _

theorem showHandles (handles : List UInt32) : Aside (Tool.showHandles handles : Work σ Unit) :=
  forM _ _ fun _ => print _

theorem deliver (output? : Option String) (bytes : Bytes) :
    Aside (match output? with
      | some output => Desk.write output bytes
      | none => Desk.print (Text.Hex.encode bytes) : Work σ Unit) := by
  cases output? with
  | some output => exact write _ _
  | none => exact print _

theorem showAudit (counter : CounterValue) (digest : Digest) :
    Aside (Tool.showAudit counter digest : Work σ Unit) :=
  .bind _ _ (print _) fun _ => print _

end Aside

variable [Channel σ]

/-- Work that is put together from asides and calls.  Something may be shown of what a call
yields, and a call that can be authorized gets a session if there is a secret for one. -/
inductive Procedure : {α : Type} → Work σ α → Prop where
  | aside {α : Type} (work : Work σ α) (isAside : Aside work) : Procedure work
  | draw : Procedure (Desk.onClient Client.drawNonce)
  | plain {α : Type} (trail : List Activity) (call : PlainCall) (shows : α → Answer)
      (action : Action Fault (Client σ) α)
      (performs : call.perform = action >>= fun value => pure (shows value)) :
      Procedure (trail.foldr Desk.during (Desk.onClient action))
  | authorized {α : Type} (call : AuthorizedCall) (shows : α → Answer)
      (action : Action Fault (Dispatch σ) α)
      (performs : call.perform = action >>= fun value => pure (shows value))
      (ordinal : Ordinal) (entity : Entity) (secret? : Option Secret) :
      Procedure (Desk.maybeAuthorized ordinal entity secret? action)
  | bind {α β : Type} (first : Work σ α) (next : α → Work σ β) (firstProcedure : Procedure first)
      (nextProcedure : ∀ value, Procedure (next value)) : Procedure (first >>= next)

namespace Procedure

theorem within (activity : Activity) (call : PlainCall) (shows : α → Answer)
    (action : Action Fault (Client σ) α)
    (performs : call.perform = action >>= fun value => pure (shows value)) :
    Procedure (Desk.during activity (Desk.onClient action)) :=
  .plain [activity] call shows action performs

theorem print (line : String) : Procedure (Desk.print line : Work σ Unit) := aside _ (.print line)

theorem input (read : Files → Except InputFault α) : Procedure (Desk.input read : Work σ α) :=
  aside _ (.input read)

theorem listKeys : Procedure (Tool.listKeys : Work σ Unit) := by
  refine .bind _ _ (.within .listingKeys .listKeys .handles _ rfl) fun handles => .aside _ ?_
  dsimp only
  split
  · exact .bind _ _ (.print _) fun _ => .showHandles handles
  · exact .showHandles handles

theorem evictAll (rounds : Nat) : Procedure (Tool.evictAll rounds : Work σ Unit) := by
  refine .bind _ _ (.within .evictingKeys (.evictAll rounds)
    (fun evicted? => evicted?.elim .unfinished .number) _ ?_) fun evicted? => .aside _ ?_
  · refine congrArg (Client.evictAll rounds >>= ·) (funext fun evicted? => ?_)
    cases evicted? with
    | none => rfl
    | some evicted => rfl
  · cases evicted? with
    | none => exact .throw _ rfl
    | some evicted => exact .print _

theorem showRow (first others : Nat) : Procedure (Tool.showRow first others : Work σ Unit) := by
  induction others generalizing first with
  | zero => exact .aside _ (.pure ())
  | succ others inductionHypothesis =>
    exact .bind _ _ (.within (.readingRegister _) (.readRegister (UInt32.ofNat first))
      (fun value => .bytes value.bytes) _ rfl) fun _ =>
        .bind _ _ (.print _) fun _ => inductionHypothesis (first + 1)

theorem readRegisters (register? : Option UInt32) :
    Procedure (Tool.readRegisters register? : Work σ Unit) := by
  cases register? with
  | some register =>
    refine .bind _ _ (.aside _ ⟨.ofExcept _, .ofExcept _ fun failure failed => ?_⟩)
      fun _ => showRow _ _
    unfold numberBehind at failed
    split at failed
    · cases failed
    · cases failed
      rfl
  | none =>
    exact .bind _ _ (.within .countingRegisters (.capabilityNumber .property registerCountProperty)
      (fun count => .number count.toNat) _ rfl) fun _ => showRow _ _

theorem resetRegisters (registers : List UInt32) :
    Procedure (Tool.resetRegisters registers : Work σ Unit) :=
  .bind _ _ (.aside _ (.checked _ (RegisterSelection.only_ofIndices registers))) fun selection =>
    .bind _ _ (.within .resettingRegisters (.resetRegisters selection) (fun _ => .nothing) _ rfl)
      fun _ => .print _

theorem savedBlob (handle : UInt32) (kind : ResourceKind) (text : String) (older : Bool) :
    Procedure (Tool.savedBlob handle kind text older : Work σ Bytes) := by
  unfold Tool.savedBlob
  split
  · split
    · exact .within (.savingKey handle) (.saveKey handle) .bytes _ rfl
    · exact .aside _ (.reject _)
  · exact .bind _ _ (.input _) fun name =>
      .bind _ _ (.within (.savingContext handle) (.saveContext handle kind name) .saved _ rfl)
        fun saved => .aside _ (.checked _ saved.only_encode)

theorem loadContext (input : String) (hint : UInt32) (keep older : Bool) :
    Procedure (Tool.loadContext input hint keep older : Work σ Unit) := by
  unfold Tool.loadContext
  dsimp only
  split
  · exact .bind _ _ (.input _) fun blob => .bind _ _ (.within .loadingKey (.loadSavedKey blob)
      (fun handle => .number handle.toNat) _ rfl) fun _ => .print _
  · exact .bind _ _ (.input _) fun saved => .bind _ _ (.within .loadingContext
      (.loadContext hint keep saved) (fun handle => .number handle.toNat) _ rfl) fun _ => .print _

theorem selfTest (remaining : Bool) : Procedure (Tool.selfTest remaining : Work σ Unit) := by
  have shows : Procedure (do
      let result ← Desk.during .readingTestResult (Desk.onClient Client.testResult)
      Desk.print s!"Self-test result: {Text.Hex.encode result}" : Work σ Unit) :=
    .bind _ _ (.within .readingTestResult .testResult .bytes _ rfl) fun _ => .print _
  unfold Tool.selfTest
  dsimp only
  split
  · exact .bind _ _ (.within .continuingSelfTest .continueSelfTest (fun _ => .nothing) _ rfl)
      fun _ => shows
  · exact .bind _ _ (.within .selfTesting .selfTest (fun _ => .nothing) _ rfl) fun _ => shows

theorem random (count : Nat) (stir? output? : Option String) :
    Procedure (Tool.random count stir? output? : Work σ Unit) := by
  have drawing : Procedure (Desk.during .drawingRandom (Desk.onClient (Client.random count)) :
      Work σ Bytes) := .within .drawingRandom (.random count) .bytes _ rfl
  have draws := bind _ _ drawing fun drawn => .aside _ (.deliver output? drawn)
  cases stir? with
  | none => exact draws
  | some text =>
    exact .bind _ _ (.bind _ _ (.input _) fun entropy =>
      .within .stirring (.stirRandom entropy) (fun _ => .nothing) _ rfl) fun _ => draws

theorem capability (area : Capability) (detail? : Option UInt32) :
    Procedure (Tool.capability area detail? : Work σ Unit) := by
  unfold Tool.capability
  split
  · split
    · exact .aside _ (.reject _)
    · rename_i kind _
      exact .bind _ _ (.plain [] (.resourceHandles kind) .handles _ rfl)
        fun handles => .aside _ (.showHandles handles)
  · exact .bind _ _ (.plain [] .keyHandles .handles _ rfl)
      fun handles => .aside _ (.showHandles handles)
  · rename_i property
    exact .bind _ _ (.plain [] (.capabilityNumber .property property)
      (fun value => .number value.toNat) _ rfl) fun _ => .print _
  · exact .bind _ _ (.plain [] (.capability area _) .bytes _ rfl) fun _ => .print _

theorem auditListing : Procedure (Tool.auditListing : Work σ Unit) :=
  .bind _ _ (.within .readingAudit .auditListing .listing _ rfl) fun listing =>
    .aside _ (.bind _ _ (.showAudit listing.counter listing.digest) fun _ =>
      .forM _ _ fun _ => .print _)

theorem publicKey (handle : UInt32) (keySecret : SecretSource) (output? : Option String) :
    Procedure (Tool.publicKey handle keySecret output? : Work σ Unit) := by
  refine .bind _ _ (.input _) fun secret? =>
    .bind _ _ (.authorized (.publicKey handle) .publicKey _ rfl _ _ secret?) fun key => .aside _ ?_
  cases output? with
  | none => exact .print _
  | some output =>
    exact .bind _ _ (.checked _ key.only_encode) fun _ => .bind _ _ (.write _ _) fun _ => .print _

theorem createKey (parent : UInt32) (parentSecret keySecret : SecretSource)
    (migrationPassword? : Option String) (usage : KeyUsage) (bits : UInt32) (output : String) :
    Procedure (Tool.createKey parent parentSecret keySecret migrationPassword? usage bits output :
      Work σ Unit) :=
  .bind _ _ (.input _) fun _ => .bind _ _ (.input _) fun keySecret =>
    .bind _ _ (.authorized (.createKey parent keySecret _ _) .key _ rfl _ _ (some _)) fun key =>
      .aside _ (.bind _ _ (.checked _ key.only_encode) fun _ => .bind _ _ (.write _ _)
        fun _ => .print _)

theorem sign (handle : UInt32) (keySecret : SecretSource) (input : String)
    (output? : Option String) :
    Procedure (Tool.sign handle keySecret input output? : Work σ Unit) :=
  .bind _ _ (.input _) fun message => .bind _ _ (.input _) fun secret? =>
    .bind _ _ (.authorized (.sign handle (Sha1.hash message).bytes) .bytes _ rfl _ _ secret?)
      fun signature => .aside _ (.deliver output? signature)

theorem signedAudit (key : UInt32) (keySecret : SecretSource) (value? : Option Digest)
    (close : Bool) : Procedure (Tool.signedAudit key keySecret value? close : Work σ Unit) := by
  refine .bind _ _ (.input _) fun secret? => .bind _ _ ?_ fun value =>
    .bind _ _ (.authorized (.signedAudit key close value) .signedAudit _ rfl _ _ secret?)
      fun signed => .aside _ (.bind _ _ (.showAudit signed.counter signed.digest) fun _ =>
        .bind _ _ (.print _) fun _ => .print _)
  cases value? with
  | some value => exact .aside _ (.pure value)
  | none => exact .draw

end Procedure

theorem Subcommand.procedure_perform (rounds : Nat) (subcommand : Subcommand) :
    Procedure (subcommand.perform rounds : Work σ Unit) := by
  cases subcommand with
  | loadKey parent secret input older =>
    exact .bind _ _ (.input _) fun key => .bind _ _ (.input _) fun secret? =>
      .bind _ _ (.authorized (.loadKey older parent key) (fun handle => .number handle.toNat) _ rfl
        _ _ secret?) fun _ => .print _
  | listKeys => exact .listKeys
  | evictKey handle =>
    exact .bind _ _ (.within (.evictingKey handle) (.evictKey handle) (fun _ => .nothing) _ rfl)
      fun _ => .print _
  | evictAll => exact .evictAll rounds
  | publicKey handle secret output? => exact .publicKey handle secret output?
  | createKey parent parentSecret keySecret password? usage bits output =>
    exact .createKey parent parentSecret keySecret password? usage bits output
  | sign handle secret input output? => exact .sign handle secret input output?
  | createCounter secret password label =>
    exact .bind _ _ (.input _) fun owner => .bind _ _ (.input _) fun name =>
      .bind _ _ (.authorized (.createCounter (.ofPassword password) name)
        (fun created => .newCounter created.1 created.2) _ rfl _ _ (some owner)) fun _ => .print _
  | incrementCounter number password =>
    exact .bind _ _ (.authorized (.incrementCounter number) .counter _ rfl _ _ (some _))
      fun _ => .print _
  | readCounter number =>
    exact .bind _ _ (.within (.readingCounter number) (.readCounter number) .counter _ rfl)
      fun _ => .print _
  | releaseCounter number password byOwner =>
    exact .bind _ _ (.authorized (.releaseCounter byOwner number) (fun _ => .nothing) _ rfl
      _ _ (some _)) fun _ => .print _
  | extend register value =>
    exact .bind _ _ (.within (.extendingRegister register) (.extend register value)
      (fun after => .bytes after.bytes) _ rfl) fun _ => .print _
  | readRegisters register? => exact .readRegisters register?
  | resetRegisters registers => exact .resetRegisters registers
  | readIntegrity index =>
    exact .bind _ _ (.within (.readingIntegrity index) (.readIntegrity index)
      (fun value => .bytes value.bytes) _ rfl) fun _ => .print _
  | writeIntegrity index value secret =>
    exact .bind _ _ (.input _) fun owner => .bind _ _ (.authorized (.writeIntegrity index value)
      (fun _ => .nothing) _ rfl _ _ (some owner)) fun _ => .print _
  | saveContext handle kind label older output =>
    exact .bind _ _ (.savedBlob handle kind label older) fun _ => .aside _ (.write _ _)
  | loadContext input hint keep older => exact .loadContext input hint keep older
  | selfTest remaining => exact .selfTest remaining
  | random count stir? output? => exact .random count stir? output?
  | capability area detail? => exact .capability area detail?
  | auditListing => exact .auditListing
  | signedAudit key secret value? close => exact .signedAudit key secret value? close
  | setAudited ordinal audited secret =>
    exact .bind _ _ (.input _) fun owner => .bind _ _ (.authorized (.setAudited ordinal audited)
      (fun _ => .nothing) _ rfl _ _ (some owner)) fun _ => .print _
  | startup kind => exact .within .starting (.startup kind) (fun _ => .nothing) _ rfl

end TrustedPlatform.Tool

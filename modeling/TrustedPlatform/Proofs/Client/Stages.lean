import TrustedPlatform.Client.Call
import TrustedPlatform.Proofs.Action.Keeps
import TrustedPlatform.Proofs.Structure.Faults

/-!
# The stages of an authorized call

Every call that may take a session makes up its command (`AuthorizedCall.prepare`), has it
dispatched, and reads the reply (`AuthorizedCall.finish`): `AuthorizedCall.perform_eq`.  Only the
dispatch uses the link; before it at most an odd nonce is drawn ahead
(`AuthorizedCall.run_prepare`), and after it only the inventory changes
(`AuthorizedCall.run_finish`).
-/

set_option autoImplicit false

namespace TrustedPlatform.AuthorizedCall

variable {σ : Type}

def prepare : AuthorizedCall → Action Fault (Dispatch σ) Command
  | .loadKey older parent key => do
    let parameters ← Action.ofExcept key.encode
    return {
      ordinal := if older then .loadKey else .loadKey2
      handles := [parent]
      parameters
      outputHandles := 1
      digestsHandles := older }
  | .publicKey handle => return { ordinal := .getPubKey, handles := [handle] }
  | .createKey parent usage migration template => do
    let (shared, nonceEven) ← Dispatch.maskingSecret (fun _ => true) .keyNeedsParentSession
    let nonceOdd ← Dispatch.nextNonceOdd
    let template ← Action.ofExcept template.encode
    return {
      ordinal := .createWrapKey
      handles := [parent]
      parameters :=
        (Secret.conceal shared nonceEven usage).bytes ++
          (Secret.conceal shared nonceOdd migration).bytes ++ template }
  | .sign handle message => do
    let parameters ← Action.ofExcept (Bytes.sized message)
    return { ordinal := .sign, handles := [handle], parameters }
  | .createCounter secret label => do
    let _ ← Dispatch.maskingSecret (fun entity => entity.kind = .owner) .counterNeedsOwnerSession
    return { ordinal := .createCounter, parameters := label.bytes, newSecret := some secret }
  | .incrementCounter number =>
    return { ordinal := .incrementCounter, parameters := Bytes.word32 number }
  | .releaseCounter byOwner number =>
    return {
      ordinal := if byOwner then .releaseCounterOwner else .releaseCounter
      parameters := Bytes.word32 number }
  | .writeIntegrity index value =>
    return { ordinal := .dirWriteAuth, parameters := Bytes.word32 index ++ value.bytes }
  | .signedAudit key close antiReplay =>
    return {
      ordinal := .getAuditDigestSigned
      handles := [key]
      parameters := Bytes.flag close ++ antiReplay.bytes }
  | .setAudited ordinal audited =>
    return {
      ordinal := .setOrdinalAuditStatus
      parameters := Bytes.word32 ordinal ++ Bytes.flag audited }

def finish (call : AuthorizedCall) (reply : Reply) : Action Fault (Dispatch σ) Answer :=
  match call with
  | .loadKey _ _ key => do
    let handle ← Action.ofExcept reply.handle
    Action.ofExcept (reply.decode (pure ()))
    Dispatch.onClient (Client.note fun inventory => inventory.addKey handle (some key.publicKey))
    return .number handle.toNat
  | .publicKey handle => do
    let key ← Action.ofExcept (reply.decode PublicKey.decode)
    Dispatch.onClient (Client.note fun inventory => inventory.addKey handle (some key))
    return .publicKey key
  | .createKey _ _ _ _ => do
    let key ← Action.ofExcept (reply.decode KeyBlob.decode)
    return .key key
  | .sign _ _ => do
    let signature ← Action.ofExcept (reply.decode Decoder.sized)
    return .bytes signature
  | .createCounter _ _ => do
    let (number, value) ← Action.ofExcept (reply.decode do
      let number ← Decoder.word32
      let value ← CounterValue.decode
      return (number, value))
    return .newCounter number value
  | .incrementCounter _ => do
    let value ← Action.ofExcept (reply.decode CounterValue.decode)
    return .counter value
  | .releaseCounter _ _ => do
    Action.ofExcept (reply.decode (pure ()))
    return .nothing
  | .writeIntegrity _ _ => do
    Action.ofExcept (reply.decode (pure ()))
    return .nothing
  | .signedAudit _ _ _ => do
    let signed ← Action.ofExcept (reply.decode do
      let counter ← CounterValue.decode
      let digest ← Decoder.digest
      let ordinalDigest ← Decoder.digest
      let signature ← Decoder.sized
      return SignedAudit.mk counter digest ordinalDigest signature)
    Dispatch.onClient (Client.note fun inventory =>
      { inventory with audit := inventory.audit.report signed.digest signed.counter })
    return .signedAudit signed
  | .setAudited ordinal audited => do
    Action.ofExcept (reply.decode (pure ()))
    Dispatch.onClient (Client.note fun inventory =>
      { inventory with audit := inventory.audit.setAudited ordinal audited })
    return .nothing

theorem perform_eq [Channel σ] (call : AuthorizedCall) :
    (call.perform : Action Fault (Dispatch σ) Answer) =
      prepare call >>= fun command => Dispatch.execute command >>= fun reply =>
        finish call reply := by
  cases call with
  | loadKey older parent key =>
    simp only [perform, Dispatch.loadKey, Dispatch.askHandle, prepare, finish, bind_assoc,
      pure_bind]
  | publicKey handle =>
    simp only [perform, Dispatch.publicKey, Dispatch.ask, prepare, finish, bind_assoc, pure_bind]
  | createKey parent usage migration template =>
    simp only [perform, Dispatch.createKey, Dispatch.ask, prepare, finish, bind_assoc, pure_bind]
  | sign handle message =>
    simp only [perform, Dispatch.sign, Dispatch.ask, prepare, finish, bind_assoc, pure_bind]
  | createCounter secret label =>
    simp only [perform, Dispatch.createCounter, Dispatch.ask, prepare, finish, bind_assoc,
      pure_bind]
  | incrementCounter number =>
    simp only [perform, Dispatch.incrementCounter, Dispatch.ask, prepare, finish, bind_assoc,
      pure_bind]
  | releaseCounter byOwner number =>
    simp only [perform, Dispatch.releaseCounter, Dispatch.ask, prepare, finish, bind_assoc,
      pure_bind]
  | writeIntegrity index value =>
    simp only [perform, Dispatch.writeIntegrity, Dispatch.ask, prepare, finish, bind_assoc,
      pure_bind]
  | signedAudit key close antiReplay =>
    simp only [perform, Dispatch.signedAudit, Dispatch.ask, prepare, finish, bind_assoc,
      pure_bind]
  | setAudited ordinal audited =>
    simp only [perform, Dispatch.setAudited, Dispatch.ask, prepare, finish, bind_assoc, pure_bind]

/-- Of a dispatch, only what is known about the module may change, and of that neither the open
sessions nor the saved ones that were loaded again. -/
def onlyRecords : Later (Dispatch σ) where
  related before after :=
    ∃ inventory, after = { before with client := { before.client with inventory } } ∧
      inventory.sessions = before.client.inventory.sessions ∧
      inventory.spent = before.client.inventory.spent
  refl dispatch := ⟨dispatch.client.inventory, rfl, rfl, rfl⟩
  trans := by
    rintro first _ _ ⟨_, rfl, sessions, spent⟩ ⟨inventory, rfl, sessionsLate, spentLate⟩
    exact ⟨inventory, rfl, sessionsLate.trans sessions, spentLate.trans spent⟩

/-- The changes that a reply may make to what is known about the module. -/
inductive Notes : AuthorizedCall → (Inventory → Inventory) → Prop where
  | loadKey (older : Bool) (parent : UInt32) (key : KeyBlob) (handle : UInt32) :
      Notes (.loadKey older parent key)
        fun inventory => inventory.addKey handle (some key.publicKey)
  | publicKey (handle : UInt32) (key : PublicKey) :
      Notes (.publicKey handle) fun inventory => inventory.addKey handle (some key)
  | signedAudit (key : UInt32) (close : Bool) (antiReplay : Digest) (signed : SignedAudit) :
      Notes (.signedAudit key close antiReplay) fun inventory =>
        { inventory with audit := inventory.audit.report signed.digest signed.counter }
  | setAudited (ordinal : UInt32) (audited : Bool) :
      Notes (.setAudited ordinal audited) fun inventory =>
        { inventory with audit := inventory.audit.setAudited ordinal audited }

/-- A reply names neither the open sessions nor the saved ones that were loaded again. -/
theorem Notes.same {call : AuthorizedCall} {change : Inventory → Inventory}
    (notes : call.Notes change) (inventory : Inventory) :
    (change inventory).sessions = inventory.sessions ∧
      (change inventory).spent = inventory.spent := by
  cases notes <;> exact ⟨rfl, rfl⟩

theorem keeps_finish {later : Later (Dispatch σ)} (call : AuthorizedCall) (reply : Reply)
    (notes : ∀ change, call.Notes change →
      (Dispatch.onClient (Client.note change) : Action Fault (Dispatch σ) Unit).Keeps later) :
    (finish call reply : Action Fault (Dispatch σ) Answer).Keeps later := by
  cases call with
  | loadKey older parent key =>
    exact .bind _ _ (.ofExcept _) fun handle => .bind _ _ (.ofExcept _) fun _ =>
      .bind _ _ (notes _ (.loadKey older parent key handle)) fun _ => .pure _
  | publicKey handle =>
    exact .bind _ _ (.ofExcept _) fun key =>
      .bind _ _ (notes _ (.publicKey handle key)) fun _ => .pure _
  | createKey parent usage migration template => exact .bind _ _ (.ofExcept _) fun _ => .pure _
  | sign handle message => exact .bind _ _ (.ofExcept _) fun _ => .pure _
  | createCounter secret label => exact .bind _ _ (.ofExcept _) fun _ => .pure _
  | incrementCounter number => exact .bind _ _ (.ofExcept _) fun _ => .pure _
  | releaseCounter byOwner number => exact .bind _ _ (.ofExcept _) fun _ => .pure _
  | writeIntegrity index value => exact .bind _ _ (.ofExcept _) fun _ => .pure _
  | signedAudit key close antiReplay =>
    exact .bind _ _ (.ofExcept _) fun signed =>
      .bind _ _ (notes _ (.signedAudit key close antiReplay signed)) fun _ => .pure _
  | setAudited ordinal audited =>
    exact .bind _ _ (.ofExcept _) fun _ =>
      .bind _ _ (notes _ (.setAudited ordinal audited)) fun _ => .pure _

theorem run_finish (call : AuthorizedCall) (reply : Reply) (dispatch : Dispatch σ) :
    ∃ outcome inventory, (finish call reply).run dispatch =
        (outcome, { dispatch with client := { dispatch.client with inventory } }) ∧
      inventory.sessions = dispatch.client.inventory.sessions ∧
      inventory.spent = dispatch.client.inventory.spent := by
  have keeps : (finish call reply : Action Fault (Dispatch σ) Answer).Keeps onlyRecords := by
    refine keeps_finish call reply fun change notes dispatch => ?_
    exact ⟨change dispatch.client.inventory, rfl, notes.same dispatch.client.inventory⟩
  obtain ⟨inventory, left, same⟩ := keeps dispatch
  exact ⟨_, inventory, Prod.ext rfl left, same⟩

def unchanged : Later (Dispatch σ) where
  related before after := after = before
  refl _ := rfl
  trans := by
    rintro _ _ _ rfl rfl
    rfl

theorem keeps_maskingSecret (allowed : Entity → Bool) (otherwise : EncodingCause) :
    (Dispatch.maskingSecret allowed otherwise : Action Fault (Dispatch σ) _).Keeps unchanged := by
  refine .bind _ _ .get fun dispatch => ?_
  split
  · split
    · exact .pure _
    · exact .throw _
  · exact .throw _

/-- Whether a call draws its odd nonce ahead, because its parameters depend on it. -/
def drawsAhead : AuthorizedCall → Bool
  | .createKey _ _ _ _ => true
  | _ => false

theorem keeps_prepare (call : AuthorizedCall) (plain : call.drawsAhead = false) :
    (prepare call : Action Fault (Dispatch σ) Command).Keeps unchanged := by
  cases call with
  | loadKey older parent key => exact .bind _ _ (.ofExcept _) fun _ => .pure _
  | publicKey handle => exact .pure _
  | createKey parent usage migration template => cases plain
  | sign handle message => exact .bind _ _ (.ofExcept _) fun _ => .pure _
  | createCounter secret label => exact .bind _ _ (keeps_maskingSecret _ _) fun _ => .pure _
  | incrementCounter number => exact .pure _
  | releaseCounter byOwner number => exact .pure _
  | writeIntegrity index value => exact .pure _
  | signedAudit key close antiReplay => exact .pure _
  | setAudited ordinal audited => exact .pure _

theorem failsOnly_maskingSecret (allowed : Entity → Bool) (otherwise : EncodingCause) :
    (Dispatch.maskingSecret allowed otherwise : Action Fault (Dispatch σ) _).FailsOnly
      Fault.IsEncoding := by
  refine .bind _ _ .get fun dispatch => ?_
  split
  · split
    · exact .pure _
    · exact .throw _ ⟨_, rfl⟩
  · exact .throw _ ⟨_, rfl⟩

theorem failsOnly_prepare (call : AuthorizedCall) (plain : call.drawsAhead = false) :
    (prepare call : Action Fault (Dispatch σ) Command).FailsOnly Fault.IsEncoding := by
  cases call with
  | loadKey older parent key => exact .bind _ _ (.ofExcept _ key.only_encode) fun _ => .pure _
  | publicKey handle => exact .pure _
  | createKey parent usage migration template => cases plain
  | sign handle message =>
    exact .bind _ _ (.ofExcept _ (Bytes.only_sized message)) fun _ => .pure _
  | createCounter secret label =>
    exact .bind _ _ (failsOnly_maskingSecret _ _) fun _ => .pure _
  | incrementCounter number => exact .pure _
  | releaseCounter byOwner number => exact .pure _
  | writeIntegrity index value => exact .pure _
  | signedAudit key close antiReplay => exact .pure _
  | setAudited ordinal audited => exact .pure _

/-- Making up a command either leaves everything as it is or draws an odd nonce ahead; if that
fails, so does the call.  Otherwise only a value that cannot be encoded stands in the way. -/
theorem run_prepare (call : AuthorizedCall) (dispatch : Dispatch σ) :
    (((prepare call).run dispatch).2 = dispatch ∧
        Fault.Only Fault.IsEncoding ((prepare call).run dispatch).1 ∧
        (call.drawsAhead = true → ∃ fault, ((prepare call).run dispatch).1 = .error fault)) ∨
      (((prepare call).run dispatch).2 = (Dispatch.nextNonceOdd.run dispatch).2 ∧
        match (Dispatch.nextNonceOdd.run dispatch).1 with
        | .error fault => ((prepare call).run dispatch).1 = .error fault
        | .ok _ => Fault.Only Fault.IsEncoding ((prepare call).run dispatch).1) := by
  cases ahead : call.drawsAhead with
  | false =>
    exact Or.inl ⟨keeps_prepare call ahead dispatch, failsOnly_prepare call ahead dispatch,
      fun same => nomatch same⟩
  | true =>
    cases call with
    | createKey parent usage migration template =>
      unfold prepare
      rw [Action.run_bind]
      have kept := keeps_maskingSecret (fun _ => true) .keyNeedsParentSession dispatch
      have failing := failsOnly_maskingSecret (fun _ => true) .keyNeedsParentSession dispatch
      cases masking : (Dispatch.maskingSecret (fun _ => true) .keyNeedsParentSession :
          Action Fault (Dispatch σ) _).run dispatch with
      | mk outcome between =>
        rw [masking] at kept failing
        obtain rfl : between = dispatch := kept
        cases outcome with
        | error fault => exact Or.inl ⟨rfl, .error fault (failing fault rfl), fun _ => ⟨fault, rfl⟩⟩
        | ok secrets =>
          right
          dsimp only
          rw [Action.run_bind]
          cases Dispatch.nextNonceOdd.run between with
          | mk drawn after =>
            cases drawn with
            | error fault => exact ⟨rfl, rfl⟩
            | ok nonceOdd =>
              dsimp only
              rw [Action.run_bind, Action.run_ofExcept]
              have encoding := template.only_encode
              cases encoded : template.encode with
              | error fault => exact ⟨rfl, .error fault (encoding fault encoded)⟩
              | ok _ => exact ⟨rfl, .ok _⟩
    | loadKey _ _ _ => cases ahead
    | publicKey _ => cases ahead
    | sign _ _ => cases ahead
    | createCounter _ _ => cases ahead
    | incrementCounter _ => cases ahead
    | releaseCounter _ _ => cases ahead
    | writeIntegrity _ _ => cases ahead
    | signedAudit _ _ _ => cases ahead
    | setAudited _ _ => cases ahead

end TrustedPlatform.AuthorizedCall

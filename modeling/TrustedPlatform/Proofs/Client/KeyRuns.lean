import TrustedPlatform.Channel.Script
import TrustedPlatform.Proofs.Client.Mirroring
import TrustedPlatform.Proofs.Client.Runs
import TrustedPlatform.Proofs.Module.Calling

/-!
# Runs of calls about keys

Through every run of the calls that have to do with keys, a client knows the keys of a module: their
handles, and no public part but theirs (`Workspace.keysMirrored_run`).  It makes no difference under
which handles the module puts its keys, or which of the calls it refuses.
-/

set_option autoImplicit false

namespace TrustedPlatform

open TrustedPlatform.Action

variable {σ : Type} [Channel σ]

theorem KeyBlob.complete_of_encode (key : KeyBlob) (bytes : Bytes)
    (consistent : key.parameters.IsConsistent) (encoded : key.encode = .ok bytes) :
    KeyBlob.decode.complete bytes = .ok key := by
  obtain ⟨fits, rfl⟩ := (key.sends.ok_iff bytes).mp encoded
  exact (KeyBlob.reads.complete_iff _ key).mpr
    ⟨consistent, fun part among => .of_not_exceeds (fits part among), rfl⟩

def PlainCall.isAboutKeys : PlainCall → Bool
  | .flush _ _ | .evictKey _ | .listKeys | .evictAll _ | .saveKey _ | .loadSavedKey _
  | .saveContext _ _ _ | .loadContext _ _ _ => true
  | _ => false

theorem PlainCall.perform_mirrors (call : PlainCall) (about : call.isAboutKeys = true) :
    (call.perform : Action Fault (Client (Tapped σ)) Answer).Keeps Later.mirroring := by
  cases call with
  | flush handle kind => exact .bind _ _ (Client.flush_mirrors handle kind) fun _ => .pure _
  | evictKey handle => exact .bind _ _ (Client.evictKey_mirrors handle) fun _ => .pure _
  | listKeys => exact .bind _ _ Client.listKeys_mirrors fun _ => .pure _
  | evictAll rounds =>
    refine .bind _ _ (Client.evictAll_mirrors rounds) fun count => ?_
    cases count with
    | none => exact .pure _
    | some _ => exact .pure _
  | saveKey handle =>
    exact .bind _ _ (Client.keeps_ask_of_leaves _ _ ⟨rfl, rfl, rfl⟩ rfl rfl) fun _ => .pure _
  | loadSavedKey blob => exact .bind _ _ (Client.loadSavedKey_mirrors blob) fun _ => .pure _
  | saveContext handle kind label =>
    exact .bind _ _ (Client.saveContext_mirrors handle kind label) fun _ => .pure _
  | loadContext hint keep saved =>
    exact .bind _ _ (Client.loadContext_mirrors hint keep saved) fun _ => .pure _
  | _ => cases about

namespace AuthorizedCall

/-- The calls that have to do with keys and may take a session.  A key that is loaded has the
parameters of the algorithm that it names. -/
def IsAboutKeys : AuthorizedCall → Prop
  | .loadKey _ _ key => key.parameters.IsConsistent
  | .publicKey _ | .createKey _ _ _ _ | .sign _ _ => True
  | _ => False

variable (call : AuthorizedCall) (about : call.IsAboutKeys)

include about

omit [Channel σ] in
theorem prepare_plain :
    (prepare call : Action Fault (Dispatch (Tapped σ)) Command).Yields fun command =>
      command.newSecret = none ∧ command.ordinal.isRetryable = false := by
  cases call with
  | loadKey older parent key =>
    refine .bind _ _ fun parameters => .pure _ ⟨rfl, ?_⟩
    cases older <;> rfl
  | publicKey handle => exact .pure _ ⟨rfl, rfl⟩
  | createKey parent usage migration template =>
    exact .bind _ _ fun _ => .bind _ _ fun _ => .bind _ _ fun _ => .pure _ ⟨rfl, rfl⟩
  | sign handle message => exact .bind _ _ fun _ => .pure _ ⟨rfl, rfl⟩
  | _ => cases about

omit [Channel σ] in
/-- The reply to a call about keys changes what is known of them as the call was granted. -/
theorem finish_takesOver (dispatch prepared : Dispatch (Tapped σ)) (command : Command)
    (made : (prepare call).run dispatch = (.ok command, prepared)) :
    Client.TakesOver Dispatch.client command
      (finish call : Reply → Action Fault (Dispatch (Tapped σ)) Answer) where
  still := by
    intro reply state
    obtain ⟨outcome, inventory, finished, _⟩ := call.run_finish reply state
    rw [finished]
  noted := by
    intro reply state store last mirrors granted
    cases call with
    | loadKey older parent key =>
      obtain ⟨parameters, between, encoded, shown⟩ := (bind_eq_ok_iff _ _ _ _ _).mp made
      have isKey := key.complete_of_encode parameters about (congrArg Prod.fst encoded)
      cases shown
      have loading : store.Grants [parent] parameters .loads reply last := by
        cases older with
        | false => exact granted
        | true => exact granted
      cases loading with
      | loads loaded handle found _ =>
        obtain rfl : key = loaded := Except.ok.inj (isKey.symm.trans found)
        exact mirrors.put handle key.publicKey _ fun _ known => (Option.some.inj known).symm
    | publicKey handle =>
      cases made
      change store.Grants [handle] [] .shows reply last at granted
      cases granted with
      | shows _ key _ named held shown =>
        cases named
        unfold finish
        rw [run_bind, run_ofExcept, Reply.decode, shown]
        exact mirrors.shown handle key held
    | createKey parent usage migration template =>
      obtain ⟨secrets, _, _, made⟩ := (bind_eq_ok_iff _ _ _ _ _).mp made
      obtain ⟨nonceOdd, _, _, made⟩ := (bind_eq_ok_iff _ _ _ _ _).mp made
      obtain ⟨bytes, _, _, shown⟩ := (bind_eq_ok_iff _ _ _ _ _).mp made
      cases shown
      change store.Grants [parent] _ .leaves reply last at granted
      cases granted
      unfold finish
      rw [run_bind, run_ofExcept]
      cases reply.decode KeyBlob.decode with
      | error fault => exact mirrors
      | ok key => exact mirrors
    | sign handle message =>
      obtain ⟨parameters, _, _, shown⟩ := (bind_eq_ok_iff _ _ _ _ _).mp made
      cases shown
      change store.Grants [handle] _ .leaves reply last at granted
      cases granted
      unfold finish
      rw [run_bind, run_ofExcept]
      cases reply.decode Decoder.sized with
      | error fault => exact mirrors
      | ok signature => exact mirrors
    | _ => cases about

omit [Channel σ] about in
theorem prepare_mirrors (dispatch : Dispatch (Tapped σ)) :
    Later.mirroring.related dispatch.client ((prepare call).run dispatch).2.client := by
  rcases call.run_prepare dispatch with ⟨same, _⟩ | ⟨same, _⟩
  · rw [same]
    exact Later.mirroring.refl _
  · rw [same]
    obtain ⟨client, use?⟩ := dispatch
    cases use? with
    | none => exact Later.mirroring.refl client
    | some use => exact Later.mirroring_of_same rfl rfl

omit [Channel σ] about in
theorem unlent_prepare (client : Client (Tapped σ)) :
    ((prepare call).run ⟨client, none⟩).2.use? = none := by
  rcases call.run_prepare (⟨client, none⟩ : Dispatch (Tapped σ)) with ⟨same, _⟩ | ⟨same, _⟩
  · exact congrArg Dispatch.use? same
  · exact congrArg Dispatch.use? same

theorem perform_mirrors (dispatch : Dispatch (Tapped σ))
    (authentic : ∀ command prepared, (prepare call).run dispatch = (.ok command, prepared) →
      prepared.Authentic command) :
    Later.mirroring.related dispatch.client
      ((call.perform : Action Fault (Dispatch (Tapped σ)) Answer).run dispatch).2.client := by
  have begun := call.prepare_mirrors dispatch
  rw [call.perform_eq, run_bind]
  cases made : (prepare call).run dispatch with
  | mk outcome prepared =>
    rw [made] at begun
    cases outcome with
    | error fault => exact begun
    | ok command =>
      obtain ⟨plain, once⟩ := call.prepare_plain about _ _ _ made
      obtain ⟨sent, commands⟩ := Dispatch.execute_commands command
        (call.standard_prepare _ _ _ made) plain prepared (authentic command prepared made) once
      exact Later.mirroring.trans _ _ _ begun
        (commands.mirroring (call.finish_takesOver about dispatch prepared command made))

end AuthorizedCall

namespace Workspace

/-- Whatever success a call is answered under the session that it is lent, the session accepts. -/
def AnsweredAuthentically (workspace : Workspace σ) (call : AuthorizedCall)
    (loan? : Option Loan) : Prop :=
  ∀ loan session command prepared, loan? = some loan →
    workspace.session? loan.name = some session →
    (call.prepare).run
      ⟨workspace.client, some ⟨session, loan.secret, loan.continueSession⟩⟩ =
        (.ok command, prepared) →
    prepared.Authentic command

/-- A call has to do with keys, or opens a session. -/
def TendsKeys (workspace : Workspace σ) : Call → Prop
  | .openOiap _ | .openOsap _ _ _ => True
  | .plain call => call.isAboutKeys = true
  | .authorized call loan? =>
    call.IsAboutKeys ∧ workspace.AnsweredAuthentically call loan?
  | _ => False

theorem lend_mirrors (workspace : Workspace (Tapped σ)) (call : AuthorizedCall)
    (loan? : Option Loan) (about : call.IsAboutKeys)
    (authentic : workspace.AnsweredAuthentically call loan?) :
    Later.mirroring.related workspace.client
      ((lend loan? call.perform).run workspace).2.client := by
  cases loan? with
  | none =>
    refine call.perform_mirrors about ⟨workspace.client, none⟩ fun command prepared made => ?_
    have unlent := call.unlent_prepare workspace.client
    rw [made] at unlent
    intro use _ _ _ _ _ lent
    exact nomatch unlent.symm.trans lent
  | some loan =>
    rw [run_lend]
    cases held : workspace.session? loan.name with
    | none => exact Later.mirroring.refl _
    | some session =>
      have kept := call.perform_mirrors about
        ⟨workspace.client, some ⟨session, loan.secret, loan.continueSession⟩⟩
        fun command prepared made => authentic loan session command prepared rfl held made
      dsimp only
      split
      · exact kept
      · exact kept

theorem openSession_mirrors (workspace : Workspace (Tapped σ)) (name : String)
    (kind : SessionKind) (secret : Secret) :
    Later.mirroring.related workspace.client
      ((openSession name kind secret).run workspace).2.client := by
  have kept := Client.openSession_mirrors kind secret workspace.client
  cases opened : (Client.openSession kind secret).run workspace.client with
  | mk outcome after =>
    rw [opened] at kept
    cases outcome with
    | error fault =>
      rw [run_openSession_of_error workspace name kind secret fault after opened]
      exact kept
    | ok session =>
      rw [run_openSession_of_ok workspace name kind secret session after opened]
      exact kept

theorem perform_mirrors (workspace : Workspace (Tapped σ)) (call : Call)
    (tends : workspace.TendsKeys call) :
    Later.mirroring.related workspace.client (call.perform.run workspace).2.client := by
  cases call with
  | openOiap name =>
    rw [Call.perform_openOiap]
    exact openSession_mirrors workspace name _ _
  | openOsap name entity secret =>
    rw [Call.perform_openOsap]
    exact openSession_mirrors workspace name _ _
  | plain call => exact call.perform_mirrors tends workspace.client
  | authorized call loan? =>
    obtain ⟨about, authentic⟩ := tends
    exact lend_mirrors workspace call loan? about authentic
  | _ => cases tends

/-- After every call of a run, the keys that the client knows are those that the module holds. -/
theorem keysMirrored_run (workspace : Workspace (Tapped σ)) (calls earlier : List Call)
    (unknown : workspace.client.inventory.keys = .empty)
    (tends : workspace.Throughout TendsKeys calls) (isPrefix : earlier <+: calls) :
    ∃ sent,
      (workspace.run earlier).2.client.link.record = workspace.client.link.record ++ sent ∧
        ∀ store, KeyStore.empty.Serves sent store →
          store.Mirrors (workspace.run earlier).2.client.inventory := by
  obtain ⟨later, rfl⟩ := isPrefix
  have kept : Later.mirroring.related workspace.client (workspace.run earlier).2.client := by
    refine tends.before.keeps
      (fun after => Later.mirroring.related workspace.client after.client) ?_
      (Later.mirroring.refl _)
    intro before call tends kept
    exact Later.mirroring.trans _ _ _ kept (perform_mirrors before call tends)
  obtain ⟨sent, recorded, knows⟩ := kept
  exact ⟨sent, recorded, fun store => knows .empty store (.of_empty _ unknown)⟩

namespace Reuse

def firstKey : PublicKey := ⟨⟨2, 0, 0, .raw []⟩, ⟨[7]⟩⟩

def secondKey : PublicKey := ⟨⟨2, 0, 0, .raw []⟩, ⟨[8]⟩⟩

def answer (reply : Reply) : Bytes := (Command.success .response reply []).frame

def replies : List Reply := [⟨[5], []⟩, ⟨[], firstKey.written⟩, ⟨[], []⟩, ⟨[5], []⟩]

def workspace : Workspace (Tapped Script) :=
  .fresh (.fresh ⟨.ofEntries (replies.map fun reply => .answer (answer reply)), none, []⟩
    ⟨fun number => Block.replicate 20 (.ofNat number), 0⟩ 1)

def calls : List Call :=
  [.plain (.loadSavedKey [0xaa]), .authorized (.publicKey 5) none, .plain (.evictKey 5),
    .plain (.loadSavedKey [0xbb])]

def commands : List Command :=
  [{ ordinal := .loadKeyContext, parameters := Bytes.withLength [0xaa] },
    { ordinal := .getPubKey, handles := [5] }, { ordinal := .evictKey, handles := [5] },
    { ordinal := .loadKeyContext, parameters := Bytes.withLength [0xbb] }]

theorem serves_calls : KeyStore.empty.Serves (workspace.run calls).2.client.link.record
    (((KeyStore.empty.put 5 firstKey).remove 5).put 5 secondKey) := by
  have record : (workspace.run calls).2.client.link.record =
      List.zipWith (fun command reply => ⟨command.plainFrame, .ok (answer reply)⟩) commands
        replies := rfl
  rw [record]
  refine .answers _ _ _ _ _ _ _ ⟨⟨.request, rfl, rfl⟩, rfl⟩
    (.grants .response _ [] _ rfl rfl rfl (by decide) (.loadsSaved firstKey 5 rfl)) ?_
  refine .answers _ _ _ _ _ _ _ ⟨⟨.request, rfl, rfl⟩, rfl⟩
    (.grants .response _ [] _ rfl rfl rfl (by decide) (.shows 5 firstKey _ rfl rfl rfl)) ?_
  refine .answers _ _ _ _ _ _ _ ⟨⟨.request, rfl, rfl⟩, rfl⟩
    (.grants .response _ [] _ rfl rfl rfl (by decide) (.removes 5 _ rfl)) ?_
  refine .answers _ _ _ _ _ _ _ ⟨⟨.request, rfl, rfl⟩, rfl⟩
    (.grants .response _ [] _ rfl rfl rfl (by decide) (.loadsSaved secondKey 5 rfl)) ?_
  exact .done _

/-- The key that was put under the handle last is known, and nothing of the one before it. -/
theorem keysMirrored_of_reuse :
    (((KeyStore.empty.put 5 firstKey).remove 5).put 5 secondKey).Mirrors
        (workspace.run calls).2.client.inventory ∧
      (workspace.run calls).2.client.inventory.keys.contains 5 = true ∧
      (workspace.run calls).2.client.inventory.publicKey? 5 = none := by
  have tends : workspace.Throughout TendsKeys calls := by
    refine ⟨rfl, ⟨trivial, ?_⟩, rfl, rfl, trivial⟩
    intro loan session command prepared lent
    cases lent
  obtain ⟨sent, recorded, mirrors⟩ := keysMirrored_run workspace calls calls rfl tends
    (List.prefix_refl calls)
  have served := serves_calls
  rw [recorded] at served
  exact ⟨mirrors _ served, rfl, rfl⟩

end Reuse

end Workspace

end TrustedPlatform

import TrustedPlatform.Proofs.Client.Custody
import TrustedPlatform.Proofs.Client.Retry
import TrustedPlatform.Proofs.Module.Coupling
import TrustedPlatform.Proofs.Module.Hearing

/-!
# Moving a session out of a module and back

When a client moves a session out of an honest module, the module's copy goes into the blob
(`Custody.save_moves`), and when it loads that blob, the copy comes back under the handle that the
session has then (`Custody.load_moves`).
-/

set_option autoImplicit false

namespace TrustedPlatform

variable {σ : Type} [Channel σ]

theorem Client.run_unauthorized_ask {τ α : Type} [Channel τ] (command : Command)
    (decoder : Decoder α) (client : Client τ) (answer : Except Fault Bytes) (link : Link τ)
    (once : command.ordinal.isRetryable = false) (plain : command.newSecret = none)
    (fits : command.plainFrame.length < Bytes.capacity 4)
    (transmitted : (Link.transmit command.plainFrame).run client.link = (answer, link)) :
    (unauthorized (Dispatch.ask command decoder)).run client =
      (command.value decoder answer, { client with link }) := by
  unfold unauthorized Dispatch.ask Command.value
  rw [Action.run_zoom, Action.run_bind, Dispatch.run_execute_once command client _ _ once
    (Dispatch.executeOnce_of_plain command client answer link plain fits transmitted)]
  cases command.read 0 answer with
  | error fault => rfl
  | ok parts => rfl

theorem Command.length_plainFrame_saving (handle : UInt32) :
    (saving handle).plainFrame.length < Bytes.capacity 4 := by
  unfold plainFrame
  rw [Request.length_frame]
  simp [saving, headerSize, Bytes.capacity]

namespace Custody

theorem save_of_transmitted {τ : Type} [Channel τ] (client : Client τ) (session : Session)
    (answer : Except Fault Bytes) (link : Link τ) (active : session.status = .active)
    (transmitted : (Link.transmit (Command.saving session.handle).plainFrame).run client.link =
      (answer, link)) :
    (save (σ := τ)).run ⟨client, session⟩ =
      match (Command.saving session.handle).value Decoder.sized answer with
      | .ok blob =>
        (.ok blob, ⟨{ client with
          link
          inventory := client.inventory.removeSession session.handle }, session.suspend⟩)
      | .error fault => (.error fault, ⟨{ client with link }, session⟩) := by
  have asked : (Client.unauthorized (Dispatch.ask
      { ordinal := .saveAuthContext, handles := [session.handle] } Decoder.sized)).run client =
        ((Command.saving session.handle).value Decoder.sized answer, { client with link }) :=
    Client.run_unauthorized_ask (Command.saving session.handle) _ client answer link rfl rfl
      (Command.length_plainFrame_saving _) transmitted
  have usable : session.isActive = true := decide_eq_true active
  unfold save
  rw [Action.run_bind, Action.run_get]
  dsimp only
  rw [usable, if_neg (by decide), Action.run_bind, onClient, Action.run_zoom]
  dsimp only
  rw [asked]
  cases (Command.saving session.handle).value Decoder.sized answer with
  | error fault => rfl
  | ok blob => rfl

theorem save_of_inactive {τ : Type} [Channel τ] (client : Client τ) (session : Session)
    (inactive : session.status ≠ .active) :
    (save (σ := τ)).run ⟨client, session⟩ =
      (.error (.sessionClosed session.handle), ⟨client, session⟩) := by
  have unusable : session.isActive = false := decide_eq_false inactive
  unfold save
  rw [Action.run_bind, Action.run_get]
  dsimp only
  rw [unusable]
  rfl

/-- A client moves a session out: it stays as it is, or goes into a blob on both sides. -/
theorem save_moves (client after : Client (Tapped σ)) (session left : Session)
    (outcome : Except Fault Bytes) (vault next : Vault) (clean : client.link.spoiled = false)
    (held : session.status = .active → vault.Holds session)
    (ran : (save (σ := Tapped σ)).run ⟨client, session⟩ = (outcome, ⟨after, left⟩))
    (hears : vault.Hears client.link after.link next) :
    after.link.spoiled = false ∧ after.nonces = client.nonces ∧
      ((left = session ∧ next = vault ∧ ∃ fault, outcome = .error fault ∧
          fault.Harmless session.Unusable client.link after.link after.nonces) ∨
        ∃ blob, outcome = .ok blob ∧ session.status = .active ∧ left = session.suspend ∧
          vault.MovesOut session blob next) := by
  by_cases active : session.status = .active
  · cases transmitted : (Link.transmit (Command.saving session.handle).plainFrame).run
        client.link with
    | mk answer link =>
      rw [save_of_transmitted client session answer link active transmitted] at ran
      obtain ⟨recorded, staysClean⟩ := Link.transmit_tapped_of_clean _ _ _ _ clean transmitted
      have reached : after.link = link := by
        cases valued : (Command.saving session.handle).value Decoder.sized answer with
        | error fault =>
          rw [valued] at ran
          cases ran
          rfl
        | ok blob =>
          rw [valued] at ran
          cases ran
          rfl
      rw [reached] at hears
      have reads := (Command.saving session.handle).reads_plainFrame rfl
      obtain ⟨response, rfl, answers⟩ := hears.answers recorded reads
      have stays := staysClean response rfl
      rcases answers.saves (held active) with
        ⟨code, refuses, failed, rfl⟩ | ⟨blob, succeeded, moves⟩
      · rw [failed] at ran
        cases ran
        have refused := Link.refused_of_answered recorded reads refuses
        exact ⟨stays, rfl, Or.inl ⟨rfl, rfl, _, rfl, .refused _ code refused⟩⟩
      · rw [succeeded] at ran
        cases ran
        exact ⟨stays, rfl, Or.inr ⟨blob, rfl, active, rfl, moves⟩⟩
  · rw [save_of_inactive client session active] at ran
    cases ran
    obtain rfl := hears.still rfl
    exact ⟨clean, rfl, Or.inl ⟨rfl, rfl, _, rfl, .withheld _ ⟨active, rfl⟩⟩⟩

end Custody

theorem Command.length_plainFrame_loading (blob : Bytes) :
    (loading blob).plainFrame.length = headerSize + 4 + blob.length := by
  unfold plainFrame
  rw [Request.length_frame]
  simp [loading, Nat.add_assoc]

namespace Custody

/-- A blob that is too long is not loaded: nothing is sent.  Any other is loaded if the answer says
so. -/
theorem loadBlob_cases {τ : Type} [Channel τ] (blob : Bytes) (client : Client τ) :
    (Bytes.capacity 4 ≤ (Command.loading blob).plainFrame.length ∧
        ∃ cause, (loadBlob blob).run client = (.error (.encoding cause), client)) ∨
      ∃ answer link,
        (Link.transmit (Command.loading blob).plainFrame).run client.link = (answer, link) ∧
        (loadBlob blob).run client =
          (((Command.loading blob).read 0 answer).map Prod.fst >>= Reply.onlyHandle,
            { client with link }) := by
  unfold loadBlob
  rw [Action.run_bind, Action.run_ofExcept]
  cases sized : Bytes.sized blob with
  | error fault =>
    obtain ⟨cause, rfl⟩ := Bytes.only_sized blob fault sized
    have large : ¬ blob.length < Bytes.capacity 4 := by
      intro fits
      rw [(Bytes.sized_eq_ok_iff blob _).mpr ⟨fits, rfl⟩] at sized
      cases sized
    rw [Command.length_plainFrame_loading]
    exact Or.inl ⟨by omega, cause, rfl⟩
  | ok parameters =>
    obtain ⟨_, rfl⟩ := (Bytes.sized_eq_ok_iff _ _).mp sized
    have asked : ∀ outcome after,
        (Dispatch.executeOnce (Command.loading blob)).run ⟨client, none⟩ =
          (outcome, ⟨after, none⟩) →
        (Client.unauthorized (Dispatch.askHandle
          { ordinal := .loadAuthContext, parameters := Bytes.bigEndian 4 blob.length ++ blob })).run
            client = (outcome >>= Reply.onlyHandle, after) := by
      intro outcome after ran
      have executed := Dispatch.run_execute_once (Command.loading blob) client after outcome rfl ran
      rw [Client.unauthorized, Action.run_zoom, Dispatch.run_askHandle
        { ordinal := .loadAuthContext, parameters := Bytes.bigEndian 4 blob.length ++ blob }
        ⟨client, none⟩ ⟨after, none⟩ outcome executed]
    by_cases fits : (Command.loading blob).plainFrame.length < Bytes.capacity 4
    · right
      cases transmitted : (Link.transmit (Command.loading blob).plainFrame).run client.link with
      | mk answer link =>
        exact ⟨answer, link, rfl, asked _ _ (Dispatch.executeOnce_of_plain (Command.loading blob)
          client answer link rfl fits transmitted)⟩
    · left
      obtain ⟨cause, failed⟩ := Dispatch.executeOnce_of_unsendable (Command.loading blob) client
        fun sendable => fits sendable.2
      exact ⟨Nat.not_lt.mp fits, cause, asked _ _ failed⟩

/-- Why a module is not asked to bring a session back. -/
inductive Unloadable (inventory : Inventory) (session : Session) (blob : Bytes) : Fault → Prop where
  | present (present : session.status ≠ .suspended) :
      Unloadable inventory session blob (.sessionClosed session.handle)
  | spent (spent : Sha1.hash blob ∈ inventory.spent) :
      Unloadable inventory session blob .contextReused
  | oversized (cause : EncodingCause)
      (large : Bytes.capacity 4 ≤ (Command.loading blob).plainFrame.length) :
      Unloadable inventory session blob (.encoding cause)

theorem claiming_cases {τ α : Type} (blob : Bytes) (action : Action Fault (Client τ) α)
    (client : Client τ) :
    (Sha1.hash blob ∈ client.inventory.spent ∧
        (claiming blob action).run client = (.error .contextReused, client)) ∨
      ∃ claimed noted, (claiming blob action).run client =
        ((action.run { client with inventory := claimed }).1,
          { (action.run { client with inventory := claimed }).2 with inventory := noted }) := by
  rw [run_claiming]
  split
  · rename_i spent
    exact Or.inl ⟨spent, rfl⟩
  · right
    refine ⟨client.inventory.spend blob, ?_⟩
    rw [run_releasing blob action _ _ _ rfl]
    cases (action.run { client with inventory := client.inventory.spend blob }).1 with
    | error fault => exact ⟨_, rfl⟩
    | ok value => exact ⟨_, rfl⟩

/-- A client brings a session back from the blob that it was moved out in: it stays away, or comes
back on both sides. -/
theorem load_moves (client after : Client (Tapped σ)) (session left : Session) (blob : Bytes)
    (outcome : Except Fault Unit) (vault next : Vault) (clean : client.link.spoiled = false)
    (kept : session.status = .suspended → vault.Keeps blob session)
    (ran : (load (σ := Tapped σ) blob).run ⟨client, session⟩ = (outcome, ⟨after, left⟩))
    (hears : vault.Hears client.link after.link next) :
    after.link.spoiled = false ∧ after.nonces = client.nonces ∧
      Fault.Only (Fault.Harmless (Unloadable client.inventory session blob) client.link after.link
        after.nonces) outcome ∧
      ((left = session ∧ next = vault) ∨
        ∃ handle, session.status = .suspended ∧ left = session.resume handle ∧
          vault.MovesIn left blob next) := by
  unfold load at ran
  rw [Action.run_bind, Action.run_get] at ran
  dsimp only at ran
  by_cases suspended : session.status = .suspended
  · rw [if_neg (fun other => other suspended), Action.run_bind, onClient, Action.run_zoom] at ran
    dsimp only at ran
    rcases claiming_cases blob (loadBlob blob) client with
      ⟨spent, reused⟩ | ⟨claimed, noted, claims⟩
    · rw [reused] at ran
      cases ran
      obtain rfl := hears.still rfl
      exact ⟨clean, rfl, .error _ (.withheld _ (.spent spent)), Or.inl ⟨rfl, rfl⟩⟩
    · rw [claims] at ran
      rcases loadBlob_cases blob ({ client with inventory := claimed } : Client (Tapped σ)) with
        ⟨large, cause, failed⟩ | ⟨answer, link, transmitted, loads⟩
      · rw [failed] at ran
        cases ran
        obtain rfl := hears.still rfl
        exact ⟨clean, rfl, .error _ (.withheld _ (.oversized cause large)), Or.inl ⟨rfl, rfl⟩⟩
      · obtain ⟨recorded, staysClean⟩ := Link.transmit_tapped_of_clean _ _ _ _ clean transmitted
        rw [loads] at ran
        -- Whatever the answer says, nothing more is sent.
        have reached : after.link = link := by
          cases found : ((Command.loading blob).read 0 answer).map Prod.fst >>=
              Reply.onlyHandle with
          | error fault =>
            rw [found] at ran
            cases ran
            rfl
          | ok handle =>
            rw [found] at ran
            cases ran
            rfl
        rw [reached] at hears
        have reads := (Command.loading blob).reads_plainFrame rfl
        obtain ⟨response, rfl, answers⟩ := hears.answers recorded reads
        have stays := staysClean response rfl
        rcases answers.loads (kept suspended) with
          ⟨code, refuses, failed, rfl⟩ | ⟨handle, digest, succeeded, moves⟩
        · rw [failed] at ran
          cases ran
          have refused := Link.refused_of_answered recorded reads refuses
          exact ⟨stays, rfl, .error _ (.refused _ code refused), Or.inl ⟨rfl, rfl⟩⟩
        · rw [succeeded] at ran
          cases ran
          exact ⟨stays, rfl, .ok _, Or.inr ⟨handle, suspended, rfl, moves⟩⟩
  · rw [if_pos suspended] at ran
    cases ran
    obtain rfl := hears.still rfl
    exact ⟨clean, rfl, .error _ (.withheld _ (.present suspended)), Or.inl ⟨rfl, rfl⟩⟩

end Custody

end TrustedPlatform

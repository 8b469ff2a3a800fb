import TrustedPlatform.Proofs.Client.Plain

/-!
# Moving sessions out and back

Everything that saving a session can come to is said by `Custody.Saves`, and everything that loading
one can come to by `Custody.Loads`: each refuses, or sends one request and fails, or sends it and
changes the session.
-/

set_option autoImplicit false

namespace TrustedPlatform.Custody

variable {σ : Type}

/-- What saving a session comes to, up to what its request does to the client. -/
inductive Saves (later : Later (Client σ)) (client : Client σ) (session : Session) :
    Except Fault Bytes → Client σ → Session → Prop where
  | refused (inactive : session.status ≠ .active) :
      Saves later client session (.error (.sessionClosed session.handle)) client session
  | failed (fault : Fault) (after : Client σ) (active : session.status = .active)
      (sent : later.related client after) :
      Saves later client session (.error fault) after session
  | saved (blob : Bytes) (after : Client σ) (active : session.status = .active)
      (sent : later.related client after) :
      Saves later client session (.ok blob)
        { after with inventory := after.inventory.removeSession session.handle } session.suspend

/-- What loading a session comes to, up to what its request does to the client. -/
inductive Loads (later : Later (Client σ)) (client : Client σ) (session : Session) (blob : Bytes) :
    Except Fault Unit → Client σ → Session → Prop where
  | refused (unsuspended : session.status ≠ .suspended) :
      Loads later client session blob (.error (.sessionClosed session.handle)) client session
  | reused (suspended : session.status = .suspended)
      (known : Sha1.hash blob ∈ client.inventory.spent) :
      Loads later client session blob (.error .contextReused) client session
  | failed (fault : Fault) (after : Client σ) (suspended : session.status = .suspended)
      (isNew : Sha1.hash blob ∉ client.inventory.spent)
      (sent : later.related { client with inventory := client.inventory.spend blob } after) :
      Loads later client session blob (.error fault)
        { after with inventory := after.inventory.release blob } session
  | loaded (handle : UInt32) (after : Client σ) (suspended : session.status = .suspended)
      (isNew : Sha1.hash blob ∉ client.inventory.spent)
      (sent : later.related { client with inventory := client.inventory.spend blob } after) :
      Loads later client session blob (.ok ())
        { after with inventory := after.inventory.addSession handle session.kind }
        (session.resume handle)

variable [Channel σ] {later : Later (Client σ)}

theorem run_save (sends : later.AllowsSending) (client : Client σ) (session : Session) :
    ∃ outcome after left, (save (σ := σ)).run ⟨client, session⟩ = (outcome, ⟨after, left⟩) ∧
      Saves later client session outcome after left := by
  unfold save
  rw [Action.run_bind, Action.run_get]
  dsimp only
  by_cases active : session.status = .active
  · have usable : session.isActive = true := decide_eq_true active
    have asked : later.related client ((Client.unauthorized (Dispatch.ask
          { ordinal := .saveAuthContext, handles := [session.handle] }
          Decoder.sized)).run client).2 :=
      Client.keeps_unauthorized _ (Dispatch.keeps_ask _ (sends _) _) client
    rw [usable, if_neg (by decide), Action.run_bind, onClient, Action.run_zoom]
    dsimp only
    cases ran : (Client.unauthorized (Dispatch.ask
        { ordinal := .saveAuthContext, handles := [session.handle] } Decoder.sized) :
          Action Fault (Client σ) Bytes).run client with
    | mk outcome after =>
      rw [ran] at asked
      cases outcome with
      | error fault => exact ⟨_, _, _, rfl, .failed fault after active asked⟩
      | ok blob => exact ⟨_, _, _, rfl, .saved blob after active asked⟩
  · have unusable : session.isActive = false := decide_eq_false active
    rw [unusable]
    exact ⟨_, _, _, rfl, .refused active⟩

theorem keeps_loadBlob (sends : later.AllowsSending) (blob : Bytes) :
    (loadBlob blob : Action Fault (Client σ) UInt32).Keeps later :=
  .bind _ _ (.ofExcept _) fun _ => Client.keeps_askHandle _ (sends _)

/-- A client after an action under a claim: a failure takes the claim back. -/
def unclaimed {α : Type} (blob : Bytes) (client : Client σ) : Except Fault α → Client σ
  | .ok _ => client
  | .error _ => { client with inventory := client.inventory.release blob }

omit [Channel σ] in
theorem run_releasing {α : Type} (blob : Bytes) (action : Action Fault (Client σ) α)
    (client after : Client σ) (outcome : Except Fault α)
    (ran : action.run client = (outcome, after)) :
    (releasing blob action).run client = (outcome, unclaimed blob after outcome) := by
  unfold releasing
  rw [Action.run_bind, Action.run_attempt, ran]
  cases outcome with
  | error fault => rfl
  | ok value => rfl

omit [Channel σ] in
/-- An action under a claim is refused, and then nothing changes, or it goes on from the claim. -/
theorem run_claiming {α : Type} (blob : Bytes) (action : Action Fault (Client σ) α)
    (client : Client σ) :
    (claiming blob action).run client =
      if Sha1.hash blob ∈ client.inventory.spent then (.error .contextReused, client)
      else (releasing blob action).run
        { client with inventory := client.inventory.spend blob } := by
  unfold claiming
  rw [Action.run_bind, Client.run_claim]
  by_cases known : Sha1.hash blob ∈ client.inventory.spent
  · rw [if_pos known, if_pos known]
  · rw [if_neg known, if_neg known]

section

variable (client after : Client σ) (session : Session) (blob : Bytes)
  (suspended : session.status = .suspended)

include suspended

theorem run_load_of_error (fault : Fault)
    (failed : (claiming blob (loadBlob blob)).run client = (.error fault, after)) :
    (load (σ := σ) blob).run ⟨client, session⟩ = (.error fault, ⟨after, session⟩) := by
  unfold load
  rw [Action.run_bind, Action.run_get]
  dsimp only
  rw [if_neg (fun differs => differs suspended), Action.run_bind, onClient, Action.run_zoom, failed]

theorem run_load_of_ok (handle : UInt32)
    (loaded : (claiming blob (loadBlob blob)).run client = (.ok handle, after)) :
    (load (σ := σ) blob).run ⟨client, session⟩ =
      (.ok (), ⟨{ after with inventory := after.inventory.addSession handle session.kind },
        session.resume handle⟩) := by
  unfold load
  rw [Action.run_bind, Action.run_get]
  dsimp only
  rw [if_neg (fun differs => differs suspended), Action.run_bind, onClient, Action.run_zoom, loaded]
  rfl

end

theorem run_load (sends : later.AllowsSending) (client : Client σ) (session : Session)
    (blob : Bytes) :
    ∃ outcome after left,
      (load (σ := σ) blob).run ⟨client, session⟩ = (outcome, ⟨after, left⟩) ∧
      Loads later client session blob outcome after left := by
  by_cases suspended : session.status = .suspended
  · by_cases known : Sha1.hash blob ∈ client.inventory.spent
    · have reused : (claiming blob (loadBlob blob)).run client =
          (.error .contextReused, client) := by
        rw [run_claiming, if_pos known]
      exact ⟨_, _, _, run_load_of_error client _ session blob suspended _ reused,
        .reused suspended known⟩
    · have asked := keeps_loadBlob sends blob
        ({ client with inventory := client.inventory.spend blob } : Client σ)
      cases ran : (loadBlob blob : Action Fault (Client σ) UInt32).run
          { client with inventory := client.inventory.spend blob } with
      | mk outcome after =>
        rw [ran] at asked
        have claimed : (claiming blob (loadBlob blob)).run client =
            (outcome, unclaimed blob after outcome) := by
          rw [run_claiming, if_neg known]
          exact run_releasing blob _ _ after outcome ran
        cases outcome with
        | error fault =>
          exact ⟨_, _, _, run_load_of_error client _ session blob suspended fault claimed,
            .failed fault after suspended known asked⟩
        | ok handle =>
          exact ⟨_, _, _, run_load_of_ok client _ session blob suspended handle claimed,
            .loaded handle after suspended known asked⟩
  · unfold load
    rw [Action.run_bind, Action.run_get]
    dsimp only
    rw [if_pos suspended]
    exact ⟨_, _, _, rfl, .refused suspended⟩

end TrustedPlatform.Custody

import TrustedPlatform.Proofs.Client.Retry
import TrustedPlatform.Proofs.Client.Stages
import TrustedPlatform.Proofs.Module.Coupling
import TrustedPlatform.Proofs.Module.Hearing

/-!
# Going on together

The holder of a session and an honest module are in step if the module holds the session as long as
its holder can use it (`Holder.InStep`).  Whatever is done with the session from then on, they stay
in step (`Holder.Follows`): a nonce is drawn, a command is sent once or again and again, a session
is opened in the place of another.
-/

set_option autoImplicit false

namespace TrustedPlatform

/-- The holder of a session, as far as a module can notice. -/
structure Holder (σ : Type) where
  link : Link (Tapped σ)
  nonces : NonceSource
  session : Session

def Client.holder {σ : Type} (client : Client (Tapped σ)) (session : Session) : Holder σ :=
  ⟨client.link, client.nonces, session⟩

namespace Holder

variable {σ : Type}

/-- A module holds the session as long as its holder can use it. -/
structure InStep (holder : Holder σ) (vault : Vault) : Prop where
  clean : holder.link.spoiled = false
  held : holder.session.status = .active → vault.Holds holder.session
  issued : ∀ nonce ∈ holder.session.issuedOdd, holder.nonces.Gave nonce

/-- A session that its holder cannot use is not held by the module, either. -/
def Released (holder : Holder σ) (vault : Vault) : Prop :=
  holder.session.status ≠ .active →
    vault.sessions holder.session.handle = none ∨ holder.nonces.Repeated

/-- The holder of a session and a module went on together.  The other sessions of the module are
the same, and none of them has the handle of a session that its holder can use now. -/
structure Follows (before : Holder σ) (vault : Vault) (after : Holder σ) (next : Vault) :
    Prop where
  inStep : after.InStep next
  released : before.Released vault → after.Released next
  others : ∀ handle, (before.session.status = .active → handle ≠ before.session.handle) →
    vault.sessions handle ≠ none → next.sessions handle = vault.sessions handle ∧
      (after.session.status = .active → handle ≠ after.session.handle)
  away : after.session.status = .suspended → after.session = before.session
  saved : next.saved = vault.saved
  rejected : next.rejected = vault.rejected
  nonces : before.nonces.Before after.nonces

theorem Follows.refl (holder : Holder σ) (vault : Vault) (inStep : holder.InStep vault) :
    holder.Follows vault holder vault where
  inStep := inStep
  released := id
  others := fun _ differ _ => ⟨rfl, differ⟩
  away := fun _ => rfl
  saved := rfl
  rejected := rfl
  nonces := .refl _

theorem Follows.trans {before between after : Holder σ} {vault middle next : Vault}
    (first : before.Follows vault between middle) (second : between.Follows middle after next) :
    before.Follows vault after next where
  inStep := second.inStep
  released := fun released => second.released (first.released released)
  others := by
    intro handle differ held
    obtain ⟨same, apart⟩ := first.others handle differ held
    -- The handle is still taken, so the second stretch does not reuse it.
    obtain ⟨also, stillApart⟩ := second.others handle apart (by rwa [same])
    exact ⟨also.trans same, stillApart⟩
  away := by
    intro suspended
    have same := second.away suspended
    rw [same] at suspended ⊢
    exact first.away suspended
  saved := second.saved.trans first.saved
  rejected := second.rejected.trans first.rejected
  nonces := first.nonces.trans second.nonces

variable {before : Holder σ} {vault next : Vault}

theorem Follows.draws {drawn other : Session} {nonces : NonceSource} {nonce : Digest}
    (inStep : before.InStep vault) (active : before.session.status = .active)
    (draw : before.session.Draw before.nonces nonce drawn nonces)
    (same : before.session.Alike other) (issued : other.issuedOdd = drawn.issuedOdd) :
    before.Follows vault ⟨before.link, nonces, other⟩ vault where
  inStep :=
    { clean := inStep.clean
      held := fun _ => (inStep.held active).alike same
      issued := by
        rw [issued]
        exact draw.issued inStep.issued }
  released := fun _ isOver => absurd (same.status.trans active) isOver
  others := fun handle differ _ =>
    ⟨rfl, fun _ => by rw [same.handle]; exact differ active⟩
  away := fun suspended => by
    rw [same.status, active] at suspended
    cases suspended
  saved := rfl
  rejected := rfl
  nonces := draw.before

theorem Follows.repeats (inStep : before.InStep vault)
    (repeats : before.session.Repeats before.nonces) :
    before.nonces.next.2.Repeated ∧ before.Follows vault
      ⟨before.link, before.nonces.next.2, { before.session with status := .closed }⟩ vault := by
  have repeated := before.nonces.repeated_next (inStep.issued _ repeats.issued)
  exact ⟨repeated,
    { inStep :=
        { clean := inStep.clean
          held := fun opened => nomatch opened
          issued := fun nonce member =>
            (inStep.issued nonce member).later before.nonces.before_next }
      released := fun _ _ => Or.inr repeated
      others := fun _ _ _ => ⟨rfl, fun opened => nomatch opened⟩
      away := fun suspended => nomatch suspended
      saved := rfl
      rejected := rfl
      nonces := before.nonces.before_next }⟩

theorem Follows.turns {drawn left : Session} {nonces : NonceSource} {nonce : Digest}
    {link : Link (Tapped σ)} (inStep : before.InStep vault)
    (active : before.session.status = .active)
    (draw : before.session.Draw before.nonces nonce drawn nonces)
    (turns : vault.Turns before.session next left) (issued : left.issuedOdd = drawn.issuedOdd)
    (clean : link.spoiled = false) :
    before.Follows vault ⟨link, nonces, left⟩ next where
  inStep :=
    { clean := clean
      held := turns.held
      issued := by
        rw [issued]
        exact draw.issued inStep.issued }
  released := fun _ isOver => Or.inl (turns.ended isOver)
  others := fun handle differ _ =>
    ⟨turns.others handle (differ active), fun _ => by rw [turns.handle]; exact differ active⟩
  away := fun suspended => absurd suspended turns.present
  saved := turns.saved
  rejected := turns.rejected
  nonces := draw.before

theorem Follows.opens {fresh : Session} {hosted : Hosted} {nonces : NonceSource}
    {link : Link (Tapped σ)} (mirrors : hosted.Mirrors fresh)
    (isFree : vault.sessions fresh.handle = none) (active : fresh.status = .active)
    (issued : ∀ nonce ∈ fresh.issuedOdd, nonces.Gave nonce) (clean : link.spoiled = false)
    (later : before.nonces.Before nonces) :
    before.Follows vault ⟨link, nonces, fresh⟩ (vault.put fresh.handle (some hosted)) where
  inStep :=
    { clean := clean
      held := fun _ => ⟨hosted, vault.sessions_put _ _, mirrors⟩
      issued := issued }
  released := fun _ isOver => absurd active isOver
  others := by
    intro handle _ held
    have differ : handle ≠ fresh.handle := by
      rintro rfl
      exact held isFree
    exact ⟨vault.sessions_put_of_ne _ _ _ differ, fun _ => differ⟩
  away := fun suspended => by
    rw [active] at suspended
    cases suspended
  saved := rfl
  rejected := rfl
  nonces := later

theorem Follows.refused {nonces : NonceSource} {link : Link (Tapped σ)}
    (inStep : before.InStep vault) (clean : link.spoiled = false)
    (later : before.nonces.Before nonces) :
    before.Follows vault ⟨link, nonces, before.session⟩ vault where
  inStep :=
    { clean := clean
      held := inStep.held
      issued := fun nonce member => (inStep.issued nonce member).later later }
  released := by
    intro released isOver
    rcases released isOver with gone | repeated
    · exact Or.inl gone
    · exact Or.inr (repeated.later later)
  others := fun _ differ _ => ⟨rfl, differ⟩
  away := fun _ => rfl
  saved := rfl
  rejected := rfl
  nonces := later

end Holder

end TrustedPlatform

import TrustedPlatform.Proofs.Module.Vault
import TrustedPlatform.Proofs.Structure.Faults

/-!
# What a module hears of a client

An honest module serves what is recorded on a tapped link (`Vault.Hears`).  A client gets a fault
from it only if the module refused what was asked last, or if the client had a reason of its own:
`Fault.Harmless`.  One such reason is that its source of nonces repeats one:
`NonceSource.Repeated`.
-/

set_option autoImplicit false

namespace TrustedPlatform

namespace NonceSource

def Gave (source : NonceSource) (nonce : Digest) : Prop :=
  ∃ number, number < source.drawn ∧ source.draw number = nonce

def Repeated (source : NonceSource) : Prop :=
  ∃ early late, early < late ∧ late < source.drawn ∧ source.draw early = source.draw late

structure Before (source later : NonceSource) : Prop where
  draw : later.draw = source.draw
  drawn : source.drawn ≤ later.drawn

theorem Before.refl (source : NonceSource) : source.Before source := ⟨rfl, Nat.le_refl _⟩

theorem Before.trans {source between later : NonceSource} (first : source.Before between)
    (second : between.Before later) : source.Before later :=
  ⟨second.draw.trans first.draw, Nat.le_trans first.drawn second.drawn⟩

theorem before_next (source : NonceSource) : source.Before source.next.2 :=
  ⟨rfl, Nat.le_succ _⟩

theorem gave_next (source : NonceSource) : source.next.2.Gave source.next.1 :=
  ⟨source.drawn, Nat.lt_succ_self _, rfl⟩

theorem Gave.later {source later : NonceSource} {nonce : Digest} (gave : source.Gave nonce)
    (before : source.Before later) : later.Gave nonce := by
  obtain ⟨number, drawn, rfl⟩ := gave
  exact ⟨number, Nat.lt_of_lt_of_le drawn before.drawn, by rw [before.draw]⟩

theorem Repeated.later {source later : NonceSource} (repeated : source.Repeated)
    (before : source.Before later) : later.Repeated := by
  obtain ⟨early, late, order, drawn, same⟩ := repeated
  refine ⟨early, late, order, Nat.lt_of_lt_of_le drawn before.drawn, ?_⟩
  rw [before.draw]
  exact same

theorem repeated_next (source : NonceSource) (gave : source.Gave source.next.1) :
    source.next.2.Repeated := by
  obtain ⟨number, drawn, same⟩ := gave
  exact ⟨number, source.drawn, drawn, Nat.lt_succ_self _, same⟩

end NonceSource

theorem Session.Draw.before {session after : Session} {nonces rest : NonceSource} {nonce : Digest}
    (draw : session.Draw nonces nonce after rest) : nonces.Before rest := by
  cases draw with
  | armed _ _ => exact .refl nonces
  | fresh _ _ => exact nonces.before_next

theorem Session.Draw.issued {session after : Session} {nonces rest : NonceSource} {nonce : Digest}
    (draw : session.Draw nonces nonce after rest)
    (issued : ∀ issued ∈ session.issuedOdd, nonces.Gave issued) :
    ∀ issued ∈ after.issuedOdd, rest.Gave issued := by
  cases draw with
  | armed _ _ => exact issued
  | fresh _ _ =>
    intro other member
    rcases List.mem_cons.mp member with rfl | earlier
    · exact nonces.gave_next
    · exact (issued other earlier).later nonces.before_next

def Session.Unusable (session : Session) (fault : Fault) : Prop :=
  session.status ≠ .active ∧ fault = .sessionClosed session.handle

namespace Link

variable {σ : Type}

/-- A module refused what was last asked of it over a tapped link. -/
def Refused (before after : Link (Tapped σ)) (ordinal : Ordinal) (code : UInt32) : Prop :=
  ∃ early bytes request,
    after.record = before.record ++ early ++ [⟨bytes, .ok (Vault.refusal code)⟩] ∧
      Request.Reads bytes request ∧ request.ordinal = ordinal ∧ code ≠ ResultCode.success

theorem refused_of_answered {before after : Link (Tapped σ)} {bytes response : Bytes}
    {request : Request} {code : UInt32}
    (recorded : after.record = before.record ++ [⟨bytes, .ok response⟩])
    (reads : Request.Reads bytes request) (refuses : Vault.Refuses response code) :
    before.Refused after request.ordinal code := by
  obtain ⟨failed, rfl⟩ := refuses
  refine ⟨[], bytes, request, ?_, reads, rfl, failed⟩
  rw [recorded, List.append_nil]

theorem Refused.since {before between after : Link (Tapped σ)} {ordinal : Ordinal} {code : UInt32}
    {sent : List Exchange} (refused : between.Refused after ordinal code)
    (recorded : between.record = before.record ++ sent) : before.Refused after ordinal code := by
  obtain ⟨early, bytes, request, answered, reads, named, failed⟩ := refused
  refine ⟨sent ++ early, bytes, request, ?_, reads, named, failed⟩
  rw [answered, recorded, List.append_assoc before.record]

end Link

namespace Fault

variable {σ : Type} {withheld weaker : Fault → Prop} {before between after : Link (Tapped σ)}
  {nonces : NonceSource} {fault : Fault}

/-- A fault that a client can run into with an honest module: the module refused what it was asked
last, the client's own source repeated a nonce, or something on the client's side kept it from
asking. -/
inductive Harmless (withheld : Fault → Prop) (before after : Link (Tapped σ))
    (nonces : NonceSource) : Fault → Prop where
  | refused (ordinal : Ordinal) (code : UInt32) (refused : before.Refused after ordinal code) :
      Harmless withheld before after nonces (.refused ordinal code)
  | repeated (handle : UInt32) (repeated : nonces.Repeated) :
      Harmless withheld before after nonces (.nonceReuse handle)
  | withheld (fault : Fault) (kept : withheld fault) : Harmless withheld before after nonces fault

theorem Harmless.mono (harmless : fault.Harmless withheld before after nonces)
    (implies : ∀ fault, withheld fault → weaker fault) :
    fault.Harmless weaker before after nonces := by
  cases harmless with
  | refused ordinal code refused => exact .refused ordinal code refused
  | repeated handle repeated => exact .repeated handle repeated
  | withheld _ kept => exact .withheld fault (implies fault kept)

/-- A fault at the end of some exchanges is one at the end of these and any before them. -/
theorem Harmless.since {sent : List Exchange}
    (harmless : fault.Harmless withheld between after nonces)
    (recorded : between.record = before.record ++ sent) :
    fault.Harmless withheld before after nonces := by
  cases harmless with
  | refused ordinal code refused => exact .refused ordinal code (refused.since recorded)
  | repeated handle repeated => exact .repeated handle repeated
  | withheld _ kept => exact .withheld fault kept

end Fault

namespace Vault

variable {σ : Type} {vault next : Vault} {before between after : Link (Tapped σ)}

/-- What was recorded on a tapped link since, a module served. -/
def Hears (vault : Vault) (before after : Link (Tapped σ)) (next : Vault) : Prop :=
  ∃ sent, after.record = before.record ++ sent ∧ vault.Serves sent next

theorem Hears.still (hears : vault.Hears before after next)
    (still : after.record = before.record) : next = vault := by
  obtain ⟨sent, recorded, serves⟩ := hears
  rw [still, List.self_eq_append_right] at recorded
  rw [recorded] at serves
  exact (serves_nil_iff _ _).mp serves

theorem Hears.split (hears : vault.Hears before after next) (early late : List Exchange)
    (first : between.record = before.record ++ early)
    (second : after.record = between.record ++ late) :
    ∃ middle, vault.Hears before between middle ∧ middle.Hears between after next := by
  obtain ⟨sent, recorded, serves⟩ := hears
  rw [second, first, List.append_assoc] at recorded
  rw [← List.append_cancel_left recorded] at serves
  obtain ⟨middle, served, rest⟩ := serves.split
  exact ⟨middle, ⟨early, first, served⟩, ⟨late, second, rest⟩⟩

theorem Hears.answers (hears : vault.Hears before after next) {bytes : Bytes} {request : Request}
    {answer : Except Fault Bytes} (recorded : after.record = before.record ++ [⟨bytes, answer⟩])
    (reads : Request.Reads bytes request) :
    ∃ response, answer = .ok response ∧ vault.Answers request response next := by
  obtain ⟨sent, also, serves⟩ := hears
  rw [recorded] at also
  rw [← List.append_cancel_left also] at serves
  exact serves.answered reads

end Vault

end TrustedPlatform

import TrustedPlatform.Proofs.Channel.Tap
import TrustedPlatform.Proofs.Client.Plain

/-!
# Calls without a session

Nothing that a client does without a session takes a nonce or sends a frame with a trailer: every
request that such a call adds to the record of a tapped channel is that of a command without one
(`sendsUnsigned`).
-/

set_option autoImplicit false

namespace TrustedPlatform

/-- The request of an exchange carries no trailer. -/
def Exchange.Unsigned (exchange : Exchange) : Prop :=
  ∃ command : Command, exchange.request = command.plainFrame

theorem Link.unsigned_of_adds (command : Command) (answer : Except Fault Bytes)
    (added : List Exchange) (adds : Adds command.plainFrame answer added) :
    ∀ exchange ∈ added, exchange.Unsigned := by
  intro exchange member
  cases adds with
  | exchange =>
    obtain rfl := List.mem_singleton.mp member
    exact ⟨command, rfl⟩
  | unreached _ _ => cases member

variable {σ : Type} [Channel σ]

def sendsUnsigned : Later (Client (Tapped σ)) where
  related before after :=
    after.nonces = before.nonces ∧
      ∃ added, after.link.record = before.link.record ++ added ∧
        ∀ exchange ∈ added, exchange.Unsigned
  refl client := ⟨rfl, [], (List.append_nil _).symm, fun _ member => nomatch member⟩
  trans := by
    rintro first second third ⟨same, early, recorded, unsigned⟩
      ⟨sameLate, late, recordedLate, unsignedLate⟩
    refine ⟨sameLate.trans same, early ++ late, ?_, ?_⟩
    · rw [recordedLate, recorded, List.append_assoc]
    · intro exchange member
      rcases List.mem_append.mp member with isEarly | isLate
      · exact unsigned exchange isEarly
      · exact unsignedLate exchange isLate

theorem sendsUnsigned_allowsSending :
    (sendsUnsigned (σ := σ)).AllowsSending := by
  intro command client answer link transmitted
  obtain ⟨added, recorded, adds⟩ := Link.transmit_tapped _ _ _ _ transmitted
  exact ⟨rfl, added, recorded, Link.unsigned_of_adds command answer added adds⟩

omit [Channel σ] in
theorem sendsUnsigned_allowsNoting (change : Inventory → Inventory) :
    (sendsUnsigned (σ := σ)).AllowsNoting change :=
  fun client => sendsUnsigned.refl client

end TrustedPlatform

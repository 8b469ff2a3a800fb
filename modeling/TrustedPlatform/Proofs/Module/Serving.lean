import TrustedPlatform.Proofs.Channel.Tap
import TrustedPlatform.Proofs.Frame.RequestReading

/-!
# Serving requests

What a module is may be said by how it answers one request.  It then serves exchanges one after the
other, each as what it has become with the exchanges before (`Serving`).
-/

set_option autoImplicit false

namespace TrustedPlatform

variable {μ : Type}

/-- A module serves exchanges one after the other, completed or not, each as it answers a single
request. -/
inductive Serving (answers : μ → Request → Except Fault Bytes → μ → Prop) :
    μ → List Exchange → μ → Prop where
  | done (module : μ) : Serving answers module [] module
  | answers (module next last : μ) (request : Request) (bytes : Bytes)
      (answer : Except Fault Bytes) (rest : List Exchange) (reads : Request.Reads bytes request)
      (answered : answers module request answer next) (serves : Serving answers next rest last) :
      Serving answers module (⟨bytes, answer⟩ :: rest) last

namespace Serving

variable {answers : μ → Request → Except Fault Bytes → μ → Prop} {module last : μ}

theorem eq_of_nil (serves : Serving answers module [] last) : last = module := by
  cases serves
  rfl

theorem split {early late : List Exchange}
    (serves : Serving answers module (early ++ late) last) :
    ∃ between, Serving answers module early between ∧ Serving answers between late last := by
  induction early generalizing module with
  | nil => exact ⟨module, .done module, serves⟩
  | cons exchange early inductionHypothesis =>
    cases serves with
    | answers _ next _ request bytes answer _ reads answered serves =>
      obtain ⟨between, first, second⟩ := inductionHypothesis serves
      exact ⟨between, .answers module next between request bytes answer early reads answered first,
        second⟩

theorem only {bytes : Bytes} {request : Request} {answer : Except Fault Bytes}
    (serves : Serving answers module [⟨bytes, answer⟩] last)
    (reads : Request.Reads bytes request) : answers module request answer last := by
  cases serves with
  | answers _ next _ other _ _ _ also answered serves =>
    obtain rfl := reads.unique also
    obtain rfl := serves.eq_of_nil
    exact answered

end Serving

end TrustedPlatform

import TokenIssuance.Proofs.Call

set_option autoImplicit false

namespace TokenIssuance

variable {σ τ : Type}

structure Collaborators.Extends (wide : Collaborators τ) (narrow : Collaborators σ) (view : τ → σ) :
    Prop where
  accepts : ∀ identity signature impersonated state,
    (narrow.accepts identity signature impersonated).run (view state) =
      Prod.map id view ((wide.accepts identity signature impersonated).run state)
  policies : ∀ identity state,
    (narrow.policies identity).run (view state) =
      Prod.map id view ((wide.policies identity).run state)
  post : ∀ message state,
    (narrow.post message).run (view state) = Prod.map id view ((wide.post message).run state)
  complaints : narrow.complaints = wide.complaints

namespace Issuer

variable {wide : Collaborators τ} {narrow : Collaborators σ} {view : τ → σ}

end Issuer

end TokenIssuance

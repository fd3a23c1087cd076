import TokenIssuance.Proofs.Laziness
import TokenIssuance.Proofs.Uses
import TokenIssuance.Proofs.View

set_option autoImplicit false

namespace TokenIssuance

variable {σ : Type}

-- The policies that a resolver shows when its sources keep to the replies that they give in a state.
def Resolver.shown (resolver : Resolver σ) (identity : Identity) (state : σ) : PolicySet :=
  let refresh := resolver.settings.refreshConfig
  let (attributes, config) := resolver.replies identity refresh state
  let constant : Resolver Unit := ⟨resolver.settings, .constant attributes config, resolver.expander⟩
  ((constant.configured identity refresh).run ()).1

def Collaborators.around (check : SignatureCheck σ) (resolver : Resolver σ)
    (transport : Transport σ) (complaints : Complaints) : Collaborators σ where
  accepts := check
  policies := resolver.policies
  post := transport
  complaints := complaints

namespace Issuer

theorem course_creations (issuer : Issuer) (collaborators : Collaborators σ) (request : IssueRequest)
    (before : σ) (result : Except IssueError Credential) (after : σ × List IssueEvent)
    (course : issuer.Course collaborators.recorded request (before, []) result after) :
    ∀ message ∈ creations issuer.settings after.2,
      collaborators.recorded.Admits request (before, []) ∧ ∃ token,
        message = issuer.creationPost collaborators.recorded request (before, []) token := by
  have presented : ∀ token (middle : σ × List IssueEvent), issuer.Presents
      collaborators.recorded.post (collaborators.recorded.policyReply request (before, [])).2 token
      middle →
      creations issuer.settings
          (issuer.creationReply collaborators.recorded request (before, []) token middle).2.2 =
        [issuer.creationPost collaborators.recorded request (before, []) token] := by
    intro token middle presents
    exact creations_presented issuer collaborators request before token _ middle presents
  intro message member
  cases course with
  | rejected _ => cases member
  | unmatched _ _ => cases member
  | @turnedAway roleId secretId _ _ _ _ =>
      have login : creations issuer.settings
          (issuer.loginReply collaborators.recorded request (before, []) roleId secretId).2.2 = [] :=
        creations_login issuer _ roleId secretId
      rw [login] at member
      cases member
  | denied admitted presents _ =>
      rw [presented _ _ presents] at member
      exact ⟨admitted, _, List.mem_singleton.mp member⟩
  | issued admitted presents _ _ =>
      rw [presented _ _ presents] at member
      exact ⟨admitted, _, List.mem_singleton.mp member⟩

end Issuer

end TokenIssuance

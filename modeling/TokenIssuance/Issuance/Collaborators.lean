import TokenIssuance.Issuance.Issuer

set_option autoImplicit false

namespace TokenIssuance

-- Whether a signature proves that a request comes from an identity; the flag says that the host asks
-- on its behalf.
abbrev SignatureCheck (σ : Type) := Identity → String → Bool → StateM σ Bool

inductive SignatureRule where
  | everyone
  | noOne
  | impersonated
  | signatures (table : List (String × String))

def SignatureRule.accepts (rule : SignatureRule) (identity : Identity) (signature : String)
    (impersonated : Bool) : Bool :=
  match rule with
  | .everyone => true
  | .noOne => false
  | .impersonated => impersonated
  | .signatures table => table.lookup identity.text == some signature

def SignatureCheck.ofRule (rule : SignatureRule) : SignatureCheck Unit :=
  fun identity signature impersonated => pure (rule.accepts identity signature impersonated)

abbrev PolicyBackend (σ : Type) := Identity → StateM σ PolicySet

def PolicyBackend.constant (policies : PolicySet) : PolicyBackend Unit := fun _ => pure policies

def Transport.scripted : Transport (List (Except TransportFailure HttpResponse)) := fun _ replies =>
  match replies with
  | [] => (.error (.reported "no scripted response left"), [])
  | reply :: more => (reply, more)

def Complaints.constant (text : String) : Complaints := ⟨fun _ => text, fun _ => text⟩

namespace Collaborators

variable {ρ τ υ : Type}

def ofParts (check : SignatureCheck ρ) (backend : PolicyBackend τ) (transport : Transport υ)
    (complaints : Complaints) : Collaborators (ρ × τ × υ) where
  accepts identity signature impersonated := fun (checks, policies, posts) =>
    let (answer, checks) := (check identity signature impersonated).run checks
    (answer, checks, policies, posts)
  policies identity := fun (checks, policies, posts) =>
    let (answer, policies) := (backend identity).run policies
    (answer, checks, policies, posts)
  post request := fun (checks, policies, posts) =>
    let (answer, posts) := (transport request).run posts
    (answer, checks, policies, posts)
  complaints := complaints

end Collaborators

inductive IssueEvent where
  | signatureChecked (identity : Identity) (signature : String) (impersonated : Bool)
  | policiesAsked (identity : Identity)
  | posted (request : HttpRequest)

def Collaborators.recorded {σ : Type} (collaborators : Collaborators σ) :
    Collaborators (σ × List IssueEvent) where
  accepts identity signature impersonated := fun (state, events) =>
    let (answer, state) := (collaborators.accepts identity signature impersonated).run state
    (answer, state, events ++ [.signatureChecked identity signature impersonated])
  policies identity := fun (state, events) =>
    let (policies, state) := (collaborators.policies identity).run state
    (policies, state, events ++ [.policiesAsked identity])
  post request := fun (state, events) =>
    let (reply, state) := (collaborators.post request).run state
    (reply, state, events ++ [.posted request])
  complaints := collaborators.complaints

structure IssueStep where
  result : Except IssueError Credential
  events : List IssueEvent

namespace Issuer

variable {σ : Type}

def step (issuer : Issuer) (collaborators : Collaborators σ) (request : IssueRequest) :
    StateM σ IssueStep := fun state =>
  let (result, state, events) := (issuer.issue collaborators.recorded request).run.run (state, [])
  (⟨result, events⟩, state)

def steps (issuer : Issuer) (collaborators : Collaborators σ) (requests : List IssueRequest) :
    StateM σ (List IssueStep) :=
  requests.mapM (issuer.step collaborators)

end Issuer

end TokenIssuance

import TokenIssuance.PolicySet
import TokenIssuance.Vault.Http
import TokenIssuance.Vault.Messages
import TokenIssuance.Vault.Settings

set_option autoImplicit false

namespace TokenIssuance

structure IssueRequest where
  identity : Identity
  signature : String
  impersonated : Bool := false
  uses : Option UInt32 := none
  ttl : Option String := none
  jobId : Option String := none
  actingUser : Option String := none
deriving DecidableEq, Repr

structure Credential where
  token : String
  renewable : Bool
  leaseDuration : UInt64
  uses : UInt32
  url : String
  namespaceName : Option String
  verify : Bool
deriving DecidableEq, Repr

inductive IssueError where
  | unauthenticated (identity : Identity)
  | noPolicies
  | refused (reason : String)
  | transport (failure : TransportFailure)
deriving DecidableEq, Repr

def IssueError.message : IssueError → String
  | .unauthenticated identity => "signature validation failed for '" ++ identity.text ++ "'"
  | .noPolicies => "No policies matched identity"
  | .refused reason => reason
  | .transport failure => failure.message

-- What the JSON reader says of a body that holds no grant.
structure Complaints where
  login : String → String
  creation : String → String

structure Collaborators (σ : Type) where
  accepts : Identity → String → Bool → StateM σ Bool
  policies : Identity → StateM σ PolicySet
  post : Transport σ
  complaints : Complaints

def tokenHeader : String := "X-Vault-Token"
def namespaceHeader : String := "X-Vault-Namespace"

structure Issuer where
  settings : VaultSettings
  sound : settings.flaw? = none

namespace Issuer

def ofSettings (settings : VaultSettings) : Except VaultSettingsError Issuer :=
  match flaw : settings.flaw? with
  | some error => .error error
  | none => .ok ⟨settings, flaw⟩

def chosenUses (settings : VaultSettings) (request : IssueRequest) : UInt32 :=
  if settings.allowOverride then
    match request.uses with
    | some uses => if uses = 0 then settings.uses else uses
    | none => settings.uses
  else settings.uses

def chosenTtl (settings : VaultSettings) (request : IssueRequest) : Option String :=
  if settings.allowOverride then request.ttl.or settings.ttl else settings.ttl

def tokenRequest (issuer : Issuer) (policies : PolicySet) (request : IssueRequest) : TokenRequest :=
  let ttl := chosenTtl issuer.settings request
  { policies := policies.toList
    uses := if ttl.isSome then 1 else chosenUses issuer.settings request
    explicitMaxTtl := ttl
    details := {
      requesterId := request.identity.text
      jobId := request.jobId.getD noJobId
      actingUser := request.actingUser.getD noActingUser } }

def namespaceHeaders (issuer : Issuer) : List (String × String) :=
  match issuer.settings.namespaceName with
  | none => []
  | some name => [(namespaceHeader, name)]

def loginPost (issuer : Issuer) (roleId : String) (secretId : Option String) : HttpRequest :=
  ⟨issuer.settings.loginUrl, issuer.namespaceHeaders, loginMessage roleId secretId⟩

def tokenPost (issuer : Issuer) (callerToken : String) (message : TokenRequest) : HttpRequest :=
  ⟨issuer.settings.tokenCreateUrl, (tokenHeader, callerToken) :: issuer.namespaceHeaders,
    message.toValue⟩

def credential (issuer : Issuer) (message : TokenRequest) (grant : TokenGrant) : Credential where
  token := grant.clientToken
  renewable := grant.renewable
  leaseDuration := grant.leaseDuration
  uses := message.uses
  url := issuer.settings.url
  namespaceName := issuer.settings.namespaceName
  verify := issuer.settings.verify

def outcome {α : Type} (complain : String → String) (read : Json.Document → Option α) :
    Except TransportFailure HttpResponse → Except IssueError α
  | .error failure => .error (.transport failure)
  | .ok response =>
      if response.isSuccess then
        match response.decode complain (authEnvelope? read) with
        | .ok grant => .ok grant
        | .error failure => .error (.transport failure)
      else .error (.refused response.reasonOrStatus)

variable {σ : Type}

def exchange {α : Type} (post : Transport σ) (complain : String → String)
    (read : Json.Document → Option α) (message : HttpRequest) : ExceptT IssueError (StateM σ) α :=
  ExceptT.mk (outcome complain read <$> post message)

def callerToken (issuer : Issuer) (collaborators : Collaborators σ) :
    ExceptT IssueError (StateM σ) String :=
  match issuer.settings.auth with
  | .token own => pure own
  | .appRole roleId secretId => do
      let grant ← exchange collaborators.post collaborators.complaints.login LoginGrant.ofDocument?
        (issuer.loginPost roleId secretId)
      return grant.clientToken

def requestToken (issuer : Issuer) (collaborators : Collaborators σ) (policies : PolicySet)
    (request : IssueRequest) : ExceptT IssueError (StateM σ) Credential := do
  let callerToken ← issuer.callerToken collaborators
  let message := issuer.tokenRequest policies request
  let grant ← exchange collaborators.post collaborators.complaints.creation TokenGrant.ofDocument?
    (issuer.tokenPost callerToken message)
  return issuer.credential message grant

-- Issues a token. The vault hears nothing of a request whose signature is not accepted or for which
-- there is no policy.
def issue (issuer : Issuer) (collaborators : Collaborators σ) (request : IssueRequest) :
    ExceptT IssueError (StateM σ) Credential := do
  if ← collaborators.accepts request.identity request.signature request.impersonated then
    let policies ← collaborators.policies request.identity
    if policies.isEmpty then throw .noPolicies
    else issuer.requestToken collaborators policies request
  else throw (.unauthenticated request.identity)

end Issuer

end TokenIssuance

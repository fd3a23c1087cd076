import TokenIssuance.Proofs.Call
import TokenIssuance.Proofs.Run

set_option autoImplicit false

namespace TokenIssuance

variable {σ : Type}

def namespaceFields (settings : VaultSettings) : List (String × String) :=
  settings.namespaceName.toList.map fun name => ("X-Vault-Namespace", name)

structure HttpRequest.LogsIn (settings : VaultSettings) (roleId : String) (secretId : Option String)
    (message : HttpRequest) : Prop where
  url : ∃ base, settings.BasedAt base ∧ message.url = base ++ "/v1/auth/approle/login"
  headers : message.headers = namespaceFields settings
  body : message.body = .object (("role_id", .string roleId) ::
    secretId.toList.map fun secret => ("secret_id", .string secret))

structure HttpRequest.AsksWith (settings : VaultSettings) (token : String) (message : HttpRequest) :
    Prop where
  url : ∃ base, settings.BasedAt base ∧ message.url =
    match settings.roleName with
    | none => base ++ "/v1/auth/token/create"
    | some role => base ++ "/v1/auth/token/create/" ++ role
  headers : message.headers = ("X-Vault-Token", token) :: namespaceFields settings

namespace Issuer

theorem namespace_headers_eq (issuer : Issuer) :
    issuer.namespaceHeaders = namespaceFields issuer.settings := by
  unfold namespaceHeaders namespaceFields
  cases issuer.settings.namespaceName with
  | none => rfl
  | some name => rfl

theorem login_post_logs_in (issuer : Issuer) (roleId : String) (secretId : Option String) :
    (issuer.loginPost roleId secretId).LogsIn issuer.settings roleId secretId where
  url := (issuer.settings.login_url_iff _).mp rfl
  headers := namespace_headers_eq issuer
  body := by
    cases secretId with
    | none => rfl
    | some secret => rfl

theorem token_post_asks_with (issuer : Issuer) (token : String) (message : TokenRequest) :
    (issuer.tokenPost token message).AsksWith issuer.settings token where
  url := (issuer.settings.token_create_url_iff _).mp rfl
  headers := congrArg (_ :: ·) (namespace_headers_eq issuer)

end Issuer

namespace IssueRequest

def checked (request : IssueRequest) : IssueEvent :=
  .signatureChecked request.identity request.signature request.impersonated

def asked (request : IssueRequest) : IssueEvent := .policiesAsked request.identity

end IssueRequest

inductive Issuer.Traced (issuer : Issuer) (collaborators : Collaborators σ) (login : HttpRequest)
    (request : IssueRequest) (before : σ) : List IssueEvent → Prop where
  | rejected (rejected : (collaborators.signatureReply request before).1 = false) :
      Traced issuer collaborators login request before [request.checked]
  | unmatched (accepted : (collaborators.signatureReply request before).1 = true)
      (unmatched : (collaborators.policyReply request before).1.toList = []) :
      Traced issuer collaborators login request before [request.checked, request.asked]
  | own {token : String} {create : HttpRequest} (admitted : collaborators.Admits request before)
      (auth : issuer.settings.auth = .token token)
      (asks : create.AsksWith issuer.settings token) :
      Traced issuer collaborators login request before
        [request.checked, request.asked, .posted create]
  | turnedAway {roleId : String} {secretId : Option String} {error : IssueError}
      (admitted : collaborators.Admits request before)
      (auth : issuer.settings.auth = .appRole roleId secretId)
      (failed : Failed collaborators.complaints.login LoginGrant.PresentedBy
        ((collaborators.post login).run (collaborators.policyReply request before).2).1 error) :
      Traced issuer collaborators login request before
        [request.checked, request.asked, .posted login]
  | loggedIn {roleId : String} {secretId : Option String} {grant : LoginGrant} {create : HttpRequest}
      (admitted : collaborators.Admits request before)
      (auth : issuer.settings.auth = .appRole roleId secretId)
      (granted : Granted LoginGrant.PresentedBy
        ((collaborators.post login).run (collaborators.policyReply request before).2).1 grant)
      (asks : create.AsksWith issuer.settings grant.clientToken) :
      Traced issuer collaborators login request before
        [request.checked, request.asked, .posted login, .posted create]

namespace Issuer

def LoginIs (issuer : Issuer) (login : HttpRequest) : Prop :=
  ∀ roleId secretId, issuer.settings.auth = .appRole roleId secretId →
    login = issuer.loginPost roleId secretId

theorem login_exists (issuer : Issuer) : ∃ login, issuer.LoginIs login := by
  cases auth : issuer.settings.auth with
  | token own =>
      refine ⟨issuer.loginPost own none, ?_⟩
      intro roleId secretId other
      rw [auth] at other
      cases other
  | appRole roleId secretId =>
      refine ⟨issuer.loginPost roleId secretId, ?_⟩
      intro roleId secretId other
      rw [auth] at other
      cases other
      rfl

theorem presents_traced (issuer : Issuer) (collaborators : Collaborators σ) (login : HttpRequest)
    (request : IssueRequest) (before : σ) (token : String) (middle : σ × List IssueEvent)
    (loginIs : issuer.LoginIs login) (admitted : collaborators.Admits request before)
    (presents : issuer.Presents collaborators.recorded.post
      ((collaborators.policyReply request before).2, [request.checked, request.asked]) token middle) :
    issuer.Presents collaborators.post (collaborators.policyReply request before).2 token middle.1 ∧
      issuer.Traced collaborators login request before
        (middle.2 ++ [.posted (issuer.creationPost collaborators request before token)]) := by
  cases presents with
  | own auth => exact ⟨.own auth, .own admitted auth (token_post_asks_with issuer token _)⟩
  | loggedIn auth granted =>
      cases loginIs _ _ auth
      exact ⟨.loggedIn auth granted,
        .loggedIn admitted auth granted (token_post_asks_with issuer _ _)⟩

theorem course_traced (issuer : Issuer) (collaborators : Collaborators σ) (login : HttpRequest)
    (request : IssueRequest) (before : σ) (result : Except IssueError Credential)
    (after : σ × List IssueEvent) (loginIs : issuer.LoginIs login)
    (course : issuer.Course collaborators.recorded request (before, []) result after) :
    issuer.Course collaborators request before result after.1 ∧
      issuer.Traced collaborators login request before after.2 := by
  cases course with
  | rejected rejected => exact ⟨.rejected rejected, .rejected rejected⟩
  | unmatched accepted unmatched => exact ⟨.unmatched accepted unmatched, .unmatched accepted unmatched⟩
  | turnedAway admitted auth failed =>
      cases loginIs _ _ auth
      exact ⟨.turnedAway admitted auth failed, .turnedAway admitted auth failed⟩
  | denied admitted presents failed =>
      obtain ⟨plain, traced⟩ :=
        presents_traced issuer collaborators login request before _ _ loginIs admitted presents
      exact ⟨.denied admitted plain failed, traced⟩
  | issued admitted presents granted asked =>
      obtain ⟨plain, traced⟩ :=
        presents_traced issuer collaborators login request before _ _ loginIs admitted presents
      exact ⟨.issued admitted plain granted asked, traced⟩

theorem step_traced (issuer : Issuer) (collaborators : Collaborators σ) (login : HttpRequest)
    (request : IssueRequest) (before : σ) (loginIs : issuer.LoginIs login) :
    let (step, middle) := (issuer.step collaborators request).run before
    (issuer.issue collaborators request).run.run before = (step.result, middle) ∧
      issuer.Traced collaborators login request before step.events := by
  obtain ⟨course, traced⟩ := course_traced issuer collaborators login request before _ _ loginIs
    (issue_course issuer collaborators.recorded request (before, []))
  exact ⟨course_runs issuer collaborators request before _ _ course, traced⟩

theorem steps_keep_to_trace (issuer : Issuer) (collaborators : Collaborators σ)
    (requests : List IssueRequest) (before : σ) :
    let run := (issuer.steps collaborators requests).run before
    ∃ login,
      (∀ roleId secretId, issuer.settings.auth = .appRole roleId secretId →
        login.LogsIn issuer.settings roleId secretId) ∧
      Along (issuer.step collaborators)
        (fun request state step next =>
          (issuer.issue collaborators request).run.run state = (step.result, next) ∧
          issuer.Traced collaborators login request state step.events)
        requests before run.1 run.2 := by
  obtain ⟨login, loginIs⟩ := login_exists issuer
  refine ⟨login, ?_, run_each _ _ ?_ requests before⟩
  · intro roleId secretId auth
    rw [loginIs roleId secretId auth]
    exact login_post_logs_in issuer roleId secretId
  · intro request state
    exact step_traced issuer collaborators login request state loginIs

-- The login is answered with a record in an array.
theorem role_sends_session :
    let settings : VaultSettings :=
      { url := "https://vault/", roleName := some "web", auth := .appRole "broker" none }
    let issuer : Issuer := ⟨settings, by decide⟩
    let collaborators := Collaborators.ofParts (.ofRule .everyone)
      (.constant (PolicySet.ofList ["reader"])) .scripted (.constant "expected value")
    let request : IssueRequest := { identity := ⟨"host"⟩, signature := "signed" }
    let before : Unit × Unit × List VaultReply :=
      ((), (), [.ok ⟨200, "OK", "[[\"session\"]]"⟩, .ok ⟨403, "Forbidden", ""⟩])
    let run := (issuer.steps collaborators [request]).run before
    (run.1.map fun step => step.events.filterMap fun
        | .posted message => some (message.url, message.headers)
        | .signatureChecked _ _ _ | .policiesAsked _ => none) =
      [[("https://vault/v1/auth/approle/login", []),
        ("https://vault/v1/auth/token/create/web", [("X-Vault-Token", "session")])]] ∧
    ∃ login, login.LogsIn settings "broker" none ∧
      Along (issuer.step collaborators)
        (fun request state step next =>
          (issuer.issue collaborators request).run.run state = (step.result, next) ∧
          issuer.Traced collaborators login request state step.events)
        [request] before run.1 run.2 := by
  intro settings issuer collaborators request before run
  obtain ⟨login, logsIn, along⟩ := steps_keep_to_trace issuer collaborators [request] before
  exact ⟨by decide +kernel, login, logsIn "broker" none rfl, along⟩

end Issuer

end TokenIssuance

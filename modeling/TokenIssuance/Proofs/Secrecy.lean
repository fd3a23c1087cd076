import TokenIssuance.Proofs.Run
import TokenIssuance.Proofs.Trace

set_option autoImplicit false

namespace TokenIssuance

open Json (Value)

variable {σ : Type}

inductive VaultAuth.SameMethod : VaultAuth → VaultAuth → Prop where
  | token (own other : String) : SameMethod (.token own) (.token other)
  | appRole (roleId otherRole : String) (secretId otherSecret : Option String) :
      SameMethod (.appRole roleId secretId) (.appRole otherRole otherSecret)

structure VaultSettings.SameButSecrets (settings other : VaultSettings) : Prop where
  method : settings.auth.SameMethod other.auth
  rest : other = { settings with auth := other.auth }

def Transport.Scripted (post : Transport σ) : Prop := ∀ message other, post message = post other

inductive HttpRequest.SameButSecrets (settings : VaultSettings) :
    VaultAuth → VaultAuth → HttpRequest → HttpRequest → Prop where
  | token (own other : String) (body : Value) :
      SameButSecrets settings (.token own) (.token other)
        ⟨settings.tokenCreateUrl, ("X-Vault-Token", own) :: namespaceFields settings, body⟩
        ⟨settings.tokenCreateUrl, ("X-Vault-Token", other) :: namespaceFields settings, body⟩
  | login (roleId otherRole : String) (secretId otherSecret : Option String) :
      SameButSecrets settings (.appRole roleId secretId) (.appRole otherRole otherSecret)
        ⟨settings.loginUrl, namespaceFields settings, loginMessage roleId secretId⟩
        ⟨settings.loginUrl, namespaceFields settings, loginMessage otherRole otherSecret⟩
  | granted (roleId otherRole : String) (secretId otherSecret : Option String) (message : HttpRequest)
      (url : message.url = settings.tokenCreateUrl) :
      SameButSecrets settings (.appRole roleId secretId) (.appRole otherRole otherSecret)
        message message

inductive IssueEvent.SameButSecrets (settings : VaultSettings) (auth : VaultAuth) :
    IssueEvent → IssueEvent → Prop where
  | checked (identity : Identity) (signature : String) (impersonated : Bool) :
      SameButSecrets settings auth (.signatureChecked identity signature impersonated)
        (.signatureChecked identity signature impersonated)
  | asked (identity : Identity) :
      SameButSecrets settings auth (.policiesAsked identity) (.policiesAsked identity)
  | posted {message twin : HttpRequest}
      (same : message.SameButSecrets settings settings.auth auth twin) :
      SameButSecrets settings auth (.posted message) (.posted twin)

structure IssueStep.SameButSecrets (settings : VaultSettings) (auth : VaultAuth)
    (step twin : IssueStep) : Prop where
  result : step.result = twin.result
  events : List.Forall₂ (IssueEvent.SameButSecrets settings auth) step.events twin.events

namespace Issuer

def withAuth (issuer : Issuer) (auth : VaultAuth)
    (sound : ({ issuer.settings with auth } : VaultSettings).flaw? = none) : Issuer :=
  ⟨{ issuer.settings with auth }, sound⟩

theorem same_but_secrets_with_auth (issuer other : Issuer)
    (same : issuer.settings.SameButSecrets other.settings) :
    ∃ auth sound, other = issuer.withAuth auth sound ∧ issuer.settings.auth.SameMethod auth := by
  obtain ⟨settings, sound⟩ := other
  obtain ⟨method, rest⟩ := same
  have sound' : ({ issuer.settings with auth := settings.auth } : VaultSettings).flaw? = none := by
    rw [← rest]
    exact sound
  refine ⟨settings.auth, sound', ?_, method⟩
  unfold withAuth
  congr 1

structure Alike (settings : VaultSettings) (auth : VaultAuth) (left right : σ × List IssueEvent) : Prop
    where
  state : left.1 = right.1
  events : List.Forall₂ (IssueEvent.SameButSecrets settings auth) left.2 right.2

theorem post_alike (settings : VaultSettings) (auth : VaultAuth) (collaborators : Collaborators σ)
    (scripted : collaborators.post.Scripted) (message twin : HttpRequest)
    (same : message.SameButSecrets settings settings.auth auth twin)
    (left right : σ × List IssueEvent) (alike : Alike settings auth left right) :
    ((collaborators.recorded.post message).run left).1 =
        ((collaborators.recorded.post twin).run right).1 ∧
      Alike settings auth ((collaborators.recorded.post message).run left).2
        ((collaborators.recorded.post twin).run right).2 := by
  have recorded : ∀ (message : HttpRequest) (before : σ × List IssueEvent),
      (collaborators.recorded.post message).run before =
        (((collaborators.post message).run before.1).1, ((collaborators.post message).run before.1).2,
          before.2 ++ [.posted message]) := fun _ _ => rfl
  rw [recorded, recorded, scripted message twin, alike.state]
  exact ⟨rfl, rfl, List.rel_append alike.events (.cons (.posted same) .nil)⟩

theorem token_posts_same (issuer : Issuer) (own other : String) (message : TokenRequest)
    (sound : ({ issuer.settings with auth := .token other } : VaultSettings).flaw? = none) :
    (issuer.tokenPost own message).SameButSecrets issuer.settings (.token own) (.token other)
      ((issuer.withAuth (.token other) sound).tokenPost other message) := by
  have same : HttpRequest.SameButSecrets issuer.settings (.token own) (.token other) _ _ :=
    .token own other message.toValue
  rw [← namespace_headers_eq] at same
  exact same

theorem login_posts_same (issuer : Issuer) (roleId otherRole : String)
    (secretId otherSecret : Option String)
    (sound : ({ issuer.settings with auth := .appRole otherRole otherSecret } :
      VaultSettings).flaw? = none) :
    (issuer.loginPost roleId secretId).SameButSecrets issuer.settings (.appRole roleId secretId)
      (.appRole otherRole otherSecret)
      ((issuer.withAuth (.appRole otherRole otherSecret) sound).loginPost otherRole otherSecret) := by
  have same : HttpRequest.SameButSecrets issuer.settings (.appRole roleId secretId)
      (.appRole otherRole otherSecret) _ _ := .login roleId otherRole secretId otherSecret
  rw [← namespace_headers_eq] at same
  exact same

-- The replies are the same on both sides, and they alone decide how it goes on.
theorem request_token_alike (issuer : Issuer) (auth : VaultAuth)
    (sound : ({ issuer.settings with auth } : VaultSettings).flaw? = none)
    (method : issuer.settings.auth.SameMethod auth) (collaborators : Collaborators σ)
    (scripted : collaborators.post.Scripted) (policies : PolicySet) (request : IssueRequest)
    (before : σ × List IssueEvent) (alike : Alike issuer.settings auth before before) :
    let left := (issuer.requestToken collaborators.recorded policies request).run.run before
    let right :=
      ((issuer.withAuth auth sound).requestToken collaborators.recorded policies request).run.run before
    left.1 = right.1 ∧ Alike issuer.settings auth left.2 right.2 := by
  have posts := post_alike issuer.settings auth collaborators scripted
  generalize own : issuer.settings.auth = ownAuth at method posts
  cases method with
  | token ownToken otherToken =>
      have same := token_posts_same issuer ownToken otherToken (issuer.tokenRequest policies request)
        sound
      obtain ⟨replied, after⟩ := posts _ _ same before before alike
      have left := request_token_presents issuer collaborators.recorded policies request before
        before ownToken (.own own)
      have right := request_token_presents (issuer.withAuth _ sound) collaborators.recorded policies
        request before before otherToken (.own rfl)
      dsimp only at left right ⊢
      rw [left, right, replied]
      exact ⟨rfl, after⟩
  | appRole roleId otherRole secretId otherSecret =>
      have logins := login_posts_same issuer roleId otherRole secretId otherSecret sound
      obtain ⟨replied, after⟩ := posts _ _ logins before before alike
      rcases granted_or_failed collaborators.complaints.login LoginGrant.PresentedBy
        ((collaborators.recorded.post (issuer.loginPost roleId secretId)).run before).1 with
        ⟨grant, granted⟩ | ⟨error, failed⟩
      · have left := request_token_presents issuer collaborators.recorded policies request before
          _ grant.clientToken (.loggedIn own granted)
        rw [replied] at granted
        have right := request_token_presents (issuer.withAuth _ sound) collaborators.recorded
          policies request before _ grant.clientToken (.loggedIn rfl granted)
        have same : (issuer.tokenPost grant.clientToken (issuer.tokenRequest policies request)).SameButSecrets
            issuer.settings (.appRole roleId secretId) (.appRole otherRole otherSecret)
            (issuer.tokenPost grant.clientToken (issuer.tokenRequest policies request)) :=
          .granted roleId otherRole secretId otherSecret _ rfl
        obtain ⟨created, final⟩ := posts _ _ same _ _ after
        dsimp only at left right ⊢
        rw [left, right, created]
        exact ⟨rfl, final⟩
      · have left := request_token_failed issuer collaborators.recorded policies request before _
          error (caller_token_failed issuer _ before roleId secretId error own failed)
        rw [replied] at failed
        have right := request_token_failed (issuer.withAuth _ sound) collaborators.recorded policies
          request before _ error (caller_token_failed _ _ before otherRole otherSecret error rfl failed)
        dsimp only
        rw [left, right]
        exact ⟨rfl, after⟩

theorem issue_alike (issuer : Issuer) (auth : VaultAuth)
    (sound : ({ issuer.settings with auth } : VaultSettings).flaw? = none)
    (method : issuer.settings.auth.SameMethod auth) (collaborators : Collaborators σ)
    (scripted : collaborators.post.Scripted) (request : IssueRequest) (before : σ) :
    let left := (issuer.issue collaborators.recorded request).run.run (before, [])
    let right := ((issuer.withAuth auth sound).issue collaborators.recorded request).run.run (before, [])
    left.1 = right.1 ∧ Alike issuer.settings auth left.2 right.2 := by
  have checked : Alike issuer.settings auth
      (collaborators.recorded.signatureReply request (before, [])).2
      (collaborators.recorded.signatureReply request (before, [])).2 :=
    ⟨rfl, .cons (.checked _ _ _) .nil⟩
  have asked : Alike issuer.settings auth (collaborators.recorded.policyReply request (before, [])).2
      (collaborators.recorded.policyReply request (before, [])).2 :=
    ⟨rfl, .cons (.checked _ _ _) (.cons (.asked _) .nil)⟩
  dsimp only
  rw [issue_gate, issue_gate]
  by_cases accepted : (collaborators.recorded.signatureReply request (before, [])).1 = true
  · rw [if_pos accepted, if_pos accepted]
    by_cases empty : (collaborators.recorded.policyReply request (before, [])).1.isEmpty = true
    · rw [if_pos empty, if_pos empty]
      exact ⟨rfl, asked⟩
    · rw [if_neg empty, if_neg empty]
      exact request_token_alike issuer auth sound method collaborators scripted _ request _ asked
  · rw [if_neg accepted, if_neg accepted]
    exact ⟨rfl, checked⟩

theorem step_alike (issuer other : Issuer) (same : issuer.settings.SameButSecrets other.settings)
    (collaborators : Collaborators σ) (scripted : collaborators.post.Scripted) (request : IssueRequest)
    (before : σ) :
    ((issuer.step collaborators request).run before).1.SameButSecrets issuer.settings
        other.settings.auth ((other.step collaborators request).run before).1 ∧
      ((issuer.step collaborators request).run before).2 =
        ((other.step collaborators request).run before).2 := by
  obtain ⟨auth, sound, rfl, method⟩ := same_but_secrets_with_auth issuer other same
  obtain ⟨result, after⟩ := issue_alike issuer auth sound method collaborators scripted request before
  exact ⟨⟨result, after.events⟩, after.state⟩

theorem secrets_only_in_messages (issuer other : Issuer)
    (same : issuer.settings.SameButSecrets other.settings) (collaborators : Collaborators σ)
    (scripted : collaborators.post.Scripted) (requests : List IssueRequest) (before : σ) :
    let run := (issuer.steps collaborators requests).run before
    let twin := (other.steps collaborators requests).run before
    List.Forall₂ (IssueStep.SameButSecrets issuer.settings other.settings.auth) run.1 twin.1 ∧
      run.2 = twin.2 :=
  run_paired (issuer.step collaborators) (other.step collaborators) (· = ·) _
    (fun request _ state pair => pair ▸
      step_alike issuer other same collaborators scripted request state)
    requests requests (List.forall₂_refl requests) before

theorem roles_step_alike :
    let settings : VaultSettings :=
      { url := "https://vault", namespaceName := some "team", auth := .appRole "broker" (some "pass") }
    let issuer : Issuer := ⟨settings, by decide⟩
    let other : Issuer := ⟨{ settings with auth := .appRole "agent" none }, by decide⟩
    let policies := PolicySet.ofList ["reader"]
    let collaborators := Collaborators.ofParts (.ofRule .everyone) (.constant policies) .scripted
      (.constant "EOF while parsing a value at line 1 column 0")
    let request : IssueRequest := { identity := ⟨"host"⟩, signature := "signed" }
    let granted : VaultReply :=
      .ok ⟨200, "OK", "\x7b\"auth\": \x7b\"client_token\": \"issued\"\x7d\x7d"⟩
    let refused : VaultReply := .ok ⟨403, "Forbidden", ""⟩
    let before : Unit × Unit × List VaultReply := ((), (), [granted, granted, refused])
    let run := (issuer.steps collaborators [request, request]).run before
    let twin := (other.steps collaborators [request, request]).run before
    issuer.settings.SameButSecrets other.settings ∧ collaborators.post.Scripted ∧
      run.1.map (·.events.length) = [4, 3] ∧
      List.Forall₂ (IssueStep.SameButSecrets issuer.settings other.settings.auth) run.1 twin.1 ∧
      run.2 = twin.2 := by
  intro settings issuer other policies collaborators request granted refused before run twin
  have same : issuer.settings.SameButSecrets other.settings := ⟨.appRole _ _ _ _, rfl⟩
  have scripted : collaborators.post.Scripted := fun _ _ => rfl
  exact ⟨same, scripted, by decide +kernel,
    secrets_only_in_messages issuer other same collaborators scripted [request, request] before⟩

end Issuer

end TokenIssuance

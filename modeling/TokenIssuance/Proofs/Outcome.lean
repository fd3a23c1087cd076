import TokenIssuance.Proofs.Call

set_option autoImplicit false

namespace TokenIssuance.Issuer

variable {σ : Type}

inductive Heard (issuer : Issuer) (collaborators : Collaborators σ) (request : IssueRequest)
    (before : σ) : VaultReply → Prop where
  | login {roleId : String} {secretId : Option String}
      (admitted : collaborators.Admits request before)
      (auth : issuer.settings.auth = .appRole roleId secretId) :
      Heard issuer collaborators request before
        (issuer.loginReply collaborators request before roleId secretId).1
  | creation {token : String} {middle : σ} (admitted : collaborators.Admits request before)
      (presents : issuer.Presents collaborators.post (collaborators.policyReply request before).2
        token middle) :
      Heard issuer collaborators request before
        (issuer.creationReply collaborators request before token middle).1

-- A body is faulted in the words of the JSON reader, after the broker's own.
inductive Reports (issuer : Issuer) (collaborators : Collaborators σ) (request : IssueRequest)
    (before : σ) : String → Prop where
  | rejected (rejected : (collaborators.signatureReply request before).1 = false) :
      Reports issuer collaborators request before
        ("signature validation failed for '" ++ request.identity.text ++ "'")
  | unmatched (accepted : (collaborators.signatureReply request before).1 = true)
      (unmatched : (collaborators.policyReply request before).1.toList = []) :
      Reports issuer collaborators request before "No policies matched identity"
  | undelivered {text : String}
      (heard : issuer.Heard collaborators request before (.error (.reported text))) :
      Reports issuer collaborators request before text
  | unreadable {detail : String}
      (heard : issuer.Heard collaborators request before (.error (.malformedBody detail))) :
      Reports issuer collaborators request before ("malformed response from vault: " ++ detail)
  | refused {response : HttpResponse} (heard : issuer.Heard collaborators request before (.ok response))
      (status : ¬ response.Successful)
      (shown : ∃ c ∈ response.reason.toList, Text.whiteSpace.covers c.toNat = false) :
      Reports issuer collaborators request before response.reason
  | unexplained {response : HttpResponse}
      (heard : issuer.Heard collaborators request before (.ok response))
      (status : ¬ response.Successful)
      (blank : ∀ c ∈ response.reason.toList, Text.whiteSpace.covers c.toNat = true) :
      Reports issuer collaborators request before
        ("vault request failed with status " ++ toString response.status.toNat)
  | malformed {response : HttpResponse}
      (heard : issuer.Heard collaborators request before (.ok response))
      (success : response.Successful) (detail : String) :
      Reports issuer collaborators request before ("malformed response from vault: " ++ detail)

theorem failed_reports {α : Type} {complain : String → String} {presented : α → Json.Document → Prop}
    {reply : VaultReply} {error : IssueError} (issuer : Issuer) (collaborators : Collaborators σ)
    (request : IssueRequest) (before : σ) (heard : issuer.Heard collaborators request before reply)
    (failed : Failed complain presented reply error) :
    issuer.Reports collaborators request before error.message := by
  cases failed with
  | transport failure =>
      cases failure with
      | reported text => exact .undelivered heard
      | malformedBody detail => exact .unreadable heard
  | refused status shown => exact .refused heard status shown
  | unexplained status blank => exact .unexplained heard status blank
  | malformed success undecodable => exact .malformed heard success _

theorem course_reports (issuer : Issuer) (collaborators : Collaborators σ) (request : IssueRequest)
    (before after : σ) (error : IssueError)
    (course : issuer.Course collaborators request before (.error error) after) :
    issuer.Reports collaborators request before error.message := by
  cases course with
  | rejected rejected => exact .rejected rejected
  | unmatched accepted unmatched => exact .unmatched accepted unmatched
  | turnedAway admitted auth failed =>
      exact failed_reports issuer collaborators request before (.login admitted auth) failed
  | denied admitted presents failed =>
      exact failed_reports issuer collaborators request before (.creation admitted presents) failed

theorem failed_refused_iff {α : Type} (complain : String → String)
    (presented : α → Json.Document → Prop) (reply : VaultReply) :
    (∃ reason, Failed complain presented reply (.refused reason)) ↔
      ∃ response, reply = .ok response ∧ ¬ response.Successful := by
  constructor
  · rintro ⟨reason, failed⟩
    cases failed with
    | refused status shown => exact ⟨_, rfl, status⟩
    | unexplained status blank => exact ⟨_, rfl, status⟩
  · rintro ⟨response, rfl, status⟩
    by_cases blank : ∀ c ∈ response.reason.toList, Text.whiteSpace.covers c.toNat = true
    · exact ⟨_, .unexplained status blank⟩
    · refine ⟨_, .refused status ?_⟩
      simpa using blank

theorem course_iff (issuer : Issuer) (collaborators : Collaborators σ) (request : IssueRequest)
    (before after : σ) (result : Except IssueError Credential) :
    issuer.Course collaborators request before result after ↔
      (issuer.issue collaborators request).run.run before = (result, after) := by
  constructor
  · exact course_runs issuer collaborators request before after result
  · intro ran
    have course := issue_course issuer collaborators request before
    rw [ran] at course
    exact course

theorem refused_heard (issuer : Issuer) (collaborators : Collaborators σ) (request : IssueRequest)
    (before after : σ) (reason : String)
    (course : issuer.Course collaborators request before (.error (.refused reason)) after) :
    ∃ response, issuer.Heard collaborators request before (.ok response) ∧ ¬ response.Successful := by
  cases course with
  | turnedAway admitted auth failed =>
      obtain ⟨response, reply, status⟩ := (failed_refused_iff _ _ _).mp ⟨reason, failed⟩
      refine ⟨response, ?_, status⟩
      rw [← reply]
      exact .login admitted auth
  | denied admitted presents failed =>
      obtain ⟨response, reply, status⟩ := (failed_refused_iff _ _ _).mp ⟨reason, failed⟩
      refine ⟨response, ?_, status⟩
      rw [← reply]
      exact .creation admitted presents

theorem heard_refused (issuer : Issuer) (collaborators : Collaborators σ) (request : IssueRequest)
    (before : σ) (response : HttpResponse)
    (heard : issuer.Heard collaborators request before (.ok response)) (status : ¬ response.Successful) :
    ∃ reason after, issuer.Course collaborators request before (.error (.refused reason)) after := by
  generalize replied : (Except.ok response : VaultReply) = reply at heard
  cases heard with
  | login admitted auth =>
      obtain ⟨reason, failed⟩ := (failed_refused_iff _ LoginGrant.PresentedBy _).mpr
        ⟨response, replied.symm, status⟩
      exact ⟨reason, _, .turnedAway admitted auth failed⟩
  | creation admitted presents =>
      obtain ⟨reason, failed⟩ := (failed_refused_iff _ TokenGrant.PresentedBy _).mpr
        ⟨response, replied.symm, status⟩
      exact ⟨reason, _, .denied admitted presents failed⟩

theorem issue_classified (issuer : Issuer) (collaborators : Collaborators σ) (request : IssueRequest)
    (before : σ) :
    (∀ result after, issuer.Course collaborators request before result after ↔
      (issuer.issue collaborators request).run.run before = (result, after)) ∧
    (∀ error, ((issuer.issue collaborators request).run.run before).1 = .error error →
      issuer.Reports collaborators request before error.message) ∧
    ((∃ reason, ((issuer.issue collaborators request).run.run before).1 = .error (.refused reason)) ↔
      ∃ response, issuer.Heard collaborators request before (.ok response) ∧
        ¬ response.Successful) := by
  have course := issue_course issuer collaborators request before
  refine ⟨?_, ?_, ?_, ?_⟩
  · intro result after
    exact course_iff issuer collaborators request before after result
  · intro error failed
    rw [failed] at course
    exact course_reports issuer collaborators request before _ error course
  · rintro ⟨reason, refused⟩
    rw [refused] at course
    exact refused_heard issuer collaborators request before _ reason course
  · rintro ⟨response, heard, status⟩
    obtain ⟨reason, after, course⟩ :=
      heard_refused issuer collaborators request before response heard status
    rw [course_runs issuer collaborators request before after _ course]
    exact ⟨reason, rfl⟩

theorem empty_body_reported :
    let issuer : Issuer := ⟨{ url := "https://vault", auth := .appRole "broker" none }, by decide⟩
    let collaborators := Collaborators.ofParts (.ofRule .everyone)
      (.constant (PolicySet.ofList ["reader"])) .scripted
      (.constant "EOF while parsing a value at line 1 column 0")
    let request : IssueRequest := { identity := ⟨"host"⟩, signature := "signed" }
    let login : HttpResponse :=
      ⟨200, "OK", "\x7b\"auth\": \x7b\"client_token\": \"session\"\x7d\x7d"⟩
    let before : Unit × Unit × List VaultReply := ((), (), [.ok login, .ok ⟨200, "OK", ""⟩])
    ((issuer.issue collaborators request).run.run before).1 =
        .error (.transport (.malformedBody "EOF while parsing a value at line 1 column 0")) ∧
      issuer.Reports collaborators request before
        "malformed response from vault: EOF while parsing a value at line 1 column 0" := by
  intro issuer collaborators request login before
  have failed : ((issuer.issue collaborators request).run.run before).1 =
      .error (.transport (.malformedBody "EOF while parsing a value at line 1 column 0")) := by decide +kernel
  exact ⟨failed, (issue_classified issuer collaborators request before).2.1 _ failed⟩

end TokenIssuance.Issuer

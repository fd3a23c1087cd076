import TokenIssuance.Issuance.Collaborators
import TokenIssuance.Proofs.Grants

set_option autoImplicit false

namespace TokenIssuance

open Json (Document)

variable {σ : Type}

abbrev VaultReply := Except TransportFailure HttpResponse

def HttpResponse.Successful (response : HttpResponse) : Prop :=
  200 ≤ response.status.toNat ∧ response.status.toNat ≤ 299

def Carries {α : Type} (presented : α → Document → Prop) (body : String) (grant : α) : Prop :=
  ∃ document inner, Document.read? body = some document ∧ Envelops document inner ∧
    presented grant inner

inductive Granted {α : Type} (presented : α → Document → Prop) : VaultReply → α → Prop where
  | response {response : HttpResponse} {grant : α} (success : response.Successful)
      (carries : Carries presented response.body grant) : Granted presented (.ok response) grant

-- The body counts only when the status is a success.
inductive Failed {α : Type} (complain : String → String) (presented : α → Document → Prop) :
    VaultReply → IssueError → Prop where
  | transport (failure : TransportFailure) :
      Failed complain presented (.error failure) (.transport failure)
  | refused {response : HttpResponse} (status : ¬ response.Successful)
      (shown : ∃ c ∈ response.reason.toList, Text.whiteSpace.covers c.toNat = false) :
      Failed complain presented (.ok response) (.refused response.reason)
  | unexplained {response : HttpResponse} (status : ¬ response.Successful)
      (blank : ∀ c ∈ response.reason.toList, Text.whiteSpace.covers c.toNat = true) :
      Failed complain presented (.ok response)
        (.refused ("vault request failed with status " ++ toString response.status.toNat))
  | malformed {response : HttpResponse} (success : response.Successful)
      (undecodable : ∀ grant, ¬ Carries presented response.body grant) :
      Failed complain presented (.ok response)
        (.transport (.malformedBody (complain response.body)))

theorem HttpResponse.is_success_iff (response : HttpResponse) :
    response.isSuccess = true ↔ response.Successful := by
  simp only [isSuccess, Successful, Bool.and_eq_true, decide_eq_true_eq]
  omega

theorem HttpResponse.reason_or_status_shown (response : HttpResponse)
    (shown : ∃ c ∈ response.reason.toList, Text.whiteSpace.covers c.toNat = false) :
    response.reasonOrStatus = response.reason := by
  obtain ⟨c, member, visible⟩ := shown
  have notBlank : ¬ Text.isBlank response.reason = true := by
    intro blank
    rw [List.all_eq_true.mp blank c member] at visible
    cases visible
  rw [reasonOrStatus, if_neg notBlank]

theorem HttpResponse.reason_or_status_blank (response : HttpResponse)
    (blank : ∀ c ∈ response.reason.toList, Text.whiteSpace.covers c.toNat = true) :
    response.reasonOrStatus =
      "vault request failed with status " ++ toString response.status.toNat := by
  have isBlank : Text.isBlank response.reason = true := List.all_eq_true.mpr blank
  rw [reasonOrStatus, if_pos isBlank]

theorem granted_or_failed {α : Type} (complain : String → String) (presented : α → Document → Prop)
    (reply : VaultReply) :
    (∃ grant, Granted presented reply grant) ∨ ∃ error, Failed complain presented reply error := by
  cases reply with
  | error failure => exact .inr ⟨_, .transport failure⟩
  | ok response =>
      by_cases success : response.Successful
      · by_cases carries : ∃ grant, Carries presented response.body grant
        · obtain ⟨grant, carries⟩ := carries
          exact .inl ⟨grant, .response success carries⟩
        · exact .inr ⟨_, .malformed success (not_exists.mp carries)⟩
      · by_cases blank : ∀ c ∈ response.reason.toList, Text.whiteSpace.covers c.toNat = true
        · exact .inr ⟨_, .unexplained success blank⟩
        · refine .inr ⟨_, .refused success ?_⟩
          simpa using blank

theorem run_bind_ok {ε α β : Type} (first : ExceptT ε (StateM σ) α)
    (next : α → ExceptT ε (StateM σ) β) (before after : σ) (result : α)
    (ran : first.run.run before = (.ok result, after)) :
    (first >>= next).run.run before = (next result).run.run after := by
  change (ExceptT.bindCont next (first.run.run before).1).run (first.run.run before).2 = _
  rw [ran]
  rfl

theorem run_bind_error {ε α β : Type} (first : ExceptT ε (StateM σ) α)
    (next : α → ExceptT ε (StateM σ) β) (before after : σ) (error : ε)
    (ran : first.run.run before = (.error error, after)) :
    (first >>= next).run.run before = (.error error, after) := by
  change (ExceptT.bindCont next (first.run.run before).1).run (first.run.run before).2 = _
  rw [ran]
  rfl

namespace Issuer

section

variable {α : Type} {read : Document → Option α} {presented : α → Document → Prop}
  (complain : String → String)
  (reads : ∀ document grant, read document = some grant ↔ presented grant document)

include reads

theorem carries_iff (body : String) (grant : α) :
    (Document.read? body).bind (authEnvelope? read) = some grant ↔ Carries presented body grant := by
  simp only [Option.bind_eq_some_iff, envelops_iff, reads, Carries, exists_and_left]

theorem outcome_granted (reply : VaultReply) (grant : α) (granted : Granted presented reply grant) :
    outcome complain read reply = .ok grant := by
  cases granted with
  | response success carries =>
      rw [← carries_iff reads] at carries
      simp [outcome, HttpResponse.decode, (HttpResponse.is_success_iff _).mpr success, carries]

theorem outcome_failed (reply : VaultReply) (error : IssueError)
    (failed : Failed complain presented reply error) : outcome complain read reply = .error error := by
  have unsuccessful : ∀ response : HttpResponse, ¬ response.Successful →
      outcome complain read (.ok response) = .error (.refused response.reasonOrStatus) := by
    intro response status
    rw [← HttpResponse.is_success_iff] at status
    simp [outcome, status]
  cases failed with
  | transport failure => rfl
  | refused status shown => rw [unsuccessful _ status, HttpResponse.reason_or_status_shown _ shown]
  | unexplained status blank => rw [unsuccessful _ status, HttpResponse.reason_or_status_blank _ blank]
  | @malformed response success undecodable =>
      have nothing : (Document.read? response.body).bind (authEnvelope? read) = none := by
        apply Option.eq_none_iff_forall_ne_some.mpr
        intro grant found
        exact undecodable grant ((carries_iff reads _ grant).mp found)
      simp [outcome, HttpResponse.decode, (HttpResponse.is_success_iff _).mpr success, nothing]

end

inductive Presents (issuer : Issuer) (post : Transport σ) (before : σ) : String → σ → Prop where
  | own {token : String} (auth : issuer.settings.auth = .token token) :
      Presents issuer post before token before
  | loggedIn {roleId : String} {secretId : Option String} {grant : LoginGrant}
      (auth : issuer.settings.auth = .appRole roleId secretId)
      (granted : Granted LoginGrant.PresentedBy
        ((post (issuer.loginPost roleId secretId)).run before).1 grant) :
      Presents issuer post before grant.clientToken
        ((post (issuer.loginPost roleId secretId)).run before).2

end Issuer

namespace Collaborators

def signatureReply (collaborators : Collaborators σ) (request : IssueRequest) (before : σ) : Bool × σ :=
  (collaborators.accepts request.identity request.signature request.impersonated).run before

def policyReply (collaborators : Collaborators σ) (request : IssueRequest) (before : σ) :
    PolicySet × σ :=
  (collaborators.policies request.identity).run (collaborators.signatureReply request before).2

def Admits (collaborators : Collaborators σ) (request : IssueRequest) (before : σ) : Prop :=
  (collaborators.signatureReply request before).1 = true ∧
    (collaborators.policyReply request before).1.toList ≠ []

end Collaborators

namespace Issuer

def creationPost (issuer : Issuer) (collaborators : Collaborators σ) (request : IssueRequest)
    (before : σ) (token : String) : HttpRequest :=
  issuer.tokenPost token (issuer.tokenRequest (collaborators.policyReply request before).1 request)

def loginReply (issuer : Issuer) (collaborators : Collaborators σ) (request : IssueRequest)
    (before : σ) (roleId : String) (secretId : Option String) : VaultReply × σ :=
  (collaborators.post (issuer.loginPost roleId secretId)).run
    (collaborators.policyReply request before).2

def creationReply (issuer : Issuer) (collaborators : Collaborators σ) (request : IssueRequest)
    (before : σ) (token : String) (middle : σ) : VaultReply × σ :=
  (collaborators.post (issuer.creationPost collaborators request before token)).run middle

end Issuer

def HttpRequest.AsksForUses (message : HttpRequest) (uses : UInt32) : Prop :=
  ∃ members, message.body = .object members ∧
    members.lookup "num_uses" = some (.number (.integer uses.toNat))

namespace Issuer

-- The courses of a call. What a credential holds of a grant comes from the second exchange.
inductive Course (issuer : Issuer) (collaborators : Collaborators σ) (request : IssueRequest)
    (before : σ) : Except IssueError Credential → σ → Prop where
  | rejected (rejected : (collaborators.signatureReply request before).1 = false) :
      Course issuer collaborators request before (.error (.unauthenticated request.identity))
        (collaborators.signatureReply request before).2
  | unmatched (accepted : (collaborators.signatureReply request before).1 = true)
      (unmatched : (collaborators.policyReply request before).1.toList = []) :
      Course issuer collaborators request before (.error .noPolicies)
        (collaborators.policyReply request before).2
  | turnedAway {roleId : String} {secretId : Option String} {error : IssueError}
      (admitted : collaborators.Admits request before)
      (auth : issuer.settings.auth = .appRole roleId secretId)
      (failed : Failed collaborators.complaints.login LoginGrant.PresentedBy
        (issuer.loginReply collaborators request before roleId secretId).1 error) :
      Course issuer collaborators request before (.error error)
        (issuer.loginReply collaborators request before roleId secretId).2
  | denied {token : String} {middle : σ} {error : IssueError}
      (admitted : collaborators.Admits request before)
      (presents : issuer.Presents collaborators.post (collaborators.policyReply request before).2
        token middle)
      (failed : Failed collaborators.complaints.creation TokenGrant.PresentedBy
        (issuer.creationReply collaborators request before token middle).1 error) :
      Course issuer collaborators request before (.error error)
        (issuer.creationReply collaborators request before token middle).2
  | issued {token : String} {middle : σ} {grant : TokenGrant} {uses : UInt32}
      (admitted : collaborators.Admits request before)
      (presents : issuer.Presents collaborators.post (collaborators.policyReply request before).2
        token middle)
      (granted : Granted TokenGrant.PresentedBy
        (issuer.creationReply collaborators request before token middle).1 grant)
      (asked : (issuer.creationPost collaborators request before token).AsksForUses uses) :
      Course issuer collaborators request before
        (.ok {
          token := grant.clientToken
          renewable := grant.renewable
          leaseDuration := grant.leaseDuration
          uses := uses
          url := issuer.settings.url
          namespaceName := issuer.settings.namespaceName
          verify := issuer.settings.verify })
        (issuer.creationReply collaborators request before token middle).2

theorem token_post_uses (issuer : Issuer) (token : String) (message : TokenRequest) (uses : UInt32) :
    (issuer.tokenPost token message).AsksForUses uses ↔ uses = message.uses := by
  constructor
  · rintro ⟨members, body, asked⟩
    cases body
    have same : (Json.Value.number (.integer message.uses.toNat)) = .number (.integer uses.toNat) :=
      Option.some.inj asked
    simp only [Json.Value.number.injEq, Json.Number.integer.injEq, Int.natCast_inj] at same
    exact UInt32.toNat_inj.mp same.symm
  · intro same
    cases same
    exact ⟨_, rfl, rfl⟩

theorem issue_gate (issuer : Issuer) (collaborators : Collaborators σ) (request : IssueRequest)
    (before : σ) :
    (issuer.issue collaborators request).run.run before =
      if (collaborators.signatureReply request before).1 = true then
        if (collaborators.policyReply request before).1.isEmpty = true then
          (.error .noPolicies, (collaborators.policyReply request before).2)
        else
          (issuer.requestToken collaborators (collaborators.policyReply request before).1
            request).run.run (collaborators.policyReply request before).2
      else (.error (.unauthenticated request.identity), (collaborators.signatureReply request before).2) := by
  change (if (collaborators.signatureReply request before).1 = true then _ else _ :
    ExceptT IssueError (StateM σ) Credential).run.run _ = _
  by_cases accepted : (collaborators.signatureReply request before).1 = true
  · rw [if_pos accepted, if_pos accepted]
    change (if (collaborators.policyReply request before).1.isEmpty = true then _ else _ :
      ExceptT IssueError (StateM σ) Credential).run.run _ = _
    by_cases empty : (collaborators.policyReply request before).1.isEmpty = true
    · rw [if_pos empty, if_pos empty]
      rfl
    · rw [if_neg empty, if_neg empty]
      rfl
  · rw [if_neg accepted, if_neg accepted]
    rfl

theorem issue_admitted (issuer : Issuer) (collaborators : Collaborators σ) (request : IssueRequest)
    (before : σ) (admitted : collaborators.Admits request before) :
    (issuer.issue collaborators request).run.run before =
      (issuer.requestToken collaborators (collaborators.policyReply request before).1
        request).run.run (collaborators.policyReply request before).2 := by
  have matched : ¬ (collaborators.policyReply request before).1.isEmpty = true :=
    fun empty => admitted.2 (List.isEmpty_iff.mp empty)
  rw [issue_gate, if_pos admitted.1, if_neg matched]

theorem exchange_run {α : Type} (post : Transport σ) (complain : String → String)
    (read : Document → Option α) (message : HttpRequest) (before : σ) :
    (exchange post complain read message).run.run before =
      (outcome complain read ((post message).run before).1, ((post message).run before).2) := rfl

theorem caller_token_presents (issuer : Issuer) (collaborators : Collaborators σ) (before middle : σ)
    (token : String) (presents : issuer.Presents collaborators.post before token middle) :
    (issuer.callerToken collaborators).run.run before = (.ok token, middle) := by
  unfold callerToken
  cases presents with
  | own auth =>
      rw [auth]
      rfl
  | @loggedIn _ _ grant auth granted =>
      rw [auth]
      refine (run_bind_ok _ _ before _ grant ?_).trans rfl
      rw [exchange_run, outcome_granted _ LoginGrant.of_document_presented_iff _ grant granted]

theorem caller_token_failed (issuer : Issuer) (collaborators : Collaborators σ) (before : σ)
    (roleId : String) (secretId : Option String) (error : IssueError)
    (auth : issuer.settings.auth = .appRole roleId secretId)
    (failed : Failed collaborators.complaints.login LoginGrant.PresentedBy
      ((collaborators.post (issuer.loginPost roleId secretId)).run before).1 error) :
    (issuer.callerToken collaborators).run.run before =
      (.error error, ((collaborators.post (issuer.loginPost roleId secretId)).run before).2) := by
  unfold callerToken
  rw [auth]
  refine run_bind_error _ _ before _ error ?_
  rw [exchange_run, outcome_failed _ LoginGrant.of_document_presented_iff _ error failed]

theorem request_token_presents (issuer : Issuer) (collaborators : Collaborators σ)
    (policies : PolicySet) (request : IssueRequest) (before middle : σ) (token : String)
    (presents : issuer.Presents collaborators.post before token middle) :
    let message := issuer.tokenRequest policies request
    let reply := (collaborators.post (issuer.tokenPost token message)).run middle
    (issuer.requestToken collaborators policies request).run.run before =
      ((outcome collaborators.complaints.creation TokenGrant.ofDocument? reply.1).map
        (issuer.credential message), reply.2) := by
  intro message reply
  unfold requestToken
  rw [run_bind_ok _ _ before middle token
    (caller_token_presents issuer collaborators before middle token presents)]
  cases answer : outcome collaborators.complaints.creation TokenGrant.ofDocument? reply.1 with
  | ok grant =>
      refine (run_bind_ok _ _ middle reply.2 grant ?_).trans rfl
      exact congrArg (·, reply.2) answer
  | error error =>
      refine run_bind_error _ _ middle reply.2 error ?_
      exact congrArg (·, reply.2) answer

theorem request_token_failed (issuer : Issuer) (collaborators : Collaborators σ)
    (policies : PolicySet) (request : IssueRequest) (before middle : σ) (error : IssueError)
    (failed : (issuer.callerToken collaborators).run.run before = (.error error, middle)) :
    (issuer.requestToken collaborators policies request).run.run before = (.error error, middle) :=
  run_bind_error _ _ before middle error failed

theorem course_runs (issuer : Issuer) (collaborators : Collaborators σ) (request : IssueRequest)
    (before after : σ) (result : Except IssueError Credential)
    (course : Course issuer collaborators request before result after) :
    (issuer.issue collaborators request).run.run before = (result, after) := by
  cases course with
  | rejected rejected => rw [issue_gate, rejected, if_neg Bool.false_ne_true]
  | unmatched accepted unmatched =>
      have empty : (collaborators.policyReply request before).1.isEmpty = true :=
        List.isEmpty_iff.mpr unmatched
      rw [issue_gate, if_pos accepted, if_pos empty]
  | turnedAway admitted auth failed =>
      rw [issue_admitted issuer collaborators request before admitted]
      exact request_token_failed issuer _ _ request _ _ _
        (caller_token_failed issuer _ _ _ _ _ auth failed)
  | denied admitted presents failed =>
      have reply := outcome_failed _ TokenGrant.of_document_presented_iff _ _ failed
      unfold creationReply creationPost at reply
      rw [issue_admitted issuer collaborators request before admitted,
        request_token_presents issuer _ _ request _ _ _ presents, reply]
      rfl
  | issued admitted presents granted asked =>
      have reply :=
        outcome_granted collaborators.complaints.creation TokenGrant.of_document_presented_iff _ _ granted
      unfold creationReply creationPost at reply
      cases (token_post_uses issuer _ _ _).mp asked
      rw [issue_admitted issuer collaborators request before admitted,
        request_token_presents issuer _ _ request _ _ _ presents, reply]
      rfl

theorem presents_or_fails (issuer : Issuer) (collaborators : Collaborators σ) (before : σ) :
    (∃ token middle, issuer.Presents collaborators.post before token middle) ∨
      ∃ roleId secretId error, issuer.settings.auth = .appRole roleId secretId ∧
        Failed collaborators.complaints.login LoginGrant.PresentedBy
          ((collaborators.post (issuer.loginPost roleId secretId)).run before).1 error := by
  cases auth : issuer.settings.auth with
  | token own => exact .inl ⟨own, before, .own auth⟩
  | appRole roleId secretId =>
      rcases granted_or_failed collaborators.complaints.login LoginGrant.PresentedBy
        ((collaborators.post (issuer.loginPost roleId secretId)).run before).1 with
        ⟨grant, granted⟩ | ⟨error, failed⟩
      · exact .inl ⟨_, _, .loggedIn auth granted⟩
      · exact .inr ⟨roleId, secretId, error, rfl, failed⟩

theorem course_exists (issuer : Issuer) (collaborators : Collaborators σ) (request : IssueRequest)
    (before : σ) : ∃ result after, Course issuer collaborators request before result after := by
  by_cases accepted : (collaborators.signatureReply request before).1 = true
  · by_cases unmatched : (collaborators.policyReply request before).1.toList = []
    · exact ⟨_, _, .unmatched accepted unmatched⟩
    · have admitted : collaborators.Admits request before := ⟨accepted, unmatched⟩
      rcases presents_or_fails issuer collaborators (collaborators.policyReply request before).2 with
        ⟨token, middle, presents⟩ | ⟨roleId, secretId, error, auth, failed⟩
      · rcases granted_or_failed collaborators.complaints.creation TokenGrant.PresentedBy
          (issuer.creationReply collaborators request before token middle).1 with
          ⟨grant, granted⟩ | ⟨error, failed⟩
        · exact ⟨_, _, .issued admitted presents granted ((token_post_uses issuer token _ _).mpr rfl)⟩
        · exact ⟨_, _, .denied admitted presents failed⟩
      · exact ⟨_, _, .turnedAway admitted auth failed⟩
  · exact ⟨_, _, .rejected (Bool.eq_false_iff.mpr accepted)⟩

theorem issue_course (issuer : Issuer) (collaborators : Collaborators σ) (request : IssueRequest)
    (before : σ) :
    Course issuer collaborators request before
      ((issuer.issue collaborators request).run.run before).1
      ((issuer.issue collaborators request).run.run before).2 := by
  obtain ⟨result, after, course⟩ := course_exists issuer collaborators request before
  rw [course_runs issuer collaborators request before after result course]
  exact course

end Issuer

end TokenIssuance

import TokenIssuance.Issuance.Collaborators
import TokenIssuance.Proofs.Run

set_option autoImplicit false

namespace TokenIssuance

variable {σ : Type}

namespace IssueRequest

def SameButLimits (request twin : IssueRequest) : Prop :=
  twin = { request with uses := twin.uses, ttl := twin.ttl }

inductive DropsZero : IssueRequest → IssueRequest → Prop where
  | kept (request : IssueRequest) : DropsZero request request
  | dropped {request : IssueRequest} (zero : request.uses = some 0) :
      DropsZero request { request with uses := none }

end IssueRequest

namespace Issuer

theorem chosen_uses_forbidden (settings : VaultSettings) (request : IssueRequest)
    (forbidden : settings.allowOverride = false) : chosenUses settings request = settings.uses := by
  simp [chosenUses, forbidden]

theorem chosen_ttl_forbidden (settings : VaultSettings) (request : IssueRequest)
    (forbidden : settings.allowOverride = false) : chosenTtl settings request = settings.ttl := by
  simp [chosenTtl, forbidden]

theorem chosen_uses_unnamed (settings : VaultSettings) (request : IssueRequest)
    (unnamed : ∀ uses, request.uses = some uses → uses = 0) :
    chosenUses settings request = settings.uses := by
  unfold chosenUses
  cases given : request.uses with
  | none => simp
  | some uses => simp [unnamed uses given]

theorem token_request_congr (issuer : Issuer) (policies : PolicySet) (request twin : IssueRequest)
    (uses : chosenUses issuer.settings request = chosenUses issuer.settings twin)
    (ttl : chosenTtl issuer.settings request = chosenTtl issuer.settings twin)
    (identity : request.identity = twin.identity) (job : request.jobId = twin.jobId)
    (user : request.actingUser = twin.actingUser) :
    issuer.tokenRequest policies request = issuer.tokenRequest policies twin := by
  simp only [tokenRequest, uses, ttl, identity, job, user]

theorem token_request_forbidden (issuer : Issuer) (policies : PolicySet)
    (request twin : IssueRequest) (forbidden : issuer.settings.allowOverride = false)
    (same : request.SameButLimits twin) :
    issuer.tokenRequest policies request = issuer.tokenRequest policies twin := by
  have uses : chosenUses issuer.settings request = chosenUses issuer.settings twin := by
    rw [chosen_uses_forbidden _ request forbidden, chosen_uses_forbidden _ twin forbidden]
  have ttl : chosenTtl issuer.settings request = chosenTtl issuer.settings twin := by
    rw [chosen_ttl_forbidden _ request forbidden, chosen_ttl_forbidden _ twin forbidden]
  apply token_request_congr issuer policies request twin uses ttl
  · rw [same]
  · rw [same]
  · rw [same]

theorem token_request_zero (issuer : Issuer) (policies : PolicySet) (request : IssueRequest)
    (zero : request.uses = some 0) :
    issuer.tokenRequest policies request =
      issuer.tokenRequest policies { request with uses := none } := by
  have uses : chosenUses issuer.settings request =
      chosenUses issuer.settings { request with uses := none } := by
    rw [chosen_uses_unnamed _ request (by simp [zero]), chosen_uses_unnamed _ _ (by simp)]
  exact token_request_congr issuer policies request _ uses rfl rfl rfl rfl

theorem issue_congr (issuer : Issuer) (collaborators : Collaborators σ) (request twin : IssueRequest)
    (identity : request.identity = twin.identity) (signature : request.signature = twin.signature)
    (impersonated : request.impersonated = twin.impersonated)
    (message : ∀ policies, issuer.tokenRequest policies request = issuer.tokenRequest policies twin) :
    issuer.issue collaborators request = issuer.issue collaborators twin := by
  simp only [issue, requestToken, identity, signature, impersonated, message]

theorem step_congr (issuer : Issuer) (collaborators : Collaborators σ) (request twin : IssueRequest)
    (same : issuer.issue collaborators.recorded request = issuer.issue collaborators.recorded twin) :
    issuer.step collaborators request = issuer.step collaborators twin := by
  unfold step
  rw [same]

theorem step_forbidden (issuer : Issuer) (collaborators : Collaborators σ)
    (request twin : IssueRequest) (forbidden : issuer.settings.allowOverride = false)
    (same : request.SameButLimits twin) :
    issuer.step collaborators request = issuer.step collaborators twin := by
  apply step_congr
  apply issue_congr
  · rw [same]
  · rw [same]
  · rw [same]
  · intro policies
    exact token_request_forbidden issuer policies request twin forbidden same

theorem step_drops_zero (issuer : Issuer) (collaborators : Collaborators σ)
    (request twin : IssueRequest) (drops : request.DropsZero twin) :
    issuer.step collaborators request = issuer.step collaborators twin := by
  cases drops with
  | kept => rfl
  | dropped zero =>
      apply step_congr
      apply issue_congr
      · rfl
      · rfl
      · rfl
      · intro policies
        exact token_request_zero issuer policies request zero

theorem steps_congr (issuer : Issuer) (collaborators : Collaborators σ)
    (paired : IssueRequest → IssueRequest → Prop)
    (each : ∀ request twin, paired request twin →
      issuer.step collaborators request = issuer.step collaborators twin)
    (requests twins : List IssueRequest) (pairs : List.Forall₂ paired requests twins) (before : σ) :
    (issuer.steps collaborators requests).run before =
      (issuer.steps collaborators twins).run before := by
  obtain ⟨steps, left⟩ := run_paired (issuer.step collaborators) (issuer.step collaborators) paired
    (· = ·) (fun request twin state pair => by rw [each request twin pair]; exact ⟨rfl, rfl⟩)
    requests twins pairs before
  rw [List.forall₂_eq_eq_eq] at steps
  exact Prod.ext steps left

-- The steps hold the results and all calls to the collaborators, the messages to the vault among them.
theorem overrides_gated (issuer : Issuer) (collaborators : Collaborators σ)
    (requests twins : List IssueRequest) (before : σ) :
    (issuer.settings.allowOverride = false →
      List.Forall₂ IssueRequest.SameButLimits requests twins →
      (issuer.steps collaborators requests).run before =
        (issuer.steps collaborators twins).run before) ∧
    (List.Forall₂ IssueRequest.DropsZero requests twins →
      (issuer.steps collaborators requests).run before =
        (issuer.steps collaborators twins).run before) := by
  constructor
  · intro forbidden pairs
    exact steps_congr issuer collaborators _
      (fun request twin same => step_forbidden issuer collaborators request twin forbidden same)
      requests twins pairs before
  · intro pairs
    exact steps_congr issuer collaborators _ (step_drops_zero issuer collaborators)
      requests twins pairs before

theorem limits_chosen_or_ignored :
    let settings : VaultSettings :=
      { url := "https://vault", uses := 3, allowOverride := false, auth := .token "own" }
    let strict : Issuer := ⟨settings, by decide⟩
    let lenient : Issuer := ⟨{ settings with allowOverride := true }, by decide⟩
    let policies := PolicySet.ofList ["reader"]
    let collaborators := Collaborators.ofParts (.ofRule .everyone) (.constant policies) .scripted
      (.constant "EOF while parsing a value at line 1 column 0")
    let plain : IssueRequest := { identity := ⟨"host"⟩, signature := "signed" }
    let limited : IssueRequest := { plain with uses := some 7, ttl := some "1h" }
    let zero : IssueRequest := { plain with uses := some 0 }
    let reply : HttpResponse :=
      ⟨200, "OK", "\x7b\"auth\": \x7b\"client_token\": \"issued\"\x7d\x7d"⟩
    let before : Unit × Unit × List (Except TransportFailure HttpResponse) :=
      ((), (), [.ok reply, .ok reply])
    strict.settings.allowOverride = false ∧
      List.Forall₂ IssueRequest.SameButLimits [limited, zero] [plain, limited] ∧
      (strict.steps collaborators [limited, zero]).run before =
        (strict.steps collaborators [plain, limited]).run before ∧
      (lenient.tokenRequest policies limited).uses = 1 ∧
      List.Forall₂ IssueRequest.DropsZero [zero, limited] [plain, limited] ∧
      (lenient.steps collaborators [zero, limited]).run before =
        (lenient.steps collaborators [plain, limited]).run before := by
  intro settings strict lenient policies collaborators plain limited zero reply before
  have limits : List.Forall₂ IssueRequest.SameButLimits [limited, zero] [plain, limited] :=
    .cons rfl (.cons rfl .nil)
  have zeros : List.Forall₂ IssueRequest.DropsZero [zero, limited] [plain, limited] :=
    .cons (.dropped rfl) (.cons (.kept limited) .nil)
  exact ⟨rfl, limits,
    (overrides_gated strict collaborators [limited, zero] [plain, limited] before).1 rfl limits,
    by decide, zeros,
    (overrides_gated lenient collaborators [zero, limited] [plain, limited] before).2 zeros⟩

end Issuer

end TokenIssuance

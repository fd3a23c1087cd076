import TokenIssuance.Proofs.Call
import TokenIssuance.Proofs.Run

set_option autoImplicit false

namespace TokenIssuance

variable {σ : Type}

inductive VaultSettings.NamesUses (settings : VaultSettings) (request : IssueRequest) : UInt32 → Prop
    where
  | requested {uses : UInt32} (allowed : settings.allowOverride = true)
      (given : request.uses = some uses) (positive : 1 ≤ uses) : NamesUses settings request uses
  | configured (unnamed : settings.allowOverride = true → ∀ uses, request.uses = some uses → uses = 0) :
      NamesUses settings request settings.uses

theorem uses_positive_iff (uses : UInt32) : 1 ≤ uses ↔ uses ≠ 0 := by
  rw [UInt32.le_iff_toNat_le, ne_eq, ← UInt32.toNat_inj]
  exact Nat.one_le_iff_ne_zero

namespace Issuer

theorem of_settings_iff (settings : VaultSettings) (issuer : Issuer) :
    ofSettings settings = .ok issuer ↔ issuer.settings = settings := by
  constructor
  · intro built
    unfold ofSettings at built
    split at built
    · cases built
    · cases built
      rfl
  · rintro rfl
    unfold ofSettings
    split
    · rename_i error flaw
      cases flaw.symm.trans issuer.sound
    · rfl

theorem settings_uses_positive (issuer : Issuer) : 1 ≤ issuer.settings.uses := by
  rw [uses_positive_iff]
  intro zero
  have sound := issuer.sound
  simp only [VaultSettings.flaw?, zero] at sound
  split at sound
  · cases sound
  · split at sound <;> cases sound

theorem chosen_uses_named (settings : VaultSettings) (request : IssueRequest) :
    settings.NamesUses request (chosenUses settings request) := by
  unfold chosenUses
  split
  · rename_i allowed
    split
    · rename_i uses given
      split
      · rename_i zero
        refine .configured fun _ other same => ?_
        exact (Option.some.inj (same.symm.trans given)).trans zero
      · rename_i positive
        exact .requested allowed given ((uses_positive_iff uses).mpr positive)
    · rename_i unnamed
      refine .configured fun _ other same => ?_
      cases unnamed.symm.trans same
  · rename_i forbidden
    exact .configured fun allowed => absurd allowed forbidden

theorem chosen_ttl_none_iff (settings : VaultSettings) (request : IssueRequest) :
    chosenTtl settings request = none ↔
      settings.ttl = none ∧ (settings.allowOverride = true → request.ttl = none) := by
  unfold chosenTtl
  split
  · rename_i allowed
    simp [allowed, Option.or_eq_none_iff, and_comm]
  · rename_i forbidden
    simp [forbidden]

structure Limits (settings : VaultSettings) (request : IssueRequest) (message : TokenRequest) : Prop
    where
  positive : 1 ≤ message.uses
  single : message.explicitMaxTtl.isSome = true → message.uses = 1
  unlimited : message.explicitMaxTtl = none ↔
    settings.ttl = none ∧ (settings.allowOverride = true → request.ttl = none)
  named : message.explicitMaxTtl = none → settings.NamesUses request message.uses

theorem named_uses_positive (issuer : Issuer) (request : IssueRequest) (uses : UInt32)
    (named : issuer.settings.NamesUses request uses) : 1 ≤ uses := by
  cases named with
  | requested _ _ positive => exact positive
  | configured _ => exact settings_uses_positive issuer

theorem token_request_limits (issuer : Issuer) (policies : PolicySet) (request : IssueRequest) :
    Limits issuer.settings request (issuer.tokenRequest policies request) := by
  have uses : (issuer.tokenRequest policies request).uses =
      if (chosenTtl issuer.settings request).isSome then 1
      else chosenUses issuer.settings request := rfl
  have named := chosen_uses_named issuer.settings request
  refine ⟨?_, fun limited => if_pos limited, chosen_ttl_none_iff issuer.settings request, ?_⟩
  · rw [uses]
    split
    · exact UInt32.le_refl 1
    · exact named_uses_positive issuer request _ named
  · intro unlimited
    have absent : chosenTtl issuer.settings request = none := unlimited
    rw [uses, absent]
    exact named

end Issuer

def creations (settings : VaultSettings) (events : List IssueEvent) : List HttpRequest :=
  events.filterMap fun
    | .posted message => if message.url = settings.tokenCreateUrl then some message else none
    | .signatureChecked _ _ _ | .policiesAsked _ => none

structure IssueStep.Limited (settings : VaultSettings) (step : IssueStep) : Prop where
  sent : ∀ message ∈ creations settings step.events,
    ∃ uses, message.AsksForUses uses ∧ 1 ≤ uses
  granted : ∀ credential, step.result = .ok credential →
    ∃ message, creations settings step.events = [message] ∧ message.AsksForUses credential.uses

theorem login_url_ne (settings : VaultSettings) : settings.loginUrl ≠ settings.tokenCreateUrl := by
  intro same
  have chars := congrArg String.toList same
  simp only [VaultSettings.loginUrl, VaultSettings.tokenCreateUrl, String.toList_append,
    List.append_assoc, List.append_cancel_left_eq] at chars
  -- After the common `/v1/auth/` the one goes on with the role, the other with the token.
  have tenth := congrArg (·[9]?) chars
  simp at tenth

namespace Issuer

theorem creations_login (issuer : Issuer) (events : List IssueEvent) (roleId : String)
    (secretId : Option String) :
    creations issuer.settings (events ++ [.posted (issuer.loginPost roleId secretId)]) =
      creations issuer.settings events := by
  simp [creations, loginPost, login_url_ne]

theorem creations_token (issuer : Issuer) (events : List IssueEvent) (token : String)
    (message : TokenRequest) :
    creations issuer.settings (events ++ [.posted (issuer.tokenPost token message)]) =
      creations issuer.settings events ++ [issuer.tokenPost token message] := by
  simp [creations, tokenPost]

theorem presents_creations (issuer : Issuer) (collaborators : Collaborators σ)
    (before middle : σ × List IssueEvent) (token : String)
    (presents : issuer.Presents collaborators.recorded.post before token middle) :
    creations issuer.settings middle.2 = creations issuer.settings before.2 := by
  cases presents with
  | own auth => rfl
  | loggedIn auth granted => exact creations_login issuer before.2 _ _

theorem creations_presented (issuer : Issuer) (collaborators : Collaborators σ)
    (request : IssueRequest) (before : σ) (token : String) (message : TokenRequest)
    (middle : σ × List IssueEvent)
    (presents : issuer.Presents collaborators.recorded.post
      (collaborators.recorded.policyReply request (before, [])).2 token middle) :
    creations issuer.settings (middle.2 ++ [.posted (issuer.tokenPost token message)]) =
      [issuer.tokenPost token message] := by
  rw [creations_token, presents_creations issuer collaborators _ middle token presents]
  rfl

theorem unsent_limited (settings : VaultSettings) (error : IssueError) (events : List IssueEvent)
    (unsent : creations settings events = []) :
    IssueStep.Limited settings ⟨.error error, events⟩ where
  sent := by simp [unsent]
  granted := by simp

theorem sent_limited (issuer : Issuer) (result : Except IssueError Credential)
    (events : List IssueEvent) (token : String) (policies : PolicySet) (request : IssueRequest)
    (only : creations issuer.settings events =
      [issuer.tokenPost token (issuer.tokenRequest policies request)])
    (granted : ∀ credential, result = .ok credential →
      (issuer.tokenPost token (issuer.tokenRequest policies request)).AsksForUses credential.uses) :
    IssueStep.Limited issuer.settings ⟨result, events⟩ where
  sent message member := by
    rw [only, List.mem_singleton] at member
    rw [member]
    exact ⟨_, (token_post_uses issuer token _ _).mpr rfl,
      (token_request_limits issuer policies request).positive⟩
  granted credential issued := ⟨_, only, granted credential issued⟩

theorem course_limited (issuer : Issuer) (collaborators : Collaborators σ) (request : IssueRequest)
    (before : σ) (result : Except IssueError Credential) (after : σ × List IssueEvent)
    (course : issuer.Course collaborators.recorded request (before, []) result after) :
    IssueStep.Limited issuer.settings ⟨result, after.2⟩ := by
  cases course with
  | rejected rejected => exact unsent_limited _ _ _ rfl
  | unmatched accepted unmatched => exact unsent_limited _ _ _ rfl
  | turnedAway admitted auth failed =>
      exact unsent_limited _ _ _ (creations_login issuer [_, _] _ _)
  | denied admitted presents failed =>
      exact sent_limited issuer _ _ _ _ request
        (creations_presented issuer collaborators request before _ _ _ presents) (by simp)
  | issued admitted presents granted uses =>
      refine sent_limited issuer _ _ _ _ request
        (creations_presented issuer collaborators request before _ _ _ presents)
        fun credential issued => ?_
      cases issued
      exact uses

theorem uses_always_limited (settings : VaultSettings) (issuer : Issuer)
    (built : ofSettings settings = .ok issuer) (collaborators : Collaborators σ)
    (requests : List IssueRequest) (before : σ) :
    (∀ policies request, Limits settings request (issuer.tokenRequest policies request)) ∧
    let (steps, after) := (issuer.steps collaborators requests).run before
    Along (issuer.step collaborators) (fun _ _ step _ => step.Limited settings)
      requests before steps after := by
  cases (of_settings_iff settings issuer).mp built
  refine ⟨token_request_limits issuer, ?_⟩
  refine run_each _ _ (fun request state => ?_) requests before
  exact course_limited issuer collaborators request state _ _
    (issue_course issuer collaborators.recorded request (state, []))

theorem zero_uses_requested :
    let settings : VaultSettings := { url := "https://vault", uses := 3, auth := .token "own" }
    let issuer : Issuer := ⟨settings, by decide⟩
    let policies := PolicySet.ofList ["reader"]
    let collaborators := Collaborators.ofParts (.ofRule .everyone) (.constant policies) .scripted
      (.constant "EOF while parsing a value at line 1 column 0")
    let request : IssueRequest := { identity := ⟨"host"⟩, signature := "signed", uses := some 0 }
    let reply : HttpResponse :=
      ⟨200, "OK", "\x7b\"auth\": \x7b\"client_token\": \"issued\"\x7d\x7d"⟩
    let before : Unit × Unit × List VaultReply := ((), (), [.ok reply])
    ofSettings settings = .ok issuer ∧
      Limits settings request (issuer.tokenRequest policies request) ∧
      (issuer.tokenRequest policies request).uses = 3 ∧
      ((issuer.issue collaborators request).run.run before).1.toOption.map (·.uses) = some 3 ∧
      let (steps, after) := (issuer.steps collaborators [request]).run before
      Along (issuer.step collaborators) (fun _ _ step _ => step.Limited settings)
        [request] before steps after := by
  intro settings issuer policies collaborators request reply before
  have built : ofSettings settings = .ok issuer := (of_settings_iff settings issuer).mpr rfl
  obtain ⟨limits, along⟩ :=
    uses_always_limited settings issuer built collaborators [request] before
  exact ⟨built, limits policies request, by decide, by decide +kernel, along⟩

end Issuer

end TokenIssuance

import TokenIssuance.Proofs.Members
import TokenIssuance.Vault.Messages

set_option autoImplicit false

namespace TokenIssuance

open Json (Document Members)

structure TokenGrant.StatedBy (members : Members) (grant : TokenGrant) : Prop where
  token : members.under "client_token" = [.string (some grant.clientToken)]
  renewable : (members.under "renewable" = [] ∧ grant.renewable = false) ∨
    members.under "renewable" = [.boolean grant.renewable]
  lease : (members.under "lease_duration" = [] ∧ grant.leaseDuration = 0) ∨
    ∃ seconds : Int, members.under "lease_duration" = [.number (some (.integer seconds))] ∧
      0 ≤ seconds ∧ seconds < UInt64.size ∧ seconds = grant.leaseDuration.toNat

def LoginGrant.StatedBy (members : Members) (grant : LoginGrant) : Prop :=
  members.under "client_token" = [.string (some grant.clientToken)]

def TokenGrant.fieldNames : List String := ["client_token", "renewable", "lease_duration"]

def TokenGrant.PresentedBy (grant : TokenGrant) (document : Document) : Prop :=
  ∃ members, Members.GivenIn fieldNames members document ∧ grant.StatedBy members

def LoginGrant.PresentedBy (grant : LoginGrant) (document : Document) : Prop :=
  ∃ members, Members.GivenIn ["client_token"] members document ∧ grant.StatedBy members

def Envelops (document inner : Document) : Prop :=
  ∃ members, Members.GivenIn ["auth"] members document ∧ members.under "auth" = [inner]

theorem envelope_iff {α : Type} (read : Document → Option α) (members : Members) (grant : α) :
    authEnvelope? read members.object = some grant ↔
      ∃ document, members.under "auth" = [document] ∧ read document = some grant :=
  Members.only_field_iff "auth" read members grant

theorem envelops_iff {α : Type} (read : Document → Option α) (document : Document) (grant : α) :
    authEnvelope? read document = some grant ↔
      ∃ inner, Envelops document inner ∧ read inner = some grant := by
  have given := Members.record_iff ["auth"] (by decide)
    (fun field => Document.required read (field "auth")) document grant
  refine given.trans ?_
  constructor
  · rintro ⟨members, given, found⟩
    obtain ⟨inner, only, granted⟩ := (envelope_iff read members grant).mp found
    exact ⟨inner, ⟨members, given, only⟩, granted⟩
  · rintro ⟨inner, ⟨members, given, only⟩, granted⟩
    exact ⟨members, given, (envelope_iff read members grant).mpr ⟨inner, only, granted⟩⟩

theorem envelope_same_under {α : Type} (read : Document → Option α) (members twin : Members)
    (same : Members.SameUnder ["auth"] members twin) :
    authEnvelope? read members.object = authEnvelope? read twin.object := by
  have back := Members.same_under_symm _ _ _ same
  apply Option.ext
  intro grant
  rw [envelope_iff, envelope_iff]
  constructor
  · intro ⟨document, only, granted⟩
    exact ⟨document, Members.same_under_once _ _ _ same "auth" (by simp) _ (by simp) only, granted⟩
  · intro ⟨document, only, granted⟩
    exact ⟨document, Members.same_under_once _ _ _ back "auth" (by simp) _ (by simp) only, granted⟩

theorem envelope_replaced {α : Type} (read : Document → Option α) (before after : Members)
    (document other : Document) (same : read document = read other) :
    authEnvelope? read (Members.object (before ++ ("auth", document) :: after)) =
      authEnvelope? read (Members.object (before ++ ("auth", other) :: after)) := by
  apply Option.ext
  intro grant
  rw [envelope_iff, envelope_iff]
  simp [Members.under_append, Members.under_cons, List.append_eq_singleton_iff, same]

namespace TokenGrant

theorem of_document_iff (document : Document) (grant : TokenGrant) :
    ofDocument? document = some grant ↔
      ∃ field, document.fields? fieldNames = some field ∧
        Document.required Document.string? (field "client_token") = some grant.clientToken ∧
        Document.withDefault false Document.boolean? (field "renewable") = some grant.renewable ∧
        Document.withDefault 0 Document.uint64? (field "lease_duration") =
          some grant.leaseDuration := by
  simp only [ofDocument?, Option.bind_eq_bind, Option.pure_def, Option.bind_eq_some_iff,
    Option.some.injEq]
  constructor
  · intro ⟨field, fields, _, token, _, renewable, _, lease, same⟩
    rw [← same]
    exact ⟨field, fields, token, renewable, lease⟩
  · intro ⟨field, fields, token, renewable, lease⟩
    exact ⟨field, fields, _, token, _, renewable, _, lease, rfl⟩

theorem stated_once (members : Members) (grant : TokenGrant) (stated : grant.StatedBy members) :
    ∀ name ∈ fieldNames, (members.under name).length ≤ 1 := by
  have renewable : (members.under "renewable").length ≤ 1 := by
    rcases stated.renewable with ⟨absent, _⟩ | only
    · simp [absent]
    · simp [only]
  have lease : (members.under "lease_duration").length ≤ 1 := by
    rcases stated.lease with ⟨absent, _⟩ | ⟨_, only, _⟩
    · simp [absent]
    · simp [only]
  simp [fieldNames, stated.token, renewable, lease]

theorem lease_iff (members : Members) (seconds : UInt64) :
    (∃ document, members.under "lease_duration" = [document] ∧
        document.uint64? = some seconds) ↔
      ∃ whole : Int, members.under "lease_duration" = [.number (some (.integer whole))] ∧
        0 ≤ whole ∧ whole < UInt64.size ∧ whole = seconds.toNat := by
  constructor
  · intro ⟨document, only, read⟩
    rw [(Document.uint64_iff document seconds).mp read] at only
    exact ⟨seconds.toNat, only, Int.natCast_nonneg _, Int.ofNat_lt.mpr seconds.toNat_lt, rfl⟩
  · intro ⟨whole, only, _, _, same⟩
    rw [same] at only
    exact ⟨_, only, (Document.uint64_iff _ seconds).mpr rfl⟩

theorem of_object_iff (members : Members) (grant : TokenGrant) :
    ofDocument? members.object = some grant ↔ grant.StatedBy members := by
  by_cases once : ∀ name ∈ fieldNames, (members.under name).length ≤ 1
  · have token := Members.required_iff Document.string? _ grant.clientToken
      (once "client_token" (by decide))
    have renewable := Members.default_iff false Document.boolean? _ grant.renewable
      (once "renewable" (by decide))
    have lease := Members.default_iff 0 Document.uint64? _ grant.leaseDuration
      (once "lease_duration" (by decide))
    simp only [of_document_iff, Members.fields_object _ _ once, Option.some.injEq, exists_eq_left',
      token, renewable, lease, lease_iff, Document.string_iff, Document.boolean_iff,
      exists_eq_right]
    constructor
    · intro ⟨token, renewable, lease⟩
      exact ⟨token, renewable, lease⟩
    · intro stated
      exact ⟨stated.token, stated.renewable, stated.lease⟩
  · rw [of_document_iff, Members.fields_repeated _ _ once]
    simp only [reduceCtorEq, false_and, exists_false, false_iff]
    intro stated
    exact once (stated_once members grant stated)

theorem of_document_presented_iff (document : Document) (grant : TokenGrant) :
    ofDocument? document = some grant ↔ grant.PresentedBy document := by
  refine (Members.record_iff fieldNames (by decide) _ document grant).trans ?_
  exact exists_congr fun members => and_congr_right fun _ => of_object_iff members grant

end TokenGrant

namespace LoginGrant

theorem of_object_iff (members : Members) (grant : LoginGrant) :
    ofDocument? members.object = some grant ↔ grant.StatedBy members := by
  have token := Members.only_field_iff "client_token" Document.string? members grant.clientToken
  simp only [Document.string_iff, exists_eq_right] at token
  rw [StatedBy, ← token]
  cases grant
  simp [ofDocument?, Option.bind_eq_some_iff]

theorem of_document_presented_iff (document : Document) (grant : LoginGrant) :
    ofDocument? document = some grant ↔ grant.PresentedBy document := by
  refine (Members.record_iff ["client_token"] (by decide) _ document grant).trans ?_
  exact exists_congr fun members => and_congr_right fun _ => of_object_iff members grant

end LoginGrant

def Json.Members.Nested (members : Members) : Prop :=
  ∀ value ∈ members.under "auth", ∃ inner : Members, value = inner.object

theorem nested_iff {α : Type} (read : Document → Option α) (members : Members)
    (nested : members.Nested) (grant : α) :
    authEnvelope? read members.object = some grant ↔
      ∃ inner : Members, members.under "auth" = [inner.object] ∧ read inner.object = some grant := by
  rw [envelope_iff]
  constructor
  · intro ⟨document, only, granted⟩
    obtain ⟨inner, shape⟩ := nested document (by simp [only])
    rw [shape] at only granted
    exact ⟨inner, only, granted⟩
  · intro ⟨inner, only, granted⟩
    exact ⟨inner.object, only, granted⟩

theorem TokenGrant.stated_same (members twin : Members)
    (same : members.SameUnder TokenGrant.fieldNames twin)
    (grant : TokenGrant) (stated : grant.StatedBy members) : grant.StatedBy twin := by
  have once := Members.same_under_once _ _ _ same
  refine ⟨once "client_token" (by decide) _ (by simp) stated.token, ?_, ?_⟩
  · rcases stated.renewable with ⟨absent, default⟩ | only
    · exact .inl ⟨once "renewable" (by decide) _ (by simp) absent, default⟩
    · exact .inr (once "renewable" (by decide) _ (by simp) only)
  · rcases stated.lease with ⟨absent, default⟩ | ⟨seconds, only, range⟩
    · exact .inl ⟨once "lease_duration" (by decide) _ (by simp) absent, default⟩
    · exact .inr ⟨seconds, once "lease_duration" (by decide) _ (by simp) only, range⟩

theorem TokenGrant.of_object_same (members twin : Members)
    (same : members.SameUnder TokenGrant.fieldNames twin) :
    TokenGrant.ofDocument? members.object = TokenGrant.ofDocument? twin.object := by
  apply Option.ext
  intro grant
  rw [of_object_iff, of_object_iff]
  exact ⟨stated_same _ _ same grant, stated_same _ _ (Members.same_under_symm _ _ _ same) grant⟩

theorem LoginGrant.of_object_same (members twin : Members)
    (same : members.SameUnder TokenGrant.fieldNames twin) :
    LoginGrant.ofDocument? members.object = LoginGrant.ofDocument? twin.object := by
  have back := Members.same_under_symm _ _ _ same
  apply Option.ext
  intro grant
  rw [of_object_iff, of_object_iff]
  exact ⟨Members.same_under_once _ _ _ same "client_token" (by decide) _ (by simp),
    Members.same_under_once _ _ _ back "client_token" (by decide) _ (by simp)⟩

-- Members in another order, with others under names that no grant has: around the envelope, inside of
-- it, and one after the other.
inductive Rearranged : Members → Members → Prop where
  | around {members twin : Members} (same : members.SameUnder ["auth"] twin) :
      Rearranged members twin
  | inside (before after : Members) {inner twin : Members}
      (same : inner.SameUnder TokenGrant.fieldNames twin) :
      Rearranged (before ++ ("auth", inner.object) :: after) (before ++ ("auth", twin.object) :: after)
  | next {members middle twin : Members} (first : Rearranged members middle)
      (later : Rearranged middle twin) : Rearranged members twin

theorem envelope_rearranged {α : Type} (read : Document → Option α)
    (inside : ∀ inner twin : Members, inner.SameUnder TokenGrant.fieldNames twin →
      read inner.object = read twin.object)
    (members twin : Members) (rearranged : Rearranged members twin) :
    authEnvelope? read members.object = authEnvelope? read twin.object := by
  induction rearranged with
  | around same => exact envelope_same_under read _ _ same
  | inside before after same => exact envelope_replaced read before after _ _ (inside _ _ same)
  | next _ _ first later => exact first.trans later

theorem grants_read_exactly (members : Members) (nested : members.Nested) :
    (∀ grant, authEnvelope? TokenGrant.ofDocument? members.object = some grant ↔
      ∃ inner : Members, members.under "auth" = [inner.object] ∧ grant.StatedBy inner) ∧
    (∀ grant, authEnvelope? LoginGrant.ofDocument? members.object = some grant ↔
      ∃ inner : Members, members.under "auth" = [inner.object] ∧ grant.StatedBy inner) ∧
    (∀ grant, authEnvelope? TokenGrant.ofDocument? members.object = some grant →
      authEnvelope? LoginGrant.ofDocument? members.object = some ⟨grant.clientToken⟩) ∧
    ∀ twin, Rearranged members twin →
      authEnvelope? TokenGrant.ofDocument? members.object =
        authEnvelope? TokenGrant.ofDocument? twin.object ∧
      authEnvelope? LoginGrant.ofDocument? members.object =
        authEnvelope? LoginGrant.ofDocument? twin.object := by
  have token := nested_iff TokenGrant.ofDocument? members nested
  have login := nested_iff LoginGrant.ofDocument? members nested
  simp only [TokenGrant.of_object_iff] at token
  simp only [LoginGrant.of_object_iff] at login
  refine ⟨token, login, fun grant granted => ?_, fun twin rearranged => ⟨?_, ?_⟩⟩
  · obtain ⟨inner, only, stated⟩ := (token grant).mp granted
    exact (login ⟨grant.clientToken⟩).mpr ⟨inner, only, stated.token⟩
  · exact envelope_rearranged _ TokenGrant.of_object_same members twin rearranged
  · exact envelope_rearranged _ LoginGrant.of_object_same members twin rearranged

theorem lease_read_among_others :
    let inner : Members := [("policies", .array [.null]), ("client_token", .string (some "issued")),
      ("lease_duration", .number (some (.integer 3600)))]
    let turned : Members := [("lease_duration", .number (some (.integer 3600))),
      ("client_token", .string (some "issued"))]
    let members : Members := [("data", .null), ("auth", inner.object), ("data", .boolean true)]
    let twin : Members := [("auth", turned.object), ("warnings", .array [])]
    members.Nested ∧ Rearranged members twin ∧
      authEnvelope? TokenGrant.ofDocument? members.object = some ⟨"issued", false, 3600⟩ ∧
      authEnvelope? LoginGrant.ofDocument? members.object = some ⟨"issued"⟩ ∧
      authEnvelope? TokenGrant.ofDocument? twin.object = some ⟨"issued", false, 3600⟩ := by
  intro inner turned members twin
  have nested : members.Nested := by
    intro value member
    exact ⟨inner, List.mem_singleton.mp member⟩
  have turns : inner.SameUnder TokenGrant.fieldNames turned := by
    simp [Members.SameUnder, TokenGrant.fieldNames, inner, turned, Members.under]
  have rearranged : Rearranged members twin :=
    .next (.inside [("data", .null)] [("data", .boolean true)] turns)
      (.around (by simp [Members.SameUnder, twin, Members.under]))
  obtain ⟨token, login, follows, same⟩ := grants_read_exactly members nested
  have granted : authEnvelope? TokenGrant.ofDocument? members.object =
      some ⟨"issued", false, 3600⟩ :=
    (token _).mpr ⟨inner, rfl, rfl, .inl ⟨rfl, rfl⟩, .inr ⟨3600, rfl, by decide, by decide, rfl⟩⟩
  exact ⟨nested, rearranged, granted, follows _ granted, (same twin rearranged).1.symm.trans granted⟩

end TokenIssuance

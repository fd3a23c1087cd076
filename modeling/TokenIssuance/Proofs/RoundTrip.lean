import TokenIssuance.Proofs.Members
import TokenIssuance.Proofs.Service

set_option autoImplicit false

namespace TokenIssuance

open Json (Document Members)

def textList (texts : List String) : Document :=
  .array (texts.map fun text => .string (some text))

-- Null and no member at all both stand for no time to live.
inductive StatesTtl : Option String → Members → Prop where
  | absent : StatesTtl none []
  | null : StatesTtl none [("explicit_max_ttl", .null)]
  | given (text : String) : StatesTtl (some text) [("explicit_max_ttl", .string (some text))]

namespace TokenMeta

def fieldNames : List String := ["requester_id", "job_id", "acting_user"]

def members (details : TokenMeta) : Members :=
  [("requester_id", .string (some details.requesterId)), ("job_id", .string (some details.jobId)),
    ("acting_user", .string (some details.actingUser))]

inductive PresentedBy (details : TokenMeta) : Document → Prop where
  | object {members : Members} (extension : members.Extends fieldNames details.members) :
      PresentedBy details members.object
  | array : PresentedBy details (.array (details.members.map (·.2)))

end TokenMeta

namespace TokenRequest

def fieldNames : List String := ["policies", "num_uses", "explicit_max_ttl", "meta"]

def members (request : TokenRequest) (ttl : Members) (details : Document) : Members :=
  [("policies", textList request.policies),
    ("num_uses", .number (some (.integer request.uses.toNat)))] ++ ttl ++ [("meta", details)]

inductive PresentedBy (request : TokenRequest) : Document → Prop where
  | object {members ttl : Members} {details : Document} (limit : StatesTtl request.explicitMaxTtl ttl)
      (inner : request.details.PresentedBy details)
      (extension : members.Extends fieldNames (request.members ttl details)) :
      PresentedBy request members.object
  | array {ttl details : Document}
      (limit : StatesTtl request.explicitMaxTtl [("explicit_max_ttl", ttl)])
      (inner : request.details.PresentedBy details) :
      PresentedBy request
        (.array ((request.members [("explicit_max_ttl", ttl)] details).map (·.2)))

end TokenRequest

theorem strings_iff (document : Document) (texts : List String) :
    document.strings? = some texts ↔ document = textList texts := by
  have each : ∀ items : List Document, items.mapM Document.string? = some texts ↔
      items = texts.map fun text => .string (some text) := by
    intro items
    induction items generalizing texts with
    | nil => cases texts <;> simp
    | cons item items ih =>
        cases texts with
        | nil => simp [List.mapM_cons, Option.bind_eq_some_iff]
        | cons text texts =>
            simp [List.mapM_cons, Option.bind_eq_some_iff, Document.string_iff, ih]
  cases document <;> simp [Document.strings?, textList, each]

theorem nullable_iff (document : Document) (text : Option String) :
    document.nullable Document.string? = some text ↔
      StatesTtl text [("explicit_max_ttl", document)] := by
  constructor
  · intro read
    cases document with
    | null => cases read; exact .null
    | string text =>
        obtain ⟨found, shown, same⟩ := Option.map_eq_some_iff.mp read
        rw [← same, (Document.string_iff _ _).mp shown]
        exact .given found
    | _ => cases read
  · intro states
    cases states <;> rfl

theorem ttl_iff (values : List Document) (ttl : Option String) (once : values.length ≤ 1) :
    Document.withDefault none (Document.nullable Document.string?) values.head? = some ttl ↔
      StatesTtl ttl (values.map ("explicit_max_ttl", ·)) := by
  match values, once with
  | [], _ =>
      constructor
      · intro read
        cases read
        exact .absent
      · intro states
        cases states
        rfl
  | [document], _ => exact nullable_iff document ttl

theorem states_ttl_values {text : Option String} {ttl : Members} (states : StatesTtl text ttl) :
    ∃ values : List Document, values.length ≤ 1 ∧ ttl = values.map ("explicit_max_ttl", ·) := by
  cases states with
  | absent => exact ⟨[], by simp, rfl⟩
  | null => exact ⟨[.null], by simp, rfl⟩
  | given text => exact ⟨[.string (some text)], by simp, rfl⟩

namespace TokenMeta

theorem of_document_iff (document : Document) (details : TokenMeta) :
    ofDocument? document = some details ↔
      ∃ field, document.fields? fieldNames = some field ∧
        Document.required Document.string? (field "requester_id") = some details.requesterId ∧
        Document.required Document.string? (field "job_id") = some details.jobId ∧
        Document.required Document.string? (field "acting_user") = some details.actingUser := by
  simp only [ofDocument?, Option.bind_eq_bind, Option.pure_def, Option.bind_eq_some_iff,
    Option.some.injEq]
  constructor
  · intro ⟨field, fields, _, requester, _, job, _, user, same⟩
    rw [← same]
    exact ⟨field, fields, requester, job, user⟩
  · intro ⟨field, fields, requester, job, user⟩
    exact ⟨field, fields, _, requester, _, job, _, user, rfl⟩

theorem of_document_presented (document : Document) (details : TokenMeta)
    (read : ofDocument? document = some details) : details.PresentedBy document := by
  obtain ⟨field, fields, requester, job, user⟩ := (of_document_iff document details).mp read
  rcases Members.fields_cases fieldNames document field fields with
    ⟨members, shape, once, found⟩ | ⟨items, shape, short, found⟩
  · rw [found] at requester job user
    rw [Members.required_iff _ _ _ (once _ (by decide))] at requester job user
    simp only [Document.string_iff, exists_eq_right] at requester job user
    rw [shape]
    apply PresentedBy.object
    apply Members.extends_of_same_under
    · simp [Members.SameUnder, fieldNames, TokenMeta.members, Members.under_cons, Members.under_nil,
        requester, job, user]
    · simp [TokenMeta.members, fieldNames]
  · rw [found] at requester job user
    rw [shape]
    rcases items with _ | ⟨first, _ | ⟨second, _ | ⟨third, _ | ⟨fourth, more⟩⟩⟩⟩
    · cases requester
    · cases job
    · cases user
    · have first : first = .string (some details.requesterId) := (Document.string_iff _ _).mp requester
      have second : second = .string (some details.jobId) := (Document.string_iff _ _).mp job
      have third : third = .string (some details.actingUser) := (Document.string_iff _ _).mp user
      rw [first, second, third]
      exact .array
    · simp only [fieldNames, List.length_cons, List.length_nil] at short
      omega

theorem presented_of_document (document : Document) (details : TokenMeta)
    (presented : details.PresentedBy document) : ofDocument? document = some details := by
  cases presented with
  | object extension =>
      obtain ⟨field, fields, same⟩ := Members.fields_extended _ _ _ extension (by
        simp [fieldNames, TokenMeta.members, Members.under_cons, Members.under_nil])
      refine (of_document_iff _ details).mpr ⟨field, fields, ?_, ?_, ?_⟩
      · rw [same "requester_id" (by decide)]
        rfl
      · rw [same "job_id" (by decide)]
        rfl
      · rw [same "acting_user" (by decide)]
        rfl
  | array => rfl

theorem of_document_some_iff (document : Document) (details : TokenMeta) :
    ofDocument? document = some details ↔ details.PresentedBy document :=
  ⟨of_document_presented document details, presented_of_document document details⟩

end TokenMeta

namespace TokenRequest

theorem of_document_iff (document : Document) (request : TokenRequest) :
    ofDocument? document = some request ↔
      ∃ field, document.fields? fieldNames = some field ∧
        Document.required Document.strings? (field "policies") = some request.policies ∧
        Document.required Document.uint32? (field "num_uses") = some request.uses ∧
        Document.withDefault none (Document.nullable Document.string?) (field "explicit_max_ttl") =
          some request.explicitMaxTtl ∧
        Document.required TokenMeta.ofDocument? (field "meta") = some request.details := by
  simp only [ofDocument?, Option.bind_eq_bind, Option.pure_def, Option.bind_eq_some_iff,
    Option.some.injEq]
  constructor
  · intro ⟨field, fields, _, policies, _, uses, _, ttl, _, details, same⟩
    rw [← same]
    exact ⟨field, fields, policies, uses, ttl, details⟩
  · intro ⟨field, fields, policies, uses, ttl, details⟩
    exact ⟨field, fields, _, policies, _, uses, _, ttl, _, details, rfl⟩

section Members

variable (request : TokenRequest) (values : List Document) (details : Document)

theorem members_named :
    ∀ member ∈ request.members (values.map ("explicit_max_ttl", ·)) details,
      member.1 ∈ fieldNames := by
  simp only [TokenRequest.members, List.forall_mem_append, List.forall_mem_cons, List.forall_mem_map]
  simp [fieldNames]

theorem members_under :
    let known := request.members (values.map ("explicit_max_ttl", ·)) details
    known.under "policies" = [textList request.policies] ∧
      known.under "num_uses" = [.number (some (.integer request.uses.toNat))] ∧
      known.under "explicit_max_ttl" = values ∧ known.under "meta" = [details] := by
  simp [TokenRequest.members, Members.under_cons, Members.under_nil, Members.under_append,
    Members.under_named]

theorem members_once (once : values.length ≤ 1) :
    ∀ name ∈ fieldNames,
      ((request.members (values.map ("explicit_max_ttl", ·)) details).under name).length ≤ 1 := by
  simpa [fieldNames, request.members_under values details] using once

end Members

theorem of_document_presented (document : Document) (request : TokenRequest)
    (read : ofDocument? document = some request) : request.PresentedBy document := by
  obtain ⟨field, fields, policies, uses, ttl, details⟩ := (of_document_iff document request).mp read
  rcases Members.fields_cases fieldNames document field fields with
    ⟨members, shape, once, found⟩ | ⟨items, shape, short, found⟩
  · rw [found] at policies uses ttl details
    rw [Members.required_iff _ _ _ (once _ (by decide))] at policies uses details
    rw [ttl_iff _ _ (once _ (by decide))] at ttl
    simp only [strings_iff, exists_eq_right, Document.uint32_iff] at policies uses
    obtain ⟨inner, given, details⟩ := details
    rw [shape]
    apply PresentedBy.object ttl ((TokenMeta.of_document_some_iff _ _).mp details)
    apply Members.extends_of_same_under
    · simp [Members.SameUnder, fieldNames, request.members_under, policies, uses, given]
    · exact request.members_named _ inner
  · rw [found] at policies uses ttl details
    rw [shape]
    rcases items with _ | ⟨first, _ | ⟨second, _ | ⟨third, _ | ⟨fourth, _ | ⟨fifth, more⟩⟩⟩⟩⟩
    · cases policies
    · cases uses
    · cases details
    · cases details
    · have first : first = textList request.policies := (strings_iff _ _).mp policies
      have second : second = .number (some (.integer request.uses.toNat)) :=
        (Document.uint32_iff _ _).mp uses
      rw [first, second]
      exact .array ((nullable_iff _ _).mp ttl) ((TokenMeta.of_document_some_iff _ _).mp details)
    · simp only [fieldNames, List.length_cons, List.length_nil] at short
      omega

theorem presented_of_document (document : Document) (request : TokenRequest)
    (presented : request.PresentedBy document) : ofDocument? document = some request := by
  cases presented with
  | @object members ttl details limit inner extension =>
      obtain ⟨values, once, same⟩ := states_ttl_values limit
      rw [same] at limit extension
      obtain ⟨field, fields, found⟩ :=
        Members.fields_extended _ _ _ extension (request.members_once values details once)
      obtain ⟨policies, uses, ttl, nested⟩ := request.members_under values details
      refine (of_document_iff _ request).mpr ⟨field, fields, ?_, ?_, ?_, ?_⟩
      · rw [found "policies" (by decide), policies]
        exact (strings_iff _ _).mpr rfl
      · rw [found "num_uses" (by decide), uses, Members.required_iff _ _ _ (by simp)]
        exact ⟨_, rfl, (Document.uint32_iff _ _).mpr rfl⟩
      · rw [found "explicit_max_ttl" (by decide), ttl]
        exact (ttl_iff values _ once).mpr limit
      · rw [found "meta" (by decide), nested]
        exact (TokenMeta.of_document_some_iff _ _).mpr inner
  | array limit inner =>
      refine (of_document_iff _ request).mpr ⟨_, rfl, ?_, ?_, ?_, ?_⟩
      · exact (strings_iff _ _).mpr rfl
      · exact Option.bind_eq_some_iff.mpr ⟨_, rfl, (Document.uint32_iff _ _).mpr rfl⟩
      · exact (nullable_iff _ _).mpr limit
      · exact (TokenMeta.of_document_some_iff _ _).mpr inner

theorem of_document_some_iff (document : Document) (request : TokenRequest) :
    ofDocument? document = some request ↔ request.PresentedBy document :=
  ⟨of_document_presented document request, presented_of_document document request⟩

theorem text_items (texts : List String) :
    Document.ofItems (texts.map .string) = texts.map fun text => .string (some text) := by
  induction texts with
  | nil => rfl
  | cons text texts ih => rw [List.map_cons, List.map_cons, Document.ofItems, ih, Document.ofValue]

def givenTtl : Option String → Members
  | none => []
  | some text => [("explicit_max_ttl", .string (some text))]

theorem given_ttl_states (text : Option String) : StatesTtl text (givenTtl text) := by
  cases text with
  | none => exact .absent
  | some text => exact .given text

theorem sent_object (request : TokenRequest) :
    Document.ofValue request.toValue =
      (request.members (givenTtl request.explicitMaxTtl) request.details.members.object).object := by
  have listed : Document.ofValue (.array (request.policies.map .string)) =
      textList request.policies := by
    rw [Document.ofValue, text_items, textList]
  rw [toValue, Document.ofValue, TokenRequest.members, ← listed]
  cases request.explicitMaxTtl <;> rfl

theorem sent_presented (request : TokenRequest) :
    request.PresentedBy (.ofValue request.toValue) := by
  rw [sent_object]
  exact .object (given_ttl_states _) (.object (Members.extends_refl _ _)) (Members.extends_refl _ _)

theorem sent_ttl_iff (request : TokenRequest) :
    ∃ members, request.toValue = .object members ∧
      ("explicit_max_ttl" ∈ members.map (·.1) ↔ request.explicitMaxTtl.isSome = true) := by
  refine ⟨_, rfl, ?_⟩
  cases request.explicitMaxTtl <;> simp [optionalMember]

theorem sent_read_back (request : TokenRequest) :
    ofDocument? (.ofValue request.toValue) = some request :=
  presented_of_document _ request request.sent_presented

end TokenRequest

namespace Issuer

variable {σ : Type}

def ReadBack (issuer : Issuer) (collaborators : Collaborators σ) (request : IssueRequest)
    (before : σ) (step : IssueStep) : Prop :=
  ∀ message ∈ creations issuer.settings step.events,
    TokenRequest.ofDocument? (.ofValue message.body) =
      some (issuer.tokenRequest (collaborators.policyReply request before).1 request)

theorem step_read_back (issuer : Issuer) (collaborators : Collaborators σ) (request : IssueRequest)
    (before : σ) :
    issuer.ReadBack collaborators request before
      ((issuer.step collaborators request).run before).1 := by
  intro message member
  have course := issue_course issuer collaborators.recorded request (before, [])
  obtain ⟨_, token, same⟩ :=
    course_creations issuer collaborators request before _ _ course message member
  rw [same]
  exact TokenRequest.sent_read_back _

theorem token_requests_read_back (issuer : Issuer) (collaborators : Collaborators σ)
    (requests : List IssueRequest) (before : σ) :
    (∀ document request, TokenRequest.ofDocument? document = some request ↔
      request.PresentedBy document) ∧
    (∀ request : TokenRequest,
      TokenRequest.ofDocument? (.ofValue request.toValue) = some request ∧
      ∃ members, request.toValue = .object members ∧
        ("explicit_max_ttl" ∈ members.map (·.1) ↔ request.explicitMaxTtl.isSome = true)) ∧
    (∀ document, (TokenRequest.ofDocument? document).bind
        (fun request => TokenRequest.ofDocument? (.ofValue request.toValue)) =
      TokenRequest.ofDocument? document) ∧
    let (steps, after) := (issuer.steps collaborators requests).run before
    Along (issuer.step collaborators)
      (fun request state step _ => issuer.ReadBack collaborators request state step)
      requests before steps after := by
  refine ⟨TokenRequest.of_document_some_iff, ?_, ?_, ?_⟩
  · intro request
    exact ⟨request.sent_read_back, request.sent_ttl_iff⟩
  · intro document
    simp only [TokenRequest.sent_read_back, Option.bind_fun_some]
  · exact run_each _ _ (step_read_back issuer collaborators) requests before

example :
    let details : Document := .array [.string (some "host"), .string (some "7"), .string (some "anna")]
    let members : Members := [("meta", details), ("data", .null), ("explicit_max_ttl", .null),
      ("num_uses", .number (some (.integer 1))), ("policies", textList ["reader"])]
    TokenRequest.ofDocument? members.object = some ⟨["reader"], 1, none, ⟨"host", "7", "anna"⟩⟩ := rfl

end Issuer

end TokenIssuance

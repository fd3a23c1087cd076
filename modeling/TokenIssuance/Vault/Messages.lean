import TokenIssuance.Identity
import TokenIssuance.Json.Record

set_option autoImplicit false

namespace TokenIssuance

open Json (Document Value)

structure TokenMeta where
  requesterId : String
  jobId : String
  actingUser : String
deriving DecidableEq, Repr

def noJobId : String := "<no jid set>"
def noActingUser : String := "<no user set>"

structure TokenRequest where
  policies : List String
  uses : UInt32
  explicitMaxTtl : Option String
  details : TokenMeta
deriving DecidableEq, Repr

def optionalMember (name : String) : Option String → List (String × Value)
  | none => []
  | some text => [(name, .string text)]

namespace TokenMeta

def toValue (details : TokenMeta) : Value :=
  .object [("requester_id", .string details.requesterId), ("job_id", .string details.jobId),
    ("acting_user", .string details.actingUser)]

def ofDocument? (document : Document) : Option TokenMeta := do
  let field ← document.fields? ["requester_id", "job_id", "acting_user"]
  return ⟨← Document.required Document.string? (field "requester_id"),
    ← Document.required Document.string? (field "job_id"),
    ← Document.required Document.string? (field "acting_user")⟩

end TokenMeta

namespace TokenRequest

def toValue (request : TokenRequest) : Value :=
  .object ([("policies", .array (request.policies.map .string)),
    ("num_uses", .number (.integer request.uses.toNat))] ++
    optionalMember "explicit_max_ttl" request.explicitMaxTtl ++
    [("meta", request.details.toValue)])

def ofDocument? (document : Document) : Option TokenRequest := do
  let field ← document.fields? ["policies", "num_uses", "explicit_max_ttl", "meta"]
  return ⟨← Document.required Document.strings? (field "policies"),
    ← Document.required Document.uint32? (field "num_uses"),
    ← Document.withDefault none (Document.nullable Document.string?) (field "explicit_max_ttl"),
    ← Document.required TokenMeta.ofDocument? (field "meta")⟩

end TokenRequest

def loginMessage (roleId : String) (secretId : Option String) : Value :=
  .object ([("role_id", .string roleId)] ++ optionalMember "secret_id" secretId)

structure TokenGrant where
  clientToken : String
  renewable : Bool
  leaseDuration : UInt64
deriving DecidableEq, Repr

structure LoginGrant where
  clientToken : String
deriving DecidableEq, Repr

def authEnvelope? {α : Type} (read : Document → Option α) (document : Document) : Option α := do
  let field ← document.fields? ["auth"]
  Document.required read (field "auth")

namespace TokenGrant

def ofDocument? (document : Document) : Option TokenGrant := do
  let field ← document.fields? ["client_token", "renewable", "lease_duration"]
  return ⟨← Document.required Document.string? (field "client_token"),
    ← Document.withDefault false Document.boolean? (field "renewable"),
    ← Document.withDefault 0 Document.uint64? (field "lease_duration")⟩

end TokenGrant

namespace LoginGrant

def ofDocument? (document : Document) : Option LoginGrant := do
  let field ← document.fields? ["client_token"]
  return ⟨← Document.required Document.string? (field "client_token")⟩

end LoginGrant

def Identity.ofDocument? (document : Document) : Option Identity :=
  document.string?.map Identity.mk

end TokenIssuance

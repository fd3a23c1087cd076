import TokenIssuance.Toml.Reader
import TokenIssuance.Vault.Auth

set_option autoImplicit false

namespace TokenIssuance

structure VaultSettings where
  url : String
  namespaceName : Option String := none
  roleName : Option String := none
  verify : Bool := true
  timeoutSeconds : UInt64 := 15
  allowOverride : Bool := true
  uses : UInt32 := 1
  ttl : Option String := none
  auth : VaultAuth
deriving DecidableEq, Repr

inductive VaultSettingsError where
  | unreadable
  | malformed
  | missingUrl
  | zeroTimeout
  | zeroUses
  | blankToken
  | blankRoleId
deriving DecidableEq, Repr

def VaultSettingsError.message : VaultSettingsError → String
  | .unreadable => "failed to read vault config"
  | .malformed => "failed to parse vault config TOML"
  | .missingUrl => "vault url must be set"
  | .zeroTimeout => "vault timeout must be greater than zero"
  | .zeroUses => "token uses must be greater than zero"
  | .blankToken => "invalid vault auth config: token method requires a non-empty token"
  | .blankRoleId => "invalid vault auth config: approle method requires a non-empty role_id"

def VaultAuth.flaw? : VaultAuth → Option VaultSettingsError
  | .token secret => if Text.isBlank secret then some .blankToken else none
  | .appRole roleId _ => if Text.isBlank roleId then some .blankRoleId else none

namespace VaultSettings

open Toml.Value (withDefault optional string? boolean? uint32? uint64?)

-- The first thing wrong with settings, if anything. Zero uses would mean a token without limit.
def flaw? (settings : VaultSettings) : Option VaultSettingsError :=
  if Text.isBlank settings.url then some .missingUrl
  else if settings.timeoutSeconds = 0 then some .zeroTimeout
  else if settings.uses = 0 then some .zeroUses
  else settings.auth.flaw?

def check (settings : VaultSettings) : Except VaultSettingsError VaultSettings :=
  match settings.flaw? with
  | some error => .error error
  | none => .ok settings

def baseUrl (settings : VaultSettings) : String :=
  match settings.url.toList.reverse with
  | '/' :: rest => String.ofList rest.reverse
  | _ => settings.url

def loginUrl (settings : VaultSettings) : String :=
  settings.baseUrl ++ "/v1/auth/approle/login"

def tokenCreateUrl (settings : VaultSettings) : String :=
  settings.baseUrl ++ "/v1/auth/token/create" ++
    match settings.roleName with
    | some role => "/" ++ role
    | none => ""

-- The address as it was given, less one slash at its end.
def BasedAt (settings : VaultSettings) (base : String) : Prop :=
  settings.url = base ++ "/" ∨ (settings.url = base ∧ ∀ rest, base ≠ rest ++ "/")

theorem base_url_slash (settings : VaultSettings) (base : String)
    (slash : settings.url = base ++ "/") : settings.baseUrl = base := by
  simp [baseUrl, slash]

theorem base_url_plain (settings : VaultSettings) (plain : ∀ rest, settings.url ≠ rest ++ "/") :
    settings.baseUrl = settings.url := by
  unfold baseUrl
  split
  · rename_i rest ends
    have slash : settings.url = String.ofList rest.reverse ++ "/" := by
      rw [← String.toList_inj, String.toList_append, String.toList_ofList]
      exact (List.reverse_eq_iff.mp ends).trans List.reverse_cons
    exact absurd slash (plain _)
  · rfl

theorem base_url_iff (settings : VaultSettings) (base : String) :
    settings.baseUrl = base ↔ settings.BasedAt base := by
  constructor
  · intro same
    by_cases ends : ∃ rest, settings.url = rest ++ "/"
    · obtain ⟨rest, slash⟩ := ends
      rw [base_url_slash settings rest slash] at same
      rw [same] at slash
      exact .inl slash
    · have plain : ∀ rest, settings.url ≠ rest ++ "/" := not_exists.mp ends
      rw [base_url_plain settings plain] at same
      rw [same] at plain
      exact .inr ⟨same, plain⟩
  · rintro (slash | ⟨same, plain⟩)
    · exact base_url_slash settings base slash
    · rw [← same] at plain
      exact (base_url_plain settings plain).trans same

theorem login_url_iff (settings : VaultSettings) (url : String) :
    url = settings.loginUrl ↔
      ∃ base, settings.BasedAt base ∧ url = base ++ "/v1/auth/approle/login" := by
  simp only [← base_url_iff, exists_eq_left', loginUrl]

theorem token_create_url_iff (settings : VaultSettings) (url : String) :
    url = settings.tokenCreateUrl ↔
      ∃ base, settings.BasedAt base ∧ url =
        match settings.roleName with
        | none => base ++ "/v1/auth/token/create"
        | some role => base ++ "/v1/auth/token/create/" ++ role := by
  simp only [← base_url_iff, exists_eq_left', tokenCreateUrl]
  cases settings.roleName with
  | none => simp
  | some role =>
      have joined : "/v1/auth/token/create" ++ "/" = "/v1/auth/token/create/" := by decide
      simp only [← joined, String.append_assoc]

def fieldNames : List String :=
  ["url", "namespace", "role_name", "verify", "timeout_secs", "allow_override", "uses", "ttl", "auth"]

def ofValue? (value : Toml.Value) : Option VaultSettings := do
  let field ← value.fields? fieldNames
  return {
    url := ← withDefault "" string? (field "url")
    namespaceName := ← optional string? (field "namespace")
    roleName := ← optional string? (field "role_name")
    verify := ← withDefault true boolean? (field "verify")
    timeoutSeconds := ← withDefault 15 uint64? (field "timeout_secs")
    allowOverride := ← withDefault true boolean? (field "allow_override")
    uses := ← withDefault 1 uint32? (field "uses")
    ttl := ← optional string? (field "ttl")
    auth := ← VaultAuth.ofValue? (← field "auth") }

def ofTable (document : Toml.Table) : Except VaultSettingsError VaultSettings :=
  match (document.lookup "vault").bind ofValue? with
  | some settings => settings.check
  | none => .error .malformed

def ofText (text : String) : Except VaultSettingsError VaultSettings :=
  match Toml.Table.read? text with
  | some document => ofTable document
  | none => .error .malformed

def ofFile (bytes : Option ByteArray) : Except VaultSettingsError VaultSettings :=
  match bytes.bind String.fromUTF8? with
  | some text => ofText text
  | none => .error .unreadable

end VaultSettings

end TokenIssuance

import TokenIssuance.Text.Blank
import TokenIssuance.Text.Quoted
import TokenIssuance.Toml.Record

set_option autoImplicit false

namespace TokenIssuance

inductive VaultAuth where
  | token (token : String)
  | appRole (roleId : String) (secretId : Option String)
deriving DecidableEq, Repr

namespace VaultAuth

def methodName : VaultAuth → String
  | .token _ => "token"
  | .appRole _ _ => "approle"

def ofFields? (method : String) (field : String → Option Toml.Value) : Option VaultAuth :=
  if method = "token" then do
    return .token (← (← field "token").string?)
  else if method = "approle" then do
    return .appRole (← (← field "role_id").string?)
      (← Toml.Value.optional Toml.Value.string? (field "secret_id"))
  else none

def fieldNames (method : String) : List String :=
  if method = "token" then ["token"] else ["role_id", "secret_id"]

-- A table names its method; an array starts with it, and has nothing after its fields.
def ofValue? : Toml.Value → Option VaultAuth
  | .table entries => do
      ofFields? (← (← entries.lookup "method").string?) fun name => entries.lookup name
  | .array (first :: items) => do
      let method ← first.string?
      let names := fieldNames method
      if items.length ≤ names.length then
        ofFields? method fun name => items[names.idxOf name]?
      else none
  | _ => none

def redacted : String := Text.quoted "<redacted>"

def diagnostic : VaultAuth → String
  | .token _ => "Token \x7b token: " ++ redacted ++ " \x7d"
  | .appRole roleId secretId =>
      "AppRole \x7b role_id: " ++ Text.quoted roleId ++ ", secret_id: " ++
        (match secretId with
          | none => "None"
          | some _ => "Some(" ++ redacted ++ ")") ++ " \x7d"

end VaultAuth

end TokenIssuance

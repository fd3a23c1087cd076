import TokenIssuance.Toml.Reader
import TokenIssuance.Toml.Record

set_option autoImplicit false

namespace TokenIssuance

def defaultPatterns : List String :=
  ["vault-broker/identity/\x7bidentity\x7d", "vault-broker/identities"]

structure PolicySettings where
  patterns : List String := defaultPatterns
  refreshConfig : Bool := false
deriving DecidableEq, Repr

inductive PolicySettingsError where
  | unreadable
  | malformed
deriving DecidableEq, Repr

def PolicySettingsError.message : PolicySettingsError → String
  | .unreadable => "failed to read policy file"
  | .malformed => "failed to parse policy TOML"

namespace PolicySettings

def ofValue? (value : Toml.Value) : Option PolicySettings := do
  let field ← value.fields? ["patterns", "refresh_config"]
  return {
    patterns := ← Toml.Value.withDefault defaultPatterns Toml.Value.strings? (field "patterns")
    refreshConfig := ← Toml.Value.withDefault false Toml.Value.boolean? (field "refresh_config") }

def ofTable (document : Toml.Table) : Except PolicySettingsError PolicySettings :=
  match Toml.Value.withDefault {} ofValue? (document.lookup "policy") with
  | some settings => .ok settings
  | none => .error .malformed

def ofText (text : String) : Except PolicySettingsError PolicySettings :=
  match Toml.Table.read? text with
  | some document => ofTable document
  | none => .error .malformed

def ofFile (bytes : Option ByteArray) : Except PolicySettingsError PolicySettings :=
  match bytes.bind String.fromUTF8? with
  | some text => ofText text
  | none => .error .unreadable

end PolicySettings

end TokenIssuance

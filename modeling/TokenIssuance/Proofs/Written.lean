import Mathlib.Data.List.Nodup
import TokenIssuance.Resolution.Settings
import TokenIssuance.Vault.Settings

set_option autoImplicit false

namespace TokenIssuance

namespace Toml

namespace Table

def Holds (entries : Table) (name : String) (value : Option Value) : Prop :=
  ∀ found, (name, found) ∈ entries ↔ some found = value

-- A field stands under its name, or is left out, which one may only be with its usual value.
def States (entries : Table) (usual : List (String × Option Value)) (field : String × Option Value) :
    Prop :=
  entries.Holds field.1 field.2 ∨ field ∈ usual ∧ entries.Holds field.1 none

def Writes (entries : Table) (fields usual : List (String × Option Value)) : Prop :=
  ∀ field ∈ fields, entries.States usual field

def ofFields (fields : List (String × Option Value)) : Table :=
  fields.filterMap fun field => field.2.map (field.1, ·)

theorem mem_of_fields (fields : List (String × Option Value)) (name : String) (value : Value) :
    (name, value) ∈ ofFields fields ↔ (name, some value) ∈ fields := by
  rw [ofFields, List.mem_filterMap]
  constructor
  · intro ⟨⟨key, given⟩, member, same⟩
    obtain ⟨found, given, same⟩ := Option.map_eq_some_iff.mp same
    cases same
    rw [← given]
    exact member
  · intro member
    exact ⟨(name, some value), member, rfl⟩

theorem of_fields_holds (fields : List (String × Option Value)) (distinct : (fields.map (·.1)).Nodup)
    (name : String) (value : Option Value) (member : (name, value) ∈ fields) :
    (ofFields fields).Holds name value := by
  intro found
  rw [mem_of_fields]
  constructor
  · intro other
    exact congrArg Prod.snd (List.inj_on_of_nodup_map distinct other member rfl)
  · intro same
    rw [same]
    exact member

theorem of_fields_writes (fields part usual : List (String × Option Value))
    (distinct : (fields.map (·.1)).Nodup) (within : part ⊆ fields) :
    (ofFields fields).Writes part usual := by
  intro field member
  exact .inl (of_fields_holds fields distinct field.1 field.2 (within member))

theorem holds_only (name : String) (value : Value) : Holds [(name, value)] name (some value) := by
  intro found
  simp

theorem lookup_of_holds (entries : Table) (name : String) (value : Option Value)
    (holds : entries.Holds name value) : entries.lookup name = value := by
  cases found : entries.lookup name with
  | none =>
      cases value with
      | none => rfl
      | some other =>
          have present := (holds other).mpr rfl
          have absent := List.lookup_eq_none_iff.mp found _ present
          simp at absent
  | some value =>
      obtain ⟨before, after, split, _⟩ := List.lookup_eq_some_iff.mp found
      have present : (name, value) ∈ entries := by simp [split]
      exact (holds value).mp present

theorem read_of_states {α : Type} (read : Option Value → Option α) (result : α) {entries : Table}
    {usual : List (String × Option Value)} {name : String} {value : Option Value}
    (states : entries.States usual (name, value)) (given : read value = some result)
    (agrees : ∀ other, (name, other) ∈ usual → read none = read other) :
    read (entries.lookup name) = some result := by
  rcases states with holds | ⟨left, holds⟩
  · rw [lookup_of_holds entries name value holds, given]
  · rw [lookup_of_holds entries name none holds, agrees value left, given]

theorem lookup_of_states {entries : Table} {name : String} {value : Option Value}
    (states : entries.States [] (name, value)) : entries.lookup name = value := by
  rcases states with holds | ⟨left, _⟩
  · exact lookup_of_holds entries name value holds
  · cases left

end Table

namespace Value

theorem optional_text (text : Option String) : optional string? (text.map .string) = some text := by
  cases text <;> rfl

theorem natural_written (limit n : Nat) (below : n < limit) :
    natural? limit (.integer n) = some n := by
  simp [natural?, below]

theorem uint32_written (default n : UInt32) :
    withDefault default uint32? (some (.integer n.toNat)) = some n := by
  rw [withDefault, uint32?, natural_written _ _ n.toNat_lt, Option.map_some, UInt32.ofNat_toNat]

theorem uint64_written (default n : UInt64) :
    withDefault default uint64? (some (.integer n.toNat)) = some n := by
  rw [withDefault, uint64?, natural_written _ _ n.toNat_lt, Option.map_some, UInt64.ofNat_toNat]

theorem strings_written (texts : List String) :
    strings? (.array (texts.map .string)) = some texts := by
  have each : (texts.map Value.string).mapM string? = some texts := by
    induction texts with
    | nil => rfl
    | cons text texts ih => simp [List.mapM_cons, string?, ih]
  exact each

end Value

end Toml

namespace VaultAuth

def fields (auth : VaultAuth) : List (String × Option Toml.Value) :=
  ("method", some (.string auth.methodName)) :: match auth with
    | .token secret => [("token", some (.string secret))]
    | .appRole roleId secretId =>
        [("role_id", some (.string roleId)), ("secret_id", secretId.map .string)]

theorem fields_distinct (auth : VaultAuth) : (auth.fields.map (·.1)).Nodup := by
  cases auth <;> simp [fields]

theorem of_written (auth : VaultAuth) (entries : Toml.Table) (writes : entries.Writes auth.fields []) :
    ofValue? (.table entries) = some auth := by
  cases auth with
  | token secret =>
      simp only [Toml.Table.Writes, fields, List.forall_mem_cons] at writes
      obtain ⟨method, token, _⟩ := writes
      simp [ofValue?, ofFields?, Toml.Table.lookup_of_states method,
        Toml.Table.lookup_of_states token, Toml.Value.string?, methodName]
  | appRole roleId secretId =>
      simp only [Toml.Table.Writes, fields, List.forall_mem_cons] at writes
      obtain ⟨method, role, secret, _⟩ := writes
      simp [ofValue?, ofFields?, Toml.Table.lookup_of_states method,
        Toml.Table.lookup_of_states role, Toml.Table.lookup_of_states secret, Toml.Value.string?,
        Toml.Value.optional_text, methodName]

end VaultAuth

namespace VaultSettings

def fields (settings : VaultSettings) : List (String × Option Toml.Value) :=
  [("url", some (.string settings.url)), ("namespace", settings.namespaceName.map .string),
    ("role_name", settings.roleName.map .string), ("verify", some (.boolean settings.verify)),
    ("timeout_secs", some (.integer settings.timeoutSeconds.toNat)),
    ("allow_override", some (.boolean settings.allowOverride)),
    ("uses", some (.integer settings.uses.toNat)), ("ttl", settings.ttl.map .string)]

def usual (auth : VaultAuth) : VaultSettings := { url := "", auth }

def WrittenIn (settings : VaultSettings) (document : Toml.Table) : Prop :=
  ∃ entries auth : Toml.Table, document.Holds "vault" (some (.table entries)) ∧
    entries.Writes settings.fields (usual settings.auth).fields ∧
    entries.Holds "auth" (some (.table auth)) ∧ auth.Writes settings.auth.fields []

def allFields (settings : VaultSettings) : List (String × Option Toml.Value) :=
  settings.fields ++ [("auth", some (.table (Toml.Table.ofFields settings.auth.fields)))]

def toTable (settings : VaultSettings) : Toml.Table :=
  [("vault", .table (Toml.Table.ofFields settings.allFields))]

theorem to_table_written (settings : VaultSettings) : settings.WrittenIn settings.toTable := by
  have distinct : fieldNames.Nodup := by decide
  refine ⟨Toml.Table.ofFields settings.allFields, Toml.Table.ofFields settings.auth.fields,
    Toml.Table.holds_only "vault" _, ?_, ?_, ?_⟩
  · apply Toml.Table.of_fields_writes settings.allFields _ _ distinct
    exact List.subset_append_left _ _
  · apply Toml.Table.of_fields_holds settings.allFields distinct
    exact List.mem_append_right _ (List.mem_singleton.mpr rfl)
  · exact Toml.Table.of_fields_writes _ _ _ settings.auth.fields_distinct (List.Subset.refl _)

section Reading

open Toml.Value
open Toml.Table (read_of_states)

theorem of_written (settings : VaultSettings) (entries auth : Toml.Table)
    (writes : entries.Writes settings.fields (usual settings.auth).fields)
    (holds : entries.Holds "auth" (some (.table auth))) (inner : auth.Writes settings.auth.fields []) :
    ofValue? (.table entries) = some settings := by
  simp only [Toml.Table.Writes, fields, List.forall_mem_cons] at writes
  obtain ⟨url, namespaceName, roleName, verify, timeout, override, uses, ttl, _⟩ := writes
  have url := read_of_states (withDefault "" string?) settings.url url rfl
    (by simp [usual, withDefault, string?])
  have namespaceName := read_of_states (Toml.Value.optional string?) settings.namespaceName
    namespaceName (optional_text _) (by simp [usual])
  have roleName := read_of_states (Toml.Value.optional string?) settings.roleName roleName
    (optional_text _) (by simp [usual])
  have verify := read_of_states (withDefault true boolean?) settings.verify verify rfl
    (by simp [usual, withDefault, boolean?])
  have timeout := read_of_states (withDefault 15 uint64?) settings.timeoutSeconds timeout
    (uint64_written _ _) (by simp [usual, withDefault, uint64?, natural?, UInt64.size])
  have override := read_of_states (withDefault true boolean?) settings.allowOverride override rfl
    (by simp [usual, withDefault, boolean?])
  have uses := read_of_states (withDefault 1 uint32?) settings.uses uses (uint32_written _ _)
    (by simp [usual, withDefault, uint32?, natural?, UInt32.size])
  have ttl := read_of_states (Toml.Value.optional string?) settings.ttl ttl (optional_text _)
    (by simp [usual])
  have auth := VaultAuth.of_written settings.auth auth inner
  simp [ofValue?, Toml.Value.fields?, url, namespaceName, roleName, verify, timeout, override, uses,
    ttl, Toml.Table.lookup_of_holds _ _ _ holds, auth]

end Reading

theorem of_table_written (settings : VaultSettings) (document : Toml.Table)
    (written : settings.WrittenIn document) : ofTable document = settings.check := by
  obtain ⟨entries, auth, vault, writes, holds, inner⟩ := written
  rw [ofTable, Toml.Table.lookup_of_holds document "vault" _ vault, Option.bind_some,
    of_written settings entries auth writes holds inner]

end VaultSettings

namespace PolicySettings

def fields (settings : PolicySettings) : List (String × Option Toml.Value) :=
  [("patterns", some (.array (settings.patterns.map .string))),
    ("refresh_config", some (.boolean settings.refreshConfig))]

inductive WrittenIn (settings : PolicySettings) (document : Toml.Table) : Prop where
  | table {entries : Toml.Table} (policy : document.Holds "policy" (some (.table entries)))
      (writes : entries.Writes settings.fields ({} : PolicySettings).fields) : WrittenIn settings document
  | omitted (usual : settings = {}) (absent : document.Holds "policy" none) : WrittenIn settings document

def toTable (settings : PolicySettings) : Toml.Table :=
  [("policy", .table (Toml.Table.ofFields settings.fields))]

theorem to_table_written (settings : PolicySettings) : settings.WrittenIn settings.toTable := by
  have distinct : (settings.fields.map (·.1)).Nodup := by simp [fields]
  exact .table (Toml.Table.holds_only "policy" _)
    (Toml.Table.of_fields_writes _ _ _ distinct (List.Subset.refl _))

theorem of_written (settings : PolicySettings) (entries : Toml.Table)
    (writes : entries.Writes settings.fields ({} : PolicySettings).fields) :
    ofValue? (.table entries) = some settings := by
  simp only [Toml.Table.Writes, fields, List.forall_mem_cons] at writes
  obtain ⟨patterns, refresh, _⟩ := writes
  have patterns := Toml.Table.read_of_states
    (Toml.Value.withDefault defaultPatterns Toml.Value.strings?) settings.patterns patterns
    (Toml.Value.strings_written _) (by simp [Toml.Value.withDefault, Toml.Value.strings_written])
  have refresh := Toml.Table.read_of_states (Toml.Value.withDefault false Toml.Value.boolean?)
    settings.refreshConfig refresh rfl (by simp [Toml.Value.withDefault, Toml.Value.boolean?])
  simp [ofValue?, Toml.Value.fields?, patterns, refresh]

theorem of_table_written (settings : PolicySettings) (document : Toml.Table)
    (written : settings.WrittenIn document) : ofTable document = .ok settings := by
  cases written with
  | table policy writes =>
      rw [ofTable, Toml.Table.lookup_of_holds document "policy" _ policy, Toml.Value.withDefault,
        of_written settings _ writes]
  | omitted usual absent =>
      rw [ofTable, Toml.Table.lookup_of_holds document "policy" _ absent, Toml.Value.withDefault,
        usual]

end PolicySettings

theorem settings_read_as_written :
    (∀ settings : VaultSettings, settings.WrittenIn settings.toTable ∧
      ∀ document, settings.WrittenIn document →
        let outcome : Except VaultSettingsError VaultSettings :=
          match settings.flaw? with
          | some error => .error error
          | none => .ok settings
        VaultSettings.ofTable document = outcome ∧
        ∀ text, Toml.Table.read? text = some document → VaultSettings.ofText text = outcome) ∧
    (∀ settings : PolicySettings, settings.WrittenIn settings.toTable ∧
      ∀ document, settings.WrittenIn document →
        PolicySettings.ofTable document = .ok settings ∧
        ∀ text, Toml.Table.read? text = some document → PolicySettings.ofText text = .ok settings) := by
  refine ⟨fun settings => ⟨settings.to_table_written, ?_⟩,
    fun settings => ⟨settings.to_table_written, ?_⟩⟩
  · intro document written outcome
    have table : VaultSettings.ofTable document = outcome :=
      settings.of_table_written document written
    refine ⟨table, fun text read => ?_⟩
    rw [VaultSettings.ofText, read]
    exact table
  · intro document written
    have table := settings.of_table_written document written
    refine ⟨table, fun text read => ?_⟩
    rw [PolicySettings.ofText, read]
    exact table

theorem sparse_settings_read :
    let text := "[policy]\nrefresh_config = true\n[vault]\ntimeout_secs = 15\nurl = \"https://vault\"\n" ++
      "spare = 2024-05-01\n[vault.auth]\nrole_id = \"broker\"\nspare = []\nmethod = \"approle\""
    let policy : Toml.Table := [("refresh_config", .boolean true)]
    let auth : Toml.Table :=
      [("role_id", .string "broker"), ("spare", .array []), ("method", .string "approle")]
    let vault : Toml.Table := [("timeout_secs", .integer 15), ("url", .string "https://vault"),
      ("spare", .datetime "2024-05-01"), ("auth", .table auth)]
    let document : Toml.Table := [("policy", .table policy), ("vault", .table vault)]
    let settings : VaultSettings := { url := "https://vault", auth := .appRole "broker" none }
    let fresh : PolicySettings := { refreshConfig := true }
    Toml.Table.read? text = some document ∧ settings.WrittenIn document ∧ fresh.WrittenIn document ∧
      VaultSettings.ofText text = .ok settings ∧ PolicySettings.ofText text = .ok fresh := by
  intro text policy auth vault document settings fresh
  have read : Toml.Table.read? text = some document := by decide +kernel
  have written : settings.WrittenIn document := by
    refine ⟨vault, auth, ?_, ?_, ?_, ?_⟩
    · simp [Toml.Table.Holds, document]
    · simp [Toml.Table.Writes, Toml.Table.States, Toml.Table.Holds, VaultSettings.fields,
        VaultSettings.usual, settings, vault]
    · simp [Toml.Table.Holds, vault]
    · simp [Toml.Table.Writes, Toml.Table.States, Toml.Table.Holds, VaultAuth.fields,
        VaultAuth.methodName, settings, auth]
  have refreshed : fresh.WrittenIn document := by
    have holds : document.Holds "policy" (some (.table policy)) := by
      simp [Toml.Table.Holds, document]
    refine .table holds ?_
    simp [Toml.Table.Writes, Toml.Table.States, Toml.Table.Holds, PolicySettings.fields, fresh, policy]
  obtain ⟨opens, resolves⟩ := settings_read_as_written
  have opened := ((opens settings).2 document written).2 text read
  have sound : settings.flaw? = none := by decide
  simp only [sound] at opened
  exact ⟨read, written, refreshed, opened, ((resolves fresh).2 document refreshed).2 text read⟩

end TokenIssuance

import TokenIssuance.Toml.Value

set_option autoImplicit false

namespace TokenIssuance.Toml

namespace Value

-- What is given for each field. Entries under other names and items past the last field are passed
-- over. A date is a table without any of the fields.
def fields? (names : List String) : Value → Option (String → Option Value)
  | .table entries => some fun name => entries.lookup name
  | .array items => some fun name => items[names.idxOf name]?
  | .datetime _ => some fun _ => none
  | _ => none

def withDefault {α : Type} (default : α) (read : Value → Option α) : Option Value → Option α
  | none => some default
  | some value => read value

def optional {α : Type} (read : Value → Option α) : Option Value → Option (Option α)
  | none => some none
  | some value => (read value).map some

def string? : Value → Option String
  | .string text => some text
  | _ => none

def boolean? : Value → Option Bool
  | .boolean b => some b
  | _ => none

def natural? (limit : Nat) : Value → Option Nat
  | .integer n => if 0 ≤ n ∧ n < limit then some n.toNat else none
  | _ => none

def uint32? (value : Value) : Option UInt32 :=
  (value.natural? UInt32.size).map UInt32.ofNat

def uint64? (value : Value) : Option UInt64 :=
  (value.natural? UInt64.size).map UInt64.ofNat

def strings? : Value → Option (List String)
  | .array items => items.mapM string?
  | _ => none

end Value

end TokenIssuance.Toml

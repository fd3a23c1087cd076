import TokenIssuance.Json.Document

set_option autoImplicit false

namespace TokenIssuance.Json

namespace Document

def occurrences (name : String) (members : List (String × Document)) : Nat :=
  (members.filter fun member => member.1 == name).length

def namedMembers? : List (Option String × Document) → Option (List (String × Document))
  | [] => some []
  | member :: more => do
      let key ← member.1
      let rest ← namedMembers? more
      return (key, member.2) :: rest

-- What is given for each field. Members under other names are passed over, but no field may be
-- given twice, and an array may not be longer than the record.
def fields? (names : List String) : Document → Option (String → Option Document)
  | .object members => do
      let named ← namedMembers? members
      if names.all fun name => occurrences name named ≤ 1 then
        return fun name => named.lookup name
      else none
  | .array items =>
      if items.length ≤ names.length then some fun name => items[names.idxOf name]?
      else none
  | _ => none

def required {α : Type} (read : Document → Option α) (field : Option Document) : Option α :=
  field.bind read

def withDefault {α : Type} (default : α) (read : Document → Option α) :
    Option Document → Option α
  | none => some default
  | some document => read document

def nullable {α : Type} (read : Document → Option α) : Document → Option (Option α)
  | .null => some none
  | document => (read document).map some

def string? : Document → Option String
  | .string text => text
  | _ => none

def boolean? : Document → Option Bool
  | .boolean b => some b
  | _ => none

def natural? (limit : Nat) : Document → Option Nat
  | .number (some (.integer n)) => if 0 ≤ n ∧ n < limit then some n.toNat else none
  | _ => none

def uint32? (document : Document) : Option UInt32 :=
  (document.natural? UInt32.size).map UInt32.ofNat

def uint64? (document : Document) : Option UInt64 :=
  (document.natural? UInt64.size).map UInt64.ofNat

def strings? : Document → Option (List String)
  | .array items => items.mapM string?
  | _ => none

end Document

end TokenIssuance.Json

set_option autoImplicit false

namespace TokenIssuance.Toml

-- A document tree. Floats and dates are kept as they are written: no setting is one.
inductive Value where
  | string (text : String)
  | integer (value : Int)
  | float (written : String)
  | boolean (value : Bool)
  | datetime (written : String)
  | array (items : List Value)
  | table (entries : List (String × Value))
deriving Inhabited, Repr

abbrev Table := List (String × Value)

namespace Value

-- Trees are compared entry by entry; a derived comparison does not reach through the lists.
mutual
def same : Value → Value → Bool
  | .string text, .string twin => text == twin
  | .integer n, .integer twin => n == twin
  | .float written, .float twin => written == twin
  | .boolean b, .boolean twin => b == twin
  | .datetime written, .datetime twin => written == twin
  | .array items, .array twins => sameItems items twins
  | .table entries, .table twins => sameEntries entries twins
  | _, _ => false
def sameItems : List Value → List Value → Bool
  | [], [] => true
  | item :: items, twin :: twins => same item twin && sameItems items twins
  | _, _ => false
def sameEntries : List (String × Value) → List (String × Value) → Bool
  | [], [] => true
  | entry :: entries, twin :: twins =>
      entry.1 == twin.1 && same entry.2 twin.2 && sameEntries entries twins
  | _, _ => false
end

mutual
theorem same_iff (value twin : Value) : same value twin = true ↔ value = twin := by
  cases value <;> cases twin
  case array.array items twins => simp [same, same_items_iff items twins]
  case table.table entries twins => simp [same, same_entries_iff entries twins]
  all_goals simp [same]
theorem same_items_iff (items twins : List Value) : sameItems items twins = true ↔ items = twins := by
  cases items <;> cases twins
  case cons.cons item items twin twins =>
    simp [sameItems, same_iff item twin, same_items_iff items twins]
  all_goals simp [sameItems]
theorem same_entries_iff (entries twins : List (String × Value)) :
    sameEntries entries twins = true ↔ entries = twins := by
  cases entries <;> cases twins
  case cons.cons entry entries twin twins =>
    simp [sameEntries, same_iff entry.2 twin.2, same_entries_iff entries twins, Prod.ext_iff]
  all_goals simp [sameEntries]
end

instance : DecidableEq Value := fun value twin =>
  decidable_of_iff (same value twin = true) (same_iff value twin)

end Value

end TokenIssuance.Toml

import TokenIssuance.Json.Value

set_option autoImplicit false

namespace TokenIssuance.Json

-- A leaf holds nothing when its text is well formed but denotes no value, such as half a character or
-- a number past every double. It may be passed over, but not decoded.
inductive Document where
  | null
  | boolean (value : Bool)
  | number (value : Option Number)
  | string (text : Option String)
  | array (items : List Document)
  | object (members : List (Option String × Document))
deriving Inhabited, Repr

namespace Document

def depthLimit : Nat := 127

mutual
def value? : Nat → Document → Option Value
  | _, .null => some .null
  | _, .boolean b => some (.boolean b)
  | _, .number n => n.map .number
  | _, .string s => s.map .string
  | 0, .array _ => none
  | depth + 1, .array items => (items? depth items).map .array
  | 0, .object _ => none
  | depth + 1, .object members => (members? depth members).map fun ms => .object (Bag.ofMembers ms)
def items? : Nat → List Document → Option (List Value)
  | _, [] => some []
  | depth, item :: more => do
      let first ← value? depth item
      let rest ← items? depth more
      return first :: rest
def members? : Nat → List (Option String × Document) → Option (List (String × Value))
  | _, [] => some []
  | depth, member :: more => do
      let key ← member.1
      let first ← value? depth member.2
      let rest ← members? depth more
      return (key, first) :: rest
end

mutual
def ofValue : Value → Document
  | .null => .null
  | .boolean b => .boolean b
  | .number n => .number (some n)
  | .string s => .string (some s)
  | .array items => .array (ofItems items)
  | .object members => .object (ofMembers members)
def ofItems : List Value → List Document
  | [] => []
  | item :: more => ofValue item :: ofItems more
def ofMembers : List (String × Value) → List (Option String × Document)
  | [] => []
  | member :: more => (some member.1, ofValue member.2) :: ofMembers more
end

end Document

end TokenIssuance.Json

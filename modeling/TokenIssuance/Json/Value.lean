import TokenIssuance.Decimal.Shortest

set_option autoImplicit false

namespace TokenIssuance.Json

inductive Number where
  | integer (value : Int)
  | double (value : Decimal.Double)
deriving DecidableEq, Repr

def Number.text : Number → String
  | .integer value => toString value
  | .double value => value.text

inductive Value where
  | null
  | boolean (value : Bool)
  | number (value : Number)
  | string (text : String)
  | array (items : List Value)
  | object (members : List (String × Value))
deriving Inhabited, Repr

abbrev Bag := List (String × Value)

def Bag.put (key : String) (value : Value) : Bag → Bag
  | [] => [(key, value)]
  | member :: more =>
      if member.1 = key then (key, value) :: more else member :: Bag.put key value more

-- Members in order of appearance; of equal keys the last one counts.
def Bag.ofMembers (members : List (String × Value)) : Bag :=
  members.foldl (fun bag member => Bag.put member.1 member.2 bag) []

end TokenIssuance.Json

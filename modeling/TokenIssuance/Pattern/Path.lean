import TokenIssuance.Json.Value
import TokenIssuance.Text.Scan

set_option autoImplicit false

namespace TokenIssuance.Path

def segment? (reversed : List Char) : Option String :=
  if reversed.isEmpty then none else some (String.ofList reversed.reverse)

mutual
def parseTail : List Char → Option (List String)
  | [] => some []
  | c :: rest =>
      if c = '.' then parsePlain [] rest
      else if c = '[' then parseGroup [] rest
      else none
def parsePlain (read : List Char) : List Char → Option (List String)
  | [] => do return [← segment? read]
  | c :: rest =>
      if c = '.' then do return (← segment? read) :: (← parsePlain [] rest)
      else if c = '[' then do return (← segment? read) :: (← parseGroup [] rest)
      else if c = ']' then none
      else parsePlain (c :: read) rest
def parseGroup (read : List Char) : List Char → Option (List String)
  | [] => none
  | c :: rest =>
      if c = ']' then do return (← segment? read) :: (← parseTail rest)
      else if c = '.' then do return (← segment? read) :: (← parseGroup [] rest)
      else if c = '[' then none
      else parseGroup (c :: read) rest
end

def parseChars : List Char → Option (List String)
  | [] => some []
  | c :: rest => if c = '[' then parseGroup [] rest else parsePlain [] (c :: rest)

def parse? (path : String) : Option (List String) :=
  parseChars path.toList

-- The position in an array that a segment names: decimal digits, possibly after a plus. A number that
-- does not fit 64 bits names none.
def index? (segment : String) : Option Nat :=
  let digits := match segment.toList with
    | '+' :: rest => rest
    | all => all
  if digits.isEmpty || !digits.all Char.isDigit then none
  else (some (Text.numberIn 10 digits)).filter (· < UInt64.size)

def descend? : List String → Json.Value → Option Json.Value
  | [], value => some value
  | segment :: more, .object members => (members.lookup segment).bind (descend? more)
  | segment :: more, .array items =>
      ((index? segment).bind fun index => items[index]?).bind (descend? more)
  | _ :: _, _ => none

end TokenIssuance.Path

namespace TokenIssuance

def Json.Bag.lookup? (bag : Json.Bag) (path : String) : Option Json.Value :=
  match Path.parse? path with
  | some (first :: more) => Path.descend? (first :: more) (.object bag)
  | _ => none

theorem Json.Bag.lookup_some_iff (bag : Json.Bag) (path : String) (found : Json.Value) :
    bag.lookup? path = some found ↔ ∃ first more, Path.parse? path = some (first :: more) ∧
      Path.descend? (first :: more) (.object bag) = some found := by
  unfold Json.Bag.lookup?
  cases parsed : Path.parse? path with
  | none => simp
  | some segments =>
      cases segments with
      | nil => simp
      | cons first more =>
          constructor
          · exact fun reached => ⟨first, more, rfl, reached⟩
          · rintro ⟨_, _, ⟨⟩, reached⟩
            exact reached

def Json.Value.scalarText? : Json.Value → Option String
  | .string text => some text
  | .number n => some n.text
  | .boolean true => some "true"
  | .boolean false => some "false"
  | .null | .array _ | .object _ => none

end TokenIssuance

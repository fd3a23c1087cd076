set_option autoImplicit false

namespace TokenIssuance.Text

abbrev Scan := StateT (List Char) Option

namespace Scan

def peek : Scan (Option Char) := do
  return (← get).head?

def satisfying (accepts : Char → Bool) : Scan Char := fun
  | c :: rest => if accepts c then some (c, rest) else none
  | [] => none

def exactly (expected : Char) : Scan Unit := do
  let _ ← satisfying (· == expected)

def literal : List Char → Scan Unit
  | [] => pure ()
  | c :: rest => do exactly c; literal rest

def takeWhile (accepts : Char → Bool) : Scan (List Char) := fun cs =>
  some (cs.takeWhile accepts, cs.dropWhile accepts)

def takeWhile1 (accepts : Char → Bool) : Scan (List Char) := do
  let first ← satisfying accepts
  return first :: (← takeWhile accepts)

def takeExactly (count : Nat) (accepts : Char → Bool) : Scan (List Char) := fun cs =>
  let taken := cs.take count
  if taken.length = count && taken.all accepts then some (taken, cs.drop count) else none

def endOfText : Scan Unit := fun
  | [] => some ((), [])
  | _ :: _ => none

def runAll {α : Type} (scan : Scan α) (text : List Char) : Option α :=
  ((scan <* endOfText).run text).map (·.1)

end Scan

def digitValue (c : Char) : Nat :=
  if c.isDigit then c.toNat - '0'.toNat
  else if c.isLower then c.toNat - 'a'.toNat + 10
  else c.toNat - 'A'.toNat + 10

def isHexDigit (c : Char) : Bool :=
  c.isDigit || (('a' ≤ c) && (c ≤ 'f')) || (('A' ≤ c) && (c ≤ 'F'))

def numberIn (base : Nat) (digits : List Char) : Nat :=
  digits.foldl (fun value c => value * base + digitValue c) 0

end TokenIssuance.Text

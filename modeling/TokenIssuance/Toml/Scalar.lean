import TokenIssuance.Decimal.Double
import TokenIssuance.Text.Scan
import TokenIssuance.Toml.Value

set_option autoImplicit false

namespace TokenIssuance.Toml

open Text Decimal

def written (scan : Scan Unit) : Scan String := fun cs => do
  let (_, rest) ← scan cs
  return (String.ofList (cs.take (cs.length - rest.length)), rest)

def digitsAfter (isDigit : Char → Bool) : List Char → Option (List Char × List Char)
  | '_' :: c :: rest =>
      if isDigit c then (digitsAfter isDigit rest).map fun (more, rest) => (c :: more, rest) else none
  | c :: rest =>
      if isDigit c then (digitsAfter isDigit rest).map fun (more, rest) => (c :: more, rest)
      else if c = '_' then none
      else some ([], c :: rest)
  | [] => some ([], [])

def scanDigits (isDigit : Char → Bool) : Scan (List Char) := do
  let first ← Scan.satisfying isDigit
  return first :: (← digitsAfter isDigit)

def scanSign : Scan Bool := do
  match ← Scan.peek with
  | some '-' => do Scan.exactly '-'; return true
  | some '+' => do Scan.exactly '+'; return false
  | _ => return false

def scanWhole : Scan (List Char) := do
  match ← Scan.peek with
  | some '0' => do Scan.exactly '0'; return ['0']
  | _ => scanDigits Char.isDigit

def int64? (value : Int) : Option Int :=
  if Int64.minValue.toInt ≤ value ∧ value ≤ Int64.maxValue.toInt then some value else none

def scanBased (mark : Char) (base : Nat) (isDigit : Char → Bool) : Scan Int := do
  Scan.exactly '0'
  Scan.exactly mark
  let digits ← scanDigits isDigit
  int64? (numberIn base digits)

def scanDecimal : Scan Int := do
  let negative ← scanSign
  let value : Int := numberIn 10 (← scanWhole)
  int64? (if negative then -value else value)

def scanInteger : Scan Value := do
  return .integer (← match (← get).take 2 with
    | ['0', 'x'] => scanBased 'x' 16 isHexDigit
    | ['0', 'o'] => scanBased 'o' 8 fun c => '0' ≤ c && c ≤ '7'
    | ['0', 'b'] => scanBased 'b' 2 fun c => c = '0' || c = '1'
    | _ => scanDecimal)

def scanFraction : Scan (List Char) := do
  Scan.exactly '.'
  scanDigits Char.isDigit

def scanExponent : Scan Int := do
  let _ ← Scan.satisfying fun c => c = 'e' || c = 'E'
  let negative ← scanSign
  let value : Int := numberIn 10 (← scanDigits Char.isDigit)
  return if negative then -value else value

def isFinite (digits : List Char) (exponent : Int) : Bool :=
  let significand := numberIn 10 digits
  let leading := (Nat.toDigits 10 significand).length + exponent
  if significand = 0 ∨ leading < 0 then true
  else if 400 < leading then false
  else Double.nearest (significand * Nat.pow 10 exponent.toNat) (Nat.pow 10 (-exponent).toNat) <
    Double.infinityCode

-- A decimal with a fraction, an exponent or both. One past every double is refused, if it is not
-- negative.
def scanDecimalFloat : Scan Unit := do
  let negative ← scanSign
  let whole ← scanWhole
  let fraction ← scanFraction <|> pure []
  let exponent ← if fraction.isEmpty then scanExponent else scanExponent <|> pure 0
  if negative || isFinite (whole ++ fraction) (exponent - fraction.length) then pure ()
  else failure

def scanSpecialFloat : Scan Unit := do
  let _ ← scanSign
  Scan.literal ['i', 'n', 'f'] <|> Scan.literal ['n', 'a', 'n']

def scanFloat : Scan Value := do
  return .float (← written (scanDecimalFloat <|> scanSpecialFloat))

def scanField (count least most : Nat) : Scan Nat := do
  let value := numberIn 10 (← Scan.takeExactly count Char.isDigit)
  if least ≤ value ∧ value ≤ most then return value else failure

def daysIn (year month : Nat) : Nat :=
  if month = 2 then
    if year % 4 = 0 ∧ (year % 100 ≠ 0 ∨ year % 400 = 0) then 29 else 28
  else if month = 4 ∨ month = 6 ∨ month = 9 ∨ month = 11 then 30
  else 31

def scanDate : Scan Unit := do
  let year ← scanField 4 0 9999
  Scan.exactly '-'
  let month ← scanField 2 1 12
  Scan.exactly '-'
  let _ ← scanField 2 1 (daysIn year month)

def scanTime : Scan Unit := do
  let _ ← scanField 2 0 23
  Scan.exactly ':'
  let _ ← scanField 2 0 59
  Scan.exactly ':'
  let _ ← scanField 2 0 60
  if (← Scan.peek) == some '.' then
    Scan.exactly '.'
    let _ ← Scan.takeWhile1 Char.isDigit

def scanOffset : Scan Unit := do
  match ← Scan.peek with
  | some '+' | some '-' => do
      let _ ← scanSign
      let _ ← scanField 2 0 23
      Scan.exactly ':'
      let _ ← scanField 2 0 59
  | _ => do
      let _ ← Scan.satisfying fun c => c = 'Z' || c = 'z'

def scanTimeOfDate : Scan Unit := do
  let _ ← Scan.satisfying fun c => c = 'T' || c = 't' || c = ' '
  scanTime
  scanOffset <|> pure ()

def scanDatetime : Scan Value := do
  return .datetime (← written ((do scanDate; scanTimeOfDate <|> pure ()) <|> scanTime))

end TokenIssuance.Toml

import TokenIssuance.Json.Value
import TokenIssuance.Text.Scan

set_option autoImplicit false

namespace TokenIssuance.Json

open Text Decimal

structure Numeral where
  negative : Bool
  whole : List Char
  fraction : Option (List Char)
  exponent : Option (Bool × List Char)

namespace Numeral

def significandLimit : Nat := UInt64.size

def accumulate (significand : Nat) : List Char → Nat × List Char
  | [] => (significand, [])
  | digit :: more =>
      let next := significand * 10 + digitValue digit
      if next < significandLimit then accumulate next more else (significand, digit :: more)

def exponentValue : Option (Bool × List Char) → Int
  | none => 0
  | some (true, digits) => -(numberIn 10 digits : Int)
  | some (false, digits) => numberIn 10 digits

-- Digits of a significand past the limit only count as powers of ten.
def number? (numeral : Numeral) : Option Number :=
  let (whole, wholeRest) := accumulate 0 numeral.whole
  let double code := Number.double ⟨numeral.negative, code⟩
  match numeral.fraction, numeral.exponent, wholeRest with
  | none, none, [] =>
      if !numeral.negative then some (.integer whole)
      else if 0 < whole ∧ Int64.minValue.toInt ≤ -(whole : Int) then some (.integer (-(whole : Int)))
      else some (double (Double.nearest whole 1))
  | _, _, _ =>
      let fraction := numeral.fraction.getD []
      let (significand, fractionRest) := accumulate whole fraction
      let shift : Int := (wholeRest.length : Int) - ((fraction.length - fractionRest.length : Nat) : Int)
      (Double.ofScientific? significand (shift + exponentValue numeral.exponent)).map double

end Numeral

end TokenIssuance.Json

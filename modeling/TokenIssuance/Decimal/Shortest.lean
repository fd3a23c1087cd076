import TokenIssuance.Decimal.Double

set_option autoImplicit false

namespace TokenIssuance.Decimal

namespace Double

-- Whether the magnitude `digits * 10 ^ exponent` is nearest to the double of this code. Bounds are
-- counted in quarters of a smallest unit, and belong to the double when its significand is even.
def readsBack (code digits : Nat) (exponent : Int) : Bool :=
  let (significand, place) := parts code
  let low := (4 * significand - if code % Nat.pow 2 52 = 0 ∧ Nat.pow 2 52 < code then 1 else 2) *
    Nat.pow 2 place
  let high := (4 * significand + 2) * Nat.pow 2 place
  let point := digits * Nat.pow 10 exponent.toNat * (4 * unitsPerOne)
  let divisor := Nat.pow 10 (-exponent).toNat
  if significand % 2 = 0 then low * divisor ≤ point && point ≤ high * divisor
  else low * divisor < point && point < high * divisor

def onGrid? (code : Nat) (exponent : Int) : Option Nat :=
  let num := units code * Nat.pow 10 (-exponent).toNat
  let den := unitsPerOne * Nat.pow 10 exponent.toNat
  let below := num / den
  let nearer := roundHalfEven num den
  let farther := if nearer = below then below + 1 else below
  if readsBack code nearer exponent then some nearer
  else if readsBack code farther exponent then some farther
  else none

def gridExponents : List Int :=
  (List.range 634).map fun (step : Nat) => 309 - (step : Int)

def shortest (code : Nat) : Nat × Int :=
  (gridExponents.findSome? fun exponent => (onGrid? code exponent).map (·, exponent)).getD (0, 0)

def positional (digits : List Char) (leading : Int) : List Char :=
  if leading < 0 then
    ['0', '.'] ++ List.replicate (-leading - 1).toNat '0' ++ digits
  else
    let whole := leading.toNat + 1
    let filled := digits ++ List.replicate (whole - digits.length) '0'
    let rest := filled.drop whole
    filled.take whole ++ ['.'] ++ if rest.isEmpty then ['0'] else rest

def scientific (digits : List Char) (leading : Int) : List Char :=
  digits.take 1 ++ (if digits.length ≤ 1 then [] else '.' :: digits.drop 1) ++
    ['e', if leading < 0 then '-' else '+'] ++ Nat.toDigits 10 leading.natAbs

def magnitudeText (code : Nat) : List Char :=
  if code = 0 then ['0', '.', '0']
  else
    let (digits, exponent) := shortest code
    let text := Nat.toDigits 10 digits
    let leading := exponent + text.length - 1
    let trimmed := (text.reverse.dropWhile (· == '0')).reverse
    if -5 ≤ leading ∧ leading ≤ 15 then positional trimmed leading else scientific trimmed leading

def text (value : Double) : String :=
  String.ofList ((if value.negative then ['-'] else []) ++ magnitudeText value.code)

end Double

end TokenIssuance.Decimal

set_option autoImplicit false

namespace TokenIssuance.Decimal

structure Double where
  negative : Bool
  code : Nat
deriving DecidableEq, Repr

namespace Double

def infinityCode : Nat := 2047 * Nat.pow 2 52

-- All magnitudes are multiples of the smallest one, `1 / 2 ^ 1074`.
def unitsPerOne : Nat := Nat.pow 2 1074

def parts (code : Nat) : Nat × Nat :=
  if code < Nat.pow 2 52 then (code, 0)
  else (Nat.pow 2 52 + code % Nat.pow 2 52, code / Nat.pow 2 52 - 1)

def units (code : Nat) : Nat :=
  (parts code).1 * Nat.pow 2 (parts code).2

def roundHalfEven (num den : Nat) : Nat :=
  let quotient := num / den
  let rest := num % den
  if 2 * rest < den then quotient
  else if den < 2 * rest then quotient + 1
  else if quotient % 2 = 0 then quotient else quotient + 1

def nearest (num den : Nat) : Nat :=
  let scaled := num * unitsPerOne
  let exponent := Nat.log2 (scaled / den) - 52
  exponent * Nat.pow 2 52 + roundHalfEven scaled (den * Nat.pow 2 exponent)

def multiply (a b : Nat) : Nat :=
  nearest (units a * units b) (unitsPerOne * unitsPerOne)

def divide (a b : Nat) : Nat :=
  nearest (units a) (units b)

def powerOfTen (exponent : Nat) : Nat :=
  nearest (Nat.pow 10 exponent) 1

def greatestPower : Nat := 308

def scaleUp? (code exponent : Nat) : Option Nat :=
  if exponent ≤ greatestPower then
    let product := multiply code (powerOfTen exponent)
    if product < infinityCode then some product else none
  else if code = 0 then some 0 else none

def scaleDown (code exponent : Nat) : Nat :=
  if exponent ≤ greatestPower then divide code (powerOfTen exponent)
  else if code = 0 then 0
  else scaleDown (divide code (powerOfTen greatestPower)) (exponent - greatestPower)
termination_by exponent
decreasing_by
  simp only [greatestPower] at *
  omega

-- The magnitude `significand * 10 ^ exponent`. The significand and each scaling step are rounded
-- on their own, so the last place may differ from that of the nearest double.
def ofScientific? (significand : Nat) (exponent : Int) : Option Nat :=
  let code := nearest significand 1
  if exponent < 0 then some (scaleDown code exponent.natAbs) else scaleUp? code exponent.natAbs

end Double

end TokenIssuance.Decimal

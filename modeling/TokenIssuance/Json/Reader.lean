import TokenIssuance.Json.Document
import TokenIssuance.Json.Numeral

set_option autoImplicit false

namespace TokenIssuance.Json

open Text

namespace Document

def isSpace (c : Char) : Bool :=
  c = ' ' || c = '\t' || c = '\n' || c = '\r'

def skipSpace : Scan Unit := do
  let _ ← Scan.takeWhile isSpace

inductive Unit16 where
  | char (c : Char)
  | escaped (unit : Nat)

def simpleEscape? : Char → Option Char
  | '\x22' => some '\x22'
  | '\\' => some '\\'
  | '/' => some '/'
  | 'b' => some '\x08'
  | 'f' => some '\x0C'
  | 'n' => some '\n'
  | 'r' => some '\r'
  | 't' => some '\t'
  | _ => none

def stringUnits : List Char → Option (List Unit16 × List Char)
  | [] => none
  | '\x22' :: rest => some ([], rest)
  | '\\' :: 'u' :: a :: b :: c :: d :: rest =>
      if [a, b, c, d].all isHexDigit then do
        let (units, rest) ← stringUnits rest
        return (.escaped (numberIn 16 [a, b, c, d]) :: units, rest)
      else none
  | '\\' :: c :: rest => do
      let escaped ← simpleEscape? c
      let (units, rest) ← stringUnits rest
      return (.char escaped :: units, rest)
  | c :: rest =>
      if c.toNat < 0x20 then none
      else do
        let (units, rest) ← stringUnits rest
        return (.char c :: units, rest)

def isLeadUnit (unit : Nat) : Bool := 0xD800 ≤ unit && unit < 0xDC00
def isTrailUnit (unit : Nat) : Bool := 0xDC00 ≤ unit && unit < 0xE000

def pairUnits : List Unit16 → Option (List Char)
  | [] => some []
  | .char c :: rest => (pairUnits rest).map (c :: ·)
  | .escaped unit :: rest =>
      if isLeadUnit unit then
        match rest with
        | .escaped trail :: more =>
            if isTrailUnit trail then
              (pairUnits more).map
                (Char.ofNat (0x10000 + (unit - 0xD800) * 0x400 + (trail - 0xDC00)) :: ·)
            else none
        | _ => none
      else if isTrailUnit unit then none
      else (pairUnits rest).map (Char.ofNat unit :: ·)

def scanString : Scan (Option String) := do
  Scan.exactly '\x22'
  let units ← stringUnits
  return (pairUnits units).map String.ofList

def scanDigits : Scan (List Char) := Scan.takeWhile1 Char.isDigit

def scanWhole : Scan (List Char) := do
  match ← scanDigits with
  | '0' :: _ :: _ => failure
  | digits => return digits

def scanFraction : Scan (Option (List Char)) := do
  match ← Scan.peek with
  | some '.' => do Scan.exactly '.'; return some (← scanDigits)
  | _ => return none

def scanExponent : Scan (Option (Bool × List Char)) := do
  match ← Scan.peek with
  | some 'e' | some 'E' => do
      let _ ← Scan.satisfying fun _ => true
      match ← Scan.peek with
      | some '-' => do Scan.exactly '-'; return some (true, ← scanDigits)
      | some '+' => do Scan.exactly '+'; return some (false, ← scanDigits)
      | _ => return some (false, ← scanDigits)
  | _ => return none

def scanNumeral : Scan Numeral := do
  let negative := (← Scan.peek) == some '-'
  if negative then Scan.exactly '-'
  return ⟨negative, ← scanWhole, ← scanFraction, ← scanExponent⟩

mutual
def scanDocument : Nat → Scan Document
  | 0 => failure
  | fuel + 1 => do
      match ← Scan.peek with
      | some '[' => do
          Scan.exactly '['
          skipSpace
          if (← Scan.peek) == some ']' then
            Scan.exactly ']'
            return .array []
          else
            return .array (← scanItems fuel)
      | some '{' => do
          Scan.exactly '{'
          skipSpace
          if (← Scan.peek) == some '}' then
            Scan.exactly '}'
            return .object []
          else
            return .object (← scanMembers fuel)
      | some '\x22' => return .string (← scanString)
      | some 't' => do Scan.literal ['t', 'r', 'u', 'e']; return .boolean true
      | some 'f' => do Scan.literal ['f', 'a', 'l', 's', 'e']; return .boolean false
      | some 'n' => do Scan.literal ['n', 'u', 'l', 'l']; return .null
      | _ => return .number (← scanNumeral).number?
def scanItems : Nat → Scan (List Document)
  | 0 => failure
  | fuel + 1 => do
      let first ← scanDocument fuel
      skipSpace
      if (← Scan.peek) == some ',' then
        Scan.exactly ','
        skipSpace
        return first :: (← scanItems fuel)
      else
        Scan.exactly ']'
        return [first]
def scanMembers : Nat → Scan (List (Option String × Document))
  | 0 => failure
  | fuel + 1 => do
      let key ← scanString
      skipSpace
      Scan.exactly ':'
      skipSpace
      let first ← scanDocument fuel
      skipSpace
      if (← Scan.peek) == some ',' then
        Scan.exactly ','
        skipSpace
        return (key, first) :: (← scanMembers fuel)
      else
        Scan.exactly '}'
        return [(key, first)]
end

-- Reads a whole text. Every character starts at most one value and ends at most one step along a
-- list, so twice the length is fuel enough.
def read? (text : String) : Option Document :=
  let chars := text.toList
  Scan.runAll
    (do
      skipSpace
      let document ← scanDocument (2 * chars.length + 2)
      skipSpace
      return document)
    chars

end Document

def Value.read? (text : String) : Option Value := do
  (← Document.read? text).value? Document.depthLimit

end TokenIssuance.Json

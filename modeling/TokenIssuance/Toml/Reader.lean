import TokenIssuance.Toml.Draft
import TokenIssuance.Toml.Quotation
import TokenIssuance.Toml.Scalar

set_option autoImplicit false

namespace TokenIssuance.Toml

open Text

def skipBlanks : Scan Unit := do
  let _ ← Scan.takeWhile isBlankChar

def scanLineBreak : Scan Unit :=
  Scan.exactly '\n' <|> Scan.literal ['\r', '\n']

def scanComment : Scan Unit := do
  Scan.exactly '#'
  let _ ← Scan.takeWhile isShown

def scanLineEnd : Scan Unit := do
  skipBlanks
  if (← Scan.peek) == some '#' then scanComment
  scanLineBreak <|> Scan.endOfText

def skipLines : Nat → Scan Unit
  | 0 => skipBlanks
  | fuel + 1 => do
      skipBlanks
      match ← Scan.peek with
      | some '#' => do scanComment; scanLineBreak; skipLines fuel
      | some '\n' | some '\r' => do scanLineBreak; skipLines fuel
      | _ => pure ()

def isBareKeyChar (c : Char) : Bool := c.isAlphanum || c = '-' || c = '_'

def scanSimpleKey : Scan String := do
  match ← Scan.peek with
  | some '\x22' | some '\x27' => scanLineString
  | _ => return String.ofList (← Scan.takeWhile1 isBareKeyChar)

def scanKeys : Nat → Scan (List String)
  | 0 => failure
  | fuel + 1 => do
      skipBlanks
      let key ← scanSimpleKey
      skipBlanks
      if (← Scan.peek) == some '.' then
        Scan.exactly '.'
        return key :: (← scanKeys fuel)
      else return [key]

def nestingLimit : Nat := 79

def scanDottedKey : Scan (List String × String) := do
  let keys ← scanKeys (nestingLimit + 1)
  match keys.reverse with
  | last :: before => if keys.length ≤ nestingLimit then return (before.reverse, last) else failure
  | [] => failure

mutual
def scanValue : Nat → Nat → Scan Value
  | 0, _ => failure
  | fuel + 1, room => do
      match ← Scan.peek with
      | some '\x22' | some '\x27' => return .string (← scanString)
      | some '[' => do
          if room = 0 then failure
          Scan.exactly '['
          return .array (← scanItems fuel (room - 1))
      | some '{' => do
          if room = 0 then failure
          Scan.exactly '{'
          skipBlanks
          let pairs ← if (← Scan.peek) == some '}' then pure [] else scanPairs fuel (room - 1)
          Scan.exactly '}'
          return .table (← Table.ofPairs? pairs)
      | some 't' => do Scan.literal ['t', 'r', 'u', 'e']; return .boolean true
      | some 'f' => do Scan.literal ['f', 'a', 'l', 's', 'e']; return .boolean false
      | _ => scanDatetime <|> scanFloat <|> scanInteger
def scanItems : Nat → Nat → Scan (List Value)
  | 0, _ => failure
  | fuel + 1, room => do
      skipLines fuel
      if (← Scan.peek) == some ']' then
        Scan.exactly ']'
        return []
      else
        let first ← scanValue fuel room
        skipLines fuel
        if (← Scan.peek) == some ',' then
          Scan.exactly ','
          return first :: (← scanItems fuel room)
        else
          Scan.exactly ']'
          return [first]
def scanPairs : Nat → Nat → Scan (List Pair)
  | 0, _ => failure
  | fuel + 1, room => do
      let pair ← scanPair fuel room
      skipBlanks
      if (← Scan.peek) == some ',' then
        Scan.exactly ','
        return pair :: (← scanPairs fuel room)
      else return [pair]
def scanPair : Nat → Nat → Scan Pair
  | 0, _ => failure
  | fuel + 1, room => do
      let (path, key) ← scanDottedKey
      Scan.exactly '='
      skipBlanks
      return ⟨path, key, ← scanValue fuel room⟩
end

inductive Statement where
  | pair (pair : Pair)
  | header (element : Bool) (path : List String) (key : String)

def scanHeader : Scan Statement := do
  Scan.exactly '['
  let element := (← Scan.peek) == some '['
  if element then Scan.exactly '['
  let (path, key) ← scanDottedKey
  Scan.exactly ']'
  if element then Scan.exactly ']'
  return .header element path key

def scanStatements (fuel : Nat) : Nat → Scan (List Statement)
  | 0 => failure
  | lines + 1 => do
      skipBlanks
      match ← Scan.peek with
      | none => return []
      | some '#' | some '\n' | some '\r' => do
          scanLineEnd
          scanStatements fuel lines
      | some '[' => do
          let header ← scanHeader
          scanLineEnd
          return header :: (← scanStatements fuel lines)
      | some _ => do
          let pair ← scanPair fuel nestingLimit
          scanLineEnd
          return .pair pair :: (← scanStatements fuel lines)

def sections : List Statement → List Pair × List Section
  | [] => ([], [])
  | .pair pair :: more =>
      let (pairs, later) := sections more
      (pair :: pairs, later)
  | .header element path key :: more =>
      let (pairs, later) := sections more
      ([], ⟨element, path, key, pairs⟩ :: later)

def dropByteOrderMark : List Char → List Char
  | '\uFEFF' :: rest => rest
  | cs => cs

-- Reads a document. Every value, list item and line takes at least one character, so twice the length
-- is fuel enough.
def Table.read? (text : String) : Option Table := do
  let chars := dropByteOrderMark text.toList
  let fuel := 2 * chars.length + 2
  let (pairs, later) := sections (← Scan.runAll (scanStatements fuel fuel) chars)
  Table.ofSections? pairs later

end TokenIssuance.Toml

import TokenIssuance.Text.Scan

set_option autoImplicit false

namespace TokenIssuance.Toml

open Text

def isBlankChar (c : Char) : Bool := c = ' ' || c = '\t'

def isShown (c : Char) : Bool :=
  c = '\t' || (0x20 ≤ c.toNat && c.toNat ≠ 0x7F)

def charOf? (code : Nat) : Option Char :=
  if code.isValidChar then some (Char.ofNat code) else none

def shortEscape? : Char → Option Char
  | 'b' => some '\x08'
  | 'f' => some '\x0C'
  | 'n' => some '\n'
  | 'r' => some '\r'
  | 't' => some '\t'
  | '\\' => some '\\'
  | '\x22' => some '\x22'
  | _ => none

def hexCode? (digits : List Char) : Option Char :=
  if digits.all isHexDigit then charOf? (numberIn 16 digits) else none

abbrev Remainder := List Char × List Char

def Remainder.prepend (c : Char) (read : Remainder) : Remainder := (c :: read.1, read.2)

def basicBody : List Char → Option Remainder
  | [] => none
  | '\x22' :: rest => some ([], rest)
  | '\\' :: 'u' :: a :: b :: c :: d :: rest => do
      return (← basicBody rest).prepend (← hexCode? [a, b, c, d])
  | '\\' :: 'U' :: a :: b :: c :: d :: e :: f :: g :: h :: rest => do
      return (← basicBody rest).prepend (← hexCode? [a, b, c, d, e, f, g, h])
  | '\\' :: c :: rest => do
      return (← basicBody rest).prepend (← shortEscape? c)
  | c :: rest =>
      if isShown c && c != '\\' then (basicBody rest).map (·.prepend c) else none

def lineEnds (cs : List Char) : Bool :=
  match cs.dropWhile isBlankChar with
  | '\n' :: _ => true
  | '\r' :: '\n' :: _ => true
  | _ => false

-- Inside three double quotes. Up to two more may stand before the closing ones. A backslash at the
-- end of a line takes away the line break with all blanks and line breaks after it (`trimming`).
def basicLines (trimming : Bool) : List Char → Option Remainder
  | [] => none
  | '\x22' :: '\x22' :: '\x22' :: '\x22' :: '\x22' :: rest => some (['\x22', '\x22'], rest)
  | '\x22' :: '\x22' :: '\x22' :: '\x22' :: rest => some (['\x22'], rest)
  | '\x22' :: '\x22' :: '\x22' :: rest => some ([], rest)
  | '\\' :: 'u' :: a :: b :: c :: d :: rest => do
      return (← basicLines false rest).prepend (← hexCode? [a, b, c, d])
  | '\\' :: 'U' :: a :: b :: c :: d :: e :: f :: g :: h :: rest => do
      return (← basicLines false rest).prepend (← hexCode? [a, b, c, d, e, f, g, h])
  | '\\' :: c :: rest =>
      if lineEnds (c :: rest) then basicLines true (c :: rest)
      else do return (← basicLines false rest).prepend (← shortEscape? c)
  | '\r' :: '\n' :: rest =>
      if trimming then basicLines true rest
      else (basicLines false rest).map (·.prepend '\n')
  | c :: rest =>
      if trimming && (isBlankChar c || c = '\n') then basicLines true rest
      else if (isShown c && c != '\\') || c = '\n' then
        (basicLines false rest).map (·.prepend c)
      else none

def literalBody : List Char → Option Remainder
  | [] => none
  | '\x27' :: rest => some ([], rest)
  | c :: rest => if isShown c then (literalBody rest).map (·.prepend c) else none

def literalLines : List Char → Option Remainder
  | [] => none
  | '\x27' :: '\x27' :: '\x27' :: '\x27' :: '\x27' :: rest => some (['\x27', '\x27'], rest)
  | '\x27' :: '\x27' :: '\x27' :: '\x27' :: rest => some (['\x27'], rest)
  | '\x27' :: '\x27' :: '\x27' :: rest => some ([], rest)
  | '\r' :: '\n' :: rest => (literalLines rest).map (·.prepend '\n')
  | c :: rest =>
      if isShown c || c = '\n' then (literalLines rest).map (·.prepend c) else none

def dropFirstBreak : List Char → List Char
  | '\n' :: rest => rest
  | '\r' :: '\n' :: rest => rest
  | cs => cs

def scanLineString : Scan String := fun cs => do
  let (text, rest) ← match cs with
    | '\x22' :: rest => basicBody rest
    | '\x27' :: rest => literalBody rest
    | _ => none
  return (String.ofList text, rest)

def scanString : Scan String := fun
  | '\x22' :: '\x22' :: '\x22' :: rest => do
      let (text, rest) ← basicLines false (dropFirstBreak rest)
      return (String.ofList text, rest)
  | '\x27' :: '\x27' :: '\x27' :: rest => do
      let (text, rest) ← literalLines (dropFirstBreak rest)
      return (String.ofList text, rest)
  | cs => scanLineString cs

end TokenIssuance.Toml

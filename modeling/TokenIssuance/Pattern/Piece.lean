set_option autoImplicit false

namespace TokenIssuance.Pattern

inductive Piece where
  | literal (text : String)
  | field (body : String)
deriving DecidableEq, Repr

-- Characters are given last to first; an empty literal is left out.
def flush (reversed : List Char) (pieces : List Piece) : List Piece :=
  if reversed.isEmpty then pieces else .literal (String.ofList reversed.reverse) :: pieces

mutual
def parseText (read : List Char) : List Char → Option (List Piece)
  | [] => some (flush read [])
  | '{' :: '{' :: rest => parseText ('{' :: read) rest
  | '}' :: '}' :: rest => parseText ('}' :: read) rest
  | '{' :: rest => parseBody read [] rest
  | '}' :: _ => none
  | c :: rest => parseText (c :: read) rest
def parseBody (read body : List Char) : List Char → Option (List Piece)
  | [] => none
  | '}' :: rest => do
      let more ← parseText [] rest
      return flush read (.field (String.ofList body.reverse) :: more)
  | '{' :: _ => none
  | c :: rest => parseBody read (c :: body) rest
end

def parse? (pattern : String) : Option (List Piece) :=
  parseText [] pattern.toList

def escapeChar (c : Char) : List Char :=
  if c = '{' ∨ c = '}' then [c, c] else [c]

def escape (text : String) : String :=
  String.ofList (text.toList.flatMap escapeChar)

def Piece.write : Piece → String
  | .literal text => escape text
  | .field body => "\x7b" ++ body ++ "\x7d"

def write (pieces : List Piece) : String :=
  String.join (pieces.map Piece.write)

def Piece.body? : Piece → Option String
  | .literal _ => none
  | .field body => some body

def bodies (pieces : List Piece) : List String :=
  pieces.filterMap Piece.body?

def substitute (body text : String) (pieces : List Piece) : List Piece :=
  pieces.map fun piece => if piece = .field body then .literal text else piece

end TokenIssuance.Pattern

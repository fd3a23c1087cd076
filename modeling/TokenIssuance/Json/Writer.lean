import TokenIssuance.Json.Value

set_option autoImplicit false

namespace TokenIssuance.Json

def hexByte (n : Nat) : List Char :=
  [Nat.digitChar (n / 16), Nat.digitChar (n % 16)]

def literalChar (c : Char) : List Char :=
  if c = '\x22' then ['\\', '\x22']
  else if c = '\\' then ['\\', '\\']
  else if c = '\n' then ['\\', 'n']
  else if c = '\r' then ['\\', 'r']
  else if c = '\t' then ['\\', 't']
  else if c.toNat < 0x20 then ['\\', 'u', '0', '0'] ++ hexByte c.toNat
  else [c]

def stringLiteral (text : String) : String :=
  String.ofList ('\x22' :: text.toList.flatMap literalChar ++ ['\x22'])

mutual
def Value.write : Value → String
  | .null => "null"
  | .boolean true => "true"
  | .boolean false => "false"
  | .number n => n.text
  | .string s => stringLiteral s
  | .array items => "[" ++ ",".intercalate (writeItems items) ++ "]"
  | .object members => "\x7b" ++ ",".intercalate (writeMembers members) ++ "\x7d"
def writeItems : List Value → List String
  | [] => []
  | item :: more => item.write :: writeItems more
def writeMembers : List (String × Value) → List String
  | [] => []
  | member :: more => (stringLiteral member.1 ++ ":" ++ member.2.write) :: writeMembers more
end

end TokenIssuance.Json

import TokenIssuance.Text.CaseTable

set_option autoImplicit false

namespace TokenIssuance.Text

def lowerCode (code : Nat) : List CaseRun → Nat
  | [] => code
  | run :: more =>
      if code < run.first then code
      else if code ≤ run.last then
        if (code - run.first) % run.step = 0 then run.target + (code - run.first) else code
      else lowerCode code more

def capitalSigma : Char := '\u03A3'
def smallSigma : Char := '\u03C3'
def finalSigma : Char := '\u03C2'
def capitalDottedI : Char := '\u0130'

def lowerChar (c : Char) : List Char :=
  if c = capitalDottedI then ['i', '\u0307'] else [Char.ofNat (lowerCode c.toNat caseRuns)]

def meetsCased (cs : List Char) : Bool :=
  match cs.dropWhile fun c => caseIgnorable.covers c.toNat with
  | [] => false
  | c :: _ => cased.covers c.toNat

-- A sigma ends a word when a cased letter comes before it and none comes after it.
def lowerSigma (before after : List Char) : Char :=
  if meetsCased before && !meetsCased after then finalSigma else smallSigma

def lowercaseAfter (before : List Char) : List Char → List Char
  | [] => []
  | c :: rest =>
      (if c = capitalSigma then [lowerSigma before rest] else lowerChar c) ++
        lowercaseAfter (c :: before) rest

def lowercase (text : String) : String :=
  String.ofList (lowercaseAfter [] text.toList)

end TokenIssuance.Text

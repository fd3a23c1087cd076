import TokenIssuance.Pattern.Scope

set_option autoImplicit false

namespace TokenIssuance

open Json (Bag)
open Pattern (Piece)

namespace Scope

-- Every way to put elements for those of the given bodies that stand for lists. When no element of
-- a list has a text there is no way, and later bodies are not looked at.
def choices (scope : Scope) : List String → List Piece → Demand Bag (List (List Piece))
  | [], pieces => pure [pieces]
  | body :: more, pieces => do
      match (← scope.resolve body).bind Resolved.items? with
      | none => scope.choices more pieces
      | some items => do
          let chosen ← (items.filterMap Json.Value.scalarText?).mapM fun text =>
            scope.choices more (Pattern.substitute body text pieces)
          return chosen.flatten

def expand (scope : Scope) (pattern : String) : Demand Bag (List String) :=
  match Pattern.parse? pattern with
  | none => pure [pattern]
  | some pieces => do
      return (← scope.choices (Pattern.bodies pieces).eraseDups pieces).map Pattern.write

end Scope

inductive Expander where
  | list
  | verbatim
deriving DecidableEq, Repr

def Expander.expand (expander : Expander) (scope : Scope) (pattern : String) :
    Demand Bag (List String) :=
  match expander with
  | .list => scope.expand pattern
  | .verbatim => pure [pattern]

inductive Scope.Query where
  | resolve (body : String)
  | render (pattern : String)
  | expand (expander : Expander) (pattern : String)

inductive Scope.Answer where
  | resolved (result : Option Resolved)
  | rendered (text : Option String)
  | expanded (patterns : List String)

def Scope.answer (scope : Scope) : Scope.Query → Demand Bag Scope.Answer
  | .resolve body => .resolved <$> scope.resolve body
  | .render pattern => .rendered <$> scope.render pattern
  | .expand expander pattern => .expanded <$> expander.expand scope pattern

end TokenIssuance

import TokenIssuance.Identity
import TokenIssuance.Pattern.Demand
import TokenIssuance.Pattern.Path
import TokenIssuance.Pattern.Piece

set_option autoImplicit false

namespace TokenIssuance

open Json (Bag Value)

structure Scope where
  identity : Identity
  attributes : Bag

inductive Resolved where
  | identity (text : String)
  | value (datum : Value)

def Resolved.text? : Resolved → Option String
  | .identity text => some text
  | .value datum => datum.scalarText?

def Resolved.items? : Resolved → Option (List Value)
  | .value (.array items) => some items
  | _ => none

theorem Resolved.items_iff_array (resolved : Resolved) (items : List Value) :
    resolved.items? = some items ↔ resolved = .value (.array items) := by
  unfold items?
  split
  · simp
  · rename_i unlisted
    exact ⟨nofun, fun array => absurd array (unlisted items)⟩

namespace Placeholder

def endsName (c : Char) : Bool := c = '[' || c = '.'

def name (body : String) : String :=
  String.ofList (body.toList.takeWhile fun c => !endsName c)

-- What follows the name; a dot right after the name belongs to neither.
def path (body : String) : String :=
  match body.toList.dropWhile fun c => !endsName c with
  | '.' :: rest => String.ofList rest
  | rest => String.ofList rest

end Placeholder

namespace Scope

def resolve (scope : Scope) (body : String) : Demand Bag (Option Resolved) :=
  if body = "identity" then pure (some (.identity scope.identity.text))
  else if Placeholder.name body = "attributes" then
    pure ((scope.attributes.lookup? (Placeholder.path body)).map .value)
  else if Placeholder.name body = "config" then do
    let config ← Demand.datum
    return (config.lookup? (Placeholder.path body)).map .value
  else pure none

def renderPieces (scope : Scope) : List Pattern.Piece → Demand Bag (Option String)
  | [] => pure (some "")
  | .literal text :: more => do
      return (← scope.renderPieces more).map (text ++ ·)
  | .field body :: more => do
      match (← scope.resolve body).bind Resolved.text? with
      | none => pure none
      | some text => return (← scope.renderPieces more).map (text ++ ·)

def render (scope : Scope) (pattern : String) : Demand Bag (Option String) :=
  match Pattern.parse? pattern with
  | none => pure none
  | some pieces => scope.renderPieces pieces

end Scope

end TokenIssuance

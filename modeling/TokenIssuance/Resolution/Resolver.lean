import TokenIssuance.Pattern.Expansion
import TokenIssuance.PolicySet
import TokenIssuance.Resolution.Settings
import TokenIssuance.Resolution.Sources
import TokenIssuance.Text.Lowercase

set_option autoImplicit false

namespace TokenIssuance

open Json (Bag)

namespace Scope

def renderAll (scope : Scope) : List String → Demand Bag (List String)
  | [] => pure []
  | pattern :: more => do
      let text ← scope.render pattern
      let texts ← scope.renderAll more
      return text.toList ++ texts

def texts (scope : Scope) (expander : Expander) : List String → Demand Bag (List String)
  | [] => pure []
  | pattern :: more => do
      let expanded ← expander.expand scope pattern
      let rendered ← scope.renderAll expanded
      return rendered ++ (← scope.texts expander more)

def policies (scope : Scope) (expander : Expander) (patterns : List String) :
    Demand Bag PolicySet := do
  return PolicySet.ofList ((← scope.texts expander patterns).map Text.lowercase)

end Scope

structure Resolver (σ : Type) where
  settings : PolicySettings
  sources : Sources σ
  expander : Expander := .list

namespace Resolver

variable {σ : Type}

def fetchConfig (resolver : Resolver σ) (identity : Identity) (refresh : Bool) : StateM σ Bag := do
  return bagOrEmpty (← resolver.sources.config identity refresh)

-- The policies that patterns come to for an identity: its attributes are fetched first, its config
-- only when a placeholder needs it.
def resolve (resolver : Resolver σ) (identity : Identity) (patterns : List String)
    (refresh : Bool) : StateM σ PolicySet := do
  let attributes := bagOrEmpty (← resolver.sources.attributes identity)
  let demand := (Scope.mk identity attributes).policies resolver.expander patterns
  let (policies, _) ← (demand.run (resolver.fetchConfig identity refresh)).run none
  return policies

def configured (resolver : Resolver σ) (identity : Identity) (refresh : Bool) : StateM σ PolicySet :=
  resolver.resolve identity resolver.settings.patterns refresh

def policies (resolver : Resolver σ) (identity : Identity) : StateM σ PolicySet :=
  resolver.configured identity resolver.settings.refreshConfig

end Resolver

end TokenIssuance

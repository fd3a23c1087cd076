import TokenIssuance.Identity
import TokenIssuance.Json.Value

set_option autoImplicit false

namespace TokenIssuance

open Json (Bag)

structure SourceFailure where
  message : String
deriving DecidableEq, Repr

abbrev SourceReply := Except SourceFailure Bag

def bagOrEmpty : SourceReply → Bag
  | .ok bag => bag
  | .error _ => []

structure Sources (σ : Type) where
  attributes : Identity → StateM σ SourceReply
  config : Identity → Bool → StateM σ SourceReply

inductive SourceCall where
  | attributes (identity : Identity)
  | config (identity : Identity) (refresh : Bool)
deriving DecidableEq, Repr

namespace Sources

def recorded {σ : Type} (sources : Sources σ) : Sources (σ × List SourceCall) where
  attributes identity := fun (state, calls) =>
    let (reply, state) := (sources.attributes identity).run state
    (reply, state, calls ++ [.attributes identity])
  config identity refresh := fun (state, calls) =>
    let (reply, state) := (sources.config identity refresh).run state
    (reply, state, calls ++ [.config identity refresh])

end Sources

def Sources.constant (attributes config : SourceReply) : Sources Unit where
  attributes _ := pure attributes
  config _ _ := pure config

-- Replies in store under identities; those under the asterisk are for every other identity.
abbrev Script := List (String × List SourceReply)

namespace Script

def takeReply (key : String) : Script → SourceReply × Script
  | [] => (.ok [], [])
  | (name, replies) :: more =>
      if name = key then
        match replies with
        | [] => (.ok [], (name, []) :: more)
        | [last] => (last, (name, [last]) :: more)
        | first :: rest => (first, (name, rest) :: more)
      else
        let (reply, rest) := takeReply key more
        (reply, (name, replies) :: rest)

def answer (identity : Identity) : StateM Script SourceReply := fun script =>
  let key := if (script.lookup identity.text).isSome then identity.text else "*"
  takeReply key script

end Script

def Sources.scripted : Sources (Script × Script) where
  attributes identity := fun (attributes, config) =>
    let (reply, attributes) := (Script.answer identity).run attributes
    (reply, attributes, config)
  config identity _ := fun (attributes, config) =>
    let (reply, config) := (Script.answer identity).run config
    (reply, attributes, config)

end TokenIssuance

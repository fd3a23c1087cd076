import TokenIssuance.Json.Reader
import TokenIssuance.Text.Blank
import TokenIssuance.Text.Quoted

set_option autoImplicit false

namespace TokenIssuance

structure HttpRequest where
  url : String
  headers : List (String × String)
  body : Json.Value

structure HttpResponse where
  status : UInt16
  reason : String
  body : String
deriving DecidableEq, Repr

inductive TransportFailure where
  | reported (text : String)
  | malformedBody (detail : String)
deriving DecidableEq, Repr

def TransportFailure.message : TransportFailure → String
  | .reported text => text
  | .malformedBody detail => "malformed response from vault: " ++ detail

namespace HttpRequest

def sameName (a b : String) : Bool := a.toLower == b.toLower

def header? (request : HttpRequest) (name : String) : Option String :=
  (request.headers.find? fun header => sameName header.1 name).map (·.2)

def diagnostic (request : HttpRequest) : String :=
  "HttpRequest \x7b url: " ++ Text.quoted request.url ++ ", headers: [" ++
    ", ".intercalate (request.headers.map fun header => Text.quoted header.1) ++ "], .. \x7d"

end HttpRequest

namespace HttpResponse

def isSuccess (response : HttpResponse) : Bool :=
  200 ≤ response.status.toNat && response.status.toNat < 300

def reasonOrStatus (response : HttpResponse) : String :=
  if Text.isBlank response.reason then
    "vault request failed with status " ++ toString response.status.toNat
  else response.reason

-- What the JSON reader finds wrong with a body is put in its own words, which `complain` gives.
def decode {α : Type} (complain : String → String) (read : Json.Document → Option α)
    (response : HttpResponse) : Except TransportFailure α :=
  match (Json.Document.read? response.body).bind read with
  | some message => .ok message
  | none => .error (.malformedBody (complain response.body))

end HttpResponse

abbrev Transport (σ : Type) := HttpRequest → StateM σ (Except TransportFailure HttpResponse)

end TokenIssuance

set_option autoImplicit false

namespace TokenIssuance.Text

abbrev Spans := List (Nat × Nat)

-- Membership; the search ends at the first span that starts after the code point.
def Spans.covers (code : Nat) : Spans → Bool
  | [] => false
  | (first, last) :: more =>
      if code < first then false
      else if code ≤ last then true
      else Spans.covers code more

end TokenIssuance.Text

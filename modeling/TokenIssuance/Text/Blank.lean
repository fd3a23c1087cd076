import TokenIssuance.Text.Span

set_option autoImplicit false

namespace TokenIssuance.Text

-- The code points with the property `White_Space`.
def whiteSpace : Spans :=
  [(0x9, 0xD), (0x20, 0x20), (0x85, 0x85), (0xA0, 0xA0), (0x1680, 0x1680), (0x2000, 0x200A),
   (0x2028, 0x2029), (0x202F, 0x202F), (0x205F, 0x205F), (0x3000, 0x3000)]

def isBlank (text : String) : Bool :=
  text.toList.all fun c => whiteSpace.covers c.toNat

end TokenIssuance.Text

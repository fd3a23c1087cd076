set_option autoImplicit false

namespace TokenIssuance

structure Identity where
  text : String
deriving DecidableEq, Repr

end TokenIssuance

set_option autoImplicit false

namespace TextGrammar

inductive Decision where
  | choose (index count : Nat)
  | optional (taken : Bool)
  | regex (pattern : String) (matched : Bool)
deriving DecidableEq, Repr

end TextGrammar

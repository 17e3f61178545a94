set_option autoImplicit false

namespace TextGrammar.Pattern

inductive Fault where
  | malformed
  | tooLarge
deriving DecidableEq, Repr

end TextGrammar.Pattern

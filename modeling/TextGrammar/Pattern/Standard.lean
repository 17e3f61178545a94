import TextGrammar.Pattern.Basic

set_option autoImplicit false

namespace TextGrammar.Pattern

instance : Engine where
  read := Pattern.read
  isMatch := Pattern.isMatch

end TextGrammar.Pattern

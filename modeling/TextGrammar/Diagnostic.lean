import TextGrammar.Source.Span

set_option autoImplicit false

namespace TextGrammar

structure Diagnostic where
  message : String
  label : String
  place : Span
  help : Option String
deriving DecidableEq, Repr

namespace Diagnostic

def offset (diagnostic : Diagnostic) : Nat := diagnostic.place.start

end Diagnostic

end TextGrammar

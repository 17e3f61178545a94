import TextGrammar.Diagnostic
import TextGrammar.Pattern.Fault
import TextGrammar.Text.Quoted

set_option autoImplicit false

namespace TextGrammar

inductive SamplingError where
  | unresolved (name : String) (place : Span)
  | invalidPattern (pattern : String) (fault : Pattern.Fault) (place : Span)
  | recursionLimit (name : String) (limit : Nat) (place : Span)
deriving DecidableEq, Repr

namespace SamplingError

def message : SamplingError → String
  | unresolved name _ => "Identifier '" ++ name ++ "' used before definition"
  | invalidPattern pattern _ _ => "Invalid regular expression " ++ Quoted.quote pattern
  | recursionLimit name limit _ =>
      "'" ++ name ++ "' expanded itself more than " ++ toString limit ++ " times"

def label : SamplingError → String
  | unresolved name _ => "'" ++ name ++ "' is not bound here"
  | invalidPattern .. => "pattern used here"
  | recursionLimit .. => "while evaluating this"

def help : SamplingError → Option String
  | unresolved .. => some "bind it first on every path that reaches here, with (= name <value>)"
  | invalidPattern .. => none
  | recursionLimit .. => some "a definition probably refers to itself without a way out"

def place : SamplingError → Span
  | unresolved _ place => place
  | invalidPattern _ _ place => place
  | recursionLimit _ _ place => place

def diagnostic (error : SamplingError) : Diagnostic :=
  ⟨error.message, error.label, error.place, error.help⟩

end SamplingError

end TextGrammar

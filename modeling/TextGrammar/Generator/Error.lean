import TextGrammar.Diagnostic
import TextGrammar.Pattern.Fault
import TextGrammar.Text.Quoted

set_option autoImplicit false

namespace TextGrammar

inductive CompileError where
  | unresolved (name : String) (place : Span)
  | invalidPattern (pattern : String) (fault : Pattern.Fault) (place : Span)
deriving DecidableEq, Repr

namespace CompileError

def message : CompileError → String
  | unresolved name _ => "Identifier '" ++ name ++ "' used before definition"
  | invalidPattern pattern _ _ => "Invalid regular expression " ++ Quoted.quote pattern

def label : CompileError → String
  | unresolved name _ => "'" ++ name ++ "' has no earlier definition"
  | invalidPattern .. => "pattern defined here"

def help : CompileError → Option String
  | unresolved .. =>
      some "definitions are resolved in source order; move (= name <value>) above this use"
  | invalidPattern .. => none

def place : CompileError → Span
  | unresolved _ place => place
  | invalidPattern _ _ place => place

def diagnostic (error : CompileError) : Diagnostic :=
  ⟨error.message, error.label, error.place, error.help⟩

end CompileError

end TextGrammar

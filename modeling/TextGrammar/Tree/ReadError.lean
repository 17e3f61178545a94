import TextGrammar.Diagnostic

set_option autoImplicit false

namespace TextGrammar

inductive ReadError where
  | expectedLiteral (offset : Nat)
  | unterminatedLiteral (place : Span)
  | expectedName (offset : Nat)
  | expectedOperator (offset : Nat)
  | expectedStatement (offset : Nat)
  | expectedGroup (offset : Nat)
  | unterminatedGroup (place : Span)
  | nestingTooDeep (limit offset : Nat)
deriving DecidableEq, Repr

namespace ReadError

def message : ReadError → String
  | expectedLiteral _ => "Expected the start of a literal, with \" or '"
  | unterminatedLiteral _ => "Literal started, but not ended (found end of input instead)"
  | expectedName _ => "Expected an identifier (numbers and letters)"
  | expectedOperator _ => "Expected an operator (one of \"=\", \"|\", \"?\", \"&\")"
  | expectedStatement _ =>
      "Expected a statement (literal, operation, identifier or group of statements)"
  | expectedGroup _ => "Expected a bracketed group of statements"
  | unterminatedGroup _ => "Bracketed group of statements was started, but never closed"
  | nestingTooDeep limit _ => "Statements are nested more than " ++ toString limit ++ " deep"

def label : ReadError → String
  | expectedLiteral _ => "A literal should start here"
  | unterminatedLiteral _ => "Literal starts here"
  | expectedName _ => "An identifier should be here"
  | expectedOperator _ => "Unknown operator"
  | expectedStatement _ => "A statement should be here"
  | expectedGroup _ => "Expected '(' here"
  | unterminatedGroup _ => "Group opens here"
  | nestingTooDeep .. => "Nesting limit reached here"

-- An unfinished construct is shown from its opening to the end of the text, all else at one place.
def place : ReadError → Span
  | expectedLiteral offset => Span.point offset
  | unterminatedLiteral place => place
  | expectedName offset => Span.point offset
  | expectedOperator offset => Span.point offset
  | expectedStatement offset => Span.point offset
  | expectedGroup offset => Span.point offset
  | unterminatedGroup place => place
  | nestingTooDeep _ offset => Span.point offset

def diagnostic (error : ReadError) : Diagnostic := ⟨error.message, error.label, error.place, none⟩

end ReadError

end TextGrammar

import TextGrammar.Unicode.CodePoints

set_option autoImplicit false

namespace TextGrammar.Pattern

inductive WordEdge where
  | border
  | noBorder
  | start
  | stop
  | startHalf
  | stopHalf
deriving DecidableEq, Repr

-- Assertions about a place. Lines end at a line feed, or else at carriage returns, line feeds and
-- pairs of the two. `ascii` restricts words to ASCII letters, digits and the underscore.
inductive Look where
  | textStart
  | textStop
  | lineStart
  | lineStop
  | anyLineStart
  | anyLineStop
  | word (edge : WordEdge) (ascii : Bool)
deriving DecidableEq, Repr

inductive Expression where
  | empty
  | one (set : CodePoints)
  | look (look : Look)
  | sequence (parts : List Expression)
  | choice (branches : List Expression)
  | repeated (least : Nat) (most : Option Nat) (body : Expression)
  | captured (body : Expression)
deriving Repr, Inhabited

namespace Expression

mutual

def isZeroWidth : Expression → Bool
  | empty => true
  | one _ => false
  | look _ => true
  | sequence parts => allZeroWidth parts
  | choice branches => allZeroWidth branches
  | repeated _ _ body => body.isZeroWidth
  | captured body => body.isZeroWidth

def allZeroWidth : List Expression → Bool
  | [] => true
  | part :: rest => part.isZeroWidth && allZeroWidth rest

end

-- Repetition. To repeat what has no width more than once changes nothing.
def between (least : Nat) (most : Option Nat) (body : Expression) : Expression :=
  if most = some 0 then empty
  else if least = 1 ∧ most = some 1 then body
  else if body.isZeroWidth then repeated (min least 1) (some 1) body
  else repeated least most body

end Expression

end TextGrammar.Pattern

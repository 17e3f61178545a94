import TextGrammar.Pattern.Match
import TextGrammar.Pattern.Reader
import TextGrammar.Pattern.Size

set_option autoImplicit false

namespace TextGrammar

structure Pattern where
  text : String
  expression : Pattern.Expression
deriving Repr

namespace Pattern

def read (text : String) : Except Fault Pattern := do
  let expression ← Expression.read text
  if expression.fits then .ok ⟨text, expression⟩ else .error .tooLarge

theorem read_text (text : String) (pattern : Pattern) (found : Pattern.read text = .ok pattern) :
    pattern.text = text := by
  rw [read] at found
  cases parsed : Expression.read text with
  | error fault =>
      rw [parsed] at found
      cases found
  | ok expression =>
      have built : (if expression.fits then .ok ⟨text, expression⟩ else .error .tooLarge) =
          (.ok pattern : Except Fault Pattern) := by
        rw [← found, parsed]
        rfl
      split at built
      · cases built
        rfl
      · cases built

def isMatch (pattern : Pattern) (input : String) : Bool :=
  pattern.expression.occursIn input.toList

-- What producing texts needs of patterns: which texts are patterns, and which inputs they match.
class Engine where
  read : String → Except Fault Pattern
  isMatch : Pattern → String → Bool

end Pattern

end TextGrammar

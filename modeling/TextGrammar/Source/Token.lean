import TextGrammar.Source.Cursor
import TextGrammar.Source.Span

set_option autoImplicit false

namespace TextGrammar

inductive Lexeme where
  | opening
  | closing
  | operator (operator : Operator)
  | name (name : String)
  | literal (text : String) (quote : Char)
  | unclosed (quote : Char)
  | stray (char : Char)
deriving DecidableEq, Repr

structure Token where
  lexeme : Lexeme
  span : Span
deriving DecidableEq, Repr

namespace Cursor

-- Every text has tokens: what belongs to no construct is a stray character, and a literal whose
-- closing quote is missing reaches to the end of the text.
def lexeme (cursor next : Cursor) (c : Char) : Lexeme × Cursor :=
  if c = groupOpening then (.opening, next)
  else if c = groupClosing then (.closing, next)
  else if isQuote c then
    match next.takeQuoted c with
    | some (text, after) => (.literal text c, after)
    | none => (.unclosed c, next.finish)
  else if isNameChar c then
    let (name, after) := cursor.takeWhile isNameChar
    (.name name, after)
  else
    match cursor.operator with
    | some (operator, after) => (.operator operator, after)
    | none => (.stray c, next)

def token (cursor : Cursor) : Option (Token × Cursor) :=
  match cursor.advance with
  | (none, _) => none
  | (some c, next) =>
      let (lexeme, after) := cursor.lexeme next c
      some (⟨lexeme, Span.range cursor.offset after.offset⟩, after)

def skipBlanks (cursor : Cursor) : Cursor := (cursor.takeWhile isBlank).2

def tokens : Nat → Cursor → List Token
  | 0, _ => []
  | count + 1, cursor =>
      match cursor.skipBlanks.token with
      | none => []
      | some (token, after) => token :: tokens count after

end Cursor

-- All tokens of a text; it has no more of them than characters.
def tokensOf (source : String) : List Token :=
  Cursor.tokens source.length (Cursor.ofString source)

end TextGrammar

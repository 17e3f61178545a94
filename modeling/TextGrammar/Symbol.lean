set_option autoImplicit false

namespace TextGrammar

def blanks : List Char := [' ', '\t', '\n', '\r', '\x0b', '\x0c']

def quotes : List Char := ['"', '\'']

def escapeMark : Char := '\\'

def groupOpening : Char := '('

def groupClosing : Char := ')'

def isBlank (c : Char) : Bool := blanks.contains c

def isQuote (c : Char) : Bool := quotes.contains c

def isNameChar (c : Char) : Bool :=
  ('0' ≤ c && c ≤ '9') || ('A' ≤ c && c ≤ 'Z') || ('a' ≤ c && c ≤ 'z')

def isAsciiMark (c : Char) : Bool := '!' ≤ c && c ≤ '~' && !isNameChar c

inductive Operator where
  | define
  | choose
  | optional
  | regex
deriving DecidableEq, Repr

namespace Operator

def all : List Operator := [define, choose, optional, regex]

def symbol : Operator → String
  | define => "="
  | choose => "|"
  | optional => "?"
  | regex => "&"

def symbols : List String := all.map symbol

def ofSymbol? (text : String) : Option Operator := all.find? (·.symbol == text)

theorem ofSymbol?_symbol (operator : Operator) : ofSymbol? operator.symbol = some operator := by
  cases operator <;> decide

end Operator

end TextGrammar

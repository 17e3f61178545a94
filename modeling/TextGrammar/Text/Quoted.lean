import TextGrammar.Unicode.Class

set_option autoImplicit false

namespace TextGrammar.Quoted

def hex (number : Nat) : String := String.ofList (Nat.toDigits 16 number)

def escapeByNumber (c : Char) : String := "\\u\x7b" ++ hex c.toNat ++ "\x7d"

def escape (c : Char) : String :=
  if c = '\x00' then "\\0"
  else if c = '\t' then "\\t"
  else if c = '\n' then "\\n"
  else if c = '\r' then "\\r"
  else if c = '\\' then "\\\\"
  else if c = '"' then "\\\""
  else if Unicode.unprintable.contains c.toNat then escapeByNumber c
  else c.toString

def escapeAll : List Char → String
  | [] => ""
  | c :: rest => escape c ++ escapeAll rest

def quote (text : String) : String := "\"" ++ escapeAll text.toList ++ "\""

end TextGrammar.Quoted

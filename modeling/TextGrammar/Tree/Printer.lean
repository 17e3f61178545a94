import TextGrammar.Tree.Basic
import TextGrammar.Symbol

set_option autoImplicit false

namespace TextGrammar

def Literal.print (literal : Literal) : String :=
  literal.quote.toString ++ literal.text ++ literal.quote.toString

namespace Node

mutual

-- One blank between the statements of a group and behind the operators that need one, none
-- elsewhere.
def print : Node → String
  | literal l => l.print
  | name n => n.text
  | group _ statements _ => "(" ++ printAll statements ++ ")"
  | define _ n body => Operator.define.symbol ++ " " ++ n.text ++ " " ++ body.print
  | choose _ _ alternatives _ => Operator.choose.symbol ++ "(" ++ printAll alternatives ++ ")"
  | optional _ body => Operator.optional.symbol ++ body.print
  | regex _ pattern matched unmatched =>
      Operator.regex.symbol ++ " " ++ pattern.print ++ " " ++ matched.print ++ " " ++
        unmatched.print

def printAll : List Node → String
  | [] => ""
  | node :: rest => node.print ++ printTail rest

def printTail : List Node → String
  | [] => ""
  | node :: rest => " " ++ node.print ++ printTail rest

end

end Node

def Grammar.print (grammar : Grammar) : String := "(" ++ Node.printAll grammar.statements ++ ")"

end TextGrammar

import TextGrammar.Generator.Basic
import TextGrammar.Text.Quoted

set_option autoImplicit false

namespace TextGrammar

inductive RustExpression where
  | newString
  | fromLiteral (text : String)
  | call (name : String)
deriving DecidableEq, Repr

inductive RustAppend where
  | literal (text : String)
  | call (name : String)
deriving DecidableEq, Repr

inductive RustBody where
  | accumulate (pieces : List RustAppend)
  | drawArm (arms : List RustExpression)
  | drawBool (taken : RustExpression)
  | testInput (pattern : String) (matched unmatched : RustExpression)
  | value (expression : RustExpression)
deriving DecidableEq, Repr

structure RustFunction where
  isPublic : Bool
  name : String
  body : RustBody
deriving DecidableEq, Repr

structure RustModule where
  functions : List RustFunction
deriving DecidableEq, Repr

namespace RustExpression

def print : RustExpression → String
  | newString => "String::new()"
  | fromLiteral text => "String::from(" ++ Quoted.quote text ++ ")"
  | call name => name ++ "(input, rng)"

end RustExpression

namespace RustAppend

def print : RustAppend → String
  | literal text => "    output.push_str(" ++ Quoted.quote text ++ ");\n"
  | call name => "    output.push_str(&" ++ name ++ "(input, rng));\n"

end RustAppend

namespace RustBody

-- The arms of a match from a number on; the last one stands for all other numbers.
def printArms (index : Nat) : List RustExpression → String
  | [] => ""
  | [last] => "        _ => " ++ last.print ++ ",\n"
  | arm :: rest =>
      "        " ++ toString index ++ " => " ++ arm.print ++ ",\n" ++ printArms (index + 1) rest

def print : RustBody → String
  | accumulate pieces =>
      "    let mut output = String::new();\n" ++ String.join (pieces.map RustAppend.print) ++
        "    output\n"
  | drawArm arms =>
      "    match rng.gen_range(0.." ++ toString arms.length ++ "usize) \x7b\n" ++
        printArms 0 arms ++ "    \x7d\n"
  | drawBool taken =>
      "    if rng.gen_bool(0.5) \x7b " ++ taken.print ++ " \x7d else \x7b String::new() \x7d\n"
  | testInput pattern matched unmatched =>
      "    let matched = regex::Regex::new(" ++ Quoted.quote pattern ++
        ").map_or(false, |pattern| pattern.is_match(input));\n" ++
        "    if matched \x7b " ++ matched.print ++ " \x7d else \x7b " ++ unmatched.print ++
        " \x7d\n"
  | value expression => "    " ++ expression.print ++ "\n"

end RustBody

namespace RustFunction

def attributes : String := "#[allow(non_snake_case, unused_variables)]\n"

def print (function : RustFunction) : String :=
  "\n" ++ attributes ++ (if function.isPublic then "pub " else "") ++ "fn " ++ function.name ++
    "<R: Rng + ?Sized>(input: &str, rng: &mut R) -> String \x7b\n" ++ function.body.print ++
    "\x7d\n"

end RustFunction

namespace RustModule

def header : String := "// Generated by ygg. Do not edit.\n\nuse rand::Rng;\n"

def print (module : RustModule) : String :=
  header ++ String.join (module.functions.map RustFunction.print)

end RustModule

namespace Generator

def rustExpression (generator : Generator) : Fragment → RustExpression
  | .constant text => if text = "" then .newString else .fromLiteral text
  | .reference index => .call (generator.nameOf index)

def rustAppend (generator : Generator) : Fragment → RustAppend
  | .constant text => .literal text
  | .reference index => .call (generator.nameOf index)

def rustBody (generator : Generator) : Procedure → RustBody
  | .concat parts => .accumulate (parts.map generator.rustAppend)
  | .choose alternatives => .drawArm (alternatives.map generator.rustExpression)
  | .optional body => .drawBool (generator.rustExpression body)
  | .regex pattern matched unmatched =>
      .testInput pattern.text (generator.rustExpression matched)
        (generator.rustExpression unmatched)
  | .forward target => .value (.call (generator.nameOf target))

def rustModule (generator : Generator) : RustModule :=
  let procedures := generator.procedures.toList.map fun named =>
    ⟨false, named.name, generator.rustBody named.procedure⟩
  ⟨procedures ++ [⟨true, "generate", .value (generator.rustExpression generator.entry)⟩]⟩

def rustSource (generator : Generator) : String := generator.rustModule.print

end Generator

end TextGrammar

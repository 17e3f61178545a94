import TextGrammar.Generator.Basic
import TextGrammar.Text.Quoted

set_option autoImplicit false

namespace TextGrammar

inductive Colour where
  | dim
  | bold
  | green
  | blue
  | purple
deriving DecidableEq, Repr

namespace Colour

def code : Colour → Nat
  | dim => 2
  | bold => 1
  | green => 32
  | blue => 34
  | purple => 35

-- Surrounds a text with the sequences that switch the attribute on and all attributes off.
def paint (colour : Colour) (text : String) : String :=
  "\x1b[" ++ toString colour.code ++ "m" ++ text ++ "\x1b[0m"

end Colour

structure Layout where
  numbered : Bool
  coloured : Bool
deriving DecidableEq, Repr

namespace Layout

def plain : Layout := ⟨false, false⟩

def paint (layout : Layout) (colour : Colour) (text : String) : String :=
  if layout.coloured then colour.paint text else text

def constant (layout : Layout) (text : String) : String :=
  let quoted := Quoted.quote text
  if layout.numbered then layout.paint .green quoted else quoted

def name (layout : Layout) (text : String) : String :=
  if layout.numbered then layout.paint .blue text else text

end Layout

def fourDigits (number : Nat) : String :=
  let digits := toString number
  String.ofList (List.replicate (4 - digits.length) '0') ++ digits

def Procedure.operation : Procedure → String
  | concat _ => "concat"
  | choose _ => "choose"
  | optional _ => "optional"
  | regex .. => "regex"
  | forward _ => "alias"

namespace Generator

def listFragment (generator : Generator) (layout : Layout) : Fragment → String
  | .constant text => layout.constant text
  | .reference index => layout.name (generator.nameOf index)

def listFragments (generator : Generator) (layout : Layout) (fragments : List Fragment) : String :=
  String.intercalate ", " (fragments.map (generator.listFragment layout))

def listOperands (generator : Generator) (layout : Layout) : Procedure → String
  | .concat parts => generator.listFragments layout parts
  | .choose alternatives => generator.listFragments layout alternatives
  | .optional body => generator.listFragment layout body
  | .regex pattern matched unmatched =>
      layout.constant pattern.text ++ ", " ++ generator.listFragment layout matched ++ ", " ++
        generator.listFragment layout unmatched
  | .forward target => layout.name (generator.nameOf target)

def listProcedure (generator : Generator) (layout : Layout) (index : Nat) (named : NamedProcedure) :
    String :=
  let operation := named.procedure.operation
  let operands := generator.listOperands layout named.procedure
  if layout.numbered then
    layout.paint .dim (fourDigits index) ++ " | " ++ layout.paint .blue named.name ++ " = " ++
      layout.paint .purple operation ++ "(" ++ operands ++ ")\n"
  else named.name ++ " = " ++ operation ++ "(" ++ operands ++ ")\n"

def listEntry (generator : Generator) (layout : Layout) : String :=
  let entry := generator.listFragment layout generator.entry
  if layout.numbered then
    layout.paint .dim "----" ++ " | " ++ layout.paint .bold "entry" ++ " = " ++ entry ++ "\n"
  else "entry = " ++ entry ++ "\n"

def list (generator : Generator) (layout : Layout) : String :=
  String.join (generator.procedures.toList.mapIdx (generator.listProcedure layout)) ++
    generator.listEntry layout

def listing (generator : Generator) : String := generator.list Layout.plain

def disassembly (generator : Generator) (coloured : Bool) : String :=
  generator.list ⟨true, coloured⟩

end Generator

end TextGrammar

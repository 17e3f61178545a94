import TextGrammar.Pattern.Basic

set_option autoImplicit false

namespace TextGrammar

-- A reference is the number of a procedure, which stands earlier in the table.
inductive Fragment where
  | constant (text : String)
  | reference (index : Nat)
deriving DecidableEq, Repr

namespace Fragment

def empty : Fragment := constant ""

def isConstant : Fragment → Bool
  | constant _ => true
  | reference _ => false

end Fragment

inductive Procedure where
  | concat (parts : List Fragment)
  | choose (alternatives : List Fragment)
  | optional (body : Fragment)
  | regex (pattern : Pattern) (matched unmatched : Fragment)
  | forward (target : Nat)
deriving Repr

structure NamedProcedure where
  name : String
  procedure : Procedure
deriving Repr

structure Generator where
  procedures : Array NamedProcedure
  entry : Fragment
deriving Repr

namespace Generator

-- The name of a procedure; a number without procedure has none.
def nameOf (generator : Generator) (index : Nat) : String :=
  match generator.procedures[index]? with
  | some named => named.name
  | none => ""

end Generator

end TextGrammar

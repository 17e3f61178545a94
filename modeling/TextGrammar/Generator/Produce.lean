import TextGrammar.Generator.Basic
import TextGrammar.Random.Draw

set_option autoImplicit false

namespace TextGrammar

abbrev Producer := StateM Nat String

structure Feed where
  words : Words
  input : String

namespace Feed

def choose (feed : Feed) (count : Nat) : StateM Nat Nat := fun drawn => feed.words.index count drawn

def toss (feed : Feed) : StateM Nat Bool := fun drawn => feed.words.coin drawn

end Feed

def produceAll (produce : Fragment → Producer) (output : String) : List Fragment → Producer
  | [] => return output
  | part :: rest => do
      let text ← produce part
      produceAll produce (output ++ text) rest

namespace Procedure

def run [Pattern.Engine] (feed : Feed) (produce : Fragment → Producer) : Procedure → Producer
  | concat parts => produceAll produce "" parts
  | choose alternatives =>
      if alternatives.isEmpty then return ""
      else do
        let index ← feed.choose alternatives.length
        produce (alternatives.getD index .empty)
  | optional body => do
      if ← feed.toss then produce body else return ""
  | regex pattern matched unmatched =>
      if Pattern.Engine.isMatch pattern feed.input then produce matched else produce unmatched
  | forward target => produce (.reference target)

end Procedure

namespace Generator

variable [Pattern.Engine]

-- As many calls inside one another as there are procedures suffice, since each calls earlier ones
-- only.
def produce (generator : Generator) (feed : Feed) : (depth : Nat) → Fragment → Producer
  | _, .constant text => return text
  | 0, .reference _ => return ""
  | depth + 1, .reference index =>
      match generator.procedures[index]? with
      | none => return ""
      | some named => named.procedure.run feed (generator.produce feed depth)

def generate (generator : Generator) (feed : Feed) (drawn : Nat) : String × Nat :=
  (generator.produce feed generator.procedures.size generator.entry).run drawn

end Generator

end TextGrammar

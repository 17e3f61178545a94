import TextGrammar.Command.Arguments
import TextGrammar.Command.Failure

set_option autoImplicit false

namespace TextGrammar

inductive Command where
  | run (grammar input : String)
  | generate (grammar input : String)
  | disassemble (grammar : String)
  | compile (grammar output : String)
  | repl (grammar : String)
deriving DecidableEq, Repr

namespace Command

def ofOperands? : List String → Option Command
  | ["run", grammar] => some (run grammar "")
  | ["run", grammar, input] => some (run grammar input)
  | ["generate", grammar] => some (generate grammar "")
  | ["generate", grammar, input] => some (generate grammar input)
  | ["disassemble", grammar] => some (disassemble grammar)
  | ["compile", grammar, output] => some (compile grammar output)
  | ["repl", grammar] => some (repl grammar)
  | _ => none

end Command

structure Settings where
  overwrite : Bool
  seed : Option Nat
  count : Nat
  encoding : Encoding
deriving DecidableEq, Repr

namespace Settings

def readNumber (text : String) : Except Failure Nat := (Decimal.read text).mapError .number

def readEncoding (label : String) : Except Failure Encoding :=
  match Encoding.ofLabel? label with
  | some encoding => .ok encoding
  | none => .error (.encodingLabel label)

def ofArguments (arguments : Arguments) : Except Failure Settings := do
  let seed ← arguments.seed.mapM readNumber
  let count ← arguments.count.mapM readNumber
  let encoding ← arguments.encoding.mapM readEncoding
  return ⟨arguments.overwrite, seed, count.getD 1, encoding.getD .utf8⟩

end Settings

end TextGrammar

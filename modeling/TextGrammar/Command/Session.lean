import TextGrammar.Command.Host
import TextGrammar.Command.Lines
import TextGrammar.Command.Settings
import TextGrammar.Command.Usage
import TextGrammar.Generator.Compile
import TextGrammar.Generator.Listing
import TextGrammar.Generator.Produce
import TextGrammar.Generator.RustModule
import TextGrammar.Sampling.Sample
import TextGrammar.Tree.Reader

set_option autoImplicit false

namespace TextGrammar

inductive Exit where
  | success
  | misuse
  | failure (cause : Failure)
deriving DecidableEq, Repr

namespace Exit

def ofResult : Except Failure Unit → Exit
  | .ok () => success
  | .error cause => failure cause

def code : Exit → Nat
  | success => 0
  | misuse => 64
  | failure _ => 1

def complaint : Exit → String
  | success => ""
  | misuse => misuseText
  | failure cause => "Error: " ++ cause.message ++ "\n"

end Exit

abbrev Session (m : Type → Type) := ExceptT Failure m

namespace Session

variable {m : Type → Type} [Monad m] [Host m]

def ofExcept {α : Type} (result : Except Failure α) : Session m α := .mk (pure result)

def isPresent (path : String) : Session m Bool := .lift (Host.isPresent path)

def readFile (path : String) : Session m (List UInt8) :=
  .mk do return (← Host.read path).mapError .file

def writeFile (path text : String) : Session m Unit :=
  .mk do return (← Host.write path text).mapError .file

def print (text : String) : Session m Unit := .lift (Host.print text)

def input : Session m (List UInt8) := .lift Host.input

end Session

namespace Settings

def readGrammar (settings : Settings) (bytes : List UInt8) : Except Failure Grammar := do
  let source ← (settings.encoding.decode bytes).mapError .decoding
  (Grammar.read source).mapError .reading

end Settings

-- What the machine has for a command besides files, input and output: the stream of random words for a
-- seed, a seed for when none is given, what is read from the bytes of the input line by line, and whether
-- the output is coloured.
structure Surroundings where
  seeded : UInt64 → Words
  freshSeed : UInt64
  lines : List UInt8 → List LineEvent
  coloured : Bool

namespace Surroundings

def words (surroundings : Surroundings) (settings : Settings) : Words :=
  surroundings.seeded (match settings.seed with
    | some seed => UInt64.ofNat seed
    | none => surroundings.freshSeed)

end Surroundings

section

variable {m : Type → Type} [Monad m] [Host m] [Pattern.Engine]

def loadGrammar (settings : Settings) (path : String) : Session m Grammar := do
  let bytes ← Session.readFile path
  Session.ofExcept (settings.readGrammar bytes)

def loadGenerator (settings : Settings) (path : String) : Session m Generator := do
  let grammar ← loadGrammar settings path
  Session.ofExcept (grammar.compile.mapError .compiling)

def sampleLines (grammar : Grammar) (setting : Setting) : (count drawn : Nat) → Session m Unit
  | 0, _ => pure ()
  | count + 1, drawn => do
      let outcome := grammar.sample setting Bindings.empty drawn
      let (text, _) ← Session.ofExcept (outcome.result.mapError .sampling)
      Session.print (text ++ "\n")
      sampleLines grammar setting count outcome.drawn

def generateLines (generator : Generator) (feed : Feed) : (count drawn : Nat) → Session m Unit
  | 0, _ => pure ()
  | count + 1, drawn => do
      let (text, drawn) := generator.generate feed drawn
      Session.print (text ++ "\n")
      generateLines generator feed count drawn

def answerLine (grammar : Grammar) (words : Words) (line : String) (drawn : Nat) : String × Nat :=
  let outcome := grammar.sample ⟨words, line, defaultRecursion⟩ Bindings.empty drawn
  match outcome.result with
  | .ok (text, _) => ("==> " ++ text, outcome.drawn)
  | .error error => ("Error: " ++ error.message, outcome.drawn)

def answerLines (grammar : Grammar) (words : Words) (drawn : Nat) : List LineEvent → Session m Unit
  | [] => pure ()
  | .line line :: rest => do
      let (answer, drawn) := answerLine grammar words line drawn
      Session.print (answer ++ "\n")
      answerLines grammar words drawn rest
  | .interrupted :: _ => pure ()
  | .ended :: _ => pure ()
  | .failed message :: _ => throw (.line message)

namespace Surroundings

def perform (surroundings : Surroundings) (settings : Settings) : Command → Session m Unit
  | .run path input => do
      let grammar ← loadGrammar settings path
      sampleLines grammar ⟨surroundings.words settings, input, defaultRecursion⟩ settings.count 0
  | .generate path input => do
      let generator ← loadGenerator settings path
      generateLines generator ⟨surroundings.words settings, input⟩ settings.count 0
  | .disassemble path => do
      let generator ← loadGenerator settings path
      Session.print (generator.disassembly surroundings.coloured)
  | .compile path output => do
      unless settings.overwrite do
        if ← Session.isPresent output then throw (.outputExists output)
      let generator ← loadGenerator settings path
      Session.writeFile output generator.rustSource
  | .repl path => do
      let grammar ← loadGrammar settings path
      let input ← Session.input
      answerLines grammar (surroundings.words settings) 0 (surroundings.lines input)

-- Version and help come before all else, then the values of the options, then the command.
def reply (surroundings : Surroundings) (words : List String) : m Exit := do
  let arguments := Arguments.ofList words
  if arguments.version then
    Host.print (title ++ " " ++ version ++ "\n")
    return .success
  if arguments.help then
    Host.print (title ++ "\n\n" ++ usage ++ "\n\n" ++ optionsText ++ "\n")
    return .success
  match Settings.ofArguments arguments with
  | .error failure => return .failure failure
  | .ok settings =>
      match Command.ofOperands? arguments.operands with
      | none => return .misuse
      | some command => return .ofResult (← (surroundings.perform settings command).run)

end Surroundings

end

end TextGrammar

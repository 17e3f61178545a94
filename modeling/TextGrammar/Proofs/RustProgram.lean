import TextGrammar.Generator.Produce
import TextGrammar.Generator.RustModule
import TextGrammar.Proofs.RustTokens

set_option autoImplicit false

namespace TextGrammar.Rust

inductive Block where
  | accumulate (pieces : List RustAppend)
  | select (bound : Nat) (arms : List (Option Nat × RustExpression))
  | toss (taken passed : RustExpression)
  | test (pattern : String) (matched unmatched : RustExpression)
  | value (expression : RustExpression)
deriving DecidableEq

structure Item where
  isPublic : Bool
  name : String
  body : Block
deriving DecidableEq

abbrev Program := List Item

abbrev Reader (α : Type) := List Token → Option (α × List Token)

-- The tokens of a piece of source. Proofs look at them by evaluation only.
@[irreducible]
def form (text : String) : List Token :=
  match lex .between (text.toList ++ ['\n']) with
  | some (.between, tokens) => tokens
  | _ => []

def expect (text : String) (tokens : List Token) : Option (List Token) :=
  (form text).isPrefixOf? tokens

def keywords : List String :=
  ["as", "async", "await", "break", "const", "continue", "crate", "dyn", "else", "enum", "extern",
    "false", "fn", "for", "if", "impl", "in", "let", "loop", "match", "mod", "move", "mut", "pub",
    "ref", "return", "self", "Self", "static", "struct", "super", "trait", "true", "type", "unsafe",
    "use", "where", "while", "abstract", "become", "box", "do", "final", "macro", "override", "priv",
    "try", "typeof", "unsized", "virtual", "yield", "_"]

def readName : Reader String
  | .word name :: rest => if keywords.contains name then none else some (name, rest)
  | _ => none

def numeral (suffix text : String) : Option Nat :=
  let digits := text.toList.takeWhile Char.isDigit
  if digits ≠ [] ∧ text.toList = digits ++ suffix.toList then some (Nat.ofDigitChars 10 digits 0)
  else none

def readNumber (suffix : String) : Reader Nat
  | .number text :: rest => (numeral suffix text).map fun number => (number, rest)
  | _ => none

def readQuoted : Reader String
  | .quoted text :: rest => some (text, rest)
  | _ => none

def readCall : Reader String := fun tokens => do
  let (name, tokens) ← readName tokens
  let tokens ← expect "(input, rng)" tokens
  return (name, tokens)

def readExpression : Reader RustExpression := fun tokens =>
  (do
    let tokens ← expect "String::new()" tokens
    return (.newString, tokens)) <|>
  (do
    let tokens ← expect "String::from(" tokens
    let (text, tokens) ← readQuoted tokens
    let tokens ← expect ")" tokens
    return (.fromLiteral text, tokens)) <|>
  (do
    let (name, tokens) ← readCall tokens
    return (.call name, tokens))

def readPiece : Reader RustAppend := fun tokens => do
  let tokens ← expect "output.push_str(" tokens
  let (piece, tokens) ←
    (do
      let (text, tokens) ← readQuoted tokens
      return (.literal text, tokens)) <|>
    (do
      let tokens ← expect "&" tokens
      let (name, tokens) ← readCall tokens
      return (.call name, tokens))
  let tokens ← expect ");" tokens
  return (piece, tokens)

def readArm : Reader (Option Nat × RustExpression) := fun tokens => do
  let (number, tokens) ←
    (do
      let tokens ← expect "_" tokens
      return (none, tokens)) <|>
    (do
      let (number, tokens) ← readNumber "" tokens
      return (some number, tokens))
  let tokens ← expect "=>" tokens
  let (expression, tokens) ← readExpression tokens
  let tokens ← expect "," tokens
  return ((number, expression), tokens)

def readMany {α : Type} (read : Reader α) : Nat → Reader (List α)
  | 0, tokens => some ([], tokens)
  | most + 1, tokens =>
      match read tokens with
      | none => some ([], tokens)
      | some (value, rest) => (readMany read most rest).map fun (values, rest) => (value :: values, rest)

def readAccumulate : Reader Block := fun tokens => do
  let tokens ← expect "let mut output = String::new();" tokens
  let (pieces, tokens) ← readMany readPiece tokens.length tokens
  let tokens ← expect "output" tokens
  return (.accumulate pieces, tokens)

def readSelect : Reader Block := fun tokens => do
  let tokens ← expect "match rng.gen_range(0.." tokens
  let (bound, tokens) ← readNumber "usize" tokens
  let tokens ← expect ") \x7b" tokens
  let (arms, tokens) ← readMany readArm tokens.length tokens
  let tokens ← expect "\x7d" tokens
  return (.select bound arms, tokens)

def readBranches : Reader (RustExpression × RustExpression) := fun tokens => do
  let (first, tokens) ← readExpression tokens
  let tokens ← expect "\x7d else \x7b" tokens
  let (second, tokens) ← readExpression tokens
  let tokens ← expect "\x7d" tokens
  return ((first, second), tokens)

def readToss : Reader Block := fun tokens => do
  let tokens ← expect "if rng.gen_bool(0.5) \x7b" tokens
  let ((taken, passed), tokens) ← readBranches tokens
  return (.toss taken passed, tokens)

def readTest : Reader Block := fun tokens => do
  let tokens ← expect "let matched = regex::Regex::new(" tokens
  let (pattern, tokens) ← readQuoted tokens
  let tokens ← expect ").map_or(false, |pattern| pattern.is_match(input));" tokens
  let tokens ← expect "if matched \x7b" tokens
  let ((matched, unmatched), tokens) ← readBranches tokens
  return (.test pattern matched unmatched, tokens)

def readBlock : Reader Block := fun tokens =>
  if tokens.head? = some (.word "let") then readAccumulate tokens <|> readTest tokens
  else if tokens.head? = some (.word "match") then readSelect tokens
  else if tokens.head? = some (.word "if") then readToss tokens
  else (readExpression tokens).map fun (expression, tokens) => (.value expression, tokens)

def readPublic : Reader Bool := fun tokens =>
  match expect "pub" tokens with
  | some tokens => some (true, tokens)
  | none => some (false, tokens)

def readItem : Reader Item := fun tokens => do
  let tokens ← expect "#[allow(non_snake_case, unused_variables)]" tokens
  let (isPublic, tokens) ← readPublic tokens
  let tokens ← expect "fn" tokens
  let (name, tokens) ← readName tokens
  let tokens ← expect "<R: Rng + ?Sized>(input: &str, rng: &mut R) -> String \x7b" tokens
  let (body, tokens) ← readBlock tokens
  let tokens ← expect "\x7d" tokens
  return (⟨isPublic, name, body⟩, tokens)

def Program.read (source : String) : Option Program := do
  let (mode, tokens) ← lex .between source.toList
  let tokens ← expect "use rand::Rng;" tokens
  let (program, tokens) ← readMany readItem tokens.length tokens
  if mode = .between ∧ tokens = [] then some program else none

structure Draw where
  count : Nat
  drawn : Nat
deriving DecidableEq

structure Trace where
  drawn : Nat
  draws : List Draw
deriving DecidableEq

-- A run without result is one that stops with a panic or cannot go on.
abbrev Execution := StateT Trace Option

def drawNumber (feed : Feed) (count : Nat) : Execution Nat := fun trace =>
  if count = 0 then none
  else
    let (index, drawn) := feed.words.index count trace.drawn
    some (index, ⟨drawn, ⟨count, trace.drawn⟩ :: trace.draws⟩)

def drawBool (feed : Feed) : Execution Bool := fun trace =>
  let (taken, drawn) := feed.words.coin trace.drawn
  some (taken, { trace with drawn })

def testInput [Pattern.Engine] (feed : Feed) (pattern : String) : Bool :=
  match Pattern.Engine.read pattern with
  | .ok pattern => Pattern.Engine.isMatch pattern feed.input
  | .error _ => false

section

variable (call : String → Execution String)

def evaluate : RustExpression → Execution String
  | .newString => return ""
  | .fromLiteral text => return text
  | .call name => call name

def evaluatePiece : RustAppend → Execution String
  | .literal text => return text
  | .call name => call name

def appendAll (output : String) : List RustAppend → Execution String
  | [] => return output
  | piece :: rest => do
      let text ← evaluatePiece call piece
      appendAll (output ++ text) rest

def selectArm (index : Nat) : List (Option Nat × RustExpression) → Execution String
  | [] => fun _ => none
  | (number, expression) :: rest =>
      if number = none ∨ number = some index then evaluate call expression
      else selectArm index rest

def runBlock [Pattern.Engine] (feed : Feed) : Block → Execution String
  | .accumulate pieces => appendAll call "" pieces
  | .select bound arms => do
      let index ← drawNumber feed bound
      selectArm call index arms
  | .toss taken passed => do
      if ← drawBool feed then evaluate call taken else evaluate call passed
  | .test pattern matched unmatched =>
      if testInput feed pattern then evaluate call matched else evaluate call unmatched
  | .value expression => evaluate call expression

end

namespace Program

def definitions (program : Program) (name : String) : List Item := program.filter (·.name = name)

-- Calls the function of the name, which has to be defined exactly once, with room for `depth` calls
-- inside one another.
def call [Pattern.Engine] (program : Program) (feed : Feed) : (depth : Nat) → String → Execution String
  | 0, _ => fun _ => none
  | depth + 1, name =>
      match program.definitions name with
      | [item] => runBlock (program.call feed depth) feed item.body
      | _ => fun _ => none

end Program

def calledBy : RustExpression → List String
  | .call name => [name]
  | .newString | .fromLiteral _ => []

def Block.calls : Block → List String
  | .accumulate pieces => pieces.filterMap fun
      | .call name => some name
      | .literal _ => none
  | .select _ arms => arms.flatMap fun arm => calledBy arm.2
  | .toss taken passed => calledBy taken ++ calledBy passed
  | .test _ matched unmatched => calledBy matched ++ calledBy unmatched
  | .value expression => calledBy expression

def Program.calls (program : Program) : List String := program.flatMap fun item => item.body.calls

end TextGrammar.Rust

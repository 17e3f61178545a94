import TextGrammar.Sampling.Run

set_option autoImplicit false

namespace TextGrammar

variable [Pattern.Engine]

abbrev Environment := Bindings Node

abbrev Production := String × Environment

namespace Setting

abbrev Expansion := Name → Environment → Evaluation Production

mutual

-- Definitions take effect when they are reached, so which names are bound depends on the path
-- taken.
def evaluate (setting : Setting) (expand : Expansion) : Node → Environment → Evaluation Production
  | .literal l, environment => return (l.text, environment)
  | .name n, environment => expand n environment
  | .group _ statements _, environment => evaluateAll setting expand "" statements environment
  | .define _ n body, environment => return ("", environment.insert n.text body)
  | .choose _ _ alternatives _, environment =>
      if alternatives.isEmpty then return ("", environment)
      else do
        let index ← setting.choose alternatives.length
        evaluateNth setting expand index alternatives environment
  | .optional _ body, environment => do
      if ← setting.toss then evaluate setting expand body environment
      else return ("", environment)
  | .regex _ pattern matched unmatched, environment => do
      if ← setting.test pattern then evaluate setting expand matched environment
      else evaluate setting expand unmatched environment

def evaluateAll (setting : Setting) (expand : Expansion) (output : String) :
    List Node → Environment → Evaluation Production
  | [], environment => return (output, environment)
  | node :: rest, environment => do
      let (text, environment) ← evaluate setting expand node environment
      evaluateAll setting expand (output ++ text) rest environment

def evaluateNth (setting : Setting) (expand : Expansion) (index : Nat) :
    List Node → Environment → Evaluation Production
  | [], environment => return ("", environment)
  | node :: rest, environment =>
      match index with
      | 0 => evaluate setting expand node environment
      | index + 1 => evaluateNth setting expand index rest environment

end

def resolve (name : Name) (environment : Environment) : Evaluation Node :=
  match environment.get? name.text with
  | none => throw (.unresolved name.text name.span)
  | some body => return body

-- Evaluates what a name is bound to, with room for `room` expansions inside one another. Without
-- room, the name is one that has been expanded too often.
def expand (setting : Setting) : (room : Nat) → Expansion
  | 0, name, environment => do
      let _ ← resolve name environment
      throw (.recursionLimit name.text setting.limit name.span)
  | room + 1, name, environment => do
      let body ← resolve name environment
      setting.expanding name (setting.evaluate (setting.expand room) body environment)

-- Room for every name in use to be expanded as often as the limit allows.
def room (setting : Setting) (statements : List Node) (environment : Environment) : Nat :=
  (Node.usesAll statements ++ Node.usesAll environment.values).length * (setting.limit + 1)

end Setting

def defaultRecursion : Nat := 128

structure Outcome where
  result : Except SamplingError Production
  drawn : Nat
  decisions : List Decision

def Grammar.sample (grammar : Grammar) (setting : Setting) (environment : Environment)
    (drawn : Nat) : Outcome :=
  let room := setting.room grammar.statements environment
  let (result, run) :=
    (setting.evaluateAll (setting.expand room) "" grammar.statements environment).run.run
      (Run.start drawn)
  ⟨result, run.drawn, run.decisions.reverse⟩

end TextGrammar

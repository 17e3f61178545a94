import TextGrammar.Bindings
import TextGrammar.Pattern.Basic
import TextGrammar.Random.Draw
import TextGrammar.Sampling.Decision
import TextGrammar.Sampling.Error
import TextGrammar.Tree.Basic

set_option autoImplicit false

namespace TextGrammar

structure Setting where
  words : Words
  input : String
  limit : Nat

-- `drawn` counts the words used up, `decisions` are kept latest first, and `expanding` counts the
-- expansions of each name that are in progress.
structure Run where
  drawn : Nat
  decisions : List Decision
  expanding : Bindings Nat

abbrev Evaluation := ExceptT SamplingError (StateM Run)

namespace Run

def start (drawn : Nat) : Run := ⟨drawn, [], Bindings.empty⟩

def openCount (run : Run) (name : String) : Nat := (run.expanding.get? name).getD 0

def record (run : Run) (drawn : Nat) (decision : Decision) : Run :=
  { run with drawn, decisions := decision :: run.decisions }

def enter (run : Run) (name : String) : Run :=
  { run with expanding := run.expanding.insert name (run.openCount name + 1) }

def leave (run : Run) (name : String) : Run :=
  { run with expanding := run.expanding.insert name (run.openCount name - 1) }

end Run

namespace Setting

def choose (setting : Setting) (count : Nat) : Evaluation Nat := do
  let run ← get
  let (index, drawn) := setting.words.index count run.drawn
  set (run.record drawn (.choose index count))
  return index

def toss (setting : Setting) : Evaluation Bool := do
  let run ← get
  let (taken, drawn) := setting.words.coin run.drawn
  set (run.record drawn (.optional taken))
  return taken

def test [Pattern.Engine] (setting : Setting) (literal : Literal) : Evaluation Bool :=
  match Pattern.Engine.read literal.text with
  | .error fault => throw (.invalidPattern literal.text fault literal.span)
  | .ok pattern => do
      let matched := Pattern.Engine.isMatch pattern setting.input
      modify fun run => run.record run.drawn (.regex literal.text matched)
      return matched

-- Runs an expansion of a name, unless too many are in progress. Whether it succeeds or fails, the
-- expansion is over afterwards.
def expanding {α : Type} (setting : Setting) (name : Name) (action : Evaluation α) :
    Evaluation α := do
  let run ← get
  if setting.limit < run.openCount name.text then
    throw (.recursionLimit name.text setting.limit name.span)
  else
    set (run.enter name.text)
    ExceptT.mk do
      let result ← action.run
      modify fun run => run.leave name.text
      return result

end Setting

end TextGrammar

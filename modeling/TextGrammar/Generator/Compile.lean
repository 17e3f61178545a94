import TextGrammar.Bindings
import TextGrammar.Generator.Basic
import TextGrammar.Generator.Error
import TextGrammar.Tree.Basic

set_option autoImplicit false

namespace TextGrammar

-- A name means what its last definition above the use meant, whichever branch that definition
-- stands in.
structure Draft where
  procedures : Array NamedProcedure
  meanings : Bindings Fragment

abbrev Compilation := ExceptT CompileError (StateM Draft)

def procedureName (defined : Option String) (index : Nat) : String :=
  match defined with
  | some name => "_" ++ name ++ "_" ++ toString index
  | none => "_" ++ toString index

-- Drops empty constants and joins neighbouring ones.
def joinConstants : List Fragment → List Fragment
  | [] => []
  | .reference index :: rest => .reference index :: joinConstants rest
  | .constant text :: rest =>
      if text = "" then joinConstants rest
      else
        match joinConstants rest with
        | .constant next :: rest => .constant (text ++ next) :: rest
        | rest => .constant text :: rest

namespace Draft

def empty : Draft := ⟨#[], Bindings.empty⟩

def register (defined : Option String) (procedure : Procedure) : Compilation Fragment := do
  let draft ← get
  let index := draft.procedures.size
  set { draft with procedures := draft.procedures.push ⟨procedureName defined index, procedure⟩ }
  return .reference index

def resolve (name : Name) : Compilation Fragment := do
  match (← get).meanings.get? name.text with
  | some meaning => return meaning
  | none => throw (.unresolved name.text name.span)

def bind (name : String) (meaning : Fragment) : Compilation Unit :=
  modify fun draft => { draft with meanings := draft.meanings.insert name meaning }

def readPattern [Pattern.Engine] (literal : Literal) : Compilation Pattern :=
  match Pattern.Engine.read literal.text with
  | .ok pattern => return pattern
  | .error fault => throw (.invalidPattern literal.text fault literal.span)

-- The parts of a group as one fragment; a procedure is made only for two or more.
def joined (parts : List Fragment) : Compilation Fragment :=
  match joinConstants parts with
  | [] => return .empty
  | [part] => return part
  | parts => register none (.concat parts)

section

variable [Pattern.Engine]

mutual

def compile : Node → Compilation Fragment
  | .literal l => return .constant l.text
  | .name n => resolve n
  | .group _ statements _ => do
      let parts ← compileAll statements
      joined parts
  | .define _ n body => do
      match ← compile body with
      | .reference index => do
          let meaning ← register (some n.text) (.forward index)
          bind n.text meaning
      | .constant text => bind n.text (.constant text)
      return .empty
  | .choose _ _ alternatives _ => do
      match ← compileAll alternatives with
      | [] => return .empty
      | fragments => register none (.choose fragments)
  | .optional _ body => do
      let fragment ← compile body
      register none (.optional fragment)
  | .regex _ pattern matched unmatched => do
      let pattern ← readPattern pattern
      let matched ← compile matched
      let unmatched ← compile unmatched
      register none (.regex pattern matched unmatched)

def compileAll : List Node → Compilation (List Fragment)
  | [] => return []
  | node :: rest => do
      let fragment ← compile node
      let fragments ← compileAll rest
      return fragment :: fragments

end

def compileRoot (grammar : Grammar) : Compilation Fragment := do
  let parts ← compileAll grammar.statements
  joined parts

end

end Draft

inductive CompileNotice where
  | started
  | registered (name : String)
  | finished (procedures : Nat) (constant : Bool)
deriving DecidableEq, Repr

def Grammar.compileReporting [Pattern.Engine] (grammar : Grammar) :
    Except CompileError Generator × List CompileNotice :=
  let (result, draft) := (Draft.compileRoot grammar).run.run Draft.empty
  let registered := draft.procedures.toList.map fun named => CompileNotice.registered named.name
  match result with
  | .error error => (.error error, .started :: registered)
  | .ok entry =>
      (.ok ⟨draft.procedures, entry⟩,
        .started :: registered ++ [.finished draft.procedures.size entry.isConstant])

def Grammar.compile [Pattern.Engine] (grammar : Grammar) : Except CompileError Generator :=
  grammar.compileReporting.1

end TextGrammar

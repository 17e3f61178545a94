import TextGrammar.Tree.Basic

set_option autoImplicit false

namespace TextGrammar

structure Definition where
  name : String
  body : Node
deriving DecidableEq

def Node.mentions (node : Node) (name : String) : Bool := node.uses.any (·.text == name)

theorem Node.mentions_iff (node : Node) (name : String) :
    node.mentions name = true ↔ ∃ use ∈ node.uses, use.text = name := by
  simp [mentions]

namespace Node

mutual

-- In the order in which they are complete: what a body defines comes before the definition that
-- the body belongs to.
def definitions : Node → List Definition
  | .literal _ => []
  | .name _ => []
  | .group _ statements _ => definitionsAll statements
  | .define _ n body => body.definitions ++ [⟨n.text, body⟩]
  | .choose _ _ alternatives _ => definitionsAll alternatives
  | .optional _ body => body.definitions
  | .regex _ _ matched unmatched => matched.definitions ++ unmatched.definitions

def definitionsAll : List Node → List Definition
  | [] => []
  | node :: rest => node.definitions ++ definitionsAll rest

end

mutual

def unconditional : Node → Bool
  | .literal _ => true
  | .name _ => true
  | .group _ statements _ => unconditionalAll statements
  | .define _ _ body => body.definitions.isEmpty
  | .choose _ _ alternatives _ => (definitionsAll alternatives).isEmpty
  | .optional _ body => body.definitions.isEmpty
  | .regex _ _ matched unmatched => matched.definitions.isEmpty && unmatched.definitions.isEmpty

def unconditionalAll : List Node → Bool
  | [] => true
  | node :: rest => node.unconditional && unconditionalAll rest

end

end Node

namespace Definition

-- What a body mentions is defined neither by its own definition nor by a later one.
def Settled (definitions : List Definition) : Prop :=
  (∀ definition ∈ definitions, definition.body.mentions definition.name = false) ∧
    definitions.Pairwise fun earlier later => earlier.body.mentions later.name = false

instance (definitions : List Definition) : Decidable (Settled definitions) :=
  inferInstanceAs (Decidable (_ ∧ _))

theorem settled_append (past future : List Definition) (settled : Settled (past ++ future)) :
    Settled past ∧ Settled future ∧
      ∀ earlier ∈ past, ∀ later ∈ future, earlier.body.mentions later.name = false := by
  obtain ⟨own, ordered⟩ := settled
  obtain ⟨before, behind, across⟩ := List.pairwise_append.mp ordered
  exact ⟨⟨fun d member => own d (List.mem_append_left _ member), before⟩,
    ⟨fun d member => own d (List.mem_append_right _ member), behind⟩, across⟩

end Definition

namespace Grammar

def definitions (grammar : Grammar) : List Definition := Node.definitionsAll grammar.statements

def unconditional (grammar : Grammar) : Bool := Node.unconditionalAll grammar.statements

end Grammar

end TextGrammar

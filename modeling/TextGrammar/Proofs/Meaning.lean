import TextGrammar.Bindings
import TextGrammar.Generator.Produce
import TextGrammar.Tree.Basic

set_option autoImplicit false

namespace TextGrammar

abbrev Action := Feed → Producer

namespace Action

def constant (text : String) : Action := fun _ => return text

def sequence : List Action → Action
  | [] => constant ""
  | action :: rest => fun feed => do
      let text ← action feed
      let others ← sequence rest feed
      return text ++ others

def choose (actions : List Action) : Action := fun feed =>
  if actions.isEmpty then return ""
  else do
    let index ← feed.choose actions.length
    actions.getD index (constant "") feed

def optional (action : Action) : Action := fun feed => do
  if ← feed.toss then action feed else return ""

def test [Pattern.Engine] (pattern : Pattern) (matched unmatched : Action) : Action := fun feed =>
  if Pattern.Engine.isMatch pattern feed.input then matched feed else unmatched feed

def run (action : Action) (feed : Feed) (drawn : Nat) : String × Nat := (action feed).run drawn

def behind (output : String) (action : Action) : Action := fun feed => do
  return output ++ (← action feed)

theorem behind_empty (action : Action) : behind "" action = action := by
  funext feed
  simp [behind]

theorem run_constant (text : String) (feed : Feed) (drawn : Nat) :
    (constant text).run feed drawn = (text, drawn) := rfl

theorem run_behind (output : String) (action : Action) (feed : Feed) (drawn : Nat) :
    (behind output action).run feed drawn =
      (output ++ (action.run feed drawn).1, (action.run feed drawn).2) := rfl

theorem run_sequence (action : Action) (rest : List Action) (feed : Feed) (drawn : Nat) :
    (sequence (action :: rest)).run feed drawn =
      ((action.run feed drawn).1 ++ ((sequence rest).run feed (action.run feed drawn).2).1,
        ((sequence rest).run feed (action.run feed drawn).2).2) := rfl

theorem run_choose (actions : List Action) (feed : Feed) (drawn index next : Nat)
    (some : actions ≠ []) (draw : feed.words.index actions.length drawn = (index, next)) :
    (choose actions).run feed drawn = (actions.getD index (constant "")).run feed next := by
  cases actions with
  | nil => exact absurd rfl some
  | cons first rest =>
      change ((first :: rest).getD (feed.words.index (first :: rest).length drawn).1
        (constant "")).run feed (feed.words.index (first :: rest).length drawn).2 = _
      rw [draw]

theorem run_optional (action : Action) (feed : Feed) (drawn next : Nat) (taken : Bool)
    (draw : feed.words.coin drawn = (taken, next)) :
    (optional action).run feed drawn = if taken then action.run feed next else ("", next) := by
  change StateT.run (if (feed.words.coin drawn).1 = true then action feed else return "")
    (feed.words.coin drawn).2 = _
  rw [draw]
  cases taken <;> rfl

theorem run_test [Pattern.Engine] (pattern : Pattern) (accepted refused : Action) (feed : Feed)
    (drawn : Nat) (matched : Bool) (tested : Pattern.Engine.isMatch pattern feed.input = matched) :
    (test pattern accepted refused).run feed drawn =
      if matched then accepted.run feed drawn else refused.run feed drawn := by
  unfold run test
  rw [tested]
  cases matched <;> rfl

end Action

abbrev Scope := Bindings Action

variable [Pattern.Engine]

namespace Node

mutual

-- The table is handed on through alternatives and branches too, in the order of the text. Nothing
-- is meant where a name has no definition before it or a text is no pattern.
def meaning : Node → Scope → Option (Action × Scope)
  | .literal l, scope => some (Action.constant l.text, scope)
  | .name n, scope => do
      let action ← scope.get? n.text
      return (action, scope)
  | .group _ statements _, scope => do
      let (actions, scope) ← meaningAll statements scope
      return (Action.sequence actions, scope)
  | .define _ n body, scope => do
      let (action, scope) ← meaning body scope
      return (Action.constant "", scope.insert n.text action)
  | .choose _ _ alternatives _, scope => do
      let (actions, scope) ← meaningAll alternatives scope
      return (Action.choose actions, scope)
  | .optional _ body, scope => do
      let (action, scope) ← meaning body scope
      return (Action.optional action, scope)
  | .regex _ source matched unmatched, scope => do
      let pattern ← (Pattern.Engine.read source.text).toOption
      let (accepted, scope) ← meaning matched scope
      let (refused, scope) ← meaning unmatched scope
      return (Action.test pattern accepted refused, scope)

def meaningAll : List Node → Scope → Option (List Action × Scope)
  | [], scope => some ([], scope)
  | node :: rest, scope => do
      let (action, scope) ← meaning node scope
      let (actions, scope) ← meaningAll rest scope
      return (action :: actions, scope)

end

section

variable (scope after : Scope) (action : Action)

theorem means_name (name : Name) :
    (Node.name name).meaning scope = some (action, after) ↔
      scope.get? name.text = some action ∧ scope = after := by
  cases found : scope.get? name.text <;> simp [meaning, found]

theorem means_group (opening closing : Span) (statements : List Node) :
    (Node.group opening statements closing).meaning scope = some (action, after) ↔
      ∃ actions, meaningAll statements scope = some (actions, after) ∧
        Action.sequence actions = action := by
  simp [meaning, Option.bind_eq_some_iff]

theorem means_define (op : Span) (name : Name) (body : Node) :
    (Node.define op name body).meaning scope = some (action, after) ↔
      ∃ inner between, body.meaning scope = some (inner, between) ∧
        Action.constant "" = action ∧ between.insert name.text inner = after := by
  simp [meaning, Option.bind_eq_some_iff]

theorem means_choose (op opening closing : Span) (alternatives : List Node) :
    (Node.choose op opening alternatives closing).meaning scope = some (action, after) ↔
      ∃ actions, meaningAll alternatives scope = some (actions, after) ∧
        Action.choose actions = action := by
  simp [meaning, Option.bind_eq_some_iff]

theorem means_optional (op : Span) (body : Node) :
    (Node.optional op body).meaning scope = some (action, after) ↔
      ∃ inner, body.meaning scope = some (inner, after) ∧ Action.optional inner = action := by
  simp [meaning, Option.bind_eq_some_iff]

theorem means_regex (op : Span) (source : Literal) (matched unmatched : Node) :
    (Node.regex op source matched unmatched).meaning scope = some (action, after) ↔
      ∃ pattern accepted between refused, Pattern.Engine.read source.text = .ok pattern ∧
        matched.meaning scope = some (accepted, between) ∧
          unmatched.meaning between = some (refused, after) ∧
            Action.test pattern accepted refused = action := by
  cases read : Pattern.Engine.read source.text <;>
    simp [meaning, read, Option.bind_eq_some_iff, Except.toOption]

theorem means_cons (node : Node) (rest : List Node) (actions : List Action) :
    meaningAll (node :: rest) scope = some (actions, after) ↔
      ∃ first between others, node.meaning scope = some (first, between) ∧
        meaningAll rest between = some (others, after) ∧ first :: others = actions := by
  simp [meaningAll, Option.bind_eq_some_iff]

end

end Node

def Grammar.meaning (grammar : Grammar) : Option Action := do
  let (actions, _) ← Node.meaningAll grammar.statements Bindings.empty
  return Action.sequence actions

end TextGrammar

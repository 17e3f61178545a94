import TextGrammar.Proofs.Definitions
import TextGrammar.Proofs.Meaning

set_option autoImplicit false

namespace TextGrammar

def Binds (table : Scope) (name : String) : Prop := (table.get? name).isSome = true

theorem binds_insert (table : Scope) (name other : String) (action : Action) :
    Binds (table.insert name action) other ↔ name = other ∨ Binds table other := by
  unfold Binds
  rw [Bindings.get?_insert]
  by_cases same : name = other <;> simp [same]

def Grows (scope after : Scope) : Prop :=
  ∀ (name : String) (action : Action), scope.get? name = some action → after.get? name = some action

theorem grows_refl (scope : Scope) : Grows scope scope := fun _ _ found => found

theorem grows_trans (scope between after : Scope) (first : Grows scope between)
    (second : Grows between after) : Grows scope after :=
  fun name action found => second name action (first name action found)

variable [Pattern.Engine]

namespace Node

mutual

def meaningIn (table : Scope) : Node → Option Action
  | .literal l => some (Action.constant l.text)
  | .name n => table.get? n.text
  | .group _ statements _ => (meaningsIn table statements).map Action.sequence
  | .define .. => some (Action.constant "")
  | .choose _ _ alternatives _ => (meaningsIn table alternatives).map Action.choose
  | .optional _ body => (meaningIn table body).map Action.optional
  | .regex _ source matched unmatched => do
      let pattern ← (Pattern.Engine.read source.text).toOption
      let accepted ← meaningIn table matched
      let refused ← meaningIn table unmatched
      return Action.test pattern accepted refused

def meaningsIn (table : Scope) : List Node → Option (List Action)
  | [] => some []
  | node :: rest => do
      let action ← meaningIn table node
      let actions ← meaningsIn table rest
      return action :: actions

end

theorem means_in_regex (table : Scope) (op : Span) (source : Literal) (matched unmatched : Node)
    (action : Action) :
    (Node.regex op source matched unmatched).meaningIn table = some action ↔
      ∃ pattern accepted refused, Pattern.Engine.read source.text = .ok pattern ∧
        matched.meaningIn table = some accepted ∧ unmatched.meaningIn table = some refused ∧
          Action.test pattern accepted refused = action := by
  cases read : Pattern.Engine.read source.text <;>
    simp [meaningIn, read, Option.bind_eq_some_iff, Except.toOption]

theorem means_in_cons (table : Scope) (node : Node) (rest : List Node) (actions : List Action) :
    meaningsIn table (node :: rest) = some actions ↔
      ∃ first others, node.meaningIn table = some first ∧
        meaningsIn table rest = some others ∧ first :: others = actions := by
  simp [meaningsIn, Option.bind_eq_some_iff]

end Node

mutual

theorem meaning_in_congr (node : Node) (table other : Scope)
    (same : ∀ use ∈ node.uses, table.get? use.text = other.get? use.text) :
    node.meaningIn table = node.meaningIn other := by
  cases node with
  | literal l => rfl
  | name n => exact same n (by simp [Node.uses])
  | group opening statements closing =>
      simp only [Node.meaningIn, meanings_in_congr statements table other same]
  | define op n body => rfl
  | choose op opening alternatives closing =>
      simp only [Node.meaningIn, meanings_in_congr alternatives table other same]
  | optional op body => simp only [Node.meaningIn, meaning_in_congr body table other same]
  | regex op source matched unmatched =>
      simp only [Node.meaningIn,
        meaning_in_congr matched table other fun use member =>
          same use (by simp [Node.uses, member]),
        meaning_in_congr unmatched table other fun use member =>
          same use (by simp [Node.uses, member])]

theorem meanings_in_congr (nodes : List Node) (table other : Scope)
    (same : ∀ use ∈ Node.usesAll nodes, table.get? use.text = other.get? use.text) :
    Node.meaningsIn table nodes = Node.meaningsIn other nodes := by
  cases nodes with
  | nil => rfl
  | cons node rest =>
      simp only [Node.meaningsIn,
        meaning_in_congr node table other fun use member =>
          same use (by simp [Node.usesAll, member]),
        meanings_in_congr rest table other fun use member =>
          same use (by simp [Node.usesAll, member])]

end

mutual

theorem meaning_binds (node : Node) (scope after : Scope) (action : Action) (name : String)
    (means : node.meaning scope = some (action, after)) :
    Binds after name ↔ Binds scope name ∨ ∃ body, ⟨name, body⟩ ∈ node.definitions := by
  cases node with
  | literal l =>
      cases means
      simp [Node.definitions]
  | name n =>
      obtain ⟨-, rfl⟩ := (Node.means_name _ _ _ _).mp means
      simp [Node.definitions]
  | group opening statements closing =>
      obtain ⟨actions, inner, -⟩ := (Node.means_group _ _ _ _ _ _).mp means
      exact meaning_all_binds statements scope after actions name inner
  | define op n body =>
      obtain ⟨action, between, inner, -, rfl⟩ := (Node.means_define _ _ _ _ _ _).mp means
      rw [binds_insert, meaning_binds body scope between action name inner]
      simp only [Node.definitions, List.mem_append, List.mem_singleton, Definition.mk.injEq]
      grind
  | choose op opening alternatives closing =>
      obtain ⟨actions, inner, -⟩ := (Node.means_choose _ _ _ _ _ _ _).mp means
      exact meaning_all_binds alternatives scope after actions name inner
  | optional op body =>
      obtain ⟨action, inner, -⟩ := (Node.means_optional _ _ _ _ _).mp means
      exact meaning_binds body scope after action name inner
  | regex op source matched unmatched =>
      obtain ⟨-, accepted, between, refused, -, first, second, -⟩ :=
        (Node.means_regex _ _ _ _ _ _ _).mp means
      rw [meaning_binds unmatched between after refused name second,
        meaning_binds matched scope between accepted name first]
      simp only [Node.definitions, List.mem_append, exists_or, or_assoc]

theorem meaning_all_binds (nodes : List Node) (scope after : Scope) (actions : List Action)
    (name : String) (means : Node.meaningAll nodes scope = some (actions, after)) :
    Binds after name ↔ Binds scope name ∨ ∃ body, ⟨name, body⟩ ∈ Node.definitionsAll nodes := by
  cases nodes with
  | nil =>
      cases means
      simp [Node.definitionsAll]
  | cons node rest =>
      obtain ⟨first, between, others, head, tail, -⟩ := (Node.means_cons _ _ _ _ _).mp means
      rw [meaning_all_binds rest between after others name tail,
        meaning_binds node scope between first name head]
      simp only [Node.definitionsAll, List.mem_append, exists_or, or_assoc]

end

theorem meaning_keeps (node : Node) (scope after : Scope) (action : Action) (name : String)
    (means : node.meaning scope = some (action, after)) (bound : Binds scope name) :
    Binds after name :=
  (meaning_binds node scope after action name means).mpr (.inl bound)

theorem meaning_all_keeps (nodes : List Node) (scope after : Scope) (actions : List Action)
    (name : String) (means : Node.meaningAll nodes scope = some (actions, after))
    (bound : Binds scope name) : Binds after name :=
  (meaning_all_binds nodes scope after actions name means).mpr (.inl bound)

mutual

theorem meaning_uses (node : Node) (scope after : Scope) (action : Action)
    (means : node.meaning scope = some (action, after)) :
    ∀ use ∈ node.uses, Binds after use.text := by
  cases node with
  | literal l => simp [Node.uses]
  | name n =>
      obtain ⟨bound, rfl⟩ := (Node.means_name _ _ _ _).mp means
      simp [Node.uses, Binds, bound]
  | group opening statements closing =>
      obtain ⟨actions, inner, -⟩ := (Node.means_group _ _ _ _ _ _).mp means
      exact meaning_all_uses statements scope after actions inner
  | define op n body =>
      obtain ⟨action, between, inner, -, rfl⟩ := (Node.means_define _ _ _ _ _ _).mp means
      intro use member
      exact (binds_insert _ _ _ _).mpr (.inr (meaning_uses body scope between action inner use member))
  | choose op opening alternatives closing =>
      obtain ⟨actions, inner, -⟩ := (Node.means_choose _ _ _ _ _ _ _).mp means
      exact meaning_all_uses alternatives scope after actions inner
  | optional op body =>
      obtain ⟨action, inner, -⟩ := (Node.means_optional _ _ _ _ _).mp means
      exact meaning_uses body scope after action inner
  | regex op source matched unmatched =>
      obtain ⟨-, accepted, between, refused, -, first, second, -⟩ :=
        (Node.means_regex _ _ _ _ _ _ _).mp means
      intro use member
      rcases List.mem_append.mp member with early | late
      · exact meaning_keeps unmatched between after refused use.text second
          (meaning_uses matched scope between accepted first use early)
      · exact meaning_uses unmatched between after refused second use late

theorem meaning_all_uses (nodes : List Node) (scope after : Scope) (actions : List Action)
    (means : Node.meaningAll nodes scope = some (actions, after)) :
    ∀ use ∈ Node.usesAll nodes, Binds after use.text := by
  cases nodes with
  | nil => simp [Node.usesAll]
  | cons node rest =>
      obtain ⟨first, between, others, head, tail, -⟩ := (Node.means_cons _ _ _ _ _).mp means
      intro use member
      rcases List.mem_append.mp member with early | late
      · exact meaning_all_keeps rest between after others use.text tail
          (meaning_uses node scope between first head use early)
      · exact meaning_all_uses rest between after others tail use late

end

mutual

theorem meaning_plain (node : Node) (scope after : Scope) (action : Action)
    (means : node.meaning scope = some (action, after)) (plain : node.definitions = []) :
    after = scope := by
  cases node with
  | literal l => cases means; rfl
  | name n =>
      obtain ⟨-, rfl⟩ := (Node.means_name _ _ _ _).mp means
      rfl
  | group opening statements closing =>
      obtain ⟨actions, inner, -⟩ := (Node.means_group _ _ _ _ _ _).mp means
      exact meaning_all_plain statements scope after actions inner plain
  | define op n body => simp [Node.definitions] at plain
  | choose op opening alternatives closing =>
      obtain ⟨actions, inner, -⟩ := (Node.means_choose _ _ _ _ _ _ _).mp means
      exact meaning_all_plain alternatives scope after actions inner plain
  | optional op body =>
      obtain ⟨action, inner, -⟩ := (Node.means_optional _ _ _ _ _).mp means
      exact meaning_plain body scope after action inner plain
  | regex op source matched unmatched =>
      obtain ⟨-, accepted, between, refused, -, first, second, -⟩ :=
        (Node.means_regex _ _ _ _ _ _ _).mp means
      obtain ⟨left, right⟩ := List.append_eq_nil_iff.mp plain
      rw [meaning_plain unmatched between after refused second right,
        meaning_plain matched scope between accepted first left]

theorem meaning_all_plain (nodes : List Node) (scope after : Scope) (actions : List Action)
    (means : Node.meaningAll nodes scope = some (actions, after))
    (plain : Node.definitionsAll nodes = []) : after = scope := by
  cases nodes with
  | nil => cases means; rfl
  | cons node rest =>
      obtain ⟨first, between, others, head, tail, -⟩ := (Node.means_cons _ _ _ _ _).mp means
      obtain ⟨left, right⟩ := List.append_eq_nil_iff.mp plain
      rw [meaning_all_plain rest between after others tail right,
        meaning_plain node scope between first head left]

end

end TextGrammar

import TextGrammar.Generator.Compile

set_option autoImplicit false

namespace TextGrammar

namespace Compilation

variable {α β : Type}

def outcome (compilation : Compilation α) (draft : Draft) : Except CompileError α × Draft :=
  compilation.run.run draft

def Yields (compilation : Compilation α) (draft : Draft) (result : α) (next : Draft) : Prop :=
  compilation.outcome draft = (.ok result, next)

theorem yields_pure (value result : α) (draft next : Draft) :
    Yields (pure value) draft result next ↔ result = value ∧ next = draft := by
  constructor
  · intro yields
    cases yields
    exact ⟨rfl, rfl⟩
  · rintro ⟨rfl, rfl⟩
    rfl

theorem yields_get (draft next result : Draft) :
    Yields get draft result next ↔ result = draft ∧ next = draft := by
  constructor
  · intro yields
    cases yields
    exact ⟨rfl, rfl⟩
  · rintro ⟨rfl, rfl⟩
    rfl

theorem outcome_bind (first : Compilation α) (rest : α → Compilation β) (draft : Draft) :
    (first >>= rest).outcome draft =
      match first.outcome draft with
      | (.ok value, between) => (rest value).outcome between
      | (.error error, between) => (.error error, between) := by
  simp only [outcome, ExceptT.run_bind, StateT.run_bind]
  rcases first.run.run draft with ⟨_ | value, between⟩ <;> rfl

theorem yields_bind (first : Compilation α) (rest : α → Compilation β) (draft next : Draft)
    (result : β) :
    Yields (first >>= rest) draft result next ↔
      ∃ value between, Yields first draft value between ∧
        Yields (rest value) between result next := by
  simp only [Yields, outcome_bind]
  rcases first.outcome draft with ⟨error | value, between⟩
  · simp
  · constructor
    · intro yields
      exact ⟨value, between, rfl, yields⟩
    · rintro ⟨_, _, same, yields⟩
      cases same
      exact yields

theorem yields_throw (error : CompileError) (draft next : Draft) (result : α) :
    ¬ Yields (throw error) draft result next := by
  intro yields
  cases yields

end Compilation

namespace Draft

open Compilation

def push (draft : Draft) (defined : Option String) (procedure : Procedure) : Draft :=
  { draft with
    procedures := draft.procedures.push
      ⟨procedureName defined draft.procedures.size, procedure⟩ }

theorem yields_register (defined : Option String) (procedure : Procedure) (draft next : Draft)
    (fragment : Fragment) :
    Yields (register defined procedure) draft fragment next ↔
      fragment = .reference draft.procedures.size ∧ next = draft.push defined procedure := by
  constructor
  · intro yields
    cases yields
    exact ⟨rfl, rfl⟩
  · rintro ⟨rfl, rfl⟩
    rfl

theorem yields_resolve (name : Name) (draft next : Draft) (fragment : Fragment) :
    Yields (resolve name) draft fragment next ↔
      draft.meanings.get? name.text = some fragment ∧ next = draft := by
  simp only [resolve, yields_bind, yields_get, and_assoc, exists_and_left, exists_eq_left]
  cases draft.meanings.get? name.text with
  | none => simp [yields_throw]
  | some meaning => simp [yields_pure, eq_comm]

theorem yields_bind_name (name : String) (meaning : Fragment) (draft next : Draft) (result : Unit) :
    Yields (bind name meaning) draft result next ↔
      next = { draft with meanings := draft.meanings.insert name meaning } := by
  constructor
  · intro yields
    cases yields
    rfl
  · rintro rfl
    rfl

theorem yields_read_pattern [Pattern.Engine] (literal : Literal) (draft next : Draft)
    (pattern : Pattern) :
    Yields (readPattern literal) draft pattern next ↔
      Pattern.Engine.read literal.text = .ok pattern ∧ next = draft := by
  unfold readPattern
  cases Pattern.Engine.read literal.text with
  | error fault => simp [yields_throw]
  | ok found => simp [yields_pure, eq_comm]

-- The draft behind a definition. Only a meaning that is no constant text takes a procedure.
def define (draft : Draft) (name : String) (meaning : Fragment) : Draft :=
  match meaning with
  | .constant text => { draft with meanings := draft.meanings.insert name (.constant text) }
  | .reference index =>
      { draft.push (some name) (.forward index) with
        meanings := draft.meanings.insert name (.reference draft.procedures.size) }

theorem yields_joined (parts : List Fragment) (draft next : Draft) (fragment : Fragment) :
    Yields (joined parts) draft fragment next ↔
      match joinConstants parts with
      | [] => fragment = .empty ∧ next = draft
      | [part] => fragment = part ∧ next = draft
      | several =>
          fragment = .reference draft.procedures.size ∧ next = draft.push none (.concat several) := by
  unfold joined
  match joinConstants parts with
  | [] => exact yields_pure _ _ _ _
  | [part] => exact yields_pure _ _ _ _
  | first :: second :: rest => exact yields_register _ _ _ _ _

section

variable [Pattern.Engine]

theorem yields_literal (literal : Literal) (draft next : Draft) (fragment : Fragment) :
    Yields (compile (.literal literal)) draft fragment next ↔
      fragment = .constant literal.text ∧ next = draft := by
  rw [compile]
  exact yields_pure _ _ _ _

theorem yields_name (name : Name) (draft next : Draft) (fragment : Fragment) :
    Yields (compile (.name name)) draft fragment next ↔
      draft.meanings.get? name.text = some fragment ∧ next = draft := by
  rw [compile]
  exact yields_resolve name draft next fragment

theorem yields_group (opening closing : Span) (statements : List Node) (draft next : Draft)
    (fragment : Fragment) :
    Yields (compile (.group opening statements closing)) draft fragment next ↔
      ∃ parts between, Yields (compileAll statements) draft parts between ∧
        Yields (joined parts) between fragment next := by
  rw [compile, yields_bind]

theorem yields_define (op : Span) (name : Name) (body : Node) (draft next : Draft)
    (fragment : Fragment) :
    Yields (compile (.define op name body)) draft fragment next ↔
      ∃ meaning between, Yields (compile body) draft meaning between ∧
        fragment = .empty ∧ next = between.define name.text meaning := by
  rw [compile, yields_bind]
  refine exists_congr fun meaning => exists_congr fun between => and_congr_right fun _ => ?_
  cases meaning with
  | constant text =>
      simp only [yields_bind, yields_bind_name, yields_pure, define, exists_const, exists_eq_left]
  | reference index =>
      simp only [yields_bind, yields_register, yields_bind_name, yields_pure, define, push,
        and_assoc, exists_and_left, exists_const, exists_eq_left]

theorem yields_choose (op opening closing : Span) (alternatives : List Node) (draft next : Draft)
    (fragment : Fragment) :
    Yields (compile (.choose op opening alternatives closing)) draft fragment next ↔
      ∃ fragments between, Yields (compileAll alternatives) draft fragments between ∧
        if fragments = [] then fragment = .empty ∧ next = between
        else
          fragment = .reference between.procedures.size ∧
            next = between.push none (.choose fragments) := by
  rw [compile, yields_bind]
  refine exists_congr fun fragments => exists_congr fun between => and_congr_right fun _ => ?_
  cases fragments with
  | nil => simp [yields_pure]
  | cons first rest => simp [yields_register]

theorem yields_optional (op : Span) (body : Node) (draft next : Draft) (fragment : Fragment) :
    Yields (compile (.optional op body)) draft fragment next ↔
      ∃ inner between, Yields (compile body) draft inner between ∧
        fragment = .reference between.procedures.size ∧
          next = between.push none (.optional inner) := by
  simp only [compile, yields_bind, yields_register]

theorem yields_regex (op : Span) (source : Literal) (matched unmatched : Node) (draft next : Draft)
    (fragment : Fragment) :
    Yields (compile (.regex op source matched unmatched)) draft fragment next ↔
      ∃ pattern, Pattern.Engine.read source.text = .ok pattern ∧
        ∃ accepted between, Yields (compile matched) draft accepted between ∧
          ∃ refused last, Yields (compile unmatched) between refused last ∧
            fragment = .reference last.procedures.size ∧
              next = last.push none (.regex pattern accepted refused) := by
  simp only [compile, yields_bind, yields_register, yields_read_pattern]
  constructor
  · rintro ⟨pattern, _, ⟨read, rfl⟩, steps⟩
    exact ⟨pattern, read, steps⟩
  · rintro ⟨pattern, read, steps⟩
    exact ⟨pattern, draft, ⟨read, rfl⟩, steps⟩

theorem yields_nil (draft next : Draft) (fragments : List Fragment) :
    Yields (compileAll []) draft fragments next ↔ fragments = [] ∧ next = draft := by
  rw [compileAll]
  exact yields_pure _ _ _ _

theorem yields_cons (node : Node) (rest : List Node) (draft next : Draft)
    (fragments : List Fragment) :
    Yields (compileAll (node :: rest)) draft fragments next ↔
      ∃ first between, Yields (compile node) draft first between ∧
        ∃ others, Yields (compileAll rest) between others next ∧ fragments = first :: others := by
  simp only [compileAll, yields_bind, yields_pure]
  constructor
  · rintro ⟨first, between, head, others, _, tail, rfl, rfl⟩
    exact ⟨first, between, head, others, tail, rfl⟩
  · rintro ⟨first, between, head, others, tail, rfl⟩
    exact ⟨first, between, head, others, next, tail, rfl, rfl⟩

end

end Draft

section

variable [Pattern.Engine]

theorem Grammar.compile_ok (grammar : Grammar) (generator : Generator)
    (compiled : grammar.compile = .ok generator) :
    ∃ parts between draft, (Draft.compileAll grammar.statements).Yields Draft.empty parts between ∧
      (Draft.joined parts).Yields between generator.entry draft ∧
        generator.procedures = draft.procedures := by
  unfold Grammar.compile Grammar.compileReporting at compiled
  generalize ran : (Draft.compileRoot grammar).run.run Draft.empty = ended at compiled
  obtain ⟨result, draft⟩ := ended
  cases result with
  | error error => cases compiled
  | ok entry =>
      cases compiled
      have root : (Draft.compileRoot grammar).Yields Draft.empty entry draft := ran
      obtain ⟨parts, between, all, joined⟩ := (Compilation.yields_bind _ _ _ _ _).mp root
      exact ⟨parts, between, draft, all, joined, rfl⟩

end

end TextGrammar

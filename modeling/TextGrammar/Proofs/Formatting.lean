import TextGrammar.Proofs.Canonical
import TextGrammar.Proofs.Checking
import TextGrammar.Proofs.RecursionLimit

set_option autoImplicit false

namespace TextGrammar

def CompileError.bare : CompileError → CompileError
  | unresolved name _ => unresolved name Span.nowhere
  | invalidPattern pattern fault _ => invalidPattern pattern fault Span.nowhere

def SamplingError.bare : SamplingError → SamplingError
  | unresolved name _ => unresolved name Span.nowhere
  | invalidPattern pattern fault _ => invalidPattern pattern fault Span.nowhere
  | recursionLimit name limit _ => recursionLimit name limit Span.nowhere

namespace Node

theorem bare_all_map (nodes : List Node) : bareAll nodes = nodes.map bare := by
  induction nodes with
  | nil => rfl
  | cons node rest ih => rw [bareAll, ih, List.map_cons]

theorem bare_all_get (nodes : List Node) (index : Nat) :
    (bareAll nodes)[index]? = (nodes[index]?).map bare := by
  rw [bare_all_map, List.getElem?_map]

theorem bare_all_length (nodes : List Node) : (bareAll nodes).length = nodes.length := by
  rw [bare_all_map, List.length_map]

end Node

namespace Compilation

variable {α β : Type}

def bare (compilation : Compilation α) : Compilation α := ExceptT.adapt CompileError.bare compilation

theorem outcome_ext (one other : Compilation α)
    (same : ∀ draft, one.outcome draft = other.outcome draft) : one = other := funext same

theorem outcome_bare (compilation : Compilation α) (draft : Draft) :
    compilation.bare.outcome draft =
      ((compilation.outcome draft).1.mapError CompileError.bare, (compilation.outcome draft).2) := rfl

theorem bare_bind (first : Compilation α) (rest : α → Compilation β) :
    bare (first >>= rest) = bare first >>= fun value => bare (rest value) := by
  refine outcome_ext _ _ fun draft => ?_
  rw [outcome_bare, outcome_bind, outcome_bind, outcome_bare]
  rcases first.outcome draft with ⟨error | value, between⟩
  · rfl
  · rfl

theorem bare_pure (value : α) : bare (pure value) = pure value := rfl

end Compilation

namespace Draft

open Compilation

theorem register_bare (defined : Option String) (procedure : Procedure) :
    (register defined procedure).bare = register defined procedure := rfl

theorem joined_bare (parts : List Fragment) : (joined parts).bare = joined parts := by
  unfold joined
  match joinConstants parts with
  | [] => rfl
  | [part] => rfl
  | first :: second :: rest => rfl

theorem resolve_bare (name : Name) : (resolve name).bare = resolve ⟨name.text, Span.nowhere⟩ := by
  refine outcome_ext _ _ fun draft => ?_
  rw [outcome_bare, outcome_resolve, outcome_resolve]
  dsimp only
  cases draft.meanings.get? name.text <;> rfl

section

variable [Pattern.Engine]

theorem read_pattern_bare (source : Literal) :
    (readPattern source).bare = readPattern ⟨source.text, source.quote, Span.nowhere⟩ := by
  unfold readPattern
  dsimp only
  cases Pattern.Engine.read source.text <;> rfl

mutual

theorem compile_bare (node : Node) : compile node.bare = (compile node).bare := by
  cases node with
  | literal l => rw [Node.bare, compile, compile, bare_pure]
  | name n => rw [Node.bare, compile, compile, resolve_bare]
  | group opening statements closing =>
      simp only [Node.bare, compile, bare_bind, compile_all_bare, joined_bare]
  | define op n body =>
      rw [Node.bare, compile, compile, bare_bind, compile_bare]
      congr 1
      funext meaning
      cases meaning with
      | constant text => rfl
      | reference index => rfl
  | choose op opening alternatives closing =>
      rw [Node.bare, compile, compile, bare_bind, compile_all_bare]
      congr 1
      funext fragments
      cases fragments with
      | nil => rfl
      | cons first rest => rfl
  | optional op body =>
      simp only [Node.bare, compile, bare_bind, compile_bare, register_bare]
  | regex op source matched unmatched =>
      simp only [Node.bare, compile, bare_bind, compile_bare, register_bare, read_pattern_bare]

theorem compile_all_bare (nodes : List Node) :
    compileAll (Node.bareAll nodes) = (compileAll nodes).bare := by
  cases nodes with
  | nil => rw [Node.bareAll, compileAll, bare_pure]
  | cons node rest =>
      simp only [Node.bareAll, compileAll, bare_bind, compile_bare, compile_all_bare, bare_pure]

end

theorem compile_root_bare (grammar : Grammar) :
    compileRoot grammar.bare = (compileRoot grammar).bare := by
  simp only [compileRoot, Grammar.bare, compile_all_bare, bare_bind, joined_bare]

end

end Draft

namespace Environment

def bare (environment : Environment) : Environment where
  entries := environment.entries.map fun entry => (entry.1, entry.2.bare)
  distinct := List.pairwise_map.mpr environment.distinct

theorem get_bare (environment : Environment) (name : String) :
    environment.bare.get? name = (environment.get? name).map Node.bare :=
  Bindings.get?_map Node.bare environment name

theorem insert_bare (environment : Environment) (name : String) (body : Node) :
    bare (environment.insert name body) = environment.bare.insert name body.bare :=
  Bindings.map_insert Node.bare environment name body

end Environment

def Task.bare : Task → Task
  | .one node => .one node.bare
  | .all output nodes => .all output (Node.bareAll nodes)

def Result.bare : Result → Result
  | .ok (text, after) => .ok (text, Environment.bare after)
  | .error error => .error error.bare

def Outcome.bare (outcome : Outcome) : Outcome :=
  { outcome with result := Result.bare outcome.result }

section

variable [Pattern.Engine]

-- By induction on the evaluation. The run is the same on both sides: the counters go by the texts of
-- names, and the decisions hold no places.
theorem evaluates_bare (setting : Setting) (task : Task) (environment : Environment)
    (run last : Run) (result : Result)
    (evaluates : Evaluates setting task environment run result last) :
    Evaluates setting task.bare environment.bare run (Result.bare result) last := by
  induction evaluates with
  | literal l environment run => exact .literal ⟨l.text, l.quote, Span.nowhere⟩ environment.bare run
  | unresolved n environment run missing =>
      refine .unresolved ⟨n.text, Span.nowhere⟩ environment.bare run ?_
      rw [Environment.get_bare, missing, Option.map_none]
  | limited n environment run body bound full =>
      refine .limited ⟨n.text, Span.nowhere⟩ environment.bare run body.bare ?_ full
      rw [Environment.get_bare, bound, Option.map_some]
  | expanded n environment run last body result bound free _ ih =>
      refine .expanded ⟨n.text, Span.nowhere⟩ environment.bare run last body.bare _ ?_ free ih
      rw [Environment.get_bare, bound, Option.map_some]
  | group _ _ _ _ _ _ _ _ ih => exact .group _ _ _ _ _ _ _ ih
  | define op n body environment run =>
      rw [Result.bare, Environment.insert_bare]
      exact .define Span.nowhere ⟨n.text, Span.nowhere⟩ body.bare environment.bare run
  | chooseNone _ _ _ environment run => exact .chooseNone _ _ _ environment.bare run
  | choose op opening closing alternatives environment run last result index drawn chosen some draw
      found _ ih =>
      have length := Node.bare_all_length alternatives
      rw [← length] at draw ih
      refine .choose _ _ _ _ _ run last _ index drawn chosen.bare ?_ draw ?_ ih
      · rwa [Node.bare_all_map, Ne, List.map_eq_nil_iff]
      · rw [Node.bare_all_get, found, Option.map_some]
  | chooseBeyond op opening closing alternatives environment run index drawn some draw beyond =>
      have length := Node.bare_all_length alternatives
      rw [← length] at draw ⊢
      refine .chooseBeyond _ _ _ _ _ run index drawn ?_ draw ?_
      · rwa [Node.bare_all_map, Ne, List.map_eq_nil_iff]
      · rw [Node.bare_all_get, beyond, Option.map_none]
  | taken _ _ _ run last _ drawn draw _ ih => exact .taken _ _ _ run last _ drawn draw ih
  | passed _ _ _ run drawn draw => exact .passed _ _ _ run drawn draw
  | invalid _ source _ _ _ run fault read =>
      exact .invalid _ ⟨source.text, source.quote, Span.nowhere⟩ _ _ _ run fault read
  | matched _ source _ _ _ run last _ pattern read accepts _ ih =>
      exact .matched _ ⟨source.text, source.quote, Span.nowhere⟩ _ _ _ run last _ pattern read accepts
        ih
  | unmatched _ source _ _ _ run last _ pattern read refuses _ ih =>
      exact .unmatched _ ⟨source.text, source.quote, Span.nowhere⟩ _ _ _ run last _ pattern read
        refuses ih
  | nil output environment run => exact .nil output environment.bare run
  | failed output _ _ _ run last error _ ih => exact .failed output _ _ _ run last error.bare ih
  | cons output text _ _ _ between run middle last _ _ _ head tail =>
      exact .cons output text _ _ _ (Environment.bare between) run middle last _ head tail

namespace Grammar

theorem sample_bare (grammar : Grammar) (setting : Setting) (environment : Environment)
    (drawn : Nat) :
    grammar.bare.sample setting environment.bare drawn =
      (grammar.sample setting environment drawn).bare := by
  obtain ⟨result, last, evaluates, same⟩ := sample_outcome grammar setting environment drawn
  rw [same]
  exact evaluates_sample grammar.bare setting environment.bare drawn (Result.bare result) last
    (evaluates_bare setting _ environment _ last result evaluates)

theorem compile_reporting_bare (grammar : Grammar) :
    grammar.bare.compileReporting =
      (grammar.compileReporting.1.mapError CompileError.bare, grammar.compileReporting.2) := by
  have ran : (Draft.compileRoot grammar.bare).run.run Draft.empty =
      (((Draft.compileRoot grammar).run.run Draft.empty).1.mapError CompileError.bare,
        ((Draft.compileRoot grammar).run.run Draft.empty).2) := by
    rw [Draft.compile_root_bare]
    rfl
  unfold compileReporting
  rw [ran]
  rcases (Draft.compileRoot grammar).run.run Draft.empty with ⟨error | entry, draft⟩ <;> rfl

omit [Pattern.Engine] in
theorem print_read_bare (limit limit' : Nat) (source : String) (grammar again : Grammar)
    (read : Grammar.readWithin limit source = .ok grammar)
    (readAgain : Grammar.readWithin limit' grammar.print = .ok again) : again.bare = grammar.bare := by
  obtain ⟨text, stands⟩ := found_stands limit' grammar.print again readAgain
  have wellFormed := read_well_formed limit source grammar read
  exact (stands_unique _ _ _ _ _ stands (print_stands grammar wellFormed.1)).1

-- The tree that the canonical text is read as compiles to the same generator, or fails for the same
-- reason elsewhere, and its runs end the same way after the same decisions. The statements that names
-- are bound to may differ in places too.
theorem canonical_text_behaves (limit : Nat) (source : String) (grammar : Grammar)
    (read : Grammar.readWithin limit source = .ok grammar) :
    (∃ again, Grammar.readWithin limit grammar.print = .ok again) ∧
    ∀ (limit' : Nat) (again : Grammar), Grammar.readWithin limit' grammar.print = .ok again →
      again.compile.mapError CompileError.bare = grammar.compile.mapError CompileError.bare ∧
      again.compileReporting.2 = grammar.compileReporting.2 ∧
      ∀ (setting : Setting) (environment environment' : Environment) (drawn : Nat),
        environment'.bare = environment.bare →
          (again.sample setting environment' drawn).bare =
            (grammar.sample setting environment drawn).bare := by
  have wellFormed := read_well_formed limit source grammar read
  obtain ⟨found, readFound, -⟩ := print_reads limit grammar wellFormed
  refine ⟨⟨found, readFound⟩, fun limit' again readAgain => ?_⟩
  have same := print_read_bare limit limit' source grammar again read readAgain
  have compiled : (again.compileReporting.1.mapError CompileError.bare, again.compileReporting.2) =
      (grammar.compileReporting.1.mapError CompileError.bare, grammar.compileReporting.2) := by
    rw [← compile_reporting_bare, same, compile_reporting_bare]
  obtain ⟨results, reports⟩ := Prod.mk.inj compiled
  refine ⟨results, reports, fun setting environment environment' drawn alike => ?_⟩
  rw [← sample_bare, ← sample_bare, same, alike]

end Grammar

end

namespace Grammar

def spacious : Grammar :=
  ⟨⟨1, 1⟩,
    [.define ⟨2, 1⟩ ⟨"a", ⟨4, 1⟩⟩ (.literal ⟨"x", '\'', ⟨7, 3⟩⟩),
      .optional ⟨11, 1⟩ (.name ⟨"b", ⟨12, 1⟩⟩)],
    ⟨13, 1⟩⟩

def compact : Grammar :=
  ⟨⟨0, 1⟩,
    [.define ⟨1, 1⟩ ⟨"a", ⟨3, 1⟩⟩ (.literal ⟨"x", '\'', ⟨5, 3⟩⟩),
      .optional ⟨9, 1⟩ (.name ⟨"b", ⟨10, 1⟩⟩)],
    ⟨11, 1⟩⟩

theorem canonical_text_behaves_compact :
    Grammar.readWithin 2 " (= a  'x'\n?b)" = .ok spacious ∧
      Grammar.readWithin 3 spacious.print = .ok compact ∧
      spacious.compile = .error (.unresolved "b" ⟨12, 1⟩) ∧
      compact.compile = .error (.unresolved "b" ⟨10, 1⟩) ∧
      compact.compile.mapError CompileError.bare = spacious.compile.mapError CompileError.bare ∧
      ∀ (setting : Setting) (drawn : Nat),
        (compact.sample setting Bindings.empty drawn).bare =
          (spacious.sample setting Bindings.empty drawn).bare := by
  have read : Grammar.readWithin 2 " (= a  'x'\n?b)" = .ok spacious := by rfl
  have again : Grammar.readWithin 3 spacious.print = .ok compact := by rfl
  obtain ⟨-, behaves⟩ := canonical_text_behaves 2 _ spacious read
  obtain ⟨compiles, -, samples⟩ := behaves 3 compact again
  exact ⟨read, again, rfl, rfl, compiles, fun setting drawn => samples setting _ _ drawn rfl⟩

end Grammar

end TextGrammar

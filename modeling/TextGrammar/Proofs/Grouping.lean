import TextGrammar.Proofs.Checking
import TextGrammar.Proofs.Realisation
import TextGrammar.Proofs.Sequencing
import TextGrammar.Proofs.Tiling

set_option autoImplicit false

namespace TextGrammar

namespace Node

-- A group that is an element of another group, here or further inside, has given way to its statements.
inductive Spliced : Node → Node → Prop where
  | here (opening closing opening' closing' : Span) (front inner back : List Node) :
      Spliced (.group opening (front ++ .group opening' inner closing' :: back) closing)
        (.group opening (front ++ (inner ++ back)) closing)
  | group (opening closing : Span) (front back : List Node) (part spliced : Node)
      (inside : Spliced part spliced) :
      Spliced (.group opening (front ++ part :: back) closing)
        (.group opening (front ++ spliced :: back) closing)
  | define (op : Span) (n : Name) (body spliced : Node) (inside : Spliced body spliced) :
      Spliced (.define op n body) (.define op n spliced)
  | choose (op opening closing : Span) (front back : List Node) (part spliced : Node)
      (inside : Spliced part spliced) :
      Spliced (.choose op opening (front ++ part :: back) closing)
        (.choose op opening (front ++ spliced :: back) closing)
  | optional (op : Span) (body spliced : Node) (inside : Spliced body spliced) :
      Spliced (.optional op body) (.optional op spliced)
  | matched (op : Span) (source : Literal) (matched unmatched spliced : Node)
      (inside : Spliced matched spliced) :
      Spliced (.regex op source matched unmatched) (.regex op source spliced unmatched)
  | unmatched (op : Span) (source : Literal) (matched unmatched spliced : Node)
      (inside : Spliced unmatched spliced) :
      Spliced (.regex op source matched unmatched) (.regex op source matched spliced)

def opened : Node → List Node
  | .group _ statements _ => statements
  | node => [node]

mutual

def flat : Node → Node
  | .literal l => .literal l
  | .name n => .name n
  | .group opening statements closing => .group opening (flatAll statements) closing
  | .define op n body => .define op n body.flat
  | .choose op opening alternatives closing => .choose op opening (flatEach alternatives) closing
  | .optional op body => .optional op body.flat
  | .regex op source matched unmatched => .regex op source matched.flat unmatched.flat

def flatAll : List Node → List Node
  | [] => []
  | node :: rest => node.flat.opened ++ flatAll rest

def flatEach : List Node → List Node
  | [] => []
  | node :: rest => node.flat :: flatEach rest

end

theorem opened_cases (node : Node) :
    (∃ opening closing, node = .group opening node.opened closing) ∨ node.opened = [node] := by
  cases node with
  | group opening statements closing => exact .inl ⟨opening, closing, rfl⟩
  | literal | name | define | choose | optional | regex => exact .inr rfl

theorem flat_each_map (nodes : List Node) : flatEach nodes = nodes.map flat := by
  induction nodes with
  | nil => rfl
  | cons node rest ih => rw [flatEach, ih, List.map_cons]

theorem flat_all_append (first second : List Node) :
    flatAll (first ++ second) = flatAll first ++ flatAll second := by
  induction first with
  | nil => rfl
  | cons node rest ih => rw [List.cons_append, flatAll, ih, flatAll, List.append_assoc]

theorem spliced_flat (node spliced : Node) (splices : node.Spliced spliced) :
    spliced.flat = node.flat := by
  induction splices with
  | here opening closing opening' closing' front inner back =>
      rw [flat, flat, flat_all_append, flat_all_append, flat_all_append, flatAll, flat, opened]
  | group opening closing front back part other _ ih =>
      rw [flat, flat, flat_all_append, flat_all_append, flatAll, flatAll, ih]
  | define op n body other _ ih => rw [flat, flat, ih]
  | choose op opening closing front back part other _ ih =>
      simp only [flat, flat_each_map, List.map_append, List.map_cons, ih]
  | optional op body other _ ih => rw [flat, flat, ih]
  | matched op source matched unmatched other _ ih => rw [flat, flat, ih]
  | unmatched op source matched unmatched other _ ih => rw [flat, flat, ih]

theorem flat_span (node : Node) : node.flat.span = node.span := by
  cases node with
  | literal | name | group | choose => rfl
  | define op n body => rw [flat, span, span, flat_span body]
  | optional op body => rw [flat, span, span, flat_span body]
  | regex op source matched unmatched => rw [flat, span, span, flat_span unmatched]

theorem checkpoints_append (first second : List Node) :
    checkpointsAll (first ++ second) = checkpointsAll first ++ checkpointsAll second := by
  induction first with
  | nil => rfl
  | cons node rest ih => rw [List.cons_append, checkpointsAll, ih, checkpointsAll, List.append_assoc]

theorem checkpoints_opened (node : Node) : checkpointsAll node.opened = node.checkpoints := by
  obtain ⟨opening, closing, same⟩ | single := node.opened_cases
  · rw [same]
    rfl
  · rw [single, checkpointsAll, checkpointsAll, List.append_nil]

mutual

theorem flat_checkpoints (node : Node) : node.flat.checkpoints = node.checkpoints := by
  cases node with
  | literal | name => rfl
  | group opening statements closing => rw [flat, checkpoints, checkpoints, flat_all_checkpoints]
  | define op n body =>
      rw [flat, checkpoints, checkpoints, flat_checkpoints body, span, span, flat_span]
  | choose op opening alternatives closing => rw [flat, checkpoints, checkpoints, flat_each_checkpoints]
  | optional op body => rw [flat, checkpoints, checkpoints, flat_checkpoints body]
  | regex op source matched unmatched =>
      rw [flat, checkpoints, checkpoints, flat_checkpoints matched, flat_checkpoints unmatched]

theorem flat_all_checkpoints (nodes : List Node) : checkpointsAll (flatAll nodes) = checkpointsAll nodes := by
  cases nodes with
  | nil => rfl
  | cons node rest =>
      rw [flatAll, checkpoints_append, checkpoints_opened, flat_checkpoints node,
        flat_all_checkpoints rest, checkpointsAll]

theorem flat_each_checkpoints (nodes : List Node) :
    checkpointsAll (flatEach nodes) = checkpointsAll nodes := by
  cases nodes with
  | nil => rfl
  | cons node rest =>
      rw [flatEach, checkpointsAll, checkpointsAll, flat_checkpoints node, flat_each_checkpoints rest]

end

end Node

namespace Action

def both (first second : Action) : Action := fun feed => do
  let text ← first feed
  let more ← second feed
  return text ++ more

theorem both_assoc (first second third : Action) :
    both (both first second) third = both first (both second third) := by
  funext feed
  simp only [both, bind_assoc, pure_bind, String.append_assoc]

theorem both_nothing (action : Action) : both action (constant "") = action := by
  funext feed
  simp only [both, constant, pure_bind, String.append_empty, bind_pure]

theorem nothing_both (action : Action) : both (constant "") action = action := by
  funext feed
  simp only [both, constant, pure_bind, String.empty_append, bind_pure]

end Action

namespace Node

section

variable [Pattern.Engine]

def meaningInRow (nodes : List Node) (scope : Scope) : Option (Action × Scope) := do
  let (actions, scope) ← meaningAll nodes scope
  return (Action.sequence actions, scope)

theorem row_nil (scope : Scope) : meaningInRow [] scope = some (Action.constant "", scope) := rfl

theorem row_cons (node : Node) (rest : List Node) (scope : Scope) :
    meaningInRow (node :: rest) scope = do
      let (action, scope) ← node.meaning scope
      let (others, scope) ← meaningInRow rest scope
      return (Action.both action others, scope) := by
  simp only [meaningInRow, meaningAll, bind_assoc, pure_bind]
  rfl

theorem row_append (first second : List Node) (scope : Scope) :
    meaningInRow (first ++ second) scope = do
      let (action, scope) ← meaningInRow first scope
      let (others, scope) ← meaningInRow second scope
      return (Action.both action others, scope) := by
  induction first generalizing scope with
  | nil =>
      simp only [List.nil_append, row_nil, Option.bind_eq_bind, Option.bind_some, Action.nothing_both]
      exact (bind_pure (meaningInRow second scope)).symm
  | cons node rest ih =>
      simp only [List.cons_append, row_cons, ih, bind_assoc, pure_bind, Action.both_assoc]

theorem row_opened (node : Node) (scope : Scope) : meaningInRow node.opened scope = node.meaning scope := by
  obtain ⟨opening, closing, same⟩ | single := node.opened_cases
  · rw [same]
    rfl
  · simp only [single, row_cons, row_nil, Option.bind_eq_bind, Option.bind_some, Action.both_nothing]
    exact bind_pure (node.meaning scope)

mutual

theorem flat_meaning (node : Node) (scope : Scope) : node.flat.meaning scope = node.meaning scope := by
  cases node with
  | literal | name => rfl
  | group opening statements closing => exact flat_all_meaning statements scope
  | define op n body => rw [flat, meaning, meaning, flat_meaning body]
  | choose op opening alternatives closing => rw [flat, meaning, meaning, flat_each_meaning]
  | optional op body => rw [flat, meaning, meaning, flat_meaning body]
  | regex op source matched unmatched =>
      simp only [flat, meaning, flat_meaning matched, flat_meaning unmatched]

theorem flat_all_meaning (nodes : List Node) (scope : Scope) :
    meaningInRow (flatAll nodes) scope = meaningInRow nodes scope := by
  cases nodes with
  | nil => rfl
  | cons node rest =>
      simp only [flatAll, row_append, row_opened, row_cons, flat_meaning node, flat_all_meaning rest]

theorem flat_each_meaning (nodes : List Node) (scope : Scope) :
    meaningAll (flatEach nodes) scope = meaningAll nodes scope := by
  cases nodes with
  | nil => rfl
  | cons node rest =>
      simp only [flatEach, meaningAll, flat_meaning node, flat_each_meaning rest]

end

end

end Node

def Task.flat : Task → Task
  | .one node => .one node.flat
  | .all output nodes => .all output (Node.flatAll nodes)

def Result.flat : Result → Result
  | .error error => .error error
  | .ok (text, after) => .ok (text, after.map Node.flat)

theorem flat_text (result : Result) : (Result.flat result).map Prod.fst = result.map Prod.fst := by
  cases result <;> rfl

section

variable [Pattern.Engine]

theorem evaluates_opened (setting : Setting) (output : String) (node : Node) (environment : Environment)
    (run last : Run) (result : Result)
    (evaluates : Evaluates setting (.one node) environment run result last) :
    Evaluates setting (.all output node.opened) environment run (Result.behind output result) last := by
  obtain ⟨opening, closing, same⟩ | single := node.opened_cases
  · rw [same] at evaluates
    cases evaluates with
    | group _ _ _ _ _ _ _ inner =>
        have behind := evaluates_behind setting output "" _ _ _ _ _ inner
        rwa [String.append_empty] at behind
  · rw [single]
    rcases result with error | ⟨text, after⟩
    · exact .failed output node [] environment run last error evaluates
    · exact .cons output text node [] environment after run last last _ evaluates (.nil _ after last)

-- By induction on the evaluation. What is bound is the flat body of a definition, and a group among the
-- statements of a group is evaluated behind the text before it.
theorem evaluates_flat (setting : Setting) (task : Task) (environment : Environment) (run last : Run)
    (result : Result) (evaluates : Evaluates setting task environment run result last) :
    Evaluates setting task.flat (environment.map Node.flat) run (Result.flat result) last := by
  induction evaluates with
  | literal l environment run => exact .literal l _ run
  | unresolved n environment run missing =>
      refine .unresolved n _ run ?_
      rw [Bindings.get?_map, missing, Option.map_none]
  | limited n environment run body bound full =>
      refine .limited n _ run body.flat ?_ full
      rw [Bindings.get?_map, bound, Option.map_some]
  | expanded n environment run last body result bound free _ ih =>
      refine .expanded n _ run last body.flat _ ?_ free ih
      rw [Bindings.get?_map, bound, Option.map_some]
  | group opening closing statements environment run last result _ ih =>
      exact .group opening closing _ _ run last _ ih
  | define op n body environment run =>
      rw [Result.flat, Bindings.map_insert]
      exact .define op n body.flat _ run
  | chooseNone op opening closing environment run => exact .chooseNone op opening closing _ run
  | choose op opening closing alternatives environment run last result index drawn chosen some draw found
      _ ih =>
      rw [Task.flat, Node.flat, Node.flat_each_map]
      rw [← List.length_map Node.flat] at draw ih
      refine .choose op opening closing _ _ run last _ index drawn chosen.flat ?_ draw ?_ ih
      · rwa [Ne, List.map_eq_nil_iff]
      · rw [List.getElem?_map, found, Option.map_some]
  | chooseBeyond op opening closing alternatives environment run index drawn some draw beyond =>
      rw [Task.flat, Node.flat, Node.flat_each_map]
      rw [← List.length_map Node.flat] at draw ⊢
      refine .chooseBeyond op opening closing _ _ run index drawn ?_ draw ?_
      · rwa [Ne, List.map_eq_nil_iff]
      · rw [List.getElem?_map, beyond, Option.map_none]
  | taken op body environment run last result drawn draw _ ih =>
      exact .taken op _ _ run last _ drawn draw ih
  | passed op body environment run drawn draw => exact .passed op _ _ run drawn draw
  | invalid op source matched unmatched environment run fault read =>
      exact .invalid op source _ _ _ run fault read
  | matched op source matched unmatched environment run last result pattern read accepts _ ih =>
      exact .matched op source _ _ _ run last _ pattern read accepts ih
  | unmatched op source matched unmatched environment run last result pattern read refuses _ ih =>
      exact .unmatched op source _ _ _ run last _ pattern read refuses ih
  | nil output environment run => exact .nil output _ run
  | failed output node rest environment run last error _ ih =>
      exact evaluates_append_failed setting output _ _ _ run last error
        (evaluates_opened setting output node.flat _ run last _ ih)
  | cons output text node rest environment between run middle last result _ _ headFlat tailFlat =>
      exact evaluates_append setting output _ _ _ _ _ run middle last _
        (evaluates_opened setting output node.flat _ run middle _ headFlat) tailFlat

end

namespace Grammar

def flat (grammar : Grammar) : Grammar :=
  { grammar with statements := Node.flatAll grammar.statements }

theorem spliced_flat (grammar spliced : Grammar) (splices : grammar.root.Spliced spliced.root) :
    spliced.flat = grammar.flat := by
  have same := Node.spliced_flat _ _ splices
  simp only [root, Node.flat, Node.group.injEq] at same
  simp only [flat, same]

section

variable [Pattern.Engine]

theorem sample_flat (grammar : Grammar) (setting : Setting) (environment : Environment) (drawn : Nat) :
    let outcome := grammar.sample setting environment drawn
    grammar.flat.sample setting (environment.map Node.flat) drawn =
      { outcome with result := Result.flat outcome.result } := by
  obtain ⟨result, last, evaluates, same⟩ := sample_outcome grammar setting environment drawn
  rw [same]
  exact evaluates_sample grammar.flat setting _ drawn _ last
    (evaluates_flat setting _ environment _ last result evaluates)

theorem flat_compile_error (grammar : Grammar) (error : CompileError) :
    grammar.flat.compile = .error error ↔ grammar.compile = .error error := by
  rw [compile_error_iff, compile_error_iff, checkpoints, checkpoints, flat, Node.flat_all_checkpoints]

theorem meaning_row (grammar : Grammar) :
    grammar.meaning = (Node.meaningInRow grammar.statements Bindings.empty).map Prod.fst := by
  unfold meaning Node.meaningInRow
  cases Node.meaningAll grammar.statements Bindings.empty <;> rfl

theorem flat_same_meaning (grammar : Grammar) : grammar.flat.meaning = grammar.meaning := by
  rw [meaning_row, meaning_row, flat, Node.flat_all_meaning]

-- The tables of the two generators differ; what they mean does not.
theorem flat_generates (grammar : Grammar) (generator flattened : Generator)
    (compiled : grammar.compile = .ok generator) (compiledFlat : grammar.flat.compile = .ok flattened)
    (feed : Feed) (drawn : Nat) : flattened.generate feed drawn = generator.generate feed drawn := by
  obtain ⟨action, means, generated⟩ := generate_follows_meaning grammar generator compiled
  obtain ⟨action', means', generated'⟩ := generate_follows_meaning grammar.flat flattened compiledFlat
  rw [flat_same_meaning, means] at means'
  cases means'
  rw [generated, generated']

end

end Grammar

section

variable [Pattern.Engine]

theorem grouping_associative (grammar spliced : Grammar) (splices : grammar.root.Spliced spliced.root) :
    (∀ (setting : Setting) (environment : Environment) (drawn : Nat),
      let outcome := grammar.sample setting environment drawn
      let other := spliced.sample setting environment drawn
      other.result.map Prod.fst = outcome.result.map Prod.fst ∧ other.drawn = outcome.drawn ∧
        other.decisions = outcome.decisions) ∧
    (∀ error, spliced.compile = .error error ↔ grammar.compile = .error error) ∧
    ∀ generator, grammar.compile = .ok generator →
      ∃ other, spliced.compile = .ok other ∧
        ∀ (feed : Feed) (drawn : Nat), other.generate feed drawn = generator.generate feed drawn := by
  have same := Grammar.spliced_flat grammar spliced splices
  have fails : ∀ error, spliced.compile = .error error ↔ grammar.compile = .error error := by
    intro error
    rw [← Grammar.flat_compile_error, same, Grammar.flat_compile_error]
  refine ⟨?_, fails, ?_⟩
  · intro setting environment drawn outcome other
    have flat := grammar.sample_flat setting environment drawn
    have flat' := spliced.sample_flat setting environment drawn
    rw [same, flat, Outcome.mk.injEq] at flat'
    obtain ⟨results, counts, decides⟩ := flat'
    have texts := congrArg (fun result : Result => result.map Prod.fst) results
    rw [flat_text, flat_text] at texts
    exact ⟨texts.symm, counts.symm, decides.symm⟩
  · intro generator compiled
    cases other : spliced.compile with
    | error error => cases compiled.symm.trans ((fails error).mp other)
    | ok generator' =>
        refine ⟨generator', rfl, fun feed drawn => ?_⟩
        cases compiledFlat : grammar.flat.compile with
        | error error => cases compiled.symm.trans ((grammar.flat_compile_error error).mp compiledFlat)
        | ok flattened =>
            rw [← grammar.flat_generates generator flattened compiled compiledFlat]
            exact (spliced.flat_generates generator' flattened other (same ▸ compiledFlat) feed drawn).symm

end

def textNode (text : String) : Node := .literal ⟨text, '\'', default⟩

-- (= a (statements) a a)
def grouping (statements : List Node) : Grammar where
  opening := default
  statements :=
    [.define default ⟨"a", default⟩ (.group default statements default), .name ⟨"a", default⟩,
      .name ⟨"a", default⟩]
  closing := default

theorem grouping_associative_captured :
    let inner : List Node := [textNode "y", .optional default (textNode "z")]
    let nested := grouping ([textNode "x"] ++ .group default inner default :: [textNode "w"])
    let spliced := grouping ([textNode "x"] ++ (inner ++ [textNode "w"]))
    let generator : Generator :=
      ⟨#[⟨"_0", .optional (.constant "z")⟩, ⟨"_1", .concat [.constant "y", .reference 0]⟩,
        ⟨"_2", .concat [.constant "x", .reference 1, .constant "w"]⟩, ⟨"_a_3", .forward 2⟩,
        ⟨"_4", .concat [.reference 3, .reference 3]⟩], .reference 4⟩
    let other : Generator :=
      ⟨#[⟨"_0", .optional (.constant "z")⟩,
        ⟨"_1", .concat [.constant "xy", .reference 0, .constant "w"]⟩, ⟨"_a_2", .forward 1⟩,
        ⟨"_3", .concat [.reference 2, .reference 2]⟩], .reference 3⟩
    nested.root.Spliced spliced.root ∧ nested.compile = .ok generator ∧ spliced.compile = .ok other ∧
      (∀ (feed : Feed) (drawn : Nat), other.generate feed drawn = generator.generate feed drawn) ∧
      ∀ (setting : Setting) (drawn : Nat),
        (spliced.sample setting Bindings.empty drawn).result.map Prod.fst =
          (nested.sample setting Bindings.empty drawn).result.map Prod.fst := by
  intro inner nested spliced generator other
  have splices : nested.root.Spliced spliced.root :=
    .group _ _ [] _ _ _ (.define _ _ _ _ (.here _ _ _ _ [textNode "x"] inner [textNode "w"]))
  have compiled : nested.compile = .ok generator := by rfl
  have compiledOther : spliced.compile = .ok other := by rfl
  obtain ⟨samples, -, generates⟩ := grouping_associative nested spliced splices
  obtain ⟨found, again, texts⟩ := generates generator compiled
  rw [compiledOther] at again
  cases again
  exact ⟨splices, compiled, compiledOther, texts, fun setting drawn => (samples setting _ drawn).1⟩

end TextGrammar

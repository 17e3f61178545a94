import TextGrammar.Proofs.Agreement

set_option autoImplicit false

namespace TextGrammar

theorem ranked_by_place (definitions : List Definition)
    (single : (definitions.map Definition.name).Nodup) :
    definitions.Pairwise fun earlier later =>
      (definitions.map Definition.name).idxOf earlier.name <
        (definitions.map Definition.name).idxOf later.name := by
  have place : ∀ index (bound : index < definitions.length),
      (definitions.map Definition.name).idxOf definitions[index].name = index := by
    intro index bound
    have found := single.idxOf_getElem index (by simpa using bound)
    simpa using found
  refine List.pairwise_iff_getElem.mpr fun i j first second less => ?_
  rwa [place i first, place j second]

theorem ranks_bounded (rank : String → Nat) (uses : List Name) :
    ∃ bound, ∀ use ∈ uses, rank use.text < bound := by
  induction uses with
  | nil => exact ⟨0, by simp⟩
  | cons use rest ih =>
      obtain ⟨bound, below⟩ := ih
      refine ⟨max bound (rank use.text + 1), fun other member => ?_⟩
      rcases List.mem_cons.mp member with rfl | later
      · omega
      · have lower := below other later
        omega

section

variable [Pattern.Engine]

-- Compiling has found every use behind the only definition of its name, so expansions never lead
-- back to a name that is open.
theorem sample_never_differs (grammar : Grammar) (generator : Generator)
    (compiled : grammar.compile = .ok generator)
    (single : (grammar.definitions.map Definition.name).Nodup) (setting : Setting) (drawn : Nat) :
    match (grammar.sample setting Bindings.empty drawn).result with
    | .ok (text, _) =>
        generator.generate setting.feed drawn =
          (text, (grammar.sample setting Bindings.empty drawn).drawn)
    | .error error => ∃ name place, error = .unresolved name place := by
  obtain ⟨actions, table, means, generated⟩ := compile_means grammar generator compiled
  obtain ⟨last, evaluates, position, -⟩ := sample_evaluates grammar setting Bindings.empty drawn
  have unbound : ∀ name, ¬ Binds (Bindings.empty : Scope) name := by simp [Binds]
  have fresh : Fresh grammar.definitions (Bindings.empty : Scope) :=
    ⟨fun definition _ => unbound definition.name, single⟩
  obtain ⟨-, stays⟩ := meaning_all_stays _ _ _ _ means fresh
  obtain ⟨still, hold⟩ := stays table (grows_refl table)
  let rank : String → Nat := (grammar.definitions.map Definition.name).idxOf
  have ordered : Ordered rank grammar.definitions (Bindings.empty : Scope) :=
    ⟨fun name bound => absurd bound (unbound name), ranked_by_place _ single⟩
  have ranks := meaning_all_ranks rank _ _ _ _ means ordered
  obtain ⟨bound, below⟩ := ranks_bounded rank (Node.usesAll grammar.statements)
  have agrees := evaluates_agrees setting table rank _ _ _ _ _ evaluates
    (Action.behind "" (Action.sequence actions)) (by simp [Task.meaningIn, still])
    (fun d member => ⟨hold d member, ranks d member⟩) (fun name body found => by cases found)
    bound below (fun name _ => rfl)
  rw [Action.behind_empty] at agrees
  rw [position]
  rcases ended : (grammar.sample setting Bindings.empty drawn).result with error | ⟨text, after⟩
  · rw [ended] at agrees
    obtain ⟨name, place, same, -⟩ := agrees
    exact ⟨name, place, same⟩
  · rw [ended] at agrees
    exact (generated setting.feed drawn).trans agrees.1

end

-- (|((= x ?'a') 'b') x)
def branchDefinition : Grammar where
  opening := ⟨0, 1⟩
  statements :=
    [.choose ⟨1, 1⟩ ⟨2, 1⟩
        [.group ⟨3, 1⟩
            [.define ⟨4, 1⟩ ⟨"x", ⟨6, 1⟩⟩ (.optional ⟨8, 1⟩ (.literal ⟨"a", '\'', ⟨9, 3⟩⟩))] ⟨12, 1⟩,
          .literal ⟨"b", '\'', ⟨14, 3⟩⟩] ⟨17, 1⟩,
      .name ⟨"x", ⟨19, 1⟩⟩]
  closing := ⟨20, 1⟩

theorem sample_never_differs_in_a_branch :
    let generator : Generator :=
      ⟨#[⟨"_0", .optional (.constant "a")⟩, ⟨"_x_1", .forward 0⟩,
        ⟨"_2", .choose [.constant "", .constant "b"]⟩,
        ⟨"_3", .concat [.reference 2, .reference 1]⟩], .reference 3⟩
    branchDefinition.compile = .ok generator ∧
      (branchDefinition.definitions.map Definition.name).Nodup ∧
        ∀ (setting : Setting) (drawn : Nat),
          match (branchDefinition.sample setting Bindings.empty drawn).result with
          | .ok (text, _) =>
              generator.generate setting.feed drawn =
                (text, (branchDefinition.sample setting Bindings.empty drawn).drawn)
          | .error error => ∃ name place, error = .unresolved name place :=
  ⟨rfl, by decide, sample_never_differs branchDefinition _ rfl (by decide)⟩

section

variable [Pattern.Engine]

theorem evaluates_plain (setting : Setting) (task : Task) (environment : Environment)
    (run last : Run) (result : Result)
    (evaluates : Evaluates setting task environment run result last)
    (plain : task.definitions = [])
    (bodies : ∀ (name : String) (body : Node), environment.get? name = some body →
      body.definitions = []) :
    ∀ text after, result = .ok (text, after) → after = environment := by
  induction evaluates with
  | literal | chooseNone | chooseBeyond | passed | nil =>
      rintro text after ⟨⟩
      rfl
  | unresolved | limited | invalid | failed => rintro text after ⟨⟩
  | define => simp [Task.definitions, Node.definitions] at plain
  | expanded n _ _ _ body _ bound _ _ ih => exact ih (bodies n.text body bound) bodies
  | group _ _ _ _ _ _ _ _ ih => exact ih plain bodies
  | choose _ _ _ alternatives _ _ _ _ index _ chosen _ _ found _ ih =>
      refine ih (List.eq_nil_iff_forall_not_mem.mpr fun d member => ?_) bodies
      have defined := chosen_definitions alternatives index chosen found d member
      rw [show Node.definitionsAll alternatives = [] from plain] at defined
      cases defined
  | taken _ _ _ _ _ _ _ _ _ ih => exact ih plain bodies
  | matched _ _ _ _ _ _ _ _ _ _ _ _ ih => exact ih (List.append_eq_nil_iff.mp plain).1 bodies
  | unmatched _ _ _ _ _ _ _ _ _ _ _ _ ih => exact ih (List.append_eq_nil_iff.mp plain).2 bodies
  | cons _ text _ _ _ between _ _ _ _ _ _ headPlain tailPlain =>
      obtain ⟨first, others⟩ := List.append_eq_nil_iff.mp plain
      obtain rfl := headPlain first bodies text between rfl
      exact tailPlain others bodies

-- The environment holds the definitions passed so far, and the table explains it.
structure Known (past : List Definition) (scope : Scope) (environment : Environment) : Prop where
  defined : ∀ (name : String) (body : Node), environment.get? name = some body →
    ⟨name, body⟩ ∈ past ∧ body.definitions = []
  covered : ∀ name, Binds scope name → (environment.get? name).isSome
  explained : ∃ rank, environment.Explained scope rank

theorem known_empty : Known [] Bindings.empty Bindings.empty where
  defined := fun name body found => by cases found
  covered := fun name bound => by cases bound
  explained := ⟨fun _ => 0, fun name body found => by cases found⟩

omit [Pattern.Engine] in
theorem unmentioned (body : Node) (name : String) (absent : body.mentions name = false) :
    ∀ use ∈ body.uses, use.text ≠ name := by
  intro use member same
  have mentioned := (body.mentions_iff name).mpr ⟨use, member, same⟩
  rw [absent] at mentioned
  cases mentioned

-- A name that no body mentions may be bound anew: the other meanings stay, and the new one ranks
-- above whatever its body uses.
theorem known_insert (past : List Definition) (scope : Scope) (environment : Environment)
    (name : String) (body : Node) (inner : Action) (known : Known past scope environment)
    (plain : body.definitions = []) (means : body.meaningIn scope = some inner)
    (own : body.mentions name = false)
    (others : ∀ d ∈ past, d.body.mentions name = false) :
    Known (past ++ [⟨name, body⟩]) (scope.insert name inner) (environment.insert name body) := by
  obtain ⟨defined, covered, rank, explained⟩ := known
  obtain ⟨bound, below⟩ := ranks_bounded rank body.uses
  have still : ∀ other : Node, other.mentions name = false →
      other.meaningIn (scope.insert name inner) = other.meaningIn scope := by
    intro other absent
    refine meaning_in_congr other _ _ fun use member => ?_
    rw [Bindings.get?_insert, if_neg (unmentioned other name absent use member).symm]
  refine ⟨fun other found entry => ?_, fun other binds => ?_, Function.update rank name bound,
    fun other found entry => ?_⟩
  · rw [Bindings.get?_insert] at entry
    split at entry
    · rename_i same
      cases entry
      exact ⟨by simp [same], plain⟩
    · obtain ⟨member, empty⟩ := defined other found entry
      exact ⟨List.mem_append_left _ member, empty⟩
  · rw [Bindings.get?_insert]
    split
    · rfl
    · rename_i different
      exact covered other (((binds_insert _ _ _ _).mp binds).resolve_left different)
  · rw [Bindings.get?_insert] at entry
    by_cases same : name = other
    · subst same
      rw [if_pos rfl] at entry
      cases entry
      refine ⟨⟨⟨inner, by simp [Bindings.get?_insert], (still _ own).trans means⟩, ?_⟩, by simp [plain]⟩
      intro use member
      rw [Function.update_self, Function.update_of_ne (unmentioned _ _ own use member)]
      exact below use member
    · rw [if_neg same] at entry
      obtain ⟨member, empty⟩ := defined other found entry
      have absent := others _ member
      obtain ⟨⟨⟨action, table, meant⟩, ranks⟩, -⟩ := explained other found entry
      refine ⟨⟨⟨action, ?_, (still _ absent).trans meant⟩, ?_⟩, by simp [empty]⟩
      · rwa [Bindings.get?_insert, if_neg same]
      · intro use used
        rw [Function.update_of_ne (unmentioned _ _ absent use used),
          Function.update_of_ne (Ne.symm same)]
        exact ranks use used

theorem plain_agrees (setting : Setting) (node : Node) (past : List Definition)
    (scope after : Scope) (environment : Environment) (run last : Run) (result : Result)
    (action : Action) (plain : node.definitions = [])
    (means : node.meaning scope = some (action, after)) (known : Known past scope environment)
    (closed : ∀ name, run.openCount name = 0)
    (evaluates : Evaluates setting (.one node) environment run result last) :
    ∃ text, result = .ok (text, environment) ∧ action.run setting.feed run.drawn = (text, last.drawn) ∧
      after = scope := by
  obtain ⟨rank, explained⟩ := known.explained
  obtain ⟨bound, below⟩ := ranks_bounded rank node.uses
  have agrees := evaluates_agrees setting scope rank _ _ _ _ _ evaluates action
    (meaning_in_plain node scope after action means plain) (by simp [Task.definitions, plain])
    explained bound below (fun name _ => closed name)
  cases result with
  | error error =>
      obtain ⟨name, place, -, missing, binds⟩ := agrees
      have found := known.covered name binds
      simp [missing] at found
  | ok production =>
      obtain ⟨text, left⟩ := production
      obtain rfl := evaluates_plain _ _ _ _ _ _ evaluates plain
        (fun name body found => (known.defined name body found).2) text left rfl
      exact ⟨text, rfl, agrees.1, meaning_plain node scope after action means plain⟩

mutual

theorem unconditional_agrees (setting : Setting) (node : Node) (past : List Definition)
    (scope after : Scope) (environment : Environment) (run last : Run) (result : Result)
    (action : Action) (unconditional : node.unconditional = true)
    (settled : Definition.Settled (past ++ node.definitions))
    (means : node.meaning scope = some (action, after)) (known : Known past scope environment)
    (closed : ∀ name, run.openCount name = 0)
    (evaluates : Evaluates setting (.one node) environment run result last) :
    ∃ text left, result = .ok (text, left) ∧ action.run setting.feed run.drawn = (text, last.drawn) ∧
      Known (past ++ node.definitions) after left := by
  by_cases plain : node.definitions = []
  · obtain ⟨text, ended, ran, rfl⟩ := plain_agrees setting node past scope after environment run last
      result action plain means known closed evaluates
    exact ⟨text, environment, ended, ran, by simpa [plain] using known⟩
  · cases node with
    | literal | name => simp [Node.definitions] at plain
    | group opening statements closing =>
        obtain ⟨actions, inner, rfl⟩ := (Node.means_group _ _ _ _ _ _).mp means
        cases evaluates with
        | group _ _ _ _ _ _ _ evaluates =>
            obtain ⟨text, left, ended, ran, still⟩ := unconditional_all_agrees setting statements "" past
              scope after environment run last result actions unconditional settled inner known closed
              evaluates
            rw [Action.behind_empty] at ran
            exact ⟨text, left, ended, ran, still⟩
    | define op n body =>
        have bodyPlain : body.definitions = [] := List.isEmpty_iff.mp unconditional
        obtain ⟨inner, between, bodyMeans, rfl, rfl⟩ := (Node.means_define _ _ _ _ _ _).mp means
        obtain rfl := meaning_plain body scope between inner bodyMeans bodyPlain
        have definitions : (Node.define op n body).definitions = [⟨n.text, body⟩] := by
          simp [Node.definitions, bodyPlain]
        rw [definitions] at settled ⊢
        obtain ⟨-, own, others⟩ := Definition.settled_append _ _ settled
        cases evaluates
        exact ⟨"", _, rfl, rfl, known_insert past between environment n.text body inner known bodyPlain
          (meaning_in_plain body between between inner bodyMeans bodyPlain) (own.1 ⟨n.text, body⟩ (by simp))
          fun d member => others d member ⟨n.text, body⟩ (by simp)⟩
    | choose op opening alternatives closing =>
        exact absurd (List.isEmpty_iff.mp unconditional) plain
    | optional op body => exact absurd (List.isEmpty_iff.mp unconditional) plain
    | regex op source matched unmatched =>
        simp [Node.unconditional] at unconditional
        simp [Node.definitions, unconditional] at plain

theorem unconditional_all_agrees (setting : Setting) (nodes : List Node) (output : String)
    (past : List Definition) (scope after : Scope) (environment : Environment) (run last : Run)
    (result : Result) (actions : List Action)
    (unconditional : Node.unconditionalAll nodes = true)
    (settled : Definition.Settled (past ++ Node.definitionsAll nodes))
    (means : Node.meaningAll nodes scope = some (actions, after))
    (known : Known past scope environment) (closed : ∀ name, run.openCount name = 0)
    (evaluates : Evaluates setting (.all output nodes) environment run result last) :
    ∃ text left, result = .ok (text, left) ∧
      ((Action.sequence actions).behind output).run setting.feed run.drawn = (text, last.drawn) ∧
      Known (past ++ Node.definitionsAll nodes) after left := by
  cases nodes with
  | nil =>
      cases means
      cases evaluates
      refine ⟨output, environment, rfl, ?_, by simpa [Node.definitionsAll] using known⟩
      rw [Action.run_behind, Action.sequence, Action.run_constant, String.append_empty]
  | cons node rest =>
      obtain ⟨first, middle, others, firstMeans, othersMean, rfl⟩ :=
        (Node.means_cons _ _ _ _ _).mp means
      obtain ⟨headOpen, restOpen⟩ : node.unconditional = true ∧ Node.unconditionalAll rest = true := by
        simpa [Node.unconditionalAll] using unconditional
      rw [Node.definitionsAll, ← List.append_assoc] at settled ⊢
      have early := (Definition.settled_append _ _ settled).1
      cases evaluates with
      | failed _ _ _ _ _ _ error head =>
          obtain ⟨_, _, impossible, -⟩ := unconditional_agrees setting node past scope middle environment
            run last _ first headOpen early firstMeans known closed head
          cases impossible
      | cons _ text _ _ _ between _ inside _ _ head tail =>
          obtain ⟨_, _, ended, firstRan, firstKnown⟩ := unconditional_agrees setting node past scope middle
            environment run inside _ first headOpen early firstMeans known closed head
          cases ended
          obtain ⟨whole, left, ended, ran, still⟩ := unconditional_all_agrees setting rest (output ++ text)
            (past ++ node.definitions) middle after between inside last result others restOpen settled
            othersMean firstKnown
            (fun name => (evaluates_restores _ _ _ _ _ _ head name).trans (closed name)) tail
          refine ⟨whole, left, ended, ?_, still⟩
          rw [Action.run_behind, Action.run_sequence, firstRan, ← String.append_assoc]
          rwa [Action.run_behind] at ran

end

def Grammar.sampleEach (grammar : Grammar) (words : Words) (limit : Nat) :
    List String → Nat → List (Except SamplingError String × Nat)
  | [], _ => []
  | input :: rest, drawn =>
      let outcome := grammar.sample ⟨words, input, limit⟩ Bindings.empty drawn
      (outcome.result.map Prod.fst, outcome.drawn) ::
        grammar.sampleEach words limit rest outcome.drawn

def Generator.generateEach (generator : Generator) (words : Words) :
    List String → Nat → List (String × Nat)
  | [], _ => []
  | input :: rest, drawn =>
      let produced := generator.generate ⟨words, input⟩ drawn
      produced :: generator.generateEach words rest produced.2

theorem sample_unconditional (grammar : Grammar) (generator : Generator)
    (compiled : grammar.compile = .ok generator) (unconditional : grammar.unconditional = true)
    (settled : Definition.Settled grammar.definitions) (setting : Setting) (drawn : Nat) :
    ∃ left, (grammar.sample setting Bindings.empty drawn).result =
        .ok ((generator.generate setting.feed drawn).1, left) ∧
      (grammar.sample setting Bindings.empty drawn).drawn =
        (generator.generate setting.feed drawn).2 := by
  obtain ⟨actions, table, means, generated⟩ := compile_means grammar generator compiled
  obtain ⟨last, evaluates, position, -⟩ := sample_evaluates grammar setting Bindings.empty drawn
  obtain ⟨text, left, ended, ran, -⟩ := unconditional_all_agrees setting grammar.statements "" []
    Bindings.empty table Bindings.empty (Run.start drawn) last _ actions unconditional settled means
    known_empty (fun name => rfl) evaluates
  rw [Action.behind_empty] at ran
  have produced : generator.generate setting.feed drawn = (text, last.drawn) :=
    (generated setting.feed drawn).trans ran
  exact ⟨left, by rw [ended, produced], by rw [position, produced]⟩

theorem sample_equals_generate (grammar : Grammar) (generator : Generator)
    (compiled : grammar.compile = .ok generator) (unconditional : grammar.unconditional = true)
    (settled : Definition.Settled grammar.definitions) :
    (∀ (setting : Setting) (drawn : Nat),
      ∃ left, (grammar.sample setting Bindings.empty drawn).result =
          .ok ((generator.generate setting.feed drawn).1, left) ∧
        (grammar.sample setting Bindings.empty drawn).drawn =
          (generator.generate setting.feed drawn).2) ∧
      ∀ (words : Words) (limit : Nat) (inputs : List String) (drawn : Nat),
        grammar.sampleEach words limit inputs drawn =
          (generator.generateEach words inputs drawn).map fun produced =>
            (.ok produced.1, produced.2) := by
  have each := sample_unconditional grammar generator compiled unconditional settled
  refine ⟨each, fun words limit inputs drawn => ?_⟩
  induction inputs generalizing drawn with
  | nil => rfl
  | cons input rest ih =>
      obtain ⟨left, ended, position⟩ := each ⟨words, input, limit⟩ drawn
      simp only [Grammar.sampleEach, Generator.generateEach, List.map_cons, ended, position]
      rw [← ih]
      rfl

end

-- (= a ?'x' = b (a a) b = b a b)
def redefinition : Grammar where
  opening := ⟨0, 1⟩
  statements :=
    [.define ⟨1, 1⟩ ⟨"a", ⟨3, 1⟩⟩ (.optional ⟨5, 1⟩ (.literal ⟨"x", '\'', ⟨6, 3⟩⟩)),
      .define ⟨10, 1⟩ ⟨"b", ⟨12, 1⟩⟩
        (.group ⟨14, 1⟩ [.name ⟨"a", ⟨15, 1⟩⟩, .name ⟨"a", ⟨17, 1⟩⟩] ⟨18, 1⟩),
      .name ⟨"b", ⟨20, 1⟩⟩,
      .define ⟨22, 1⟩ ⟨"b", ⟨24, 1⟩⟩ (.name ⟨"a", ⟨26, 1⟩⟩),
      .name ⟨"b", ⟨28, 1⟩⟩]
  closing := ⟨29, 1⟩

theorem sample_equals_generate_redefined :
    let generator : Generator :=
      ⟨#[⟨"_0", .optional (.constant "x")⟩, ⟨"_a_1", .forward 0⟩,
        ⟨"_2", .concat [.reference 1, .reference 1]⟩, ⟨"_b_3", .forward 2⟩, ⟨"_b_4", .forward 1⟩,
        ⟨"_5", .concat [.reference 3, .reference 4]⟩], .reference 5⟩
    redefinition.compile = .ok generator ∧ redefinition.unconditional = true ∧
      Definition.Settled redefinition.definitions ∧
        (∀ (setting : Setting) (drawn : Nat),
          ∃ left, (redefinition.sample setting Bindings.empty drawn).result =
              .ok ((generator.generate setting.feed drawn).1, left) ∧
            (redefinition.sample setting Bindings.empty drawn).drawn =
              (generator.generate setting.feed drawn).2) ∧
          ∀ (words : Words) (limit : Nat) (inputs : List String) (drawn : Nat),
            redefinition.sampleEach words limit inputs drawn =
              (generator.generateEach words inputs drawn).map fun produced =>
                (.ok produced.1, produced.2) :=
  ⟨rfl, rfl, by decide, sample_equals_generate redefinition _ rfl rfl (by decide)⟩

end TextGrammar

import TextGrammar.Proofs.Procedures
import TextGrammar.Proofs.RecursionLimit
import TextGrammar.Proofs.Safety

set_option autoImplicit false

namespace TextGrammar

def Checkpoint.source : Checkpoint → Option String
  | use _ => none
  | pattern _ source => some source.text
  | defined _ _ => none

def Grammar.patterns (grammar : Grammar) : List String :=
  grammar.checkpoints.filterMap Checkpoint.source

def Environment.patterns (environment : Environment) : List String :=
  (Node.checkpointsAll environment.values).filterMap Checkpoint.source

-- Both engines read the text alike, and what they read is found in both inputs or in neither.
structure SeenAlike (one other : Pattern.Engine) (input input' text : String) : Prop where
  read : other.read text = one.read text
  found : ∀ pattern, one.read text = .ok pattern →
    other.isMatch pattern input' = one.isMatch pattern input

def Checkpoint.Alike (one other : Pattern.Engine) (input input' : String) (checkpoint : Checkpoint) :
    Prop :=
  ∀ text, checkpoint.source = some text → SeenAlike one other input input' text

section

variable (one other : Pattern.Engine) (input input' : String)

theorem sources_alike (checkpoints : List Checkpoint)
    (alike : ∀ text ∈ checkpoints.filterMap Checkpoint.source, SeenAlike one other input input' text) :
    ∀ checkpoint ∈ checkpoints, checkpoint.Alike one other input input' :=
  fun checkpoint member text written =>
    alike text (List.mem_filterMap.mpr ⟨checkpoint, member, written⟩)

theorem bound_alike (environment : Environment)
    (alike : ∀ text ∈ environment.patterns, SeenAlike one other input input' text) :
    environment.Everywhere (Checkpoint.Alike one other input input') := by
  intro name body bound checkpoint member
  have stored : body ∈ environment.values :=
    List.mem_map_of_mem (environment.get?_member name body bound)
  exact sources_alike one other input input' _ alike checkpoint
    (Node.checkpoints_all_member _ body stored checkpoint member)

-- By induction on the evaluation. Bodies are evaluated where their names are used, so what the
-- environment holds has to be alike as well, and `evaluates_blames` says that it remains so.
theorem evaluates_alike (words : Words) (limit : Nat) (task : Task) (environment : Environment)
    (run last : Run) (result : Result)
    (evaluates : @Evaluates one ⟨words, input, limit⟩ task environment run result last)
    (own : ∀ checkpoint ∈ task.checkpoints, checkpoint.Alike one other input input')
    (bodies : environment.Everywhere (Checkpoint.Alike one other input input')) :
    @Evaluates other ⟨words, input', limit⟩ task environment run result last := by
  induction evaluates with
  | literal l environment run => exact .literal l environment run
  | unresolved n environment run missing => exact .unresolved n environment run missing
  | limited n environment run body bound full => exact .limited n environment run body bound full
  | expanded n environment run last body result bound free _ ih =>
      exact .expanded n environment run last body result bound free
        (ih (bodies n.text body bound) bodies)
  | group _ _ _ _ _ _ _ _ ih => exact .group _ _ _ _ _ _ _ (ih own bodies)
  | define op n body environment run => exact .define op n body environment run
  | chooseNone op opening closing environment run =>
      exact .chooseNone op opening closing environment run
  | choose _ _ _ alternatives _ _ _ _ index drawn chosen some draw found _ ih =>
      refine .choose _ _ _ _ _ _ _ _ index drawn chosen some draw found (ih ?_ bodies)
      exact fun checkpoint member => own checkpoint
        (Node.checkpoints_all_member _ chosen (List.mem_of_getElem? found) checkpoint member)
  | chooseBeyond _ _ _ _ _ _ index drawn some draw beyond =>
      exact .chooseBeyond _ _ _ _ _ _ index drawn some draw beyond
  | taken _ _ _ _ _ _ drawn draw _ ih => exact .taken _ _ _ _ _ _ drawn draw (ih own bodies)
  | passed _ _ _ _ drawn draw => exact .passed _ _ _ _ drawn draw
  | invalid op source _ _ _ _ fault read =>
      have alike := own _ List.mem_cons_self source.text rfl
      exact .invalid op source _ _ _ _ fault (alike.read.trans read)
  | matched op source _ _ _ _ _ _ pattern read accepts _ ih =>
      have alike := own _ List.mem_cons_self source.text rfl
      refine .matched op source _ _ _ _ _ _ pattern (alike.read.trans read)
        ((alike.found pattern read).trans accepts) (ih ?_ bodies)
      exact fun checkpoint member => own checkpoint
        (List.mem_cons_of_mem _ (List.mem_append_left _ member))
  | unmatched op source _ _ _ _ _ _ pattern read refuses _ ih =>
      have alike := own _ List.mem_cons_self source.text rfl
      refine .unmatched op source _ _ _ _ _ _ pattern (alike.read.trans read)
        ((alike.found pattern read).trans refuses) (ih ?_ bodies)
      exact fun checkpoint member => own checkpoint
        (List.mem_cons_of_mem _ (List.mem_append_right _ member))
  | nil output environment run => exact .nil output environment run
  | failed output node rest environment run last error _ ih =>
      exact .failed output node rest environment run last error
        (ih (fun checkpoint member => own checkpoint (List.mem_append_left _ member)) bodies)
  | cons output text node rest environment between run middle last result head _ headAlike tailAlike =>
      have first := fun checkpoint member => own checkpoint (List.mem_append_left _ member)
      have others := fun checkpoint member => own checkpoint (List.mem_append_right _ member)
      obtain ⟨still, -⟩ := @evaluates_blames one _ _ _ _ _ _ _ head first bodies
      exact .cons output text node rest environment between run middle last result
        (headAlike first bodies) (tailAlike others still)

theorem sample_alike (grammar : Grammar) (environment : Environment) (words : Words)
    (limit drawn : Nat)
    (own : ∀ text ∈ grammar.patterns, SeenAlike one other input input' text)
    (bound : ∀ text ∈ environment.patterns, SeenAlike one other input input' text) :
    @Grammar.sample other grammar ⟨words, input', limit⟩ environment drawn =
      @Grammar.sample one grammar ⟨words, input, limit⟩ environment drawn := by
  obtain ⟨result, last, evaluates, same⟩ :=
    @sample_outcome one grammar ⟨words, input, limit⟩ environment drawn
  rw [same]
  exact @evaluates_sample other _ _ _ _ _ _
    (evaluates_alike one other input input' words limit _ _ _ _ _ evaluates
      (sources_alike one other input input' _ own) (bound_alike one other input input' _ bound))

mutual

theorem compile_alike (node : Node)
    (alike : ∀ checkpoint ∈ node.checkpoints, checkpoint.Alike one other input input') :
    @Draft.compile other node = @Draft.compile one node := by
  cases node with
  | literal l => simp only [Draft.compile]
  | name n => simp only [Draft.compile]
  | group opening statements closing =>
      simp only [Draft.compile, compile_all_alike statements alike]
  | define op n body =>
      have inside := compile_alike body fun checkpoint member =>
        alike checkpoint (List.mem_append_left _ member)
      simp only [Draft.compile, inside]
  | choose op opening alternatives closing =>
      simp only [Draft.compile, compile_all_alike alternatives alike]
  | optional op body => simp only [Draft.compile, compile_alike body alike]
  | regex op source matched unmatched =>
      have read := (alike _ List.mem_cons_self source.text rfl).read
      have first := compile_alike matched fun checkpoint member =>
        alike checkpoint (List.mem_cons_of_mem _ (List.mem_append_left _ member))
      have second := compile_alike unmatched fun checkpoint member =>
        alike checkpoint (List.mem_cons_of_mem _ (List.mem_append_right _ member))
      simp only [Draft.compile, Draft.readPattern, read, first, second]

theorem compile_all_alike (nodes : List Node)
    (alike : ∀ checkpoint ∈ Node.checkpointsAll nodes, checkpoint.Alike one other input input') :
    @Draft.compileAll other nodes = @Draft.compileAll one nodes := by
  cases nodes with
  | nil => simp only [Draft.compileAll]
  | cons node rest =>
      have head := compile_alike node fun checkpoint member =>
        alike checkpoint (List.mem_append_left _ member)
      have tail := compile_all_alike rest fun checkpoint member =>
        alike checkpoint (List.mem_append_right _ member)
      simp only [Draft.compileAll, head, tail]

end

theorem grammar_compile_alike (grammar : Grammar)
    (alike : ∀ text ∈ grammar.patterns, SeenAlike one other input input' text) :
    @Grammar.compile other grammar = @Grammar.compile one grammar := by
  have statements := compile_all_alike one other input input' grammar.statements
    (sources_alike one other input input' _ alike)
  unfold Grammar.compile Grammar.compileReporting Draft.compileRoot
  rw [statements]

end

@[reducible] def Pattern.Engine.restrict (engine : Pattern.Engine) (texts : List String) :
    Pattern.Engine where
  read text := if text ∈ texts then engine.read text else .error .malformed
  isMatch := engine.isMatch

section

variable [engine : Pattern.Engine]

theorem table_patterns (grammar : Grammar) (generator : Generator)
    (compiled : grammar.compile = .ok generator) (number : Nat) (named : NamedProcedure)
    (pattern : Pattern) (matched unmatched : Fragment)
    (found : generator.procedures[number]? = some named)
    (regex : named.procedure = .regex pattern matched unmatched) :
    ∃ text ∈ grammar.patterns, engine.read text = .ok pattern := by
  let own := engine.restrict grammar.patterns
  have alike : ∀ text ∈ grammar.patterns, SeenAlike engine own "" "" text :=
    fun text member => ⟨if_pos member, fun _ _ => rfl⟩
  have same : @Grammar.compile own grammar = .ok generator :=
    (grammar_compile_alike engine own "" "" grammar alike).trans compiled
  obtain ⟨table, -⟩ := @compiled_sound own (fun _ => True) grammar generator (fun _ _ => trivial) same
  have sound := (table number named found).procedure
  rw [regex] at sound
  obtain ⟨⟨text, read⟩, -, -⟩ := sound
  by_cases member : text ∈ grammar.patterns
  · exact ⟨text, member, (if_pos member).symm.trans read⟩
  · cases (if_neg member).symm.trans read

end

section

variable (one other : Pattern.Engine) (input input' : String)

theorem produce_alike (generator : Generator) (words : Words)
    (tested : ∀ (number : Nat) (named : NamedProcedure) (pattern : Pattern)
      (matched unmatched : Fragment), generator.procedures[number]? = some named →
        named.procedure = .regex pattern matched unmatched →
          other.isMatch pattern input' = one.isMatch pattern input)
    (depth : Nat) (fragment : Fragment) :
    @Generator.produce other generator ⟨words, input'⟩ depth fragment =
      @Generator.produce one generator ⟨words, input⟩ depth fragment := by
  induction depth generalizing fragment with
  | zero => cases fragment <;> simp only [Generator.produce]
  | succ depth ih =>
      cases fragment with
      | constant text => simp only [Generator.produce]
      | reference index =>
          have inside : @Generator.produce other generator ⟨words, input'⟩ depth =
              @Generator.produce one generator ⟨words, input⟩ depth := funext ih
          simp only [Generator.produce, inside]
          cases found : generator.procedures[index]? with
          | none => rfl
          | some named =>
              cases procedure : named.procedure with
              | concat | choose | optional | forward => simp only [procedure]; rfl
              | regex pattern matched unmatched =>
                  have same := tested index named pattern matched unmatched found procedure
                  simp only [procedure, Procedure.run, same]

theorem generate_alike (grammar : Grammar) (generator : Generator)
    (compiled : @Grammar.compile one grammar = .ok generator) (words : Words) (drawn : Nat)
    (alike : ∀ text ∈ grammar.patterns, SeenAlike one other input input' text) :
    @Generator.generate other generator ⟨words, input'⟩ drawn =
      @Generator.generate one generator ⟨words, input⟩ drawn := by
  unfold Generator.generate
  rw [produce_alike one other input input' generator words]
  intro number named pattern matched unmatched found regex
  obtain ⟨text, member, read⟩ := @table_patterns one grammar generator compiled number named pattern
    matched unmatched found regex
  exact (alike text member).found pattern read

end

@[reducible] def Pattern.Engine.finding (engine : Pattern.Engine) (finds : Pattern → String → Bool) :
    Pattern.Engine where
  read := engine.read
  isMatch := finds

section

variable [engine : Pattern.Engine]

def FoundAlike (patterns : List String) (input input' : String) : Prop :=
  ∀ text ∈ patterns, ∀ pattern, engine.read text = .ok pattern →
    engine.isMatch pattern input' = engine.isMatch pattern input

-- Nothing but the input is ever tested: whatever an engine would find in another text, such as the one
-- produced so far, it is not asked.
theorem matches_determine_text (grammar : Grammar) (environment : Environment) (words : Words)
    (input : String) (limit drawn : Nat) :
    (∀ input', FoundAlike (grammar.patterns ++ environment.patterns) input input' →
      grammar.sample ⟨words, input', limit⟩ environment drawn =
        grammar.sample ⟨words, input, limit⟩ environment drawn) ∧
    (∀ generator input', grammar.compile = .ok generator → FoundAlike grammar.patterns input input' →
      generator.generate ⟨words, input'⟩ drawn = generator.generate ⟨words, input⟩ drawn) ∧
    (∀ finds : Pattern → String → Bool,
      (∀ pattern, finds pattern input = engine.isMatch pattern input) →
        @Grammar.sample (engine.finding finds) grammar ⟨words, input, limit⟩ environment drawn =
            grammar.sample ⟨words, input, limit⟩ environment drawn ∧
          ∀ generator, grammar.compile = .ok generator →
            @Generator.generate (engine.finding finds) generator ⟨words, input⟩ drawn =
              generator.generate ⟨words, input⟩ drawn) ∧
    (grammar.patterns = [] → ∀ input',
      (environment.patterns = [] → grammar.sample ⟨words, input', limit⟩ environment drawn =
          grammar.sample ⟨words, input, limit⟩ environment drawn) ∧
        ∀ generator, grammar.compile = .ok generator →
          generator.generate ⟨words, input'⟩ drawn = generator.generate ⟨words, input⟩ drawn) := by
  refine ⟨?_, ?_, ?_, ?_⟩
  · intro input' found
    refine sample_alike engine engine input input' grammar environment words limit drawn ?_ ?_
    · exact fun text member => ⟨rfl, found text (List.mem_append_left _ member)⟩
    · exact fun text member => ⟨rfl, found text (List.mem_append_right _ member)⟩
  · intro generator input' compiled found
    exact generate_alike engine engine input input' grammar generator compiled words drawn
      fun text member => ⟨rfl, found text member⟩
  · intro finds same
    have alike : ∀ text, SeenAlike engine (engine.finding finds) input input text :=
      fun text => ⟨rfl, fun pattern _ => same pattern⟩
    refine ⟨?_, fun generator compiled => ?_⟩
    · exact sample_alike engine _ input input grammar environment words limit drawn
        (fun text _ => alike text) fun text _ => alike text
    · exact generate_alike engine _ input input grammar generator compiled words drawn
        fun text _ => alike text
  · intro none input'
    have alike : ∀ text ∈ grammar.patterns, SeenAlike engine engine input input' text := by simp [none]
    refine ⟨fun bound => ?_, fun generator compiled => ?_⟩
    · exact sample_alike engine engine input input' grammar environment words limit drawn alike
        (by simp [bound])
    · exact generate_alike engine engine input input' grammar generator compiled words drawn alike

end

-- & '^y' 'A' 'B'
def answer : Node :=
  .regex ⟨5, 1⟩ ⟨"^y", '\'', ⟨7, 4⟩⟩ (.literal ⟨"A", '\'', ⟨12, 3⟩⟩) (.literal ⟨"B", '\'', ⟨16, 3⟩⟩)

-- (= a & '^y' 'A' 'B' 'yes' a)
def answering : Grammar where
  opening := ⟨0, 1⟩
  statements :=
    [.define ⟨1, 1⟩ ⟨"a", ⟨3, 1⟩⟩ answer, .literal ⟨"yes", '\'', ⟨20, 5⟩⟩, .name ⟨"a", ⟨26, 1⟩⟩]
  closing := ⟨27, 1⟩

-- ('x' ?'z')
def unconcerned : Grammar where
  opening := ⟨0, 1⟩
  statements := [.literal ⟨"x", '\'', ⟨1, 3⟩⟩, .optional ⟨5, 1⟩ (.literal ⟨"z", '\'', ⟨6, 3⟩⟩)]
  closing := ⟨9, 1⟩

theorem matches_determine_text_answering :
    let elsewhere : Pattern → String → Bool := fun pattern text =>
      text != "no" || Pattern.Engine.isMatch pattern text
    ∃ generator, answering.compile = .ok generator ∧
      FoundAlike answering.patterns "no" "not" ∧
      (answering.sample ⟨fun _ => 0, "no", 0⟩ Bindings.empty 0).result =
        .ok ("yesB", Bindings.empty.insert "a" answer) ∧
      answering.sample ⟨fun _ => 0, "not", 0⟩ Bindings.empty 0 =
        answering.sample ⟨fun _ => 0, "no", 0⟩ Bindings.empty 0 ∧
      generator.generate ⟨fun _ => 0, "not"⟩ 0 = generator.generate ⟨fun _ => 0, "no"⟩ 0 ∧
      @Generator.generate (Pattern.Engine.finding inferInstance elsewhere) generator
        ⟨fun _ => 0, "no"⟩ 0 = generator.generate ⟨fun _ => 0, "no"⟩ 0 ∧
      unconcerned.sample ⟨fun _ => 0, "y", 0⟩ Bindings.empty 0 =
        unconcerned.sample ⟨fun _ => 0, "", 0⟩ Bindings.empty 0 := by
  intro elsewhere
  have found : FoundAlike answering.patterns "no" "not" := by
    intro text member pattern read
    obtain rfl : text = "^y" := List.mem_singleton.mp member
    have tested : (Pattern.Engine.read "^y").map (fun pattern =>
        (Pattern.Engine.isMatch pattern "no", Pattern.Engine.isMatch pattern "not")) =
          .ok (false, false) := rfl
    rw [read] at tested
    obtain ⟨first, second⟩ := Prod.mk.inj (Except.ok.inj tested)
    exact second.trans first.symm
  obtain ⟨inputs, texts, predicates, -⟩ :=
    matches_determine_text answering Bindings.empty (fun _ => 0) "no" 0 0
  obtain ⟨-, -, -, ignored⟩ :=
    matches_determine_text unconcerned Bindings.empty (fun _ => 0) "" 0 0
  refine ⟨_, rfl, found, rfl, inputs "not" found, texts _ "not" rfl found, ?_, ?_⟩
  · exact (predicates elsewhere fun _ => rfl).2 _ rfl
  · exact (ignored rfl "y").1 rfl

end TextGrammar

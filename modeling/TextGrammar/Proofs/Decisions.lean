import TextGrammar.Proofs.RecursionLimit

set_option autoImplicit false

namespace TextGrammar

-- As far as they have come the runs have taken the same decisions, and the same expansions are open.
structure Run.InStep (run other : Run) : Prop where
  decided : run.decisions = other.decisions
  opened : ∀ name, run.openCount name = other.openCount name

namespace Run

theorem in_step_record (run other : Run) (inStep : run.InStep other) (drawn drawn' : Nat)
    (decision : Decision) : (run.record drawn decision).InStep (other.record drawn' decision) :=
  ⟨congrArg (decision :: ·) inStep.decided, inStep.opened⟩

theorem in_step_enter (run other : Run) (inStep : run.InStep other) (name : String) :
    (run.enter name).InStep (other.enter name) := by
  refine ⟨inStep.decided, fun other => ?_⟩
  rw [open_count_enter, open_count_enter, inStep.opened, inStep.opened]

theorem next_decision (run other : Run) (inStep : run.InStep other) (whole : List Decision)
    (decision decision' : Decision) (part : decision :: run.decisions <:+ whole)
    (part' : decision' :: other.decisions <:+ whole) : decision = decision' := by
  rw [inStep.decided] at part
  have nested := List.suffix_of_suffix_length_le part part' (Nat.le_refl _)
  exact (List.cons.inj (nested.eq_of_length rfl)).1

end Run

section

variable [Pattern.Engine]

theorem evaluates_decides (setting : Setting) (task : Task) (environment : Environment)
    (run last : Run) (result : Result)
    (evaluates : Evaluates setting task environment run result last) :
    run.decisions <:+ last.decisions := by
  obtain ⟨decisions, taken, -⟩ := evaluates_continues _ _ _ _ _ _ evaluates
  exact ⟨decisions.reverse, taken.symm⟩

theorem evaluates_in_step (setting setting' : Setting) (task task' : Task)
    (environment environment' : Environment) (run run' last last' : Run) (result result' : Result)
    (one : Evaluates setting task environment run result last)
    (other : Evaluates setting' task' environment' run' result' last') (inStep : run.InStep run')
    (decided : last.decisions = last'.decisions) : last.InStep last' := by
  refine ⟨decided, fun name => ?_⟩
  rw [evaluates_restores _ _ _ _ _ _ one, evaluates_restores _ _ _ _ _ _ other, inStep.opened]

-- By induction on the first evaluation. What both runs decide from here on goes into one list, so they
-- decide alike whenever they decide; where nothing is decided the statement, the environment and the
-- open expansions leave one way to go.
theorem evaluates_decided (setting setting' : Setting) (limits : setting.limit = setting'.limit)
    (whole : List Decision) (task : Task) (environment : Environment) (run run' last last' : Run)
    (result result' : Result) (one : Evaluates setting task environment run result last)
    (other : Evaluates setting' task environment run' result' last') (inStep : run.InStep run')
    (part : last.decisions <:+ whole) (part' : last'.decisions <:+ whole) :
    result = result' ∧ last.decisions = last'.decisions := by
  induction one generalizing run' last' result' with
  | literal | define | nil =>
      cases other
      exact ⟨rfl, inStep.decided⟩
  | unresolved n environment run missing =>
      cases other with
      | unresolved => exact ⟨rfl, inStep.decided⟩
      | limited _ _ _ _ bound | expanded _ _ _ _ _ _ bound => cases missing.symm.trans bound
  | limited n environment run body bound full =>
      cases other with
      | unresolved _ _ _ missing => cases missing.symm.trans bound
      | limited => exact ⟨by rw [limits], inStep.decided⟩
      | expanded _ _ _ _ _ _ _ free =>
          rw [limits, inStep.opened] at full
          exact absurd full (Nat.not_lt.mpr free)
  | expanded n environment run last body result bound free _ ih =>
      cases other with
      | unresolved _ _ _ missing => cases missing.symm.trans bound
      | limited _ _ _ _ _ full =>
          rw [← limits, ← inStep.opened] at full
          exact absurd full (Nat.not_lt.mpr free)
      | expanded _ _ _ last' _ _ bound' _ inner =>
          cases bound.symm.trans bound'
          exact ih _ last' _ inner (Run.in_step_enter _ _ inStep n.text) part part'
  | group _ _ _ _ _ _ _ _ ih =>
      cases other with
      | group _ _ _ _ _ _ _ inner => exact ih _ _ _ inner inStep part part'
  | chooseNone =>
      cases other with
      | chooseNone => exact ⟨rfl, inStep.decided⟩
      | choose _ _ _ _ _ _ _ _ _ _ _ some => exact absurd rfl some
      | chooseBeyond _ _ _ _ _ _ _ _ some => exact absurd rfl some
  | choose _ _ _ alternatives _ run last _ index drawn chosen some _ found inner ih =>
      have begun := (evaluates_decides _ _ _ _ _ _ inner).trans part
      cases other with
      | chooseNone => exact absurd rfl some
      | choose _ _ _ _ _ _ _ _ _ drawn' _ _ _ found' inner' =>
          have begun' := (evaluates_decides _ _ _ _ _ _ inner').trans part'
          cases Run.next_decision _ _ inStep whole _ _ begun begun'
          cases found.symm.trans found'
          exact ih _ _ _ inner' (Run.in_step_record _ _ inStep drawn drawn' _) part part'
      | chooseBeyond _ _ _ _ _ _ _ _ _ _ beyond =>
          cases Run.next_decision _ _ inStep whole _ _ begun part'
          cases found.symm.trans beyond
  | chooseBeyond _ _ _ alternatives _ run index drawn some _ beyond =>
      cases other with
      | chooseNone => exact absurd rfl some
      | choose _ _ _ _ _ _ _ _ _ _ _ _ _ found inner =>
          have begun := (evaluates_decides _ _ _ _ _ _ inner).trans part'
          cases Run.next_decision _ _ inStep whole _ _ part begun
          cases found.symm.trans beyond
      | chooseBeyond =>
          cases Run.next_decision _ _ inStep whole _ _ part part'
          exact ⟨rfl, congrArg (_ :: ·) inStep.decided⟩
  | taken _ _ _ run last _ drawn _ inner ih =>
      have begun := (evaluates_decides _ _ _ _ _ _ inner).trans part
      cases other with
      | taken _ _ _ _ _ _ drawn' _ inner' =>
          exact ih _ _ _ inner' (Run.in_step_record _ _ inStep drawn drawn' _) part part'
      | passed => cases Run.next_decision _ _ inStep whole _ _ begun part'
  | passed _ _ _ run drawn =>
      cases other with
      | taken _ _ _ _ _ _ _ _ inner =>
          have begun := (evaluates_decides _ _ _ _ _ _ inner).trans part'
          cases Run.next_decision _ _ inStep whole _ _ part begun
      | passed => exact ⟨rfl, congrArg (_ :: ·) inStep.decided⟩
  | invalid _ _ _ _ _ _ fault read =>
      cases other with
      | invalid _ _ _ _ _ _ _ read' =>
          cases read.symm.trans read'
          exact ⟨rfl, inStep.decided⟩
      | matched _ _ _ _ _ _ _ _ _ read' | unmatched _ _ _ _ _ _ _ _ _ read' =>
          cases read.symm.trans read'
  | matched _ _ _ _ _ run last _ pattern read _ inner ih =>
      have begun := (evaluates_decides _ _ _ _ _ _ inner).trans part
      cases other with
      | invalid _ _ _ _ _ _ _ read' => cases read.symm.trans read'
      | matched _ _ _ _ _ _ _ _ _ _ _ inner' =>
          exact ih _ _ _ inner' (Run.in_step_record _ _ inStep _ _ _) part part'
      | unmatched _ _ _ _ _ _ _ _ _ _ _ inner' =>
          have begun' := (evaluates_decides _ _ _ _ _ _ inner').trans part'
          cases Run.next_decision _ _ inStep whole _ _ begun begun'
  | unmatched _ _ _ _ _ run last _ pattern read _ inner ih =>
      have begun := (evaluates_decides _ _ _ _ _ _ inner).trans part
      cases other with
      | invalid _ _ _ _ _ _ _ read' => cases read.symm.trans read'
      | matched _ _ _ _ _ _ _ _ _ _ _ inner' =>
          have begun' := (evaluates_decides _ _ _ _ _ _ inner').trans part'
          cases Run.next_decision _ _ inStep whole _ _ begun begun'
      | unmatched _ _ _ _ _ _ _ _ _ _ _ inner' =>
          exact ih _ _ _ inner' (Run.in_step_record _ _ inStep _ _ _) part part'
  | failed _ _ _ _ _ _ error _ ih =>
      cases other with
      | failed _ _ _ _ _ _ _ head => exact ih _ _ _ head inStep part part'
      | cons _ _ _ _ _ _ _ middle _ _ head tail =>
          have begun := (evaluates_decides _ _ _ _ _ _ tail).trans part'
          cases (ih _ _ _ head inStep part begun).1
  | cons _ text _ _ _ between _ middle _ _ begin rest headDecided tailDecided =>
      have begun := (evaluates_decides _ _ _ _ _ _ rest).trans part
      cases other with
      | failed _ _ _ _ _ _ _ head => cases (headDecided _ _ _ head inStep begun part').1
      | cons _ _ _ _ _ _ _ _ _ _ head tail =>
          have begun' := (evaluates_decides _ _ _ _ _ _ tail).trans part'
          obtain ⟨same, decided⟩ := headDecided _ _ _ head inStep begun begun'
          cases same
          exact tailDecided _ _ _ tail
            (evaluates_in_step _ _ _ _ _ _ _ _ _ _ _ _ begin head inStep decided) part part'

theorem decisions_determine_outcome (grammar : Grammar) (environment : Environment) (limit : Nat)
    (words words' : Words) (input input' : String) (drawn drawn' : Nat)
    (part : (grammar.sample ⟨words, input, limit⟩ environment drawn).decisions <+:
      (grammar.sample ⟨words', input', limit⟩ environment drawn').decisions) :
    (grammar.sample ⟨words, input, limit⟩ environment drawn).decisions =
        (grammar.sample ⟨words', input', limit⟩ environment drawn').decisions ∧
      (grammar.sample ⟨words, input, limit⟩ environment drawn).result =
        (grammar.sample ⟨words', input', limit⟩ environment drawn').result := by
  obtain ⟨result, last, evaluates, same⟩ :=
    sample_outcome grammar ⟨words, input, limit⟩ environment drawn
  obtain ⟨result', last', evaluates', same'⟩ :=
    sample_outcome grammar ⟨words', input', limit⟩ environment drawn'
  rw [same, same'] at part ⊢
  obtain ⟨results, decided⟩ := evaluates_decided ⟨words, input, limit⟩ ⟨words', input', limit⟩ rfl
    last'.decisions _ _ _ _ last last' _ _ evaluates evaluates' ⟨rfl, fun _ => rfl⟩
    (List.reverse_prefix.mp part) (List.suffix_refl _)
  exact ⟨congrArg List.reverse decided, results⟩

end

-- (= a 'x' ?a & 'y' b 'z')
def forking : Grammar where
  opening := ⟨0, 1⟩
  statements :=
    [.define ⟨1, 1⟩ ⟨"a", ⟨3, 1⟩⟩ (.literal ⟨"x", '\'', ⟨5, 3⟩⟩),
      .optional ⟨9, 1⟩ (.name ⟨"a", ⟨10, 1⟩⟩),
      .regex ⟨12, 1⟩ ⟨"y", '\'', ⟨14, 3⟩⟩ (.name ⟨"b", ⟨18, 1⟩⟩) (.literal ⟨"z", '\'', ⟨20, 3⟩⟩)]
  closing := ⟨23, 1⟩

theorem decisions_determine_outcome_forking :
    let one := forking.sample ⟨fun _ => 0, "y", 3⟩ Bindings.empty 0
    let other := forking.sample ⟨Words.steps 7 1, "xyz", 3⟩ Bindings.empty 5
    one.decisions = [.optional true, .regex "y" true] ∧
      one.result = .error (.unresolved "b" ⟨18, 1⟩) ∧ one.decisions <+: other.decisions ∧
      one.decisions = other.decisions ∧ one.result = other.result := by
  intro one other
  have part : one.decisions <+: other.decisions := ⟨[], rfl⟩
  exact ⟨rfl, rfl, part, decisions_determine_outcome forking Bindings.empty 3 (fun _ => 0)
    (Words.steps 7 1) "y" "xyz" 0 5 part⟩

end TextGrammar

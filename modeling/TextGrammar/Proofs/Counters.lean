import TextGrammar.Proofs.Decisions
import TextGrammar.Proofs.Nesting

set_option autoImplicit false

namespace TextGrammar

structure Run.Alike (run other : Run) : Prop where
  drawn : run.drawn = other.drawn
  inStep : run.InStep other

theorem alike_record (run other : Run) (alike : run.Alike other) (drawn : Nat) (decision : Decision) :
    (run.record drawn decision).Alike (other.record drawn decision) :=
  ⟨rfl, Run.in_step_record run other alike.inStep drawn drawn decision⟩

theorem alike_enter (run other : Run) (alike : run.Alike other) (name : String) :
    (run.enter name).Alike (other.enter name) :=
  ⟨alike.drawn, Run.in_step_enter run other alike.inStep name⟩

theorem alike_leave (run other : Run) (alike : run.Alike other) (name : String) :
    (run.leave name).Alike (other.leave name) := by
  refine ⟨alike.drawn, alike.inStep.decided, fun other => ?_⟩
  rw [open_count_leave, open_count_leave, alike.inStep.opened, alike.inStep.opened]

namespace Evaluation

variable {α β : Type}

-- The evaluation ends what it begins, and does the same in runs that are alike.
structure Balanced (evaluation : Evaluation α) : Prop where
  restores : ∀ run name, (evaluation.outcome run).2.openCount name = run.openCount name
  alike : ∀ run other, run.Alike other →
    (evaluation.outcome run).1 = (evaluation.outcome other).1 ∧
      (evaluation.outcome run).2.Alike (evaluation.outcome other).2

theorem balanced_pure (value : α) : (pure value : Evaluation α).Balanced :=
  ⟨fun _ _ => rfl, fun _ _ alike => ⟨rfl, alike⟩⟩

theorem balanced_throw (error : SamplingError) : (throw error : Evaluation α).Balanced :=
  ⟨fun _ _ => rfl, fun _ _ alike => ⟨rfl, alike⟩⟩

theorem balanced_bind (first : Evaluation α) (rest : α → Evaluation β) (begins : first.Balanced)
    (goesOn : ∀ value, (rest value).Balanced) : (first >>= rest).Balanced := by
  constructor
  · intro run name
    have restored := begins.restores run name
    rw [outcome_bind]
    cases ran : first.outcome run with
    | mk result between =>
        rw [ran] at restored
        cases result with
        | error error => exact restored
        | ok value => exact ((goesOn value).restores between name).trans restored
  · intro run other alike
    have both := begins.alike run other alike
    rw [outcome_bind, outcome_bind]
    cases ran : first.outcome run with
    | mk result between =>
        cases ranOther : first.outcome other with
        | mk result' between' =>
            rw [ran, ranOther] at both
            obtain ⟨results, runs⟩ := both
            obtain rfl : result = result' := results
            cases result with
            | error error => exact ⟨rfl, runs⟩
            | ok value => exact (goesOn value).alike between between' runs

end Evaluation

namespace Setting

open Evaluation

theorem balanced_choose (setting : Setting) (count : Nat) : (setting.choose count).Balanced := by
  constructor
  · intro run name
    rw [outcome_choose setting count _ _ run rfl]
    rfl
  · intro run other alike
    rw [outcome_choose setting count _ _ run rfl, outcome_choose setting count _ _ other rfl,
      alike.drawn]
    exact ⟨rfl, alike_record run other alike _ _⟩

theorem balanced_toss (setting : Setting) : setting.toss.Balanced := by
  constructor
  · intro run name
    rw [outcome_toss setting _ _ run rfl]
    rfl
  · intro run other alike
    rw [outcome_toss setting _ _ run rfl, outcome_toss setting _ _ other rfl, alike.drawn]
    exact ⟨rfl, alike_record run other alike _ _⟩

theorem balanced_test [Pattern.Engine] (setting : Setting) (source : Literal) :
    (setting.test source).Balanced := by
  constructor
  · intro run name
    rw [outcome_test]
    cases Pattern.Engine.read source.text <;> rfl
  · intro run other alike
    rw [outcome_test, outcome_test]
    cases Pattern.Engine.read source.text with
    | error fault => exact ⟨rfl, alike⟩
    | ok pattern =>
        refine ⟨rfl, ?_⟩
        rw [alike.drawn]
        exact alike_record run other alike _ _

theorem balanced_resolve (name : Name) (environment : Environment) :
    (resolve name environment).Balanced := by
  unfold resolve
  cases environment.get? name.text with
  | none => exact balanced_throw _
  | some body => exact balanced_pure body

-- The one place where a counter changes: what is inside gives back the counter that was raised for it.
theorem balanced_expanding {α : Type} (setting : Setting) (name : Name) (inside : Evaluation α)
    (balanced : inside.Balanced) : (setting.expanding name inside).Balanced := by
  constructor
  · intro run other
    rw [outcome_expanding]
    split
    · rfl
    · exact leave_restores run _ name.text (balanced.restores (run.enter name.text)) other
  · intro run other alike
    rw [outcome_expanding, outcome_expanding, alike.inStep.opened]
    split
    · exact ⟨rfl, alike⟩
    · obtain ⟨results, runs⟩ := balanced.alike _ _ (alike_enter run other alike name.text)
      exact ⟨results, alike_leave _ _ runs name.text⟩

section

variable [Pattern.Engine]

mutual

theorem balanced_evaluate (setting : Setting) (expand : Expansion)
    (expands : ∀ name environment, (expand name environment).Balanced) (node : Node)
    (environment : Environment) : (setting.evaluate expand node environment).Balanced := by
  cases node with
  | literal l =>
      rw [evaluate]
      exact balanced_pure _
  | name n =>
      rw [evaluate]
      exact expands n environment
  | group opening statements closing =>
      rw [evaluate]
      exact balanced_evaluate_all setting expand expands "" statements environment
  | define op n body =>
      rw [evaluate]
      exact balanced_pure _
  | choose op opening alternatives closing =>
      rw [evaluate]
      split
      · exact balanced_pure _
      · exact balanced_bind _ _ (balanced_choose setting _) fun index =>
          balanced_evaluate_nth setting expand expands index alternatives environment
  | optional op body =>
      rw [evaluate]
      refine balanced_bind _ _ (balanced_toss setting) fun taken => ?_
      split
      · exact balanced_evaluate setting expand expands body environment
      · exact balanced_pure _
  | regex op pattern matched unmatched =>
      rw [evaluate]
      refine balanced_bind _ _ (balanced_test setting pattern) fun found => ?_
      split
      · exact balanced_evaluate setting expand expands matched environment
      · exact balanced_evaluate setting expand expands unmatched environment

theorem balanced_evaluate_all (setting : Setting) (expand : Expansion)
    (expands : ∀ name environment, (expand name environment).Balanced) (output : String)
    (nodes : List Node) (environment : Environment) :
    (setting.evaluateAll expand output nodes environment).Balanced := by
  cases nodes with
  | nil =>
      rw [evaluateAll]
      exact balanced_pure _
  | cons node rest =>
      rw [evaluateAll]
      exact balanced_bind _ _ (balanced_evaluate setting expand expands node environment)
        fun (text, between) =>
          balanced_evaluate_all setting expand expands (output ++ text) rest between

theorem balanced_evaluate_nth (setting : Setting) (expand : Expansion)
    (expands : ∀ name environment, (expand name environment).Balanced) (index : Nat)
    (nodes : List Node) (environment : Environment) :
    (setting.evaluateNth expand index nodes environment).Balanced := by
  cases nodes with
  | nil =>
      rw [evaluateNth]
      exact balanced_pure _
  | cons node rest =>
      cases index with
      | zero =>
          rw [evaluateNth]
          exact balanced_evaluate setting expand expands node environment
      | succ index =>
          rw [evaluateNth]
          exact balanced_evaluate_nth setting expand expands index rest environment

end

theorem balanced_expand (setting : Setting) (room : Nat) (name : Name) (environment : Environment) :
    (setting.expand room name environment).Balanced := by
  induction room generalizing name environment with
  | zero =>
      rw [expand]
      exact balanced_bind _ _ (balanced_resolve name environment) fun _ => balanced_throw _
  | succ room ih =>
      rw [expand]
      exact balanced_bind _ _ (balanced_resolve name environment) fun body =>
        balanced_expanding setting name _ (balanced_evaluate setting _ ih body environment)

end

end Setting

def State.Raises (state next : State) (error : SamplingError) : Prop :=
  (∃ task environment, state.moment = .evaluate task environment) ∧
    next.moment = .returned (.error error)

def State.Expands (state : State) (name : Name) : Prop :=
  ∃ environment body, state.moment = .evaluate (.one (.name name)) environment ∧
    environment.get? name.text = some body

structure Request where
  input : String
  environment : Environment

section

variable [Pattern.Engine]

theorem step_raises_limit (setting : Setting) (state next : State) (step : Step setting state next)
    (counted : Counted setting.limit state) (name : String) (limit : Nat) (place : Span) :
    state.Raises next (.recursionLimit name limit place) ↔
      limit = setting.limit ∧ state.Expands ⟨name, place⟩ ∧
        openExpansions name state.calls = setting.limit + 1 := by
  constructor
  · rintro ⟨⟨task, environment, begins⟩, raised⟩
    cases step with
    | limited n body calls environment run bound full =>
        cases raised
        have exactly := counted.exactly n.text
        have most := counted.limited n.text
        dsimp only at exactly most ⊢
        exact ⟨rfl, ⟨environment, body, rfl, bound⟩, by omega⟩
    | literal | unresolved | define | chooseNone | passed | invalid | finish => cases raised
    | expand | group | choose | taken | tested | begin => cases raised
    | append | failed | give | leave => cases begins
  · rintro ⟨rfl, ⟨environment, body, begins, bound⟩, full⟩
    refine ⟨⟨_, _, begins⟩, ?_⟩
    cases step with
    | unresolved n calls _ run missing =>
        cases begins
        cases missing.symm.trans bound
    | limited n body' calls _ run bound' full' =>
        cases begins
        rfl
    | expand n body' calls _ run bound' free =>
        cases begins
        have exactly := counted.exactly name
        dsimp only at exactly free full
        omega
    | literal | define | group | chooseNone | choose | taken | passed | invalid | tested => cases begins
    | finish | begin | append | failed | give | leave => cases begins

-- The counters hang on the calls in progress alone, so a call that has ended has left no trace in them.
theorem call_restores (setting : Setting) (state : State) (counted : Counted setting.limit state)
    (result : Result) (last : Run)
    (returns : Reaches setting state ⟨state.calls, .returned result, last⟩) (name : String) :
    last.openCount name = state.run.openCount name := by
  have ended := reaches_counted setting state _ returns counted
  exact (ended.exactly name).trans (counted.exactly name).symm

namespace Grammar

def sampleBehind (grammar : Grammar) (setting : Setting) (environment : Environment) (run : Run) :
    Result × Run :=
  let room := setting.room grammar.statements environment
  (setting.evaluateAll (setting.expand room) "" grammar.statements environment).outcome run

-- One call after the other on one state. No call clears the counters; each lists its own decisions.
def sampleInTurn (grammar : Grammar) (words : Words) (limit : Nat) : Run → List Request → List Outcome
  | _, [] => []
  | run, request :: requests =>
      let setting : Setting := ⟨words, request.input, limit⟩
      let (result, last) := grammar.sampleBehind setting request.environment { run with decisions := [] }
      last.outcome result :: sampleInTurn grammar words limit last requests

-- Every call on a state of its own, which knows how many words were drawn before and nothing else.
def sampleAfresh (grammar : Grammar) (words : Words) (limit : Nat) : Nat → List Request → List Outcome
  | _, [] => []
  | drawn, request :: requests =>
      let outcome := grammar.sample ⟨words, request.input, limit⟩ request.environment drawn
      outcome :: sampleAfresh grammar words limit outcome.drawn requests

theorem sample_behind_alike (grammar : Grammar) (setting : Setting) (environment : Environment)
    (run : Run) (drawn : Nat) (alike : run.Alike (Run.start drawn)) :
    (grammar.sampleBehind setting environment run).2.outcome
        (grammar.sampleBehind setting environment run).1 =
      grammar.sample setting environment drawn := by
  obtain ⟨results, runs⟩ := (Setting.balanced_evaluate_all setting _ (Setting.balanced_expand setting
    (setting.room grammar.statements environment)) "" grammar.statements environment).alike _ _ alike
  unfold sampleBehind Run.outcome
  dsimp only
  rw [results, runs.drawn, runs.inStep.decided]
  rfl

theorem sample_in_turn (grammar : Grammar) (words : Words) (limit : Nat) (requests : List Request)
    (run : Run) (closed : ∀ name, run.openCount name = 0) :
    grammar.sampleInTurn words limit run requests =
      grammar.sampleAfresh words limit run.drawn requests := by
  induction requests generalizing run with
  | nil => rfl
  | cons request requests ih =>
      let setting : Setting := ⟨words, request.input, limit⟩
      let begun : Run := { run with decisions := [] }
      have same := grammar.sample_behind_alike setting request.environment begun run.drawn
        ⟨rfl, rfl, closed⟩
      have restored := (Setting.balanced_evaluate_all setting _ (Setting.balanced_expand setting
        (setting.room grammar.statements request.environment)) "" grammar.statements
        request.environment).restores begun
      have others := ih (grammar.sampleBehind setting request.environment begun).2
        fun name => (restored name).trans (closed name)
      rw [sampleInTurn, sampleAfresh]
      dsimp only
      rw [same, others, ← same]
      rfl

end Grammar

theorem counters_count_expansions (grammar : Grammar) (setting : Setting) (environment : Environment)
    (drawn : Nat) :
    (∀ state, Reaches setting (.start grammar environment drawn) state →
      (∀ name, state.run.openCount name = openExpansions name state.calls ∧
        state.run.openCount name ≤ setting.limit + 1) ∧
      (∀ result last, Reaches setting state ⟨state.calls, .returned result, last⟩ →
        ∀ name, last.openCount name = state.run.openCount name) ∧
      ∀ next, Step setting state next → ∀ name limit place,
        state.Raises next (.recursionLimit name limit place) ↔
          limit = setting.limit ∧ state.Expands ⟨name, place⟩ ∧
            openExpansions name state.calls = setting.limit + 1) ∧
    (setting.words.Serve drawn (grammar.sample setting environment drawn).decisions →
      ∃ last, Reaches setting (.start grammar environment drawn)
          ⟨[], .returned (grammar.sample setting environment drawn).result, last⟩ ∧
        grammar.sample setting environment drawn =
          last.outcome (grammar.sample setting environment drawn).result) ∧
    (∀ room environment,
      (∀ node, (setting.evaluate (setting.expand room) node environment).Balanced) ∧
      (∀ name, (setting.expand room name environment).Balanced) ∧
      ∀ output nodes, (setting.evaluateAll (setting.expand room) output nodes environment).Balanced) ∧
    ∀ requests, grammar.sampleInTurn setting.words setting.limit (Run.start drawn) requests =
      grammar.sampleAfresh setting.words setting.limit drawn requests := by
  refine ⟨?_, fun serve => ?_, ?_, ?_⟩
  · intro state reaches
    have counted := reaches_counted setting _ state reaches
      (start_counted grammar setting environment drawn)
    refine ⟨fun name => ⟨counted.exactly name, ?_⟩, call_restores setting state counted, ?_⟩
    · exact (counted.exactly name).trans_le (counted.limited name)
    · exact fun next step => step_raises_limit setting state next step counted
  · obtain ⟨last, reaches, consumed, decided⟩ :=
      sample_reached grammar setting environment drawn serve
    exact ⟨last, reaches, by rw [Run.outcome, ← consumed, ← decided]⟩
  · intro room environment
    have expands := Setting.balanced_expand setting room
    exact ⟨fun node => Setting.balanced_evaluate setting _ expands node environment,
      fun name => expands name environment,
      fun output nodes => Setting.balanced_evaluate_all setting _ expands output nodes environment⟩
  · exact fun requests => grammar.sample_in_turn setting.words setting.limit requests _ fun _ => rfl

end

theorem counters_count_expansions_failed :
    let words := Words.script [0, 0, 0x8000000000000000]
    let setting : Setting := ⟨words, "", 1⟩
    let requests : List Request := [⟨"", Bindings.empty⟩, ⟨"", Bindings.empty⟩]
    words.Serve 0 (selfReferring.sample setting Bindings.empty 0).decisions ∧
      ((selfReferring.sampleInTurn words 1 (Run.start 0) requests).map fun outcome =>
          (outcome.result.map Prod.fst, outcome.drawn, outcome.decisions)) =
        [(.error (.recursionLimit "a" 1 default), 2, [.optional true, .optional true]),
          (.ok "", 3, [.optional false])] ∧
      ∃ last, Reaches setting (.start selfReferring Bindings.empty 0)
          ⟨[], .returned (.error (.recursionLimit "a" 1 default)), last⟩ ∧
        ∀ name, last.openCount name = 0 := by
  intro words setting requests
  have accepted : ∀ count drawn, 0 < count → words.Accepts count drawn := by
    intro count drawn positive
    refine ⟨3, ?_⟩
    have zero : words (drawn + 3) = 0 := by simp [words, Words.script]
    rw [zero]
    simp [indexOfWord]
  obtain ⟨reached, ended, -, session⟩ :=
    counters_count_expansions selfReferring setting Bindings.empty 0
  have serve := words.serve_accepted accepted 0 (selfReferring.sample setting Bindings.empty 0).decisions
  obtain ⟨last, reaches, -⟩ := ended serve
  refine ⟨serve, ?_, last, reaches, fun name => ((reached _ reaches).1 name).1⟩
  rw [session requests]
  rfl

end TextGrammar

import TextGrammar.Proofs.Termination
import TextGrammar.Pattern.Standard
import Mathlib.Algebra.BigOperators.Group.Finset.Piecewise

set_option autoImplicit false

namespace TextGrammar

def statementCalls : List Call → Nat
  | [] => 0
  | .statement :: calls => statementCalls calls + 1
  | .sequence .. :: calls | .expansion _ :: calls => statementCalls calls

def expansionCalls : List Call → Nat
  | [] => 0
  | .expansion _ :: calls => expansionCalls calls + 1
  | .sequence .. :: calls | .statement :: calls => expansionCalls calls

def openExpansions (name : String) : List Call → Nat
  | [] => 0
  | .expansion other :: calls =>
      if other = name then openExpansions name calls + 1 else openExpansions name calls
  | .sequence .. :: calls | .statement :: calls => openExpansions name calls

def State.statementsOpen (state : State) : Nat :=
  match state.moment with
  | .evaluate (.one _) _ => statementCalls state.calls + 1
  | .evaluate (.all ..) _ | .returned _ => statementCalls state.calls

structure Counted (limit : Nat) (state : State) : Prop where
  exactly : ∀ name, state.run.openCount name = openExpansions name state.calls
  limited : ∀ name, openExpansions name state.calls ≤ limit + 1

-- A tree of the height may be gone down inside the calls.
def Leaves (most : Nat) (calls : List Call) (height : Nat) : Prop :=
  height ≤ most ∧ statementCalls calls + height ≤ most * (expansionCalls calls + 1)

def Task.height : Task → Nat
  | .one node => node.height
  | .all _ nodes => Node.heightAll nodes

def Environment.Below (environment : Environment) (most : Nat) : Prop :=
  ∀ (name : String) (body : Node), environment.get? name = some body → body.height ≤ most

def Stacked (names : Finset String) (most : Nat) : List Call → Prop
  | [] => True
  | .statement :: calls => Leaves most calls 1 ∧ Stacked names most calls
  | .sequence _ rest :: calls =>
      UsesWithin names (Node.usesAll rest) ∧ Leaves most calls (Node.heightAll rest) ∧
        Stacked names most calls
  | .expansion name :: calls => name ∈ names ∧ Stacked names most calls

def Moment.Sized (names : Finset String) (most : Nat) (calls : List Call) : Moment → Prop
  | .evaluate task environment =>
      UsesWithin names task.uses ∧ Leaves most calls task.height ∧ environment.Within names ∧
        environment.Below most
  | .returned result =>
      ∀ text after, result = .ok (text, after) →
        Environment.Within after names ∧ Environment.Below after most

structure Sized (names : Finset String) (most : Nat) (state : State) : Prop where
  stacked : Stacked names most state.calls
  moment : state.moment.Sized names most state.calls

theorem leaves_less (most height less : Nat) (calls : List Call)
    (enough : Leaves most calls height) (fewer : less ≤ height) : Leaves most calls less :=
  ⟨fewer.trans enough.1, (Nat.add_le_add_left fewer _).trans enough.2⟩

theorem leaves_statement (most height : Nat) (calls : List Call)
    (enough : Leaves most calls (height + 1)) : Leaves most (.statement :: calls) height := by
  simp only [Leaves, statementCalls, expansionCalls] at *
  omega

theorem leaves_inside (most height less : Nat) (calls : List Call)
    (enough : Leaves most calls (height + 1)) (fewer : less ≤ height) :
    Leaves most calls 1 ∧ Leaves most (.statement :: calls) less :=
  ⟨leaves_less most _ 1 calls enough (Nat.le_add_left 1 height),
    leaves_less most _ less _ (leaves_statement most height calls enough) fewer⟩

-- An expansion starts a tree of its own.
theorem leaves_expansion (most height : Nat) (name : String) (calls : List Call)
    (enough : Leaves most calls 0) (fits : height ≤ most) :
    Leaves most (.expansion name :: calls) height := by
  have more : most * (expansionCalls calls + 1 + 1) = most * (expansionCalls calls + 1) + most :=
    Nat.mul_succ _ _
  simp only [Leaves, statementCalls, expansionCalls] at *
  omega

theorem stacked_leaves (names : Finset String) (most : Nat) (calls : List Call)
    (stacked : Stacked names most calls) : Leaves most calls 0 := by
  induction calls with
  | nil => exact ⟨Nat.zero_le _, Nat.zero_le _⟩
  | cons call calls ih =>
      cases call with
      | statement => exact leaves_statement most 0 calls stacked.1
      | sequence output rest => exact ih stacked.2.2
      | expansion name => exact leaves_expansion most 0 name calls (ih stacked.2) (Nat.zero_le _)

theorem expansions_counted (names : Finset String) (most : Nat) (calls : List Call)
    (stacked : Stacked names most calls) :
    expansionCalls calls = ∑ name ∈ names, openExpansions name calls := by
  induction calls with
  | nil => simp [expansionCalls, openExpansions]
  | cons call calls ih =>
      cases call with
      | statement => exact ih stacked.2
      | sequence output rest => exact ih stacked.2.2
      | expansion name =>
          obtain ⟨member, others⟩ := stacked
          have opened : ∀ other, openExpansions other (.expansion name :: calls) =
              openExpansions other calls + if name = other then 1 else 0 := by
            intro other
            rw [openExpansions]
            by_cases same : name = other <;> simp [same]
          have once : ∑ other ∈ names, (if name = other then 1 else 0) = 1 := by
            rw [Finset.sum_ite_eq, if_pos member]
          simp only [opened, Finset.sum_add_distrib, once, ← ih others, expansionCalls]

theorem insert_below (environment : Environment) (most : Nat) (name : String) (body : Node)
    (bodies : environment.Below most) (fits : body.height ≤ most) :
    Environment.Below (environment.insert name body) most := by
  intro other found bound
  rw [Bindings.get?_insert] at bound
  by_cases same : name = other
  · rw [if_pos same] at bound
    cases bound
    exact fits
  · rw [if_neg same] at bound
    exact bodies other found bound

theorem height_positive (node : Node) : 0 < node.height := by
  cases node <;> exact Nat.succ_pos _

theorem chosen_height (nodes : List Node) (node : Node) (member : node ∈ nodes) :
    node.height ≤ Node.heightAll nodes := by
  induction nodes with
  | nil => cases member
  | cons first rest ih =>
      cases member with
      | head => exact Nat.le_max_left _ _
      | tail _ later => exact Nat.le_trans (ih later) (Nat.le_max_right _ _)

theorem height_all_below (nodes : List Node) (most : Nat)
    (each : ∀ node ∈ nodes, node.height ≤ most) : Node.heightAll nodes ≤ most := by
  induction nodes with
  | nil => exact Nat.zero_le most
  | cons first rest ih =>
      have head := each first List.mem_cons_self
      have tail := ih fun node member => each node (List.mem_cons_of_mem first member)
      exact Nat.max_le.mpr ⟨head, tail⟩

section

variable [Pattern.Engine]

theorem step_counted (setting : Setting) (state next : State) (step : Step setting state next)
    (counted : Counted setting.limit state) : Counted setting.limit next := by
  obtain ⟨exactly, limited⟩ := counted
  cases step with
  | expand n body calls environment run bound free =>
      have least := exactly n.text
      constructor
      · intro other
        rw [open_count_enter, exactly, exactly, openExpansions]
        by_cases same : n.text = other
        · rw [if_pos same, if_pos same, same]
          rfl
        · rw [if_neg same, if_neg same]
          rfl
      · intro other
        rw [openExpansions]
        by_cases same : n.text = other
        · rw [if_pos same, ← same]
          exact Nat.succ_le_succ (least ▸ free)
        · rw [if_neg same]
          exact limited other
  | leave name calls result run =>
      constructor
      · intro other
        rw [open_count_leave, exactly, exactly, openExpansions, openExpansions, if_pos rfl]
        by_cases same : name = other
        · rw [if_pos same, same, Nat.add_sub_cancel]
        · rw [if_neg same, if_neg same]
      · intro other
        have most := limited other
        rw [openExpansions] at most
        by_cases same : name = other
        · rw [if_pos same] at most
          exact Nat.le_of_succ_le most
        · rw [if_neg same] at most
          exact most
  | literal | unresolved | limited | group | define | chooseNone | choose | taken | passed | invalid
  | tested | finish | begin | append | failed | give => exact ⟨exactly, limited⟩

theorem step_sized (setting : Setting) (names : Finset String) (most : Nat) (state next : State)
    (step : Step setting state next) (sized : Sized names most state) : Sized names most next := by
  obtain ⟨stacked, moment⟩ := sized
  cases step with
  | literal | chooseNone | passed | finish =>
      obtain ⟨within, enough, known, below⟩ := moment
      refine ⟨stacked, ?_⟩
      intro text after same
      cases same
      exact ⟨known, below⟩
  | unresolved | limited | invalid =>
      refine ⟨stacked, ?_⟩
      intro text after same
      cases same
  | expand n body calls environment run bound free =>
      obtain ⟨within, enough, known, below⟩ := moment
      have inside := leaves_statement most 0 calls enough
      exact ⟨⟨within n List.mem_cons_self, enough, stacked⟩, known n.text body bound,
        leaves_expansion most _ _ _ inside (below n.text body bound), known, below⟩
  | group opening closing statements calls environment run =>
      obtain ⟨within, enough, known, below⟩ := moment
      obtain ⟨one, inside⟩ := leaves_inside most _ _ calls enough (Nat.le_refl _)
      exact ⟨⟨one, stacked⟩, within, inside, known, below⟩
  | define op n body calls environment run =>
      have defined : Evaluates setting (.one (.define op n body)) environment run
          (.ok ("", environment.insert n.text body)) run := .define op n body environment run
      obtain ⟨within, enough, known, below⟩ := moment
      have lower := Nat.le_of_succ_le enough.1
      refine ⟨stacked, ?_⟩
      intro text after same
      have within := evaluates_within setting names _ _ _ _ _ defined within known text after same
      cases same
      exact ⟨within, insert_below environment most n.text body below lower⟩
  | choose op opening closing alternatives calls environment run index drawn chosen found =>
      obtain ⟨within, enough, known, below⟩ := moment
      have lower := chosen_height alternatives chosen (List.mem_of_getElem? found)
      obtain ⟨one, inside⟩ := leaves_inside most _ _ calls enough lower
      exact ⟨⟨one, stacked⟩, fun use member => within use (chosen_uses _ _ _ found use member),
        inside, known, below⟩
  | taken op body calls environment run drawn =>
      obtain ⟨within, enough, known, below⟩ := moment
      obtain ⟨one, inside⟩ := leaves_inside most _ _ calls enough (Nat.le_refl _)
      exact ⟨⟨one, stacked⟩, within, inside, known, below⟩
  | tested op source matched unmatched calls environment run pattern =>
      obtain ⟨within, enough, known, below⟩ := moment
      obtain ⟨first, second⟩ := (uses_within_append _ _ _).mp within
      cases Pattern.Engine.isMatch pattern setting.input with
      | true =>
          obtain ⟨one, inside⟩ := leaves_inside most _ _ calls enough (Nat.le_max_left _ _)
          exact ⟨⟨one, stacked⟩, first, inside, known, below⟩
      | false =>
          obtain ⟨one, inside⟩ := leaves_inside most _ _ calls enough (Nat.le_max_right _ _)
          exact ⟨⟨one, stacked⟩, second, inside, known, below⟩
  | begin output node rest calls environment run =>
      obtain ⟨within, enough, known, below⟩ := moment
      obtain ⟨first, others⟩ := (uses_within_append _ _ _).mp within
      exact ⟨⟨others, leaves_less most _ _ _ enough (Nat.le_max_right _ _), stacked⟩, first,
        leaves_less most _ node.height _ enough (Nat.le_max_left _ _), known, below⟩
  | append output text rest calls environment run =>
      obtain ⟨within, enough, others⟩ := stacked
      obtain ⟨known, below⟩ := moment text environment rfl
      exact ⟨others, within, enough, known, below⟩
  | failed output rest calls error run => exact ⟨stacked.2.2, moment⟩
  | give calls result run | leave name calls result run => exact ⟨stacked.2, moment⟩

omit [Pattern.Engine] in
theorem start_counted (grammar : Grammar) (setting : Setting) (environment : Environment)
    (drawn : Nat) : Counted setting.limit (.start grammar environment drawn) :=
  ⟨fun _ => rfl, fun _ => Nat.zero_le _⟩

theorem reaches_counted (setting : Setting) (state later : State)
    (reaches : Reaches setting state later) (counted : Counted setting.limit state) :
    Counted setting.limit later := by
  induction reaches with
  | refl => exact counted
  | tail _ step ih => exact step_counted setting _ _ step ih

omit [Pattern.Engine] in
theorem start_sized (grammar : Grammar) (environment : Environment) (drawn most : Nat)
    (trees : ∀ node ∈ grammar.statements, node.height ≤ most)
    (bound : ∀ node ∈ environment.values, node.height ≤ most) :
    Sized (grammar.namesUsed environment) most (.start grammar environment drawn) := by
  obtain ⟨within, bodies⟩ := names_used_within grammar environment
  have fits := height_all_below grammar.statements most trees
  have enough : Leaves most [] (Node.heightAll grammar.statements) := by
    simp only [Leaves, statementCalls, expansionCalls]
    omega
  have below : environment.Below most := fun name body found =>
    bound body (environment_values environment name body found)
  exact ⟨trivial, within, enough, bodies, below⟩

theorem reaches_sized (setting : Setting) (names : Finset String) (most : Nat)
    (state later : State) (reaches : Reaches setting state later)
    (sized : Sized names most state) : Sized names most later := by
  induction reaches with
  | refl => exact sized
  | tail _ step ih => exact step_sized setting names most _ _ step ih

omit [Pattern.Engine] in
theorem statements_bounded (limit most : Nat) (names : Finset String) (state : State)
    (counted : Counted limit state) (sized : Sized names most state) :
    state.statementsOpen ≤ most * (names.card * (limit + 1) + 1) := by
  obtain ⟨calls, moment, run⟩ := state
  obtain ⟨stacked, fits⟩ := sized
  have each : ∑ name ∈ names, openExpansions name calls ≤ names.card * (limit + 1) := by
    refine (Finset.sum_le_sum fun name _ => counted.limited name).trans_eq ?_
    exact Finset.sum_const_nat fun _ _ => rfl
  have few : expansionCalls calls ≤ names.card * (limit + 1) := by
    rwa [expansions_counted names most calls stacked]
  have deep : most * (expansionCalls calls + 1) ≤ most * (names.card * (limit + 1) + 1) :=
    Nat.mul_le_mul_left most (Nat.succ_le_succ few)
  refine Nat.le_trans ?_ deep
  cases moment with
  | returned result => exact (stacked_leaves names most calls stacked).2
  | evaluate task environment =>
      obtain ⟨within, enough, others⟩ := fits
      cases task with
      | all output nodes => exact (stacked_leaves names most calls stacked).2
      | one node => exact (leaves_less most _ 1 calls enough (height_positive node)).2

theorem sample_reached (grammar : Grammar) (setting : Setting) (environment : Environment)
    (drawn : Nat)
    (serve : setting.words.Serve drawn (grammar.sample setting environment drawn).decisions) :
    ∃ last, Reaches setting (.start grammar environment drawn)
        ⟨[], .returned (grammar.sample setting environment drawn).result, last⟩ ∧
      (grammar.sample setting environment drawn).drawn = last.drawn ∧
      (grammar.sample setting environment drawn).decisions = last.decisions.reverse := by
  obtain ⟨last, evaluates, consumed, decided⟩ := sample_evaluates grammar setting environment drawn
  have served : (Run.start drawn).Served setting.words last := by
    refine ⟨_, ?_, serve⟩
    rw [decided, List.reverse_reverse]
    exact (List.append_nil _).symm
  exact ⟨last, evaluates_reaches setting _ _ _ last _ served evaluates [], consumed, decided⟩

-- Whatever is decided, the run ends, its expansions and calls never lie deeper inside one another
-- than the limit and the trees allow, and the run that random words decide is one of these.
theorem evaluation_ends_bounded (grammar : Grammar) (setting : Setting) (environment : Environment)
    (drawn : Nat) :
    (¬ ∃ path : Nat → State, path 0 = .start grammar environment drawn ∧
      ∀ time, Step setting (path time) (path (time + 1))) ∧
    (∀ state, Reaches setting (.start grammar environment drawn) state →
      (state.Ended ∨ ∃ next, Step setting state next) ∧
      (∀ name, openExpansions name state.calls ≤ setting.limit + 1) ∧
      ∀ most, (∀ node ∈ grammar.statements, node.height ≤ most) →
        (∀ node ∈ environment.values, node.height ≤ most) →
          state.statementsOpen ≤
            most * ((grammar.namesUsed environment).card * (setting.limit + 1) + 1)) ∧
    (setting.words.Serve drawn (grammar.sample setting environment drawn).decisions →
      ∃ last, Reaches setting (.start grammar environment drawn)
          ⟨[], .returned (grammar.sample setting environment drawn).result, last⟩ ∧
        (grammar.sample setting environment drawn).drawn = last.drawn ∧
        (grammar.sample setting environment drawn).decisions = last.decisions.reverse) := by
  refine ⟨no_endless_steps setting _ (start_ends grammar setting environment drawn), ?_,
    sample_reached grammar setting environment drawn⟩
  intro state reaches
  have counted := reaches_counted setting _ state reaches
    (start_counted grammar setting environment drawn)
  refine ⟨steps_or_ended setting state, counted.limited, ?_⟩
  intro most trees bound
  have sized := reaches_sized setting _ most _ state reaches
    (start_sized grammar environment drawn most trees bound)
  exact statements_bounded setting.limit most _ state counted sized

end

def selfReferring : Grammar :=
  ⟨default, [.define default ⟨"a", default⟩ (.optional default (.name ⟨"a", default⟩)),
    .name ⟨"a", default⟩], default⟩

theorem evaluation_ends_bounded_self_referring :
    let setting : Setting := ⟨fun _ => 0, "", 1⟩
    let start := State.start selfReferring Bindings.empty 0
    ∃ last, Reaches setting start
        ⟨[], .returned (.error (.recursionLimit "a" 1 default)), last⟩ ∧
      start.statementsOpen ≤ 3 * (1 * (1 + 1) + 1) := by
  intro setting start
  have accepted : ∀ count drawn, 0 < count → setting.words.Accepts count drawn := fun count drawn _ =>
    ⟨0, by simp [setting, indexOfWord]⟩
  obtain ⟨-, bounded, reached⟩ := evaluation_ends_bounded selfReferring setting Bindings.empty 0
  obtain ⟨last, reaches, -⟩ := reached (setting.words.serve_accepted accepted 0 _)
  have deep := (bounded start .refl).2.2 3 (by decide) (by decide)
  exact ⟨last, reaches, deep⟩

end TextGrammar

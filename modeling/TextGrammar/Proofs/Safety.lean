import TextGrammar.Proofs.Checking
import TextGrammar.Proofs.Equivalence

set_option autoImplicit false

namespace TextGrammar

def Task.checkpoints : Task → List Checkpoint
  | .one node => node.checkpoints
  | .all _ nodes => Node.checkpointsAll nodes

def Environment.Extends (after environment : Environment) : Prop :=
  ∀ name, (environment.get? name).isSome → (after.get? name).isSome

theorem extends_insert (environment : Environment) (name : String) (body : Node) :
    Environment.Extends (environment.insert name body) environment := by
  intro other bound
  rw [Bindings.get?_insert]
  split
  · rfl
  · exact bound

def Environment.Everywhere (environment : Environment) (property : Checkpoint → Prop) : Prop :=
  ∀ (name : String) (body : Node), environment.get? name = some body →
    ∀ checkpoint ∈ body.checkpoints, property checkpoint

theorem everywhere_insert (environment : Environment) (property : Checkpoint → Prop) (name : String)
    (body : Node) (bodies : environment.Everywhere property)
    (own : ∀ checkpoint ∈ body.checkpoints, property checkpoint) :
    Environment.Everywhere (environment.insert name body) property := by
  intro other found bound
  rw [Bindings.get?_insert] at bound
  split at bound
  · cases bound
    exact own
  · exact bodies other found bound

namespace Node

theorem checkpoints_all_member (nodes : List Node) (node : Node) (member : node ∈ nodes) :
    ∀ checkpoint ∈ node.checkpoints, checkpoint ∈ checkpointsAll nodes := by
  intro checkpoint inside
  induction member with
  | head rest => exact List.mem_append_left _ inside
  | tail other _ ih => exact List.mem_append_right _ ih

mutual

theorem names_behind_definitions (node : Node) (names : List String) :
    Checkpoint.namesBehind names node.checkpoints = names ++ node.definitions.map Definition.name := by
  cases node with
  | literal l => rfl
  | name n => rfl
  | group opening statements closing => exact names_behind_definitions_all statements names
  | define op n body =>
      rw [checkpoints, Checkpoint.names_behind_append, names_behind_definitions body, definitions,
        List.map_append, ← List.append_assoc]
      rfl
  | choose op opening alternatives closing => exact names_behind_definitions_all alternatives names
  | optional op body => exact names_behind_definitions body names
  | regex op source matched unmatched =>
      have source : Checkpoint.namesBehind names [.pattern op source] = names := List.append_nil names
      rw [checkpoints, ← List.singleton_append, Checkpoint.names_behind_append, source,
        Checkpoint.names_behind_append, names_behind_definitions matched,
        names_behind_definitions unmatched, definitions, List.map_append, List.append_assoc]

theorem names_behind_definitions_all (nodes : List Node) (names : List String) :
    Checkpoint.namesBehind names (checkpointsAll nodes) =
      names ++ (definitionsAll nodes).map Definition.name := by
  cases nodes with
  | nil => rfl
  | cons node rest =>
      rw [checkpointsAll, Checkpoint.names_behind_append, names_behind_definitions node,
        names_behind_definitions_all rest, definitionsAll, List.map_append, List.append_assoc]

end

end Node

section

variable [Pattern.Engine]

-- What an error of a run blames: a use of a name, which was not bound when the run began or has been
-- expanded too often, or a pattern that cannot be read.
def Checkpoint.Blamed (setting : Setting) (environment : Environment) (property : Checkpoint → Prop) :
    SamplingError → Prop
  | .unresolved name place => property (.use ⟨name, place⟩) ∧ environment.get? name = none
  | .invalidPattern text fault place =>
      ∃ op source, property (.pattern op source) ∧ source.text = text ∧ source.span = place ∧
        Pattern.Engine.read text = .error fault
  | .recursionLimit name limit place => property (.use ⟨name, place⟩) ∧ limit = setting.limit

theorem blamed_extends (setting : Setting) (environment after : Environment)
    (property : Checkpoint → Prop) (error : SamplingError) (kept : after.Extends environment)
    (blamed : Checkpoint.Blamed setting after property error) :
    Checkpoint.Blamed setting environment property error := by
  cases error with
  | unresolved name place =>
      refine ⟨blamed.1, Option.not_isSome_iff_eq_none.mp fun bound => ?_⟩
      simpa [blamed.2] using kept name bound
  | invalidPattern | recursionLimit => exact blamed

def Blames (setting : Setting) (property : Checkpoint → Prop) (environment : Environment)
    (result : Result) : Prop :=
  match result with
  | .ok (_, after) => after.Everywhere property ∧ after.Extends environment
  | .error error => Checkpoint.Blamed setting environment property error

theorem evaluates_blames (setting : Setting) (property : Checkpoint → Prop) (task : Task)
    (environment : Environment) (run last : Run) (result : Result)
    (evaluates : Evaluates setting task environment run result last)
    (own : ∀ checkpoint ∈ task.checkpoints, property checkpoint)
    (bodies : environment.Everywhere property) : Blames setting property environment result := by
  induction evaluates with
  | literal | chooseNone | chooseBeyond | passed | nil => exact ⟨bodies, fun _ bound => bound⟩
  | unresolved n _ _ missing =>
      exact ⟨own _ (by simp [Task.checkpoints, Node.checkpoints]), missing⟩
  | limited n => exact ⟨own _ (by simp [Task.checkpoints, Node.checkpoints]), rfl⟩
  | expanded n _ _ _ body _ bound _ _ ih => exact ih (bodies n.text body bound) bodies
  | group _ _ _ _ _ _ _ _ ih => exact ih own bodies
  | define op n body environment _ =>
      exact ⟨everywhere_insert environment property n.text body bodies fun checkpoint member =>
        own checkpoint (List.mem_append_left _ member), extends_insert environment n.text body⟩
  | choose _ _ _ alternatives _ _ _ _ index _ chosen _ _ found _ ih =>
      exact ih (fun checkpoint member => own checkpoint
        (Node.checkpoints_all_member _ chosen (List.mem_of_getElem? found) checkpoint member)) bodies
  | taken _ _ _ _ _ _ _ _ _ ih => exact ih own bodies
  | invalid op source _ _ _ _ fault read =>
      exact ⟨op, source, own _ (by simp [Task.checkpoints, Node.checkpoints]), rfl, rfl, read⟩
  | matched _ _ _ _ _ _ _ _ _ _ _ _ ih =>
      exact ih (fun checkpoint member => own checkpoint
        (List.mem_cons_of_mem _ (List.mem_append_left _ member))) bodies
  | unmatched _ _ _ _ _ _ _ _ _ _ _ _ ih =>
      exact ih (fun checkpoint member => own checkpoint
        (List.mem_cons_of_mem _ (List.mem_append_right _ member))) bodies
  | failed _ _ _ _ _ _ _ _ ih =>
      exact ih (fun checkpoint member => own checkpoint (List.mem_append_left _ member)) bodies
  | cons _ text _ _ environment between _ _ _ result _ _ headBlames tailBlames =>
      obtain ⟨still, kept⟩ := headBlames
        (fun checkpoint member => own checkpoint (List.mem_append_left _ member)) bodies
      have ended := tailBlames
        (fun checkpoint member => own checkpoint (List.mem_append_right _ member)) still
      cases result with
      | ok production => exact ⟨ended.1, fun name bound => ended.2 name (kept name bound)⟩
      | error error => exact blamed_extends setting environment between property error kept ended

namespace Checkpoint

def Readable : Checkpoint → Prop
  | use _ => True
  | pattern _ source => ∃ pattern, Pattern.Engine.read source.text = .ok pattern
  | defined _ _ => True

def Holds (environment : Environment) : Checkpoint → Prop
  | use name => (environment.get? name.text).isSome
  | pattern _ source => ∃ pattern, Pattern.Engine.read source.text = .ok pattern
  | defined _ _ => True

theorem holds_extends (environment after : Environment) (kept : after.Extends environment)
    (checkpoint : Checkpoint) (holds : checkpoint.Holds environment) : checkpoint.Holds after := by
  cases checkpoint with
  | use name => exact kept name.text holds
  | pattern | defined => exact holds

theorem passes_readable (names : List String) (checkpoints : List Checkpoint)
    (passed : firstFault names checkpoints = none) :
    ∀ checkpoint ∈ checkpoints, checkpoint.Readable := by
  intro checkpoint member
  cases checkpoint with
  | use | defined => trivial
  | pattern op source =>
      obtain ⟨front, rest, rfl⟩ := List.append_of_mem member
      have faultless := first_fault_at names front rest _ passed
      cases read : Pattern.Engine.read source.text with
      | ok pattern => exact ⟨pattern, read⟩
      | error bad => simp [fault, read] at faultless

theorem passes_holds (names : List String) (checkpoints : List Checkpoint) (environment : Environment)
    (passed : firstFault names checkpoints = none)
    (known : ∀ name ∈ namesBehind names checkpoints, (environment.get? name).isSome) :
    ∀ checkpoint ∈ checkpoints, checkpoint.Holds environment := by
  intro checkpoint member
  cases checkpoint with
  | use name =>
      obtain ⟨front, rest, rfl⟩ := List.append_of_mem member
      have defined : name.text ∈ namesBehind names front := by
        simpa [fault] using first_fault_at names front rest _ passed
      refine known name.text ?_
      rw [names_behind_append]
      exact List.mem_append_left _ defined
  | pattern op source => exact passes_readable names checkpoints passed _ member
  | defined name stop => trivial

theorem blamed_holds (setting : Setting) (environment : Environment) (error : SamplingError)
    (blamed : Blamed setting environment (Holds environment) error) :
    ∃ name place, error = .recursionLimit name setting.limit place := by
  cases error with
  | unresolved name place =>
      obtain ⟨bound, missing⟩ := blamed
      simp [Holds, missing] at bound
  | invalidPattern text fault place =>
      obtain ⟨op, source, ⟨pattern, read⟩, rfl, -, failed⟩ := blamed
      cases read.symm.trans failed
  | recursionLimit name limit place => exact ⟨name, place, by rw [blamed.2]⟩

end Checkpoint

structure Environment.Sound (environment : Environment) : Prop where
  plain : ∀ (name : String) (body : Node), environment.get? name = some body → body.definitions = []
  holds : environment.Everywhere (Checkpoint.Holds environment)

theorem sound_empty : Environment.Sound Bindings.empty where
  plain := fun name body found => by cases found
  holds := fun name body found => by cases found

theorem sound_insert (environment : Environment) (name : String) (body : Node)
    (sound : environment.Sound) (plain : body.definitions = [])
    (holds : ∀ checkpoint ∈ body.checkpoints, checkpoint.Holds environment) :
    Environment.Sound (environment.insert name body) := by
  have kept := extends_insert environment name body
  constructor
  · intro other found bound
    rw [Bindings.get?_insert] at bound
    split at bound
    · cases bound
      exact plain
    · exact sound.plain other found bound
  · refine everywhere_insert environment _ name body ?_ ?_
    · intro other found bound checkpoint member
      exact Checkpoint.holds_extends _ _ kept _ (sound.holds other found bound checkpoint member)
    · exact fun checkpoint member => Checkpoint.holds_extends _ _ kept _ (holds checkpoint member)

-- All of these names are bound, and the environment is sound; or the limit on expansions was reached.
def Safe (setting : Setting) (names : List String) (result : Result) : Prop :=
  match result with
  | .ok (_, after) => (∀ name ∈ names, (after.get? name).isSome) ∧ after.Sound
  | .error error => ∃ name place, error = .recursionLimit name setting.limit place

theorem plain_safe (setting : Setting) (node : Node) (names : List String) (environment : Environment)
    (run last : Run) (result : Result) (plain : node.definitions = [])
    (passed : Checkpoint.firstFault names node.checkpoints = none)
    (known : ∀ name ∈ names, (environment.get? name).isSome) (sound : environment.Sound)
    (evaluates : Evaluates setting (.one node) environment run result last) :
    Safe setting (Checkpoint.namesBehind names node.checkpoints) result := by
  have behind : Checkpoint.namesBehind names node.checkpoints = names := by
    simp [node.names_behind_definitions, plain]
  have holds := Checkpoint.passes_holds names node.checkpoints environment passed (by rwa [behind])
  have blames := evaluates_blames setting _ _ environment run last result evaluates holds sound.holds
  cases result with
  | ok production =>
      obtain ⟨text, after⟩ := production
      obtain rfl := evaluates_plain _ _ _ _ _ _ evaluates plain sound.plain text after rfl
      exact ⟨by rwa [behind], sound⟩
  | error error => exact Checkpoint.blamed_holds setting environment error blames

mutual

theorem unconditional_safe (setting : Setting) (node : Node) (names : List String)
    (environment : Environment) (run last : Run) (result : Result)
    (unconditional : node.unconditional = true)
    (passed : Checkpoint.firstFault names node.checkpoints = none)
    (known : ∀ name ∈ names, (environment.get? name).isSome) (sound : environment.Sound)
    (evaluates : Evaluates setting (.one node) environment run result last) :
    Safe setting (Checkpoint.namesBehind names node.checkpoints) result := by
  by_cases plain : node.definitions = []
  · exact plain_safe setting node names environment run last result plain passed known sound evaluates
  · cases node with
    | literal | name => simp [Node.definitions] at plain
    | group opening statements closing =>
        cases evaluates with
        | group _ _ _ _ _ _ _ inner =>
            exact unconditional_all_safe setting statements "" names environment run last result
              unconditional passed known sound inner
    | define op n body =>
        have bodyPlain : body.definitions = [] := List.isEmpty_iff.mp unconditional
        have behind : Checkpoint.namesBehind names body.checkpoints = names := by
          simp [body.names_behind_definitions, bodyPlain]
        rw [Node.checkpoints, Checkpoint.first_fault_append, Option.or_eq_none_iff] at passed
        have holds := Checkpoint.passes_holds names _ environment passed.1 (by rwa [behind])
        cases evaluates
        refine ⟨fun name member => ?_, sound_insert environment n.text body sound bodyPlain holds⟩
        rw [Node.checkpoints, Checkpoint.names_behind_append, behind] at member
        obtain old | ⟨stop, new⟩ := (Checkpoint.mem_names_behind _ _ _).mp member
        · exact extends_insert environment n.text body name (known name old)
        · cases List.mem_singleton.mp new
          simp [Bindings.get?_insert]
    | choose op opening alternatives closing =>
        exact absurd (List.isEmpty_iff.mp unconditional) plain
    | optional op body => exact absurd (List.isEmpty_iff.mp unconditional) plain
    | regex op source matched unmatched =>
        simp [Node.unconditional] at unconditional
        simp [Node.definitions, unconditional] at plain

theorem unconditional_all_safe (setting : Setting) (nodes : List Node) (output : String)
    (names : List String) (environment : Environment) (run last : Run) (result : Result)
    (unconditional : Node.unconditionalAll nodes = true)
    (passed : Checkpoint.firstFault names (Node.checkpointsAll nodes) = none)
    (known : ∀ name ∈ names, (environment.get? name).isSome) (sound : environment.Sound)
    (evaluates : Evaluates setting (.all output nodes) environment run result last) :
    Safe setting (Checkpoint.namesBehind names (Node.checkpointsAll nodes)) result := by
  cases nodes with
  | nil =>
      cases evaluates
      exact ⟨by simpa [Node.checkpointsAll, Checkpoint.namesBehind] using known, sound⟩
  | cons node rest =>
      obtain ⟨head, others⟩ : node.unconditional = true ∧ Node.unconditionalAll rest = true := by
        simpa [Node.unconditionalAll] using unconditional
      rw [Node.checkpointsAll, Checkpoint.first_fault_append, Option.or_eq_none_iff] at passed
      rw [Node.checkpointsAll, Checkpoint.names_behind_append]
      cases evaluates with
      | failed _ _ _ _ _ _ error begun =>
          exact unconditional_safe setting node names environment run last _ head passed.1 known sound
            begun
      | cons _ text _ _ _ between _ middle _ _ begun ended =>
          obtain ⟨knownBetween, soundBetween⟩ := unconditional_safe setting node names environment run
            middle _ head passed.1 known sound begun
          exact unconditional_all_safe setting rest _ _ between middle last result others passed.2
            knownBetween soundBetween ended

end

theorem sample_patterns_read (grammar : Grammar) (generator : Generator)
    (compiled : grammar.compile = .ok generator) (setting : Setting) (drawn : Nat) (text : String)
    (fault : Pattern.Fault) (place : Span) :
    (grammar.sample setting Bindings.empty drawn).result ≠
      .error (.invalidPattern text fault place) := by
  intro failed
  have readable := Checkpoint.passes_readable [] grammar.checkpoints
    (grammar.compile_ok_passes generator compiled)
  obtain ⟨last, evaluates, -, -⟩ := sample_evaluates grammar setting Bindings.empty drawn
  have blames := evaluates_blames setting Checkpoint.Readable _ _ _ last _ evaluates readable
    (fun name body found => by cases found)
  rw [failed] at blames
  obtain ⟨op, source, ⟨pattern, read⟩, rfl, -, bad⟩ := blames
  cases read.symm.trans bad

theorem sample_unconditional_safe (grammar : Grammar) (generator : Generator)
    (compiled : grammar.compile = .ok generator) (unconditional : grammar.unconditional = true)
    (setting : Setting) (drawn : Nat) :
    Safe setting (Checkpoint.namesBehind [] grammar.checkpoints)
      (grammar.sample setting Bindings.empty drawn).result := by
  obtain ⟨last, evaluates, -, -⟩ := sample_evaluates grammar setting Bindings.empty drawn
  exact unconditional_all_safe setting grammar.statements "" [] Bindings.empty _ last _ unconditional
    (grammar.compile_ok_passes generator compiled) (by simp) sound_empty evaluates

theorem compiled_sample_safe (grammar : Grammar) (generator : Generator)
    (compiled : grammar.compile = .ok generator) (setting : Setting) (drawn : Nat) :
    (∀ text fault place, (grammar.sample setting Bindings.empty drawn).result ≠
        .error (.invalidPattern text fault place)) ∧
      (grammar.unconditional = true → ∀ error,
        (grammar.sample setting Bindings.empty drawn).result = .error error →
          ∃ name place, error = .recursionLimit name setting.limit place) := by
  refine ⟨sample_patterns_read grammar generator compiled setting drawn,
    fun unconditional error failed => ?_⟩
  have safe := sample_unconditional_safe grammar generator compiled unconditional setting drawn
  rw [failed] at safe
  exact safe

end

-- (= a & 'y' 'x' '' = b a = a b a)
def capturing : Grammar where
  opening := ⟨0, 1⟩
  statements :=
    [.define ⟨1, 1⟩ ⟨"a", ⟨3, 1⟩⟩ (.regex ⟨5, 1⟩ ⟨"y", '\'', ⟨7, 3⟩⟩ (.literal ⟨"x", '\'', ⟨11, 3⟩⟩)
        (.literal ⟨"", '\'', ⟨15, 2⟩⟩)),
      .define ⟨18, 1⟩ ⟨"b", ⟨20, 1⟩⟩ (.name ⟨"a", ⟨22, 1⟩⟩),
      .define ⟨24, 1⟩ ⟨"a", ⟨26, 1⟩⟩ (.name ⟨"b", ⟨28, 1⟩⟩),
      .name ⟨"a", ⟨30, 1⟩⟩]
  closing := ⟨31, 1⟩

theorem compiled_sample_safe_captured :
    ∃ generator, capturing.compile = .ok generator ∧ capturing.unconditional = true ∧
      (∀ (words : Words) (input : String),
        (capturing.sample ⟨words, input, 1⟩ Bindings.empty 0).result =
          .error (.recursionLimit "a" 1 ⟨22, 1⟩)) ∧
        ∀ (setting : Setting) (drawn : Nat) (error : SamplingError),
          (capturing.sample setting Bindings.empty drawn).result = .error error →
            ∃ name place, error = .recursionLimit name setting.limit place :=
  ⟨_, rfl, rfl, fun _ _ => rfl, fun setting drawn =>
    (compiled_sample_safe capturing _ rfl setting drawn).2 rfl⟩

end TextGrammar

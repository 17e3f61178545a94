import TextGrammar.Proofs.Occurrences

set_option autoImplicit false

namespace TextGrammar

-- Another statement stands where the way leads, at the statement itself when the way is at its end.
def Node.replace (other : Node) : List Nat → Node → Node
  | [], _ => other
  | next :: way, node =>
      node.changeParts fun number part => if next = number then replace other way part else part

def Grammar.replace (grammar : Grammar) (target : List Nat) (other : Node) : Grammar :=
  match target with
  | [] => grammar
  | next :: way =>
      { grammar with
        statements := grammar.statements.mapIdx fun number node =>
          if next = number then other.replace way node else node }

def Site.wayTo (site : Site) (target : List Nat) : Option (List Nat) :=
  site.bind fun begun => begun.isPrefixOf? target

def Occurrence.replaced (target : List Nat) (other : Node) (occurrence : Occurrence) : Node :=
  match occurrence.site.wayTo target with
  | some way => other.replace way occurrence.node
  | none => occurrence.node

theorem prefix_part (begun target : List Nat) (number : Nat) :
    (begun ++ [number]).isPrefixOf? target =
      match begun.isPrefixOf? target with
      | some (next :: way) => if next = number then some way else none
      | some [] => none
      | none => none := by
  induction begun generalizing target with
  | nil =>
      cases target with
      | nil => rfl
      | cons next way =>
          by_cases same : next = number
          · simp [List.isPrefixOf?, same]
          · simp [List.isPrefixOf?, same, Ne.symm same]
  | cons first begun ih =>
      cases target with
      | nil => rfl
      | cons next way =>
          by_cases same : first = next
          · simp [List.isPrefixOf?, same, ih]
          · simp [List.isPrefixOf?, same]

theorem way_part (site : Site) (target : List Nat) (number : Nat) :
    (site.part number).wayTo target =
      match site.wayTo target with
      | some (next :: way) => if next = number then some way else none
      | some [] => none
      | none => none := by
  cases site with
  | none => rfl
  | some begun => exact prefix_part begun target number

theorem at_target (site : Site) (target : List Nat) (there : site.wayTo target = some []) :
    site = some target := by
  cases site with
  | none => cases there
  | some begun =>
      have whole := List.isPrefixOf?_eq_some_iff_append_eq.mp there
      rw [List.append_nil] at whole
      rw [whole]

-- A statement other than the target is changed in one part at most, the one on the way to the target.
theorem replaced_elsewhere (target : List Nat) (other : Node) (occurrence : Occurrence)
    (elsewhere : occurrence.site ≠ some target) :
    occurrence.replaced target other = occurrence.rebuild (Occurrence.replaced target other) := by
  have parts := fun number => way_part occurrence.site target number
  unfold Occurrence.rebuild Occurrence.replaced
  simp only [parts]
  cases way : occurrence.site.wayTo target with
  | none => exact (change_parts_same occurrence.node).symm
  | some way' =>
      cases way' with
      | nil => exact absurd (at_target _ _ way) elsewhere
      | cons next rest =>
          dsimp only
          rw [Node.replace]
          congr 1
          funext number part
          by_cases same : next = number
          · rw [if_pos same, if_pos same]
          · rw [if_neg same, if_neg same]

theorem replaced_statements (grammar : Grammar) (target : List Nat) (other : Node) :
    grammar.occurrences.map (Occurrence.replaced target other) =
      (grammar.replace target other).statements := by
  rw [Grammar.occurrences, parts_map]
  unfold Occurrence.replaced
  simp only [way_part]
  cases target with
  | nil => exact map_index_same grammar.statements
  | cons next way =>
      have begun : Site.wayTo (some []) (next :: way) = some (next :: way) := rfl
      rw [begun, Grammar.replace]
      congr 1
      funext number node
      by_cases same : next = number
      · simp only [if_pos same]
      · simp only [if_neg same]

theorem outside_replaced (environment : Environment) (target : List Nat) (other : Node) :
    environment.outside.map (Occurrence.replaced target other) = environment :=
  Bindings.map_back _ _ environment fun _ => rfl

theorem text_or_error (change other : Occurrence → Node) (result : SceneResult) :
    (result.change change).map Prod.fst = (result.change other).map Prod.fst := by
  rcases result with error | ⟨text, scene⟩ <;> rfl

section

variable [Pattern.Engine]

-- What is bound at the beginning may stand in the grammar, and is then replaced with it; what comes from
-- elsewhere stays as it is.
theorem unvisited_irrelevant (grammar : Grammar) (setting : Setting) (drawn : Nat) :
    (∀ (environment : Environment) (target : List Nat) (other : Node),
      environment.outside.map Occurrence.node = environment ∧
        environment.outside.map (Occurrence.replaced target other) = environment) ∧
    ∀ scene,
      (∃ result last visited, grammar.Visits setting scene drawn result last visited) ∧
      ∀ result last visited, grammar.Visits setting scene drawn result last visited →
        let outcome := grammar.sample setting (scene.map Occurrence.node) drawn
        outcome = last.outcome (result.change Occurrence.node) ∧
        ∀ target other, (∀ occurrence ∈ visited, occurrence.site ≠ some target) →
          let changed := (grammar.replace target other).sample setting
            (scene.map (Occurrence.replaced target other)) drawn
          changed.result.map Prod.fst = outcome.result.map Prod.fst ∧
            changed.drawn = outcome.drawn ∧ changed.decisions = outcome.decisions := by
  constructor
  · intro environment target other
    exact ⟨outside_node environment, outside_replaced environment target other⟩
  intro scene
  refine ⟨sample_visits grammar setting scene drawn, ?_⟩
  intro result last visited visits outcome
  have own : outcome = _ := visits_own_sample grammar setting scene drawn result last visited visits
  refine ⟨own, fun target other unvisited => ?_⟩
  have replaced := visits_sample grammar (grammar.replace target other) setting scene drawn result last
    visited visits (Occurrence.replaced target other)
    (fun occurrence member => replaced_elsewhere target other occurrence (unvisited occurrence member))
    (replaced_statements grammar target other)
  rw [replaced, own]
  exact ⟨text_or_error _ _ result, rfl, rfl⟩

end

def alternatives (first second : Node) : Node := .choose ⟨5, 1⟩ ⟨6, 1⟩ [first, second] ⟨14, 1⟩

def elusive (second : Node) : Grammar where
  opening := ⟨0, 1⟩
  statements :=
    [.define ⟨1, 1⟩ ⟨"a", ⟨3, 1⟩⟩ (alternatives (.literal ⟨"x", '\'', ⟨7, 3⟩⟩) second),
      .name ⟨"a", ⟨16, 1⟩⟩, .name ⟨"a", ⟨18, 1⟩⟩]
  closing := ⟨19, 1⟩

-- (= a |('x' 'y') a a), where the first alternative is chosen twice, and what stands in place of 'y' has
-- a pattern that cannot be read, a name that is not bound and a definition.
theorem unvisited_irrelevant_alternative :
    let setting : Setting := ⟨fun _ => 0, "", 0⟩
    let second : Node := .literal ⟨"y", '\'', ⟨11, 3⟩⟩
    let other : Node := .regex default ⟨"(", '\'', default⟩ (.name ⟨"b", default⟩)
      (.define default ⟨"a", default⟩ (.name ⟨"a", default⟩))
    ∃ result last visited,
      (elusive second).Visits setting (Environment.outside Bindings.empty) 0 result last visited ∧
        (∀ occurrence ∈ visited, occurrence.site ≠ some [0, 0, 1]) ∧
        (elusive second).replace [0, 0, 1] other = elusive other ∧
        ((elusive other).sample setting Bindings.empty 0).result.map Prod.fst = .ok "xx" ∧
        ((elusive other).sample setting Bindings.empty 0).drawn = 2 := by
  intro setting second other
  have accepted : indexOfWord 2 0 = some 0 := by decide
  have draw : ∀ drawn, setting.words.index 2 drawn = (0, drawn + 1) := by
    intro drawn
    rw [Words.index_eq, show setting.words drawn = 0 from rfl, accepted]
  have visits : (elusive second).Visits setting (Environment.outside Bindings.empty) 0 _ _ _ :=
    .cons _ _ _ _ _ _ _ _ _ _ _ _ (.define _ _ _ _ _ _)
      (.cons _ "x" _ _ _ _ _ _ _ _ _ _
        (.expanded _ _ _ _ _ _ _ _ rfl (by decide)
          (.choose _ _ _ _ _ _ _ _ _ _ 0 1 _ nofun (draw 0) rfl (.literal _ _ _ _)))
        (.cons _ "x" _ _ _ _ _ _ _ _ _ _
          (.expanded _ _ _ _ _ _ _ _ rfl (by decide)
            (.choose _ _ _ _ _ _ _ _ _ _ 0 2 _ nofun (draw 1) rfl (.literal _ _ _ _)))
          (.nil _ _ _)))
  have apart : ∀ site ∈ [some [0], some [1], some [0, 0], some [0, 0, 0], some [2], some [0, 0],
      some [0, 0, 0]], site ≠ some [0, 0, 1] := by decide
  obtain ⟨same, scenes⟩ := unvisited_irrelevant (elusive second) setting 0
  obtain ⟨reached, unchanged⟩ := (scenes (Environment.outside Bindings.empty)).2 _ _ _ visits
  obtain ⟨text, drawn, -⟩ := unchanged [0, 0, 1] other fun occurrence member =>
    apart _ (List.mem_map_of_mem member)
  rw [(same Bindings.empty [0, 0, 1] other).1] at reached text drawn
  rw [(same Bindings.empty [0, 0, 1] other).2] at text drawn
  rw [reached] at text drawn
  exact ⟨_, _, _, visits, fun occurrence member => apart _ (List.mem_map_of_mem member), rfl,
    text, drawn⟩

end TextGrammar

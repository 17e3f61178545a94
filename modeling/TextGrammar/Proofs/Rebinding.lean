import TextGrammar.Proofs.Occurrences
import TextGrammar.Proofs.Definitions
import Mathlib.Data.Set.Card

set_option autoImplicit false

namespace TextGrammar

def Occurrence.definition? : Occurrence → Option Definition
  | ⟨_, .define _ n body⟩ => some ⟨n.text, body⟩
  | _ => none

def executed (visited : List Occurrence) : List Definition := visited.filterMap Occurrence.definition?

def lastBody (definitions : List Definition) (name : String) : Option Node :=
  (definitions.findRev? (·.name == name)).map Definition.body

def Environment.bindInTurn (environment : Environment) (definitions : List Definition) : Environment :=
  definitions.foldl (fun bound definition => bound.insert definition.name definition.body) environment

theorem last_body_cons (first : Definition) (later : List Definition) (name : String) :
    lastBody (first :: later) name =
      (lastBody later name).or (if first.name = name then some first.body else none) := by
  rw [lastBody, lastBody, List.findRev?_eq_find?_reverse, List.findRev?_eq_find?_reverse,
    List.reverse_cons, List.find?_append, Option.map_or]
  by_cases same : first.name = name
  · simp [same]
  · simp [same]

theorem last_body_none (definitions : List Definition) (name : String)
    (others : ∀ definition ∈ definitions, definition.name ≠ name) : lastBody definitions name = none := by
  rw [lastBody, List.findRev?_eq_find?_reverse, Option.map_eq_none_iff, List.find?_eq_none]
  intro definition member
  simpa using others definition (List.mem_reverse.mp member)

theorem bind_in_turn (definitions : List Definition) (environment : Environment) (name : String) :
    (environment.bindInTurn definitions).get? name =
      (lastBody definitions name).or (environment.get? name) := by
  induction definitions generalizing environment with
  | nil => rfl
  | cons first later ih =>
      have step : environment.bindInTurn (first :: later) =
          Environment.bindInTurn (environment.insert first.name first.body) later := rfl
      rw [step, ih, Bindings.get?_insert, last_body_cons, Option.or_assoc]
      by_cases same : first.name = name
      · rw [if_pos same, if_pos same, Option.some_or]
      · rw [if_neg same, if_neg same, Option.none_or]

theorem mem_names (environment : Environment) (name : String) :
    name ∈ environment.names ↔ (environment.get? name).isSome := by
  rw [Bindings.get?, Option.isSome_map, List.find?_isSome, Bindings.names, List.mem_map]
  simp only [beq_iff_eq]

theorem size_bound (environment : Environment) :
    environment.size = Set.ncard {name | (environment.get? name).isSome} := by
  have distinct : environment.names.Nodup := List.pairwise_map.mpr environment.distinct
  have bound : {name | (environment.get? name).isSome} = (environment.names.toFinset : Set String) := by
    ext name
    rw [List.coe_toFinset]
    exact (mem_names environment name).symm
  rw [bound, Set.ncard_coe_finset, List.toFinset_card_of_nodup distinct, Bindings.names,
    List.length_map]
  rfl

section

variable [Pattern.Engine]

-- By induction on the account. What is visited besides definitions passes the bindings on.
theorem visits_bind (setting : Setting) (errand : Errand) (scene : Scene) (run last : Run)
    (result : SceneResult) (visited : List Occurrence)
    (visits : Visits setting errand scene run result last visited) (text : String) (after : Scene)
    (succeeds : result = .ok (text, after)) :
    after.map Occurrence.node =
      Environment.bindInTurn (scene.map Occurrence.node) (executed visited) := by
  induction visits generalizing text after with
  | literal | chooseNone | chooseBeyond | passed | nil =>
      cases succeeds
      rfl
  | unresolved | limited | invalid | failed => cases succeeds
  | define site op n body scene run =>
      cases succeeds
      exact Bindings.map_insert _ scene n.text _
  | expanded _ _ _ _ _ _ _ _ _ _ _ ih => exact ih text after succeeds
  | group _ _ _ _ _ _ _ _ _ _ ih => exact ih text after succeeds
  | choose _ _ _ _ _ _ _ _ _ _ _ _ _ _ _ _ _ ih => exact ih text after succeeds
  | taken _ _ _ _ _ _ _ _ _ _ _ ih => exact ih text after succeeds
  | matched _ _ _ _ _ _ _ _ _ _ _ _ _ _ ih => exact ih text after succeeds
  | unmatched _ _ _ _ _ _ _ _ _ _ _ _ _ _ ih => exact ih text after succeeds
  | cons output part occurrence rest scene between run middle last result first others _ _ head tail =>
      rw [executed, List.filterMap_append, Environment.bindInTurn, List.foldl_append,
        tail text after succeeds, head part between rfl]
      rfl

theorem sample_binds (grammar : Grammar) (setting : Setting) (environment after : Environment)
    (drawn : Nat) (text : String)
    (succeeds : (grammar.sample setting environment drawn).result = .ok (text, after))
    (result : SceneResult) (last : Run) (visited : List Occurrence)
    (visits : grammar.Visits setting environment.outside drawn result last visited) :
    after = environment.bindInTurn (executed visited) := by
  have own := visits_outside_sample grammar setting environment drawn result last visited visits
  have reached : result.change Occurrence.node = .ok (text, after) := by
    rw [← succeeds, own]
    rfl
  cases result with
  | error error => cases reached
  | ok production =>
      cases reached
      rw [visits_bind setting _ _ _ last _ visited visits _ _ rfl, outside_node]

theorem definitions_make_environment (grammar : Grammar) (setting : Setting)
    (environment after : Environment) (drawn : Nat) (text : String)
    (succeeds : (grammar.sample setting environment drawn).result = .ok (text, after)) :
    (∃ result last visited, grammar.Visits setting environment.outside drawn result last visited) ∧
    (∀ result last visited, grammar.Visits setting environment.outside drawn result last visited →
      grammar.sample setting environment drawn = last.outcome (result.change Occurrence.node) ∧
        (∀ name, after.get? name = (lastBody (executed visited) name).or (environment.get? name)) ∧
        ∀ name, (∀ definition ∈ executed visited, definition.name ≠ name) →
          after.get? name = environment.get? name) ∧
    (∀ name, (environment.get? name).isSome → (after.get? name).isSome) ∧
    after.size = Set.ncard {name | (after.get? name).isSome} := by
  have account := sample_visits grammar setting environment.outside drawn
  refine ⟨account, ?_, ?_, size_bound after⟩
  · intro result last visited visits
    have own := visits_outside_sample grammar setting environment drawn result last visited visits
    rw [sample_binds grammar setting environment after drawn text succeeds result last visited visits]
    refine ⟨own, bind_in_turn (executed visited) environment, fun name others => ?_⟩
    rw [bind_in_turn, last_body_none _ name others, Option.none_or]
  · intro name bound
    obtain ⟨result, last, visited, visits⟩ := account
    rw [sample_binds grammar setting environment after drawn text succeeds result last visited visits,
      bind_in_turn, Option.isSome_or, bound, Bool.or_true]

end

def letter (text : String) (place : Nat) : Node := .literal ⟨text, '\'', ⟨place, 3⟩⟩

def threading : Grammar where
  opening := ⟨0, 1⟩
  statements :=
    [.define ⟨1, 1⟩ ⟨"a", ⟨3, 1⟩⟩ (.define ⟨5, 1⟩ ⟨"c", ⟨7, 1⟩⟩ (letter "y" 9)), .name ⟨"a", ⟨13, 1⟩⟩,
      .group ⟨15, 1⟩
        [.choose ⟨16, 1⟩ ⟨17, 1⟩ [.define ⟨18, 1⟩ ⟨"a", ⟨20, 1⟩⟩ (letter "z" 22), letter "n" 26]
          ⟨29, 1⟩] ⟨30, 1⟩]
  closing := ⟨31, 1⟩

-- (= a = c 'y' a (|(= a 'z' 'n'))), where c and k are bound before, c is defined by the expansion of a,
-- and a is defined again by the alternative that is chosen.
theorem definitions_make_environment_branches :
    let setting : Setting := ⟨fun _ => 0, "", 0⟩
    let environment : Environment := (Bindings.empty.insert "c" (letter "x" 0)).insert "k" (letter "w" 0)
    ∃ after, (threading.sample setting environment 0).result = .ok ("", after) ∧
      after.get? "a" = some (letter "z" 22) ∧ after.get? "c" = some (letter "y" 9) ∧
      after.get? "k" = some (letter "w" 0) ∧
      Set.ncard {name | (after.get? name).isSome} = 3 := by
  intro setting environment
  have accepted : indexOfWord 2 0 = some 0 := by decide
  have draw : setting.words.index 2 0 = (0, 1) := by
    rw [Words.index_eq, show setting.words 0 = 0 from rfl, accepted]
  have visits : threading.Visits setting environment.outside 0 _ _ _ :=
    .cons _ _ _ _ _ _ _ _ _ _ _ _ (.define _ _ _ _ _ _)
      (.cons _ "" _ _ _ _ _ _ _ _ _ _
        (.expanded _ _ _ _ _ _ _ _ rfl (by decide) (.define _ _ _ _ _ _))
        (.cons _ "" _ _ _ _ _ _ _ _ _ _
          (.group _ _ _ _ _ _ _ _ _
            (.cons _ "" _ _ _ _ _ _ _ _ _ _
              (.choose _ _ _ _ _ _ _ _ _ _ 0 1 _ nofun draw rfl (.define _ _ _ _ _ _))
              (.nil _ _ _)))
          (.nil _ _ _)))
  have own := visits_outside_sample threading setting environment 0 _ _ _ visits
  have succeeds := congrArg Outcome.result own
  obtain ⟨-, accounts, -, size⟩ :=
    definitions_make_environment threading setting environment _ 0 "" succeeds
  have latest := (accounts _ _ _ visits).2.1
  exact ⟨_, succeeds, latest "a", latest "c", latest "k", size.symm⟩

end TextGrammar

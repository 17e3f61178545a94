import TextGrammar.Proofs.Compilation
import TextGrammar.Proofs.Meaning
import TextGrammar.Pattern.Standard
import Mathlib.Data.List.Forall2

set_option autoImplicit false

namespace TextGrammar

def Extends (table next : Array NamedProcedure) : Prop :=
  ∀ (index : Nat) (named : NamedProcedure), table[index]? = some named → next[index]? = some named

theorem extends_refl (table : Array NamedProcedure) : Extends table table :=
  fun _ _ found => found

theorem extends_trans (table middle last : Array NamedProcedure) (first : Extends table middle)
    (second : Extends middle last) : Extends table last :=
  fun index named found => second index named (first index named found)

theorem extends_push (table : Array NamedProcedure) (named : NamedProcedure) :
    Extends table (table.push named) := by
  intro index other found
  have bound : index < table.size := (Array.getElem?_eq_some_iff.mp found).1
  rw [Array.getElem?_push, if_neg (Nat.ne_of_lt bound), found]

theorem extends_size (table next : Array NamedProcedure) (extended : Extends table next) :
    table.size ≤ next.size := by
  by_contra shorter
  have bound : next.size < table.size := Nat.lt_of_not_le shorter
  have found := extended next.size table[next.size] (Array.getElem?_eq_getElem bound)
  simp at found

theorem produce_all_constant (produce : Fragment → Producer) (output text : String)
    (rest : List Fragment) (plain : ∀ text, produce (.constant text) = return text) :
    produceAll produce output (.constant text :: rest) = produceAll produce (output ++ text) rest := by
  simp only [produceAll, plain, pure_bind]

-- Only the places where one constant ends and the next begins are lost.
theorem produce_all_joined (produce : Fragment → Producer) (output : String)
    (parts : List Fragment) (plain : ∀ text, produce (.constant text) = return text) :
    produceAll produce output (joinConstants parts) = produceAll produce output parts := by
  induction parts generalizing output with
  | nil => rfl
  | cons part rest ih =>
      cases part with
      | reference index => simp only [joinConstants, produceAll, ih]
      | constant text =>
          rw [produce_all_constant produce output text rest plain, ← ih, joinConstants]
          by_cases empty : text = ""
          · rw [if_pos empty, empty, String.append_empty]
          · rw [if_neg empty]
            split
            · rename_i next others joined
              rw [joined, produce_all_constant _ _ _ _ plain, produce_all_constant _ _ _ _ plain,
                String.append_assoc]
            · exact produce_all_constant _ _ _ _ plain

theorem produce_all_sequence (produce : Fragment → Producer) (feed : Feed) (output : String)
    (parts : List Fragment) (actions : List Action)
    (produced : List.Forall₂ (fun part action => produce part = action feed) parts actions) :
    produceAll produce output parts =
      do return output ++ (← Action.sequence actions feed) := by
  induction produced generalizing output with
  | nil => simp [produceAll, Action.sequence, Action.constant]
  | cons head tail ih =>
      simp only [produceAll, Action.sequence, head, ih, bind_assoc, pure_bind, String.append_assoc]

theorem produced_at (produce : Fragment → Producer) (feed : Feed) (parts : List Fragment)
    (actions : List Action)
    (produced : List.Forall₂ (fun part action => produce part = action feed) parts actions)
    (plain : produce (.constant "") = return "") (index : Nat) :
    produce (parts.getD index .empty) = actions.getD index (Action.constant "") feed := by
  induction produced generalizing index with
  | nil => exact plain
  | cons head tail ih =>
      cases index with
      | zero => exact head
      | succ index => simpa using ih index

section

variable [Pattern.Engine]

def Realises (table : Array NamedProcedure) (fragment : Fragment) (action : Action) : Prop :=
  ∀ (generator : Generator) (feed : Feed) (depth : Nat), Extends table generator.procedures →
    table.size ≤ depth → generator.produce feed depth fragment = action feed

theorem produce_constant (generator : Generator) (feed : Feed) (depth : Nat) (text : String) :
    generator.produce feed depth (.constant text) = return text := by
  cases depth <;> rfl

theorem realises_constant (table : Array NamedProcedure) (text : String) :
    Realises table (.constant text) (Action.constant text) :=
  fun generator feed depth _ _ => produce_constant generator feed depth text

theorem realises_extends (table next : Array NamedProcedure) (fragment : Fragment)
    (action : Action) (extended : Extends table next) (realised : Realises table fragment action) :
    Realises next fragment action := by
  intro generator feed depth later room
  exact realised generator feed depth (extends_trans _ _ _ extended later)
    (Nat.le_trans (extends_size _ _ extended) room)

theorem realises_push (table : Array NamedProcedure) (named : NamedProcedure) (action : Action)
    (ran : ∀ (generator : Generator) (feed : Feed) (depth : Nat),
      Extends table generator.procedures → table.size ≤ depth →
        named.procedure.run feed (generator.produce feed depth) = action feed) :
    Realises (table.push named) (.reference table.size) action := by
  intro generator feed depth extended room
  rw [Array.size_push] at room
  obtain ⟨rest, rfl⟩ : ∃ rest, depth = rest + 1 := ⟨depth - 1, by omega⟩
  have found : generator.procedures[table.size]? = some named :=
    extended table.size named (by simp)
  rw [Generator.produce, found]
  exact ran generator feed rest (extends_trans _ _ _ (extends_push table named) extended) (by omega)

theorem realises_all (table : Array NamedProcedure) (parts : List Fragment) (actions : List Action)
    (realised : List.Forall₂ (Realises table) parts actions) (generator : Generator) (feed : Feed)
    (depth : Nat) (extended : Extends table generator.procedures) (room : table.size ≤ depth) :
    List.Forall₂ (fun part action => generator.produce feed depth part = action feed)
      parts actions :=
  realised.imp fun _ _ part => part generator feed depth extended room

theorem realises_concat (table : Array NamedProcedure) (parts : List Fragment)
    (actions : List Action) (realised : List.Forall₂ (Realises table) parts actions)
    (generator : Generator) (feed : Feed) (depth : Nat)
    (extended : Extends table generator.procedures) (room : table.size ≤ depth) :
    produceAll (generator.produce feed depth) "" (joinConstants parts) =
      Action.sequence actions feed := by
  rw [produce_all_joined _ _ _ (produce_constant generator feed depth),
    produce_all_sequence _ feed _ _ _ (realises_all _ _ _ realised generator feed depth extended room)]
  simp

theorem realises_joined (parts : List Fragment) (actions : List Action) (draft next : Draft)
    (fragment : Fragment) (yields : (Draft.joined parts).Yields draft fragment next)
    (realised : List.Forall₂ (Realises draft.procedures) parts actions) :
    Realises next.procedures fragment (Action.sequence actions) ∧ next.meanings = draft.meanings ∧
      Extends draft.procedures next.procedures := by
  have concat := realises_concat draft.procedures parts actions realised
  rw [Draft.yields_joined] at yields
  split at yields
  · rename_i joined
    obtain ⟨rfl, rfl⟩ := yields
    refine ⟨fun generator feed depth extended room => ?_, rfl, extends_refl _⟩
    rw [← concat generator feed depth extended room, joined]
    exact produce_constant generator feed depth ""
  · rename_i part joined
    obtain ⟨rfl, rfl⟩ := yields
    refine ⟨fun generator feed depth extended room => ?_, rfl, extends_refl _⟩
    rw [← concat generator feed depth extended room, joined]
    simp [produceAll]
  · obtain ⟨rfl, rfl⟩ := yields
    refine ⟨realises_push _ _ _ fun generator feed depth extended room => ?_, rfl,
      extends_push _ _⟩
    exact concat generator feed depth extended room

def Matches (draft : Draft) (scope : Scope) : Prop :=
  ∀ (name : String) (fragment : Fragment), draft.meanings.get? name = some fragment →
    ∃ action, scope.get? name = some action ∧ Realises draft.procedures fragment action

theorem matches_empty : Matches Draft.empty Bindings.empty := by
  intro name fragment found
  cases found

theorem matches_extends (draft next : Draft) (scope : Scope) (matched : Matches draft scope)
    (meanings : next.meanings = draft.meanings)
    (extended : Extends draft.procedures next.procedures) : Matches next scope := by
  intro name fragment found
  rw [meanings] at found
  obtain ⟨action, bound, realised⟩ := matched name fragment found
  exact ⟨action, bound, realises_extends _ _ _ _ extended realised⟩

theorem matches_insert (draft : Draft) (scope : Scope) (name : String) (fragment : Fragment)
    (action : Action) (matched : Matches draft scope)
    (realised : Realises draft.procedures fragment action) :
    Matches { draft with meanings := draft.meanings.insert name fragment }
      (scope.insert name action) := by
  intro other found bound
  rw [Bindings.get?_insert] at bound ⊢
  by_cases same : name = other
  · rw [if_pos same] at bound ⊢
    cases bound
    exact ⟨action, rfl, realised⟩
  · rw [if_neg same] at bound ⊢
    exact matched other found bound

theorem define_realises (draft : Draft) (scope : Scope) (name : String) (meaning : Fragment)
    (action : Action) (matched : Matches draft scope)
    (realised : Realises draft.procedures meaning action) :
    Matches (draft.define name meaning) (scope.insert name action) ∧
      Extends draft.procedures (draft.define name meaning).procedures := by
  cases meaning with
  | constant text =>
      exact ⟨matches_insert draft scope name _ action matched realised, extends_refl _⟩
  | reference index =>
      have pushed : Extends draft.procedures (draft.push (some name) (.forward index)).procedures :=
        extends_push _ _
      refine ⟨matches_insert (draft.push (some name) (.forward index)) scope name _ action
        (matches_extends _ _ _ matched rfl pushed) ?_, pushed⟩
      exact realises_push _ _ _ fun generator feed depth extended room =>
        realised generator feed depth extended room

theorem choose_realises (table : Array NamedProcedure) (name : String) (fragments : List Fragment)
    (actions : List Action) (realised : List.Forall₂ (Realises table) fragments actions) :
    Realises (table.push ⟨name, .choose fragments⟩) (.reference table.size)
      (Action.choose actions) := by
  refine realises_push _ _ _ fun generator feed depth extended room => ?_
  have produced := realises_all table fragments actions realised generator feed depth extended room
  have empty : fragments.isEmpty = actions.isEmpty := by cases realised <;> rfl
  have lengths : fragments.length = actions.length := realised.length_eq
  have chosen := produced_at _ feed fragments actions produced
    (produce_constant generator feed depth "")
  simp only [Procedure.run, Action.choose, empty, lengths, chosen]

mutual

-- The table only grows behind what is compiled, so the fragments of earlier statements keep their
-- actions while later ones are compiled.
theorem compile_realises (node : Node) (draft next : Draft) (fragment : Fragment) (scope : Scope)
    (yields : (Draft.compile node).Yields draft fragment next) (matched : Matches draft scope) :
    ∃ action after, node.meaning scope = some (action, after) ∧
      Realises next.procedures fragment action ∧ Matches next after ∧
        Extends draft.procedures next.procedures := by
  cases node with
  | literal l =>
      obtain ⟨rfl, rfl⟩ := (Draft.yields_literal _ _ _ _).mp yields
      exact ⟨_, scope, rfl, realises_constant _ _, matched, extends_refl _⟩
  | name n =>
      obtain ⟨found, rfl⟩ := (Draft.yields_name _ _ _ _).mp yields
      obtain ⟨action, bound, realised⟩ := matched n.text fragment found
      exact ⟨action, scope, by simp [Node.meaning, bound], realised, matched, extends_refl _⟩
  | group opening statements closing =>
      obtain ⟨parts, between, all, joined⟩ := (Draft.yields_group _ _ _ _ _ _).mp yields
      obtain ⟨actions, after, means, realised, still, grown⟩ :=
        compile_all_realises statements draft between parts scope all matched
      obtain ⟨whole, meanings, joinedGrown⟩ :=
        realises_joined parts actions between next fragment joined realised
      exact ⟨_, after, by simp [Node.meaning, means], whole,
        matches_extends _ _ _ still meanings joinedGrown, extends_trans _ _ _ grown joinedGrown⟩
  | define op n body =>
      obtain ⟨meaning, between, compiled, rfl, rfl⟩ := (Draft.yields_define _ _ _ _ _ _).mp yields
      obtain ⟨action, after, means, realised, still, grown⟩ :=
        compile_realises body draft between meaning scope compiled matched
      obtain ⟨bound, defined⟩ := define_realises between after n.text meaning action still realised
      exact ⟨_, _, by simp [Node.meaning, means], realises_constant _ _, bound,
        extends_trans _ _ _ grown defined⟩
  | choose op opening alternatives closing =>
      obtain ⟨fragments, between, all, rest⟩ := (Draft.yields_choose _ _ _ _ _ _ _).mp yields
      obtain ⟨actions, after, means, realised, still, grown⟩ :=
        compile_all_realises alternatives draft between fragments scope all matched
      by_cases none : fragments = []
      · rw [if_pos none] at rest
        obtain ⟨rfl, rfl⟩ := rest
        subst none
        cases realised
        exact ⟨Action.choose [], after, by simp [Node.meaning, means], realises_constant _ _, still,
          grown⟩
      · rw [if_neg none] at rest
        obtain ⟨rfl, rfl⟩ := rest
        exact ⟨_, after, by simp [Node.meaning, means], choose_realises _ _ _ _ realised,
          matches_extends _ _ _ still rfl (extends_push _ _),
          extends_trans _ _ _ grown (extends_push _ _)⟩
  | optional op body =>
      obtain ⟨inner, between, compiled, rfl, rfl⟩ := (Draft.yields_optional _ _ _ _ _).mp yields
      obtain ⟨action, after, means, realised, still, grown⟩ :=
        compile_realises body draft between inner scope compiled matched
      refine ⟨Action.optional action, after, by simp [Node.meaning, means],
        realises_push _ _ _ fun generator feed depth extended room => ?_,
        matches_extends _ _ _ still rfl (extends_push _ _),
        extends_trans _ _ _ grown (extends_push _ _)⟩
      simp only [Procedure.run, Action.optional, realised generator feed depth extended room]
  | regex op source accepted refused =>
      obtain ⟨pattern, read, yes, between, first, no, last, second, rfl, rfl⟩ :=
        (Draft.yields_regex _ _ _ _ _ _ _).mp yields
      obtain ⟨yesAction, middle, yesMeans, yesRealised, yesStill, yesGrown⟩ :=
        compile_realises accepted draft between yes scope first matched
      obtain ⟨noAction, after, noMeans, noRealised, noStill, noGrown⟩ :=
        compile_realises refused between last no middle second yesStill
      have kept := realises_extends _ _ _ _ noGrown yesRealised
      refine ⟨Action.test pattern yesAction noAction, after,
        by simp [Node.meaning, yesMeans, noMeans, read, Except.toOption],
        realises_push _ _ _ fun generator feed depth extended room => ?_,
        matches_extends _ _ _ noStill rfl (extends_push _ _),
        extends_trans _ _ _ (extends_trans _ _ _ yesGrown noGrown) (extends_push _ _)⟩
      simp only [Procedure.run, Action.test, kept generator feed depth extended room,
        noRealised generator feed depth extended room]

theorem compile_all_realises (nodes : List Node) (draft next : Draft) (fragments : List Fragment)
    (scope : Scope) (yields : (Draft.compileAll nodes).Yields draft fragments next)
    (matched : Matches draft scope) :
    ∃ actions after, Node.meaningAll nodes scope = some (actions, after) ∧
      List.Forall₂ (Realises next.procedures) fragments actions ∧ Matches next after ∧
        Extends draft.procedures next.procedures := by
  cases nodes with
  | nil =>
      obtain ⟨rfl, rfl⟩ := (Draft.yields_nil _ _ _).mp yields
      exact ⟨[], scope, rfl, .nil, matched, extends_refl _⟩
  | cons node rest =>
      obtain ⟨first, between, head, others, tail, rfl⟩ := (Draft.yields_cons _ _ _ _ _).mp yields
      obtain ⟨action, middle, means, realised, still, grown⟩ :=
        compile_realises node draft between first scope head matched
      obtain ⟨actions, after, restMeans, restRealised, restStill, restGrown⟩ :=
        compile_all_realises rest between next others middle tail still
      exact ⟨action :: actions, after, by simp [Node.meaningAll, means, restMeans],
        .cons (realises_extends _ _ _ _ restGrown realised) restRealised, restStill,
        extends_trans _ _ _ grown restGrown⟩

end

theorem compile_means (grammar : Grammar) (generator : Generator)
    (compiled : grammar.compile = .ok generator) :
    ∃ actions after, Node.meaningAll grammar.statements Bindings.empty = some (actions, after) ∧
      ∀ (feed : Feed) (drawn : Nat),
        generator.generate feed drawn = (Action.sequence actions).run feed drawn := by
  obtain ⟨parts, between, draft, all, joined, procedures⟩ := grammar.compile_ok generator compiled
  obtain ⟨actions, after, means, realised, still, grown⟩ :=
    compile_all_realises grammar.statements Draft.empty between parts Bindings.empty all matches_empty
  obtain ⟨whole, -, -⟩ := realises_joined parts actions between draft generator.entry joined realised
  refine ⟨actions, after, means, fun feed drawn => ?_⟩
  have produced := whole generator feed generator.procedures.size
    (procedures ▸ extends_refl _) (Nat.le_of_eq (congrArg Array.size procedures).symm)
  rw [Generator.generate, produced]
  rfl

-- Joining constants, passing single parts on and sharing procedures change neither a text nor the
-- words it takes.
theorem generate_follows_meaning (grammar : Grammar) (generator : Generator)
    (compiled : grammar.compile = .ok generator) :
    ∃ action, grammar.meaning = some action ∧
      ∀ (feed : Feed) (drawn : Nat), generator.generate feed drawn = action.run feed drawn := by
  obtain ⟨actions, after, means, generated⟩ := compile_means grammar generator compiled
  exact ⟨Action.sequence actions, by simp [Grammar.meaning, means], generated⟩

end

-- (= a ?'x' a = a (a 'y') a)
def rebound : Grammar where
  opening := ⟨0, 1⟩
  statements :=
    [.define ⟨1, 1⟩ ⟨"a", ⟨3, 1⟩⟩ (.optional ⟨5, 1⟩ (.literal ⟨"x", '\'', ⟨6, 3⟩⟩)),
      .name ⟨"a", ⟨10, 1⟩⟩,
      .define ⟨12, 1⟩ ⟨"a", ⟨14, 1⟩⟩
        (.group ⟨16, 1⟩ [.name ⟨"a", ⟨17, 1⟩⟩, .literal ⟨"y", '\'', ⟨19, 3⟩⟩] ⟨22, 1⟩),
      .name ⟨"a", ⟨24, 1⟩⟩]
  closing := ⟨25, 1⟩

theorem generate_follows_meaning_rebound :
    let generator : Generator :=
      ⟨#[⟨"_0", .optional (.constant "x")⟩, ⟨"_a_1", .forward 0⟩,
        ⟨"_2", .concat [.reference 1, .constant "y"]⟩, ⟨"_a_3", .forward 2⟩,
        ⟨"_4", .concat [.reference 1, .reference 3]⟩], .reference 4⟩
    rebound.compile = .ok generator ∧ ∃ action, rebound.meaning = some action ∧
      ∀ (feed : Feed) (drawn : Nat), generator.generate feed drawn = action.run feed drawn :=
  ⟨rfl, generate_follows_meaning rebound _ rfl⟩

end TextGrammar

import TextGrammar.Proofs.NormalForm

set_option autoImplicit false

namespace TextGrammar

inductive Kind where
  | concat
  | choose
  | optional
  | regex
  | forward
deriving DecidableEq, Repr

def Kind.decides : Kind → Bool
  | .choose | .optional | .regex => true
  | .concat | .forward => false

def Procedure.kind : Procedure → Kind
  | .concat _ => .concat
  | .choose _ => .choose
  | .optional _ => .optional
  | .regex .. => .regex
  | .forward _ => .forward

def Generator.kinds (generator : Generator) : List Kind :=
  generator.procedures.toList.map (·.procedure.kind)

def Node.decision : Node → Option Kind
  | .choose _ _ (_ :: _) _ => some .choose
  | .optional _ _ => some .optional
  | .regex _ _ _ _ => some .regex
  | _ => none

section

variable [Pattern.Engine]

-- The kind of procedure that the statement adds, when those inside it have added theirs.
def Turn.contribution (turn : Turn) : Option Kind :=
  match turn.node with
  | .group _ statements _ =>
      match (Draft.compileAll statements).outcome turn.draft with
      | (.ok children, _) => if 2 ≤ (joinConstants children).length then some .concat else none
      | (.error _, _) => none
  | .define _ _ body =>
      match (Draft.compile body).outcome turn.draft with
      | (.ok (.reference _), _) => some .forward
      | _ => none
  | node => node.decision

theorem makes_contribution (turn : Turn) (made : Option NamedProcedure) (makes : turn.Makes made) :
    turn.contribution = made.map (·.procedure.kind) := by
  cases makes with
  | literal | name | chooseNone | optional | regex => rfl
  | choose op opening closing alternatives draft between fragments some compiled =>
      cases alternatives with
      | nil => exact absurd rfl some
      | cons node rest => rfl
  | few opening closing statements draft between children compiled few =>
      have outcome : (Draft.compileAll statements).outcome draft = _ := compiled
      simp only [Turn.contribution, outcome, if_neg (Nat.not_le_of_lt few), Option.map_none]
  | several opening closing statements draft between children compiled several =>
      have outcome : (Draft.compileAll statements).outcome draft = _ := compiled
      simp only [Turn.contribution, outcome, if_pos several]
      rfl
  | constant op n body draft between text compiled =>
      have outcome : (Draft.compile body).outcome draft = _ := compiled
      simp only [Turn.contribution, outcome, Option.map_none]
  | forward op n body draft between index compiled =>
      have outcome : (Draft.compile body).outcome draft = _ := compiled
      simp only [Turn.contribution, outcome]
      rfl

theorem kinds_of_turns (turns : List Turn) (made : List (Option NamedProcedure))
    (makes : List.Forall₂ Turn.Makes turns made) :
    made.reduceOption.map (·.procedure.kind) = turns.filterMap Turn.contribution := by
  induction makes with
  | nil => rfl
  | @cons turn added rest others first _ ih =>
      have own := makes_contribution turn added first
      cases added with
      | none => rw [List.reduceOption_cons_of_none, List.filterMap_cons_none own, ih]
      | some named => rw [List.reduceOption_cons_of_some, List.map_cons, List.filterMap_cons_some own, ih]

theorem contribution_decided (turn : Turn) : turn.contribution.filter Kind.decides = turn.node.decision := by
  obtain ⟨node, draft⟩ := turn
  cases node with
  | literal | name | optional | regex => rfl
  | choose op opening alternatives closing => cases alternatives <;> rfl
  | group opening statements closing =>
      unfold Turn.contribution
      dsimp only
      split
      · split <;> rfl
      · rfl
  | define op n body =>
      unfold Turn.contribution
      dsimp only
      split <;> rfl

theorem Grammar.turns_statements (grammar : Grammar) :
    (grammar.turns.map Turn.node).Perm (grammar.root :: grammar.preorder.map Prod.snd) :=
  grammar.root.turns_statements Draft.empty 0

variable (grammar : Grammar) (generator : Generator)

theorem kinds_contributed (compiled : grammar.compile = .ok generator) :
    generator.kinds = grammar.turns.filterMap Turn.contribution := by
  obtain ⟨made, makes, table⟩ := grammar.table_made generator compiled
  rw [Generator.kinds, table, kinds_of_turns grammar.turns made makes]

theorem decisions_kept (compiled : grammar.compile = .ok generator) :
    (generator.kinds.filter Kind.decides).Perm (grammar.preorder.filterMap (·.2.decision)) := by
  have statements := grammar.turns_statements.filterMap Node.decision
  have decided : (fun turn : Turn => turn.contribution.filter Kind.decides) = Node.decision ∘ Turn.node :=
    funext contribution_decided
  rw [kinds_contributed grammar generator compiled, List.filter_filterMap, decided]
  rwa [List.filterMap_map, List.filterMap_cons_none rfl, List.filterMap_map] at statements

-- The first procedure has none before it to refer to, and the other kinds need one.
theorem first_decides (compiled : grammar.compile = .ok generator) (first : NamedProcedure)
    (found : generator.procedures[0]? = some first) : first.procedure.kind.decides := by
  obtain ⟨table, -⟩ := compiled_earlier grammar generator compiled
  have sound := (table 0 first found).1
  cases shape : first.procedure with
  | choose | optional | regex => rfl
  | forward target =>
      rw [shape] at sound
      exact absurd sound (Nat.not_lt_zero target)
  | concat parts =>
      obtain ⟨_, _, _, _, children, _, -, -, -, rfl, several⟩ :=
        concatenation_joined grammar generator compiled 0 first parts found shape
      obtain ⟨index, refers⟩ := normal_refers _ (joined_normal children) several
      rw [shape] at sound
      exact absurd (sound _ refers) (Nat.not_lt_zero index)

theorem table_empty (compiled : grammar.compile = .ok generator) :
    generator.procedures = #[] ↔ generator.kinds.filter Kind.decides = [] := by
  constructor
  · intro empty
    rw [Generator.kinds, empty]
    rfl
  · intro settled
    by_contra filled
    have size : 0 < generator.procedures.size := Array.size_pos_iff.mpr filled
    have found : generator.procedures[0]? = some generator.procedures[0] :=
      Array.getElem?_eq_getElem size
    have decides := first_decides grammar generator compiled _ found
    have kept : generator.procedures[0].procedure.kind ∈ generator.kinds.filter Kind.decides :=
      List.mem_filter.mpr ⟨List.mem_map_of_mem (Array.getElem_mem_toList size), decides⟩
    rw [settled] at kept
    exact List.not_mem_nil kept

-- What nothing decides is one text. Each statement has its turn once and makes what it contributes, so
-- that what decides is kept and all else is there to hold several parts or a definition.
theorem constant_folding_complete (compiled : grammar.compile = .ok generator) :
    (generator.procedures = #[] ↔ ∀ entry ∈ grammar.preorder, entry.2.decision = none) ∧
      (generator.procedures = #[] → ∃ text, generator.entry = .constant text) ∧
      (generator.kinds.filter Kind.decides).Perm (grammar.preorder.filterMap (·.2.decision)) ∧
      (grammar.turns.map Turn.node).Perm (grammar.root :: grammar.preorder.map Prod.snd) ∧
      generator.kinds = grammar.turns.filterMap Turn.contribution := by
  have kept := decisions_kept grammar generator compiled
  refine ⟨?_, fun empty => ?_, kept, grammar.turns_statements,
    kinds_contributed grammar generator compiled⟩
  · rw [table_empty grammar generator compiled, ← List.filterMap_eq_nil_iff]
    exact ⟨fun settled => (settled ▸ kept).nil_eq.symm, fun none => (none ▸ kept).eq_nil⟩
  · obtain ⟨-, earlier⟩ := compiled_earlier grammar generator compiled
    rw [empty] at earlier
    cases shape : generator.entry with
    | constant text => exact ⟨text, rfl⟩
    | reference index =>
        rw [shape] at earlier
        exact absurd earlier (Nat.not_lt_zero index)

end

-- (= a ?'x' = b (a 'z') = c ('u' 'v') c |() |(c))
def idle : Grammar where
  opening := ⟨0, 1⟩
  statements :=
    [.define ⟨1, 1⟩ ⟨"a", ⟨3, 1⟩⟩ (.optional ⟨5, 1⟩ (.literal ⟨"x", '\'', ⟨6, 3⟩⟩)),
      .define ⟨10, 1⟩ ⟨"b", ⟨12, 1⟩⟩
        (.group ⟨14, 1⟩ [.name ⟨"a", ⟨15, 1⟩⟩, .literal ⟨"z", '\'', ⟨17, 3⟩⟩] ⟨20, 1⟩),
      .define ⟨22, 1⟩ ⟨"c", ⟨24, 1⟩⟩
        (.group ⟨26, 1⟩ [.literal ⟨"u", '\'', ⟨27, 3⟩⟩, .literal ⟨"v", '\'', ⟨31, 3⟩⟩] ⟨34, 1⟩),
      .name ⟨"c", ⟨36, 1⟩⟩, .choose ⟨38, 1⟩ ⟨39, 1⟩ [] ⟨40, 1⟩,
      .choose ⟨42, 1⟩ ⟨43, 1⟩ [.name ⟨"c", ⟨44, 1⟩⟩] ⟨45, 1⟩]
  closing := ⟨46, 1⟩

theorem constant_folding_complete_idle :
    let generator : Generator :=
      ⟨#[⟨"_0", .optional (.constant "x")⟩, ⟨"_a_1", .forward 0⟩,
          ⟨"_2", .concat [.reference 1, .constant "z"]⟩, ⟨"_b_3", .forward 2⟩,
          ⟨"_4", .choose [.constant "uv"]⟩, ⟨"_5", .concat [.constant "uv", .reference 4]⟩],
        .reference 5⟩
    idle.compile = .ok generator ∧ (¬ ∀ entry ∈ idle.preorder, entry.2.decision = none) ∧
      [Kind.optional, .choose].Perm (idle.preorder.filterMap (·.2.decision)) ∧
      [.optional, .forward, .concat, .forward, .choose, .concat] =
        idle.turns.filterMap Turn.contribution := by
  intro generator
  have compiled : idle.compile = .ok generator := by rfl
  obtain ⟨empty, -, decided, -, made⟩ := constant_folding_complete idle generator compiled
  refine ⟨compiled, ?_, decided, made⟩
  rw [← empty]
  simp [generator]

end TextGrammar

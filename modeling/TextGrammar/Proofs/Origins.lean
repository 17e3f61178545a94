import TextGrammar.Proofs.Compilation
import TextGrammar.Proofs.Tiling
import Mathlib.Data.List.Forall2
import Mathlib.Data.List.ReduceOption

set_option autoImplicit false

namespace TextGrammar

open Compilation

structure Turn where
  node : Node
  draft : Draft

section

variable [Pattern.Engine]

def Draft.behind (draft : Draft) (node : Node) : Draft := ((Draft.compile node).outcome draft).2

namespace Node

mutual

-- In the order in which the statements are done.
def turns : Node → Draft → List Turn
  | .literal l, draft => [⟨.literal l, draft⟩]
  | .name n, draft => [⟨.name n, draft⟩]
  | .group opening statements closing, draft =>
      turnsAll statements draft ++ [⟨.group opening statements closing, draft⟩]
  | .define op n body, draft => body.turns draft ++ [⟨.define op n body, draft⟩]
  | .choose op opening alternatives closing, draft =>
      turnsAll alternatives draft ++ [⟨.choose op opening alternatives closing, draft⟩]
  | .optional op body, draft => body.turns draft ++ [⟨.optional op body, draft⟩]
  | .regex op source matched unmatched, draft =>
      matched.turns draft ++ unmatched.turns (draft.behind matched) ++
        [⟨.regex op source matched unmatched, draft⟩]

def turnsAll : List Node → Draft → List Turn
  | [], _ => []
  | node :: rest, draft => node.turns draft ++ turnsAll rest (draft.behind node)

end

mutual

theorem turns_statements (node : Node) (draft : Draft) (depth : Nat) :
    ((node.turns draft).map Turn.node).Perm ((node.preorder depth).map Prod.snd) := by
  cases node with
  | literal | name => exact .refl _
  | group opening statements closing =>
      simp only [turns, preorder, List.map_append, List.map_cons, List.map_nil]
      exact (List.perm_append_singleton _ _).trans ((turns_all_statements statements draft _).cons _)
  | define op n body =>
      simp only [turns, preorder, List.map_append, List.map_cons, List.map_nil]
      exact (List.perm_append_singleton _ _).trans ((turns_statements body draft _).cons _)
  | choose op opening alternatives closing =>
      simp only [turns, preorder, List.map_append, List.map_cons, List.map_nil]
      exact (List.perm_append_singleton _ _).trans ((turns_all_statements alternatives draft _).cons _)
  | optional op body =>
      simp only [turns, preorder, List.map_append, List.map_cons, List.map_nil]
      exact (List.perm_append_singleton _ _).trans ((turns_statements body draft _).cons _)
  | regex op source matched unmatched =>
      simp only [turns, preorder, List.map_append, List.map_cons, List.map_nil]
      exact (List.perm_append_singleton _ _).trans
        (((turns_statements matched draft _).append (turns_statements unmatched _ _)).cons _)

theorem turns_all_statements (nodes : List Node) (draft : Draft) (depth : Nat) :
    ((turnsAll nodes draft).map Turn.node).Perm ((preorderAll depth nodes).map Prod.snd) := by
  cases nodes with
  | nil => exact .refl _
  | cons node rest =>
      simp only [turnsAll, preorderAll, List.map_append]
      exact (turns_statements node draft depth).append (turns_all_statements rest _ depth)

end

end Node

inductive Turn.Makes : Turn → Option NamedProcedure → Prop where
  | literal (l : Literal) (draft : Draft) : Makes ⟨.literal l, draft⟩ none
  | name (n : Name) (draft : Draft) : Makes ⟨.name n, draft⟩ none
  | few (opening closing : Span) (statements : List Node) (draft between : Draft)
      (children : List Fragment)
      (compiled : (Draft.compileAll statements).Yields draft children between)
      (few : (joinConstants children).length < 2) :
      Makes ⟨.group opening statements closing, draft⟩ none
  | several (opening closing : Span) (statements : List Node) (draft between : Draft)
      (children : List Fragment)
      (compiled : (Draft.compileAll statements).Yields draft children between)
      (several : 2 ≤ (joinConstants children).length) :
      Makes ⟨.group opening statements closing, draft⟩
        (some ⟨procedureName none between.procedures.size, .concat (joinConstants children)⟩)
  | constant (op : Span) (n : Name) (body : Node) (draft between : Draft) (text : String)
      (compiled : (Draft.compile body).Yields draft (.constant text) between) :
      Makes ⟨.define op n body, draft⟩ none
  | forward (op : Span) (n : Name) (body : Node) (draft between : Draft) (index : Nat)
      (compiled : (Draft.compile body).Yields draft (.reference index) between) :
      Makes ⟨.define op n body, draft⟩
        (some ⟨procedureName (some n.text) between.procedures.size, .forward index⟩)
  | chooseNone (op opening closing : Span) (draft : Draft) :
      Makes ⟨.choose op opening [] closing, draft⟩ none
  | choose (op opening closing : Span) (alternatives : List Node) (draft between : Draft)
      (fragments : List Fragment) (some : alternatives ≠ [])
      (compiled : (Draft.compileAll alternatives).Yields draft fragments between) :
      Makes ⟨.choose op opening alternatives closing, draft⟩
        (.some ⟨procedureName none between.procedures.size, .choose fragments⟩)
  | optional (op : Span) (body : Node) (draft between : Draft) (inner : Fragment)
      (compiled : (Draft.compile body).Yields draft inner between) :
      Makes ⟨.optional op body, draft⟩
        (some ⟨procedureName none between.procedures.size, .optional inner⟩)
  | regex (op : Span) (source : Literal) (matched unmatched : Node) (draft between last : Draft)
      (pattern : Pattern) (accepted refused : Fragment)
      (read : Pattern.Engine.read source.text = .ok pattern)
      (first : (Draft.compile matched).Yields draft accepted between)
      (second : (Draft.compile unmatched).Yields between refused last) :
      Makes ⟨.regex op source matched unmatched, draft⟩
        (some ⟨procedureName none last.procedures.size, .regex pattern accepted refused⟩)

-- What is made in the turns stands in the table in their order, behind what was there.
def Accounts (turns : List Turn) (draft next : Draft) : Prop :=
  ∃ made, List.Forall₂ Turn.Makes turns made ∧
    next.procedures.toList = draft.procedures.toList ++ made.reduceOption

theorem accounts_append (first second : List Turn) (draft between next : Draft)
    (begins : Accounts first draft between) (goesOn : Accounts second between next) :
    Accounts (first ++ second) draft next := by
  obtain ⟨made, makes, grown⟩ := begins
  obtain ⟨more, makesMore, grownMore⟩ := goesOn
  refine ⟨made ++ more, List.rel_append makes makesMore, ?_⟩
  rw [grownMore, grown, List.reduceOption_append, List.append_assoc]

theorem accounts_one (turn : Turn) (draft next : Draft) (made : Option NamedProcedure)
    (makes : turn.Makes made)
    (grown : next.procedures.toList = draft.procedures.toList ++ [made].reduceOption) :
    Accounts [turn] draft next :=
  ⟨[made], .cons makes .nil, grown⟩

theorem accounts_push (turn : Turn) (draft : Draft) (defined : Option String) (procedure : Procedure)
    (makes : turn.Makes (some ⟨procedureName defined draft.procedures.size, procedure⟩)) :
    Accounts [turn] draft (draft.push defined procedure) :=
  accounts_one turn draft _ _ makes (Array.toList_push ..)

theorem accounts_nothing (turn : Turn) (draft next : Draft) (makes : turn.Makes none)
    (same : next.procedures = draft.procedures) : Accounts [turn] draft next :=
  accounts_one turn draft next none makes (by rw [same]; simp)

theorem yields_behind (node : Node) (draft next : Draft) (fragment : Fragment)
    (yields : (Draft.compile node).Yields draft fragment next) : draft.behind node = next := by
  rw [Draft.behind, show (Draft.compile node).outcome draft = _ from yields]

omit [Pattern.Engine] in
theorem joined_few (parts : List Fragment) (draft next : Draft) (fragment : Fragment)
    (few : (joinConstants parts).length < 2)
    (yields : (Draft.joined parts).Yields draft fragment next) : next = draft := by
  rw [Draft.yields_joined] at yields
  match shape : joinConstants parts with
  | [] | [part] =>
      rw [shape] at yields
      exact yields.2
  | first :: second :: rest =>
      rw [shape, List.length_cons, List.length_cons] at few
      omega

omit [Pattern.Engine] in
theorem yields_several (parts : List Fragment) (draft next : Draft) (fragment : Fragment)
    (several : 2 ≤ (joinConstants parts).length) :
    (Draft.joined parts).Yields draft fragment next ↔
      fragment = .reference draft.procedures.size ∧
        next = draft.push none (.concat (joinConstants parts)) := by
  rw [Draft.yields_joined]
  match shape : joinConstants parts with
  | [] | [part] =>
      rw [shape] at several
      simp at several
  | first :: second :: rest => rfl

theorem fragments_some (nodes : List Node) (draft next : Draft) (fragments : List Fragment)
    (some : nodes ≠ []) (yields : (Draft.compileAll nodes).Yields draft fragments next) :
    fragments ≠ [] := by
  cases nodes with
  | nil => exact absurd rfl some
  | cons node rest =>
      obtain ⟨first, between, -, others, -, rfl⟩ := (Draft.yields_cons _ _ _ _ _).mp yields
      exact List.cons_ne_nil first others

theorem Grammar.compile_root (grammar : Grammar) (generator : Generator)
    (compiled : grammar.compile = .ok generator) :
    ∃ draft, (Draft.compile grammar.root).Yields Draft.empty generator.entry draft ∧
      generator.procedures = draft.procedures := by
  obtain ⟨parts, between, draft, all, joined, same⟩ := grammar.compile_ok generator compiled
  exact ⟨draft, (Draft.yields_group _ _ _ _ _ _).mpr ⟨parts, between, all, joined⟩, same⟩

mutual

-- By induction on the statement. Those inside it come before it, and what is left is its own step.
theorem compile_accounts (node : Node) (draft next : Draft) (fragment : Fragment)
    (yields : (Draft.compile node).Yields draft fragment next) :
    Accounts (node.turns draft) draft next := by
  cases node with
  | literal l =>
      obtain ⟨-, rfl⟩ := (Draft.yields_literal _ _ _ _).mp yields
      exact accounts_nothing _ next next (.literal l next) rfl
  | name n =>
      obtain ⟨-, rfl⟩ := (Draft.yields_name _ _ _ _).mp yields
      exact accounts_nothing _ next next (.name n next) rfl
  | group opening statements closing =>
      obtain ⟨children, between, all, joined⟩ := (Draft.yields_group _ _ _ _ _ _).mp yields
      refine accounts_append _ _ draft between next
        (compile_all_accounts statements draft between children all) ?_
      by_cases several : 2 ≤ (joinConstants children).length
      · obtain ⟨-, rfl⟩ := (yields_several children between next fragment several).mp joined
        exact accounts_push _ between none _
          (.several opening closing statements draft between children all several)
      · have few := Nat.lt_of_not_le several
        obtain rfl := joined_few children between next fragment few joined
        exact accounts_nothing _ next next (.few opening closing statements draft next children all few) rfl
  | define op n body =>
      obtain ⟨meaning, between, compiled, -, rfl⟩ := (Draft.yields_define _ _ _ _ _ _).mp yields
      refine accounts_append _ _ draft between _ (compile_accounts body draft between meaning compiled) ?_
      cases meaning with
      | constant text =>
          exact accounts_nothing _ between _ (.constant op n body draft between text compiled) rfl
      | reference index =>
          exact accounts_push _ between _ _ (.forward op n body draft between index compiled)
  | choose op opening alternatives closing =>
      obtain ⟨fragments, between, all, chosen⟩ := (Draft.yields_choose _ _ _ _ _ _ _).mp yields
      refine accounts_append _ _ draft between next
        (compile_all_accounts alternatives draft between fragments all) ?_
      by_cases none : alternatives = []
      · subst none
        obtain ⟨rfl, rfl⟩ := (Draft.yields_nil _ _ _).mp all
        rw [if_pos rfl] at chosen
        obtain ⟨-, rfl⟩ := chosen
        exact accounts_nothing _ next next (.chooseNone op opening closing next) rfl
      · rw [if_neg (fragments_some alternatives draft between fragments none all)] at chosen
        obtain ⟨-, rfl⟩ := chosen
        exact accounts_push _ between Option.none _
          (.choose op opening closing alternatives draft between fragments none all)
  | optional op body =>
      obtain ⟨inner, between, compiled, rfl, rfl⟩ := (Draft.yields_optional _ _ _ _ _).mp yields
      exact accounts_append _ _ draft between _ (compile_accounts body draft between inner compiled)
        (accounts_push _ between _ _ (.optional op body draft between inner compiled))
  | regex op source matched unmatched =>
      obtain ⟨pattern, read, accepted, between, first, refused, last, second, rfl, rfl⟩ :=
        (Draft.yields_regex _ _ _ _ _ _ _).mp yields
      rw [Node.turns, yields_behind matched draft between accepted first]
      refine accounts_append _ _ draft last _
        (accounts_append _ _ draft between last (compile_accounts matched draft between accepted first)
          (compile_accounts unmatched between last refused second)) ?_
      exact accounts_push _ last _ _
        (.regex op source matched unmatched draft between last pattern accepted refused read first second)

theorem compile_all_accounts (nodes : List Node) (draft next : Draft) (fragments : List Fragment)
    (yields : (Draft.compileAll nodes).Yields draft fragments next) :
    Accounts (Node.turnsAll nodes draft) draft next := by
  cases nodes with
  | nil =>
      obtain ⟨-, rfl⟩ := (Draft.yields_nil _ _ _).mp yields
      exact ⟨[], .nil, (List.append_nil _).symm⟩
  | cons node rest =>
      obtain ⟨first, between, head, others, tail, -⟩ := (Draft.yields_cons _ _ _ _ _).mp yields
      rw [Node.turnsAll, yields_behind node draft between first head]
      exact accounts_append _ _ draft between next (compile_accounts node draft between first head)
        (compile_all_accounts rest between next others tail)

end

def Grammar.turns (grammar : Grammar) : List Turn := grammar.root.turns Draft.empty

theorem Grammar.table_made (grammar : Grammar) (generator : Generator)
    (compiled : grammar.compile = .ok generator) :
    ∃ made, List.Forall₂ Turn.Makes grammar.turns made ∧
      generator.procedures.toList = made.reduceOption := by
  obtain ⟨draft, root, same⟩ := grammar.compile_root generator compiled
  obtain ⟨made, makes, table⟩ := compile_accounts grammar.root Draft.empty draft generator.entry root
  exact ⟨made, makes, by rw [same, table]; rfl⟩

theorem made_in_turn (turns : List Turn) (made : List (Option NamedProcedure))
    (makes : List.Forall₂ Turn.Makes turns made) (named : NamedProcedure) (member : some named ∈ made) :
    ∃ turn ∈ turns, turn.Makes (some named) := by
  induction makes with
  | nil => cases member
  | cons first _ ih =>
      rcases List.mem_cons.mp member with rfl | later
      · exact ⟨_, List.mem_cons_self, first⟩
      · obtain ⟨turn, found, makes⟩ := ih later
        exact ⟨turn, List.mem_cons_of_mem _ found, makes⟩

theorem Grammar.procedure_made (grammar : Grammar) (generator : Generator)
    (compiled : grammar.compile = .ok generator) (number : Nat) (named : NamedProcedure)
    (found : generator.procedures[number]? = some named) :
    ∃ turn ∈ grammar.turns, turn.Makes (some named) := by
  obtain ⟨made, makes, table⟩ := grammar.table_made generator compiled
  have member : named ∈ generator.procedures.toList := Array.mem_toList_iff.mpr (Array.mem_of_getElem? found)
  rw [table, List.reduceOption_mem_iff] at member
  exact made_in_turn grammar.turns made makes named member

end

end TextGrammar

import TextGrammar.Proofs.CallGraph
import TextGrammar.Proofs.Folding

set_option autoImplicit false

namespace TextGrammar

open Rust

theorem procedure_name_injective (defined defined' : Option String) (number number' : Nat)
    (same : procedureName defined number = procedureName defined' number') :
    number = number' ∧ defined = defined' := by
  obtain rfl := procedure_name_differs defined defined' number number' same
  refine ⟨rfl, ?_⟩
  have chars := congrArg String.toList same
  cases defined with
  | none =>
      cases defined' with
      | none => rfl
      | some name =>
          have lengths := congrArg List.length chars
          simp [procedureName] at lengths
          omega
  | some name =>
      cases defined' with
      | none =>
          have lengths := congrArg List.length chars
          simp [procedureName] at lengths
          omega
      | some name' =>
          simp only [procedureName, String.toList_append, List.append_cancel_right_eq,
            List.append_cancel_left_eq, String.toList_inj] at chars
          rw [chars]

def Plain (name : String) : Prop := '_' ∉ name.toList

theorem procedure_name_parts (defined : Option String) (number : Nat)
    (plain : ∀ name, defined = some name → Plain name) :
    (procedureName defined number).toList.splitOn '_' =
      [] :: (defined.toList.map String.toList ++ [Nat.toDigits 10 number]) := by
  have spelled : (procedureName defined number).toList =
      ['_'].intercalate ([] :: (defined.toList.map String.toList ++ [Nat.toDigits 10 number])) := by
    cases defined <;> simp [procedureName, List.intercalate]
  rw [spelled]
  refine List.splitOn_intercalate '_' ?_ (List.cons_ne_nil _ _)
  intro part member underscore
  rcases List.mem_cons.mp member with rfl | member
  · cases underscore
  rcases List.mem_append.mp member with inside | last
  · obtain ⟨name, within, rfl⟩ := List.mem_map.mp inside
    exact plain name (Option.mem_toList.mp within) underscore
  · rw [List.mem_singleton.mp last] at underscore
    exact Nat.underscore_not_in_toDigits underscore

theorem procedure_name_underscores (defined : Option String) (number : Nat)
    (plain : ∀ name, defined = some name → Plain name) :
    (procedureName defined number).toList.count '_' = if defined.isSome then 2 else 1 := by
  have digits : (Nat.toDigits 10 number).count '_' = 0 :=
    List.count_eq_zero.mpr Nat.underscore_not_in_toDigits
  cases defined with
  | none => simp [procedureName, digits]
  | some name =>
      have none : name.toList.count '_' = 0 := List.count_eq_zero.mpr (plain name rfl)
      simp [procedureName, digits, none]

theorem Name.plain (name : Name) (wellFormed : name.WellFormed) : Plain name.text := by
  intro underscore
  exact absurd (wellFormed.2 _ underscore) (by decide)

section

variable [Pattern.Engine]

theorem made_named (turn : Turn) (named : NamedProcedure) (makes : turn.Makes (some named)) :
    (named.procedure.kind ≠ .forward ∧ ∃ number, named.name = procedureName none number) ∨
      ∃ op n body draft between target, turn = ⟨.define op n body, draft⟩ ∧
        (Draft.compile body).Yields draft (.reference target) between ∧
          named = ⟨procedureName (some n.text) between.procedures.size, .forward target⟩ := by
  cases makes with
  | several | choose | optional | regex => exact .inl ⟨nofun, _, rfl⟩
  | forward op n body draft between index compiled =>
      exact .inr ⟨op, n, body, draft, between, index, rfl, compiled, rfl⟩

theorem procedure_named (grammar : Grammar) (generator : Generator)
    (compiled : grammar.compile = .ok generator) (number : Nat) (named : NamedProcedure)
    (found : generator.procedures[number]? = some named) :
    (named.procedure.kind ≠ .forward ∧ named.name = procedureName none number) ∨
      ∃ op n body draft between target, ⟨.define op n body, draft⟩ ∈ grammar.turns ∧
        (Draft.compile body).Yields draft (.reference target) between ∧
          between.procedures.size = number ∧
            named = ⟨procedureName (some n.text) number, .forward target⟩ := by
  obtain ⟨turn, member, makes⟩ := grammar.procedure_made generator compiled number named found
  obtain ⟨table, -⟩ := compiled_earlier grammar generator compiled
  obtain ⟨-, defined, name⟩ := table number named found
  rcases made_named turn named makes with
    ⟨other, index, own⟩ | ⟨op, n, body, draft, between, target, rfl, inside, rfl⟩
  · obtain ⟨rfl, -⟩ := procedure_name_injective none defined index number (own.symm.trans name)
    exact .inl ⟨other, own⟩
  · obtain ⟨rfl, -⟩ := procedure_name_injective (some n.text) defined _ number name
    exact .inr ⟨op, n, body, draft, between, target, member, inside, rfl, rfl⟩

-- A name can stand wherever a procedure is called, and what it is made of tells the procedure and, if
-- it stands for a definition, which one.
theorem names_tell_procedures (limit : Nat) (source : String) (grammar : Grammar)
    (generator : Generator) (read : Grammar.readWithin limit source = .ok grammar)
    (compiled : grammar.compile = .ok generator) :
    (generator.procedures.toList.map NamedProcedure.name).Nodup ∧
      "generate" ∉ generator.procedures.toList.map NamedProcedure.name ∧
      ∀ (number : Nat) (named : NamedProcedure), generator.procedures[number]? = some named →
        IsName named.name ∧
        (named.name.toList.splitOn '_').getLast? = some (Nat.toDigits 10 number) ∧
        (named.name.toList.count '_' = 2 ↔ named.procedure.kind = .forward) ∧
        (∀ target, named.procedure = .forward target →
          ∃ op n body draft between, ⟨.define op n body, draft⟩ ∈ grammar.turns ∧
            (Draft.compile body).Yields draft (.reference target) between ∧
            between.procedures.size = number ∧
            named.name.toList.splitOn '_' = [[], n.text.toList, Nat.toDigits 10 number]) ∧
        ∀ other < generator.procedures.size, generator.nameOf other = named.name → other = number := by
  obtain ⟨sound, -⟩ := compiled_sound Usable grammar generator
    (grammar.read_usable limit source read) compiled
  obtain ⟨plainTable, -⟩ := compiled_sound Plain grammar generator
    (Grammar.read_named Plain Name.plain limit source grammar read) compiled
  have apart := program_distinct generator sound
  rw [program_names, List.nodup_append] at apart
  refine ⟨apart.1, fun member => apart.2.2 _ member _ (List.mem_singleton_self _) rfl, ?_⟩
  intro number named found
  obtain ⟨defined, name, plain⟩ := (plainTable number named found).name
  have inside : number < generator.procedures.size := (Array.getElem?_eq_some_iff.mp found).1
  have called : generator.nameOf number = named.name := by rw [Generator.nameOf, found]
  have parts := procedure_name_parts defined number plain
  have underscores := procedure_name_underscores defined number plain
  rw [← name] at parts underscores
  refine ⟨called ▸ reference_is_name generator sound number inside, ?_, ?_, ?_, ?_⟩
  · rw [parts, ← List.cons_append]
    exact List.getLast?_concat ..
  · rcases procedure_named grammar generator compiled number named found with
      ⟨other, own⟩ | ⟨op, n, body, draft, between, target, -, -, -, rfl⟩
    · obtain ⟨-, rfl⟩ := procedure_name_injective none defined number number (own.symm.trans name)
      simp [underscores, other]
    · obtain ⟨-, rfl⟩ := procedure_name_injective (some n.text) defined number number name
      simp [underscores, Procedure.kind]
  · intro target forwards
    rcases procedure_named grammar generator compiled number named found with
      ⟨other, -⟩ | ⟨op, n, body, draft, between, target, member, yields, size, rfl⟩
    · rw [forwards] at other
      exact absurd rfl other
    · cases forwards
      obtain ⟨-, rfl⟩ := procedure_name_injective (some n.text) defined number number name
      exact ⟨op, n, body, draft, between, member, yields, size, parts⟩
  · intro other within same
    exact name_of_injective generator sound other number within inside (same.trans called.symm)

end

-- (= 1 ?'a' = 1 ?1 1)
def numeric : Grammar where
  opening := ⟨0, 1⟩
  statements :=
    [.define ⟨1, 1⟩ ⟨"1", ⟨3, 1⟩⟩ (.optional ⟨5, 1⟩ (.literal ⟨"a", '\'', ⟨6, 3⟩⟩)),
      .define ⟨10, 1⟩ ⟨"1", ⟨12, 1⟩⟩ (.optional ⟨14, 1⟩ (.name ⟨"1", ⟨15, 1⟩⟩)),
      .name ⟨"1", ⟨17, 1⟩⟩]
  closing := ⟨18, 1⟩

theorem names_tell_procedures_numeric :
    let generator : Generator :=
      ⟨#[⟨"_0", .optional (.constant "a")⟩, ⟨"_1_1", .forward 0⟩,
        ⟨"_2", .optional (.reference 1)⟩, ⟨"_1_3", .forward 2⟩], .reference 3⟩
    Grammar.readWithin 3 "(= 1 ?'a' = 1 ?1 1)" = .ok numeric ∧ numeric.compile = .ok generator ∧
      IsName "_1_3" ∧
      ∃ op n body draft between, ⟨.define op n body, draft⟩ ∈ numeric.turns ∧
        (Draft.compile body).Yields draft (.reference 2) between ∧ between.procedures.size = 3 ∧
          [[], ['1'], ['3']] = [[], n.text.toList, Nat.toDigits 10 3] := by
  intro generator
  have read : Grammar.readWithin 3 "(= 1 ?'a' = 1 ?1 1)" = .ok numeric := by rfl
  have compiled : numeric.compile = .ok generator := by rfl
  obtain ⟨-, -, tell⟩ := names_tell_procedures 3 _ numeric generator read compiled
  obtain ⟨isName, -, -, defines, -⟩ := tell 3 ⟨"_1_3", .forward 2⟩ rfl
  exact ⟨read, compiled, isName, defines 2 rfl⟩

end TextGrammar

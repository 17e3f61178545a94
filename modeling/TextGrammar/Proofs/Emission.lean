import TextGrammar.Proofs.Canonical
import TextGrammar.Proofs.RustExecution

set_option autoImplicit false

namespace TextGrammar

open Rust

def Usable (name : String) : Prop := ∀ c ∈ name.toList, isWordChar c = true

theorem procedure_name_spelled (defined : Option String) (number : Nat)
    (usable : ∀ name, defined = some name → Usable name) :
    ∃ rest, (procedureName defined number).toList = '_' :: rest ∧ rest ≠ [] ∧
      ∀ c ∈ rest, isWordChar c = true := by
  have digits : ∀ c ∈ Nat.toDigits 10 number, isWordChar c = true := by
    intro c member
    exact (begin_digit c (Nat.isDigit_of_mem_toDigits (by omega) (by omega) member)).2.1
  cases defined with
  | none => exact ⟨_, by simp [procedureName], Nat.toDigits_ne_nil, digits⟩
  | some name =>
      refine ⟨name.toList ++ '_' :: Nat.toDigits 10 number, by simp [procedureName], by simp, ?_⟩
      intro c member
      rcases List.mem_append.mp member with inside | behind
      · exact usable name rfl c inside
      · cases behind with
        | head => decide
        | tail _ later => exact digits c later

theorem procedure_is_name (defined : Option String) (number : Nat)
    (usable : ∀ name, defined = some name → Usable name) : IsName (procedureName defined number) := by
  obtain ⟨rest, spelled, any, chars⟩ := procedure_name_spelled defined number usable
  refine ⟨⟨'_', rest, spelled, by decide, chars⟩, ?_⟩
  by_contra reserved
  rw [Bool.not_eq_false, List.contains_iff_mem] at reserved
  have only : ∀ keyword ∈ keywords, keyword.toList.head? = some '_' → keyword = "_" := by
    decide
  have same := only _ reserved (by rw [spelled]; rfl)
  rw [same] at spelled
  have long : "_".toList = ['_'] := by decide
  rw [long] at spelled
  cases spelled
  exact any rfl

theorem definitions_single (program : Program) (distinct : (program.map Item.name).Nodup)
    (item : Item) (member : item ∈ program) : program.definitions item.name = [item] := by
  induction program with
  | nil => cases member
  | cons first rest ih =>
      rw [List.map_cons, List.nodup_cons] at distinct
      obtain ⟨apart, others⟩ := distinct
      cases member with
      | head =>
          have none : rest.filter (·.name = item.name) = [] := by
            rw [List.filter_eq_nil_iff]
            intro other inside same
            exact apart (List.mem_map.mpr ⟨other, inside, by simpa using same⟩)
          rw [Program.definitions, List.filter_cons_of_pos (by simp), none]
      | tail _ later =>
          have differs : first.name ≠ item.name := by
            intro same
            exact apart (List.mem_map.mpr ⟨item, later, same.symm⟩)
          rw [Program.definitions, List.filter_cons_of_neg (by simpa using differs)]
          exact ih others later

def Generator.program (generator : Generator) : Program :=
  generator.rustModule.functions.map item

section

variable (generator : Generator)

theorem procedure_numbered (named : NamedProcedure) (inside : named ∈ generator.procedures.toList) :
    ∃ number, number < generator.procedures.size ∧ generator.procedures[number]? = some named := by
  obtain ⟨number, found⟩ := List.mem_iff_getElem?.mp inside
  rw [Array.getElem?_toList] at found
  exact ⟨number, (Array.getElem?_eq_some_iff.mp found).1, found⟩

theorem function_origin (function : RustFunction) (member : function ∈ generator.rustModule.functions) :
    (∃ number named, number < generator.procedures.size ∧
      generator.procedures[number]? = some named ∧
        function = ⟨false, named.name, generator.rustBody named.procedure⟩) ∨
      function = ⟨true, "generate", .value (generator.rustExpression generator.entry)⟩ := by
  rcases List.mem_append.mp member with made | last
  · obtain ⟨named, inside, same⟩ := List.mem_map.mp made
    obtain ⟨number, bound, found⟩ := procedure_numbered generator named inside
    exact .inl ⟨number, named, bound, found, same.symm⟩
  · exact .inr (List.mem_singleton.mp last)

theorem program_names : generator.program.map Item.name =
    generator.procedures.toList.map NamedProcedure.name ++ ["generate"] := by
  simp [Generator.program, Generator.rustModule, item, Function.comp_def]

variable [Pattern.Engine] (sound : TableSound Usable generator.procedures)

include sound

theorem program_distinct : (generator.program.map Item.name).Nodup := by
  rw [program_names, List.nodup_append]
  refine ⟨names_distinct Usable generator.procedures sound, by simp, ?_⟩
  intro name member other last same
  rw [List.mem_singleton.mp last] at same
  obtain ⟨named, inside, rfl⟩ := List.mem_map.mp member
  obtain ⟨number, -, found⟩ := procedure_numbered generator named inside
  obtain ⟨defined, spelled, usable⟩ := (sound number named found).name
  obtain ⟨rest, begins, -⟩ := procedure_name_spelled defined number usable
  rw [← spelled, same] at begins
  have starts : "generate".toList.head? = some 'g' := by decide
  rw [begins] at starts
  cases starts

theorem definition_of (number : Nat) (named : NamedProcedure)
    (found : generator.procedures[number]? = some named) :
    generator.program.definitions (generator.nameOf number) =
      [⟨false, named.name, block (generator.rustBody named.procedure)⟩] := by
  have inside : named ∈ generator.procedures.toList := by
    rw [← Array.getElem?_toList] at found
    exact List.mem_of_getElem? found
  have member : (⟨false, named.name, block (generator.rustBody named.procedure)⟩ : Item) ∈
      generator.program := by
    rw [Generator.program, List.mem_map]
    exact ⟨_, List.mem_append_left _ (List.mem_map_of_mem inside), rfl⟩
  rw [Generator.nameOf, found]
  exact definitions_single _ (program_distinct generator sound) _ member

theorem definition_of_generate :
    generator.program.definitions "generate" =
      [⟨true, "generate", .value (generator.rustExpression generator.entry)⟩] := by
  have member : (⟨true, "generate", .value (generator.rustExpression generator.entry)⟩ : Item) ∈
      generator.program := by
    rw [Generator.program, List.mem_map]
    exact ⟨_, List.mem_append_right _ (List.mem_singleton_self _), rfl⟩
  exact definitions_single _ (program_distinct generator sound) _ member

theorem reference_is_name (index : Nat) (inside : index < generator.procedures.size) :
    IsName (generator.nameOf index) := by
  have found := Array.getElem?_eq_getElem inside
  obtain ⟨defined, name, usable⟩ := (sound index _ found).name
  rw [Generator.nameOf, found]
  dsimp only
  rw [name]
  exact procedure_is_name defined index usable

theorem expression_named (number : Nat) (fragment : Fragment)
    (inside : number ≤ generator.procedures.size) (earlier : fragment.Earlier number) :
    IsCall (generator.rustExpression fragment) := by
  cases fragment with
  | reference index => exact reference_is_name generator sound index (Nat.lt_of_lt_of_le earlier inside)
  | constant text =>
      rw [Generator.rustExpression]
      by_cases empty : text = ""
      · rw [if_pos empty]
        trivial
      · rw [if_neg empty]
        trivial

theorem body_named (number : Nat) (procedure : Procedure)
    (inside : number ≤ generator.procedures.size) (made : procedure.Sound number) :
    IsBody (generator.rustBody procedure) := by
  have named := fun fragment => expression_named generator sound number fragment inside
  cases procedure with
  | concat parts =>
      intro piece member
      obtain ⟨part, within, rfl⟩ := List.mem_map.mp member
      cases part with
      | constant text => trivial
      | reference index =>
          exact reference_is_name generator sound index (Nat.lt_of_lt_of_le (made _ within) inside)
  | choose alternatives =>
      intro arm member
      obtain ⟨fragment, within, rfl⟩ := List.mem_map.mp member
      exact named fragment (made.2 fragment within)
  | optional body => exact named body made
  | regex pattern matched unmatched => exact ⟨named matched made.2.1, named unmatched made.2.2⟩
  | forward target => exact reference_is_name generator sound target (Nat.lt_of_lt_of_le made inside)

theorem functions_named (entry : generator.entry.Earlier generator.procedures.size) :
    ∀ function ∈ generator.rustModule.functions, IsFunction function := by
  intro function member
  rcases function_origin generator function member with ⟨number, named, bound, found, rfl⟩ | rfl
  · obtain ⟨procedure, defined, name, usable⟩ := sound number named found
    refine ⟨?_, body_named generator sound number _ (Nat.le_of_lt bound) procedure⟩
    rw [name]
    exact procedure_is_name defined number usable
  · have chars : ∀ c ∈ "enerate".toList, isWordChar c = true := List.all_eq_true.mp (by decide)
    have isName : IsName "generate" := ⟨⟨'g', _, by decide, by decide, chars⟩, by decide⟩
    exact ⟨isName, expression_named generator sound _ generator.entry (Nat.le_refl _) entry⟩

theorem source_read (entry : generator.entry.Earlier generator.procedures.size) :
    Program.read generator.rustSource = some generator.program :=
  read_module generator.rustModule (functions_named generator sound entry)

end

section

variable (generator : Generator)

theorem expression_calls (number : Nat) (fragment : Fragment) (earlier : fragment.Earlier number) :
    ∀ name ∈ calledBy (generator.rustExpression fragment),
      ∃ index < number, name = generator.nameOf index := by
  intro name member
  cases fragment with
  | reference index => exact ⟨index, earlier, List.mem_singleton.mp member⟩
  | constant text =>
      rw [Generator.rustExpression] at member
      by_cases empty : text = ""
      · rw [if_pos empty] at member
        cases member
      · rw [if_neg empty] at member
        cases member

variable [Pattern.Engine]

theorem body_calls (number : Nat) (procedure : Procedure) (made : procedure.Sound number) :
    ∀ name ∈ (block (generator.rustBody procedure)).calls,
      ∃ index < number, name = generator.nameOf index := by
  have calls := expression_calls generator number
  intro name member
  cases procedure with
  | concat parts =>
      obtain ⟨piece, inside, called⟩ := List.mem_filterMap.mp member
      obtain ⟨part, within, rfl⟩ := List.mem_map.mp inside
      cases part with
      | constant text => cases called
      | reference index =>
          cases called
          exact ⟨index, made _ within, rfl⟩
  | choose alternatives =>
      obtain ⟨arm, inside, called⟩ := List.mem_flatMap.mp member
      obtain ⟨fragment, within, same⟩ := List.mem_map.mp (numbered_member 0 _ arm inside)
      rw [← same] at called
      exact calls fragment (made.2 fragment within) name called
  | optional body =>
      rcases List.mem_append.mp member with taken | passed
      · exact calls body made name taken
      · cases passed
  | regex pattern matched unmatched =>
      rcases List.mem_append.mp member with accepted | refused
      · exact calls matched made.2.1 name accepted
      · exact calls unmatched made.2.2 name refused
  | forward target => exact ⟨target, made, List.mem_singleton.mp member⟩

variable (sound : TableSound Usable generator.procedures)

include sound

theorem calls_defined (entry : generator.entry.Earlier generator.procedures.size) :
    ∀ name ∈ generator.program.calls, (generator.program.definitions name).length = 1 := by
  have called : ∀ name ∈ generator.program.calls,
      ∃ index < generator.procedures.size, name = generator.nameOf index := by
    intro name member
    obtain ⟨_, inside, calls⟩ := List.mem_flatMap.mp member
    obtain ⟨function, within, rfl⟩ := List.mem_map.mp inside
    rcases function_origin generator function within with ⟨number, named, bound, found, rfl⟩ | rfl
    · obtain ⟨index, before, same⟩ :=
        body_calls generator number _ (sound number named found).procedure name calls
      exact ⟨index, Nat.lt_trans before bound, same⟩
    · exact expression_calls generator _ generator.entry entry name calls
  intro name member
  obtain ⟨index, inside, rfl⟩ := called name member
  rw [definition_of generator sound index _ (Array.getElem?_eq_getElem inside)]
  rfl

variable (keeps : ∀ text pattern, Pattern.Engine.read text = .ok pattern → pattern.text = text)
  (feed : Feed)

include keeps

-- By induction on the number of the procedure, since it calls earlier ones only.
theorem call_follows (index depth room : Nat) (inside : index < generator.procedures.size)
    (deep : index < depth) (enough : index < room) :
    Follows feed (generator.produce feed depth (.reference index))
      (generator.program.call feed room (generator.nameOf index)) := by
  induction index using Nat.strong_induction_on generalizing depth room with
  | h index ih =>
      obtain ⟨depth, rfl⟩ := Nat.exists_eq_add_one_of_ne_zero (Nat.ne_zero_of_lt deep)
      obtain ⟨room, rfl⟩ := Nat.exists_eq_add_one_of_ne_zero (Nat.ne_zero_of_lt enough)
      have found := Array.getElem?_eq_getElem inside
      have produced : generator.produce feed (depth + 1) (.reference index) =
          generator.procedures[index].procedure.run feed (generator.produce feed depth) := by
        rw [Generator.produce, found]
      have called : generator.program.call feed (room + 1) (generator.nameOf index) =
          runBlock (generator.program.call feed room) feed
            (block (generator.rustBody generator.procedures[index].procedure)) := by
        rw [Program.call, definition_of generator sound index _ found]
      rw [produced, called]
      apply follows_procedure generator feed depth index _ _ (sound index _ found).procedure keeps
      intro earlier before
      exact ih earlier before depth room (Nat.lt_trans before inside) (by omega) (by omega)

theorem generate_follows (depth : Nat) (entry : generator.entry.Earlier generator.procedures.size)
    (room : generator.program.length ≤ depth) :
    Follows feed (generator.produce feed generator.procedures.size generator.entry)
      (generator.program.call feed depth "generate") := by
  have length : generator.program.length = generator.procedures.size + 1 := by
    simp [Generator.program, Generator.rustModule]
  obtain ⟨depth, rfl⟩ := Nat.exists_eq_add_one_of_ne_zero (show depth ≠ 0 by omega)
  have called : generator.program.call feed (depth + 1) "generate" =
      evaluate (generator.program.call feed depth) (generator.rustExpression generator.entry) := by
    rw [Program.call, definition_of_generate generator sound]
    rfl
  rw [called]
  apply follows_expression feed _ _ generator (produce_constant generator feed _)
  intro index same
  rw [same] at entry
  have before : index < generator.procedures.size := entry
  exact call_follows generator sound keeps feed index _ depth before before (by omega)

end

-- What a program that is read has to be for a generator. It may give a text when a draw never ends,
-- which is no text of the generator.
structure Rust.Program.Computes [Pattern.Engine] (program : Program) (generator : Generator) :
    Prop where
  entry : ∃ body, program.definitions "generate" = [⟨true, "generate", body⟩]
  defined : ∀ name ∈ program.calls, (program.definitions name).length = 1
  texts : ∀ (feed : Feed) (drawn depth : Nat), program.length ≤ depth →
    ∃ text after draws,
      program.call feed depth "generate" ⟨drawn, []⟩ = some (text, ⟨after, draws⟩) ∧
        ((∀ draw ∈ draws, feed.words.Accepts draw.count draw.drawn) →
          generator.generate feed drawn = (text, after))

def Grammar.NamesUsable (grammar : Grammar) : Prop :=
  ∀ definition ∈ grammar.definitions, Usable definition.name

theorem Name.usable (name : Name) (wellFormed : name.WellFormed) : Usable name.text := by
  intro c member
  have inside := wellFormed.2 c member
  simp only [isNameChar, Bool.or_eq_true, Bool.and_eq_true, decide_eq_true_eq] at inside
  simp only [isWordChar, isWordStart, Char.isDigit, Bool.or_eq_true, Bool.and_eq_true,
    decide_eq_true_eq]
  tauto

mutual

theorem Node.definitions_named (usable : String → Prop)
    (holds : ∀ name : Name, name.WellFormed → usable name.text) (node : Node)
    (wellFormed : node.WellFormed) : ∀ definition ∈ node.definitions, usable definition.name := by
  cases node with
  | literal l => simp [Node.definitions]
  | name n => simp [Node.definitions]
  | group opening statements closing =>
      exact Node.definitions_all_named usable holds statements wellFormed
  | define op n body =>
      rw [Node.definitions, List.forall_mem_append]
      exact ⟨Node.definitions_named usable holds body wellFormed.2,
        by simpa using holds n wellFormed.1⟩
  | choose op opening alternatives closing =>
      exact Node.definitions_all_named usable holds alternatives wellFormed
  | optional op body => exact Node.definitions_named usable holds body wellFormed
  | regex op pattern matched unmatched =>
      obtain ⟨-, first, second⟩ := wellFormed
      rw [Node.definitions, List.forall_mem_append]
      exact ⟨Node.definitions_named usable holds matched first,
        Node.definitions_named usable holds unmatched second⟩

theorem Node.definitions_all_named (usable : String → Prop)
    (holds : ∀ name : Name, name.WellFormed → usable name.text) (nodes : List Node)
    (wellFormed : Node.AllWellFormed nodes) :
    ∀ definition ∈ Node.definitionsAll nodes, usable definition.name := by
  cases nodes with
  | nil => simp [Node.definitionsAll]
  | cons node rest =>
      rw [Node.definitionsAll, List.forall_mem_append]
      exact ⟨Node.definitions_named usable holds node wellFormed.1,
        Node.definitions_all_named usable holds rest wellFormed.2⟩

end

theorem Grammar.read_named (usable : String → Prop)
    (holds : ∀ name : Name, name.WellFormed → usable name.text) (limit : Nat) (source : String)
    (grammar : Grammar) (read : Grammar.readWithin limit source = .ok grammar) :
    ∀ definition ∈ grammar.definitions, usable definition.name :=
  Node.definitions_all_named usable holds grammar.statements
    (read_well_formed limit source grammar read).1

theorem Grammar.read_usable (limit : Nat) (source : String) (grammar : Grammar)
    (read : Grammar.readWithin limit source = .ok grammar) : grammar.NamesUsable :=
  read_named Usable Name.usable limit source grammar read

-- The source of a generator is a program that computes what the generator does, as long as patterns
-- keep the texts they are read from. Every grammar that is read has names that functions can have.
theorem emitted_source_computes [Pattern.Engine]
    (keeps : ∀ text pattern, Pattern.Engine.read text = .ok pattern → pattern.text = text) :
    (∀ (limit : Nat) (source : String) (grammar : Grammar),
      Grammar.readWithin limit source = .ok grammar → grammar.NamesUsable) ∧
    ∀ (grammar : Grammar) (generator : Generator), grammar.NamesUsable →
      grammar.compile = .ok generator →
        ∃ program, Program.read generator.rustSource = some program ∧
          program.Computes generator := by
  refine ⟨Grammar.read_usable, fun grammar generator usable compiled => ?_⟩
  obtain ⟨sound, earlier⟩ := compiled_sound Usable grammar generator usable compiled
  refine ⟨generator.program, source_read generator sound earlier,
    ⟨_, definition_of_generate generator sound⟩, calls_defined generator sound earlier, ?_⟩
  intro feed drawn depth room
  obtain ⟨text, after, draws, ran, produced⟩ :=
    generate_follows generator sound keeps feed depth earlier room drawn []
  rw [List.append_nil] at ran
  exact ⟨text, after, draws, ran, produced⟩

-- (= a |('"' 'é') ?a & 'x+' a ())
def quoting : Grammar where
  opening := ⟨0, 1⟩
  statements :=
    [.define ⟨1, 1⟩ ⟨"a", ⟨3, 1⟩⟩
        (.choose ⟨5, 1⟩ ⟨6, 1⟩
          [.literal ⟨"\"", '\'', ⟨7, 3⟩⟩, .literal ⟨"é", '\'', ⟨11, 4⟩⟩] ⟨15, 1⟩),
      .optional ⟨17, 1⟩ (.name ⟨"a", ⟨18, 1⟩⟩),
      .regex ⟨20, 1⟩ ⟨"x+", '\'', ⟨22, 4⟩⟩ (.name ⟨"a", ⟨27, 1⟩⟩) (.group ⟨29, 1⟩ [] ⟨30, 1⟩)]
  closing := ⟨31, 1⟩

theorem emitted_source_computes_quoting :
    let generator : Generator :=
      ⟨#[⟨"_0", .choose [.constant "\"", .constant "é"]⟩, ⟨"_a_1", .forward 0⟩,
        ⟨"_2", .optional (.reference 1)⟩,
        ⟨"_3", .regex ⟨"x+", .repeated 1 none (.one [(120, 120)])⟩ (.reference 1) (.constant "")⟩,
        ⟨"_4", .concat [.reference 2, .reference 3]⟩], .reference 4⟩
    Grammar.readWithin 4 "(= a |('\"' 'é') ?a & 'x+' a ())" = .ok quoting ∧
      quoting.NamesUsable ∧ quoting.compile = .ok generator ∧
        ∃ program, Program.read generator.rustSource = some program ∧
          program.Computes generator := by
  intro generator
  have read : Grammar.readWithin 4 "(= a |('\"' 'é') ?a & 'x+' a ())" = .ok quoting := by rfl
  have compiled : quoting.compile = .ok generator := by rfl
  obtain ⟨usable, computes⟩ := emitted_source_computes Pattern.read_text
  have names : quoting.NamesUsable := usable 4 _ quoting read
  exact ⟨read, names, compiled, computes quoting generator names compiled⟩

end TextGrammar

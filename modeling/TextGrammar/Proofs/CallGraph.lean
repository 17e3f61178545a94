import TextGrammar.Proofs.Agenda
import TextGrammar.Proofs.Emission

set_option autoImplicit false

namespace TextGrammar

open Rust

def Rust.Program.Invokes (program : Program) (caller callee : String) : Prop :=
  ∃ item ∈ program, item.name = caller ∧ callee ∈ item.body.calls

section

variable [Pattern.Engine] (generator : Generator)
  (sound : TableSound Usable generator.procedures)

include sound

theorem name_of_injective (number number' : Nat) (inside : number < generator.procedures.size)
    (inside' : number' < generator.procedures.size)
    (same : generator.nameOf number = generator.nameOf number') : number = number' := by
  have found := Array.getElem?_eq_getElem inside
  have found' := Array.getElem?_eq_getElem inside'
  obtain ⟨defined, name, -⟩ := (sound number _ found).name
  obtain ⟨defined', name', -⟩ := (sound number' _ found').name
  rw [Generator.nameOf, Generator.nameOf, found, found'] at same
  dsimp only at same
  rw [name, name'] at same
  exact procedure_name_differs defined defined' number number' same

theorem name_of_apart (number : Nat) (inside : number < generator.procedures.size) :
    generator.nameOf number ≠ "generate" := by
  have distinct := program_distinct generator sound
  rw [program_names, List.nodup_append] at distinct
  have found := Array.getElem?_eq_getElem inside
  have member : generator.nameOf number ∈
      generator.procedures.toList.map NamedProcedure.name := by
    rw [Generator.nameOf, found]
    exact List.mem_map_of_mem (by simp)
  exact distinct.2.2 _ member "generate" (List.mem_singleton_self _)

theorem invokes_earlier (entry : generator.entry.Earlier generator.procedures.size)
    (caller callee : String) (invokes : generator.program.Invokes caller callee) :
    ∃ index < generator.procedures.size, callee = generator.nameOf index ∧
      ∀ number < generator.procedures.size, caller = generator.nameOf number → index < number := by
  obtain ⟨_, member, rfl, called⟩ := invokes
  obtain ⟨function, within, rfl⟩ := List.mem_map.mp member
  rcases function_origin generator function within with ⟨place, named, bound, found, rfl⟩ | rfl
  · obtain ⟨index, before, same⟩ :=
      body_calls generator place _ (sound place named found).procedure callee called
    refine ⟨index, Nat.lt_trans before bound, same, fun number inside names => ?_⟩
    have own : generator.nameOf place = named.name := by rw [Generator.nameOf, found]
    rwa [name_of_injective generator sound number place inside bound (names.symm.trans own.symm)]
  · obtain ⟨index, before, same⟩ := expression_calls generator _ generator.entry entry callee called
    refine ⟨index, before, same, fun number inside names => ?_⟩
    exact absurd names.symm (name_of_apart generator sound number inside)

theorem calls_acyclic (entry : generator.entry.Earlier generator.procedures.size) (name : String) :
    ¬ Relation.TransGen generator.program.Invokes name name := by
  have falls : ∀ caller callee, Relation.TransGen generator.program.Invokes caller callee →
      ∃ index < generator.procedures.size, callee = generator.nameOf index ∧
        ∀ number < generator.procedures.size, caller = generator.nameOf number →
          index < number := by
    intro caller callee leads
    induction leads with
    | single invokes => exact invokes_earlier generator sound entry _ _ invokes
    | tail _ invokes ih =>
        obtain ⟨middle, inside, names, below⟩ := ih
        obtain ⟨index, within, same, lower⟩ := invokes_earlier generator sound entry _ _ invokes
        refine ⟨index, within, same, fun number bound begins => ?_⟩
        exact Nat.lt_trans (lower middle inside names) (below number bound begins)
  intro circle
  obtain ⟨index, inside, names, below⟩ := falls name name circle
  exact Nat.lt_irrefl index (below index inside names)

theorem ranges_nonempty (item : Item) (member : item ∈ generator.program) (bound : Nat)
    (arms : List (Option Nat × RustExpression)) (selects : item.body = .select bound arms) :
    0 < bound := by
  obtain ⟨function, within, rfl⟩ := List.mem_map.mp member
  rcases function_origin generator function within with ⟨place, named, inside, found, rfl⟩ | rfl
  · have made := (sound place named found).procedure
    obtain ⟨name, procedure⟩ := named
    cases procedure with
    | choose alternatives =>
        cases selects
        rw [List.length_map]
        exact List.length_pos_iff.mpr made.1
    | concat | optional | regex | forward => cases selects
  · cases selects

end

-- Whatever the input and whatever is decided, the work of a compiled generator ends, and until then
-- everything pending has its procedure. The text of a run is one that the work ends with.
theorem procedures_well_founded [Pattern.Engine] (limit : Nat) (source : String)
    (grammar : Grammar) (generator : Generator)
    (read : Grammar.readWithin limit source = .ok grammar)
    (compiled : grammar.compile = .ok generator) :
    (∀ (number : Nat) (named : NamedProcedure), generator.procedures[number]? = some named →
      named.procedure.Sound number) ∧
    generator.entry.Earlier generator.procedures.size ∧
    (∀ input : String,
      (¬ ∃ path : Nat → Agenda, path 0 = generator.agenda ∧
        ∀ time, generator.Advances input (path time) (path (time + 1))) ∧
      ∀ agenda, generator.Works input generator.agenda agenda →
        AllEarlier generator.procedures.size agenda.pending ∧
          (agenda.pending = [] ∨ ∃ next, generator.Advances input agenda next)) ∧
    (∀ (feed : Feed) (drawn : Nat), generator.Served feed drawn →
        generator.Works feed.input generator.agenda ⟨[], (generator.generate feed drawn).1⟩) ∧
    ∃ program, Program.read generator.rustSource = some program ∧
      (∀ item ∈ program, ∀ bound arms, item.body = .select bound arms → 0 < bound) ∧
      ∀ name, ¬ Relation.TransGen program.Invokes name name := by
  have usable := Grammar.read_usable limit source grammar read
  obtain ⟨sound, entry⟩ := compiled_sound Usable grammar generator usable compiled
  have start : AllEarlier generator.procedures.size generator.agenda.pending :=
    List.forall_mem_singleton.mpr entry
  refine ⟨fun number named found => (sound number named found).procedure, entry, ?_, ?_, ?_⟩
  · intro input
    refine ⟨work_ends Usable generator sound input entry, fun agenda works => ?_⟩
    have earlier := works_earlier Usable generator sound input _ agenda start works
    exact ⟨earlier, done_or_advances generator input agenda earlier⟩
  · exact fun feed drawn => generate_works generator feed Usable sound entry drawn
  · exact ⟨generator.program, source_read generator sound entry,
      ranges_nonempty generator sound, calls_acyclic generator sound entry⟩

-- (= a ?(= b |('x' 'y') b) = a (a b) a)
def redefining : Grammar where
  opening := ⟨0, 1⟩
  statements :=
    [.define ⟨1, 1⟩ ⟨"a", ⟨3, 1⟩⟩
        (.optional ⟨5, 1⟩
          (.group ⟨6, 1⟩
            [.define ⟨7, 1⟩ ⟨"b", ⟨9, 1⟩⟩
                (.choose ⟨11, 1⟩ ⟨12, 1⟩
                  [.literal ⟨"x", '\'', ⟨13, 3⟩⟩, .literal ⟨"y", '\'', ⟨17, 3⟩⟩] ⟨20, 1⟩),
              .name ⟨"b", ⟨22, 1⟩⟩]
            ⟨23, 1⟩)),
      .define ⟨25, 1⟩ ⟨"a", ⟨27, 1⟩⟩
        (.group ⟨29, 1⟩ [.name ⟨"a", ⟨30, 1⟩⟩, .name ⟨"b", ⟨32, 1⟩⟩] ⟨33, 1⟩),
      .name ⟨"a", ⟨35, 1⟩⟩]
  closing := ⟨36, 1⟩

theorem procedures_well_founded_redefining :
    let generator : Generator :=
      ⟨#[⟨"_0", .choose [.constant "x", .constant "y"]⟩, ⟨"_b_1", .forward 0⟩,
        ⟨"_2", .optional (.reference 1)⟩, ⟨"_a_3", .forward 2⟩,
        ⟨"_4", .concat [.reference 3, .reference 1]⟩, ⟨"_a_5", .forward 4⟩], .reference 5⟩
    Grammar.readWithin 8 "(= a ?(= b |('x' 'y') b) = a (a b) a)" = .ok redefining ∧
      redefining.compile = .ok generator ∧
      (∀ (number : Nat) (named : NamedProcedure), generator.procedures[number]? = some named →
        named.procedure.Sound number) ∧
      (¬ ∃ path : Nat → Agenda, path 0 = ⟨[.reference 5], ""⟩ ∧
        ∀ time, generator.Advances "" (path time) (path (time + 1))) ∧
      generator.Works "" ⟨[.reference 5], ""⟩ ⟨[], "xx"⟩ ∧
      ∃ program, Program.read generator.rustSource = some program ∧
        ∀ name, ¬ Relation.TransGen program.Invokes name name := by
  intro generator
  have read : Grammar.readWithin 8 "(= a ?(= b |('x' 'y') b) = a (a b) a)" = .ok redefining := by
    rfl
  have compiled : redefining.compile = .ok generator := by rfl
  obtain ⟨earlier, -, work, produced, program, found, -, acyclic⟩ :=
    procedures_well_founded 8 _ redefining generator read compiled
  let feed : Feed := ⟨fun _ => 0, ""⟩
  have accepted : ∀ count drawn, 0 < count → feed.words.Accepts count drawn := fun count drawn _ =>
    ⟨0, by simp [feed, indexOfWord]⟩
  have first : indexOfWord 2 0 = some 0 := by decide
  have drawn_first : ∀ depth drawn,
      generator.produce feed (depth + 1) (.reference 0) drawn = ("x", drawn + 1) := by
    intro depth drawn
    change generator.produce feed depth
      ([.constant "x", .constant "y"].getD (feed.words.index 2 drawn).1 .empty)
      (feed.words.index 2 drawn).2 = _
    rw [Words.index_eq, first]
    cases depth <;> rfl
  have text : (generator.generate feed 0).1 = "xx" := by
    change "" ++ (generator.produce feed 1 (.reference 0) 1).1 ++
      (generator.produce feed 3 (.reference 0) (generator.produce feed 1 (.reference 0) 1).2).1 = _
    rw [drawn_first, drawn_first]
    rfl
  have works := produced feed 0 (served_accepted generator feed accepted _ _ 0)
  rw [text] at works
  exact ⟨read, compiled, earlier, (work "").1, works, program, found, acyclic⟩

end TextGrammar

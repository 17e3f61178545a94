import TextGrammar.Proofs.Procedures
import TextGrammar.Proofs.Realisation
import TextGrammar.Proofs.RustReading

set_option autoImplicit false

namespace TextGrammar

open Rust

section

variable {α β : Type}

-- The execution gives a value in any case, and the producer's if all its draws end.
def Follows (feed : Feed) (producer : StateM Nat α) (execution : Execution α) : Prop :=
  ∀ drawn draws, ∃ value after more,
    execution ⟨drawn, draws⟩ = some (value, ⟨after, more ++ draws⟩) ∧
      ((∀ draw ∈ more, feed.words.Accepts draw.count draw.drawn) → producer drawn = (value, after))

theorem execution_bind (execution : Execution α) (later : α → Execution β) (trace : Trace) :
    (execution >>= later) trace =
      (execution trace).bind fun result => later result.1 result.2 :=
  rfl

theorem producer_bind (producer : StateM Nat α) (next : α → StateM Nat β) (drawn : Nat) :
    (producer >>= next) drawn = next (producer drawn).1 (producer drawn).2 :=
  rfl

theorem follows_pure (feed : Feed) (value : α) : Follows feed (pure value) (pure value) := by
  intro drawn draws
  exact ⟨value, drawn, [], rfl, fun _ => rfl⟩

theorem follows_bind (feed : Feed) (producer : StateM Nat α) (execution : Execution α)
    (next : α → StateM Nat β) (later : α → Execution β) (first : Follows feed producer execution)
    (second : ∀ value, Follows feed (next value) (later value)) :
    Follows feed (producer >>= next) (execution >>= later) := by
  intro drawn draws
  obtain ⟨value, between, more, ran, produced⟩ := first drawn draws
  obtain ⟨result, after, others, ranLater, producedLater⟩ := second value between (more ++ draws)
  refine ⟨result, after, others ++ more, ?_, ?_⟩
  · rw [execution_bind, ran, Option.bind_some, ranLater, List.append_assoc]
  · intro accepts
    obtain ⟨behind, front⟩ := List.forall_mem_append.mp accepts
    rw [producer_bind, produced front]
    exact producedLater behind

theorem follows_toss (feed : Feed) : Follows feed feed.toss (drawBool feed) := by
  intro drawn draws
  exact ⟨_, _, [], rfl, fun _ => rfl⟩

end

-- The last arm stands for every number that has no arm of its own.
theorem select_numbered (call : String → Execution String) (first index : Nat)
    (expressions : List RustExpression) (some : expressions ≠ []) (from_ : first ≤ index) :
    ∃ (place : Nat) (inside : place < expressions.length),
      selectArm call index (numberedArms first expressions) = evaluate call expressions[place] ∧
        (index - first < expressions.length → place = index - first) := by
  induction first, expressions using numberedArms.induct with
  | case1 => exact absurd rfl some
  | case2 first last =>
      refine ⟨0, Nat.one_pos, ?_, ?_⟩
      · rw [numberedArms, selectArm, if_pos (.inl rfl)]
        rfl
      · intro short
        rw [List.length_singleton] at short
        omega
  | case3 first arm rest several ih =>
      rw [numberedArms, selectArm]
      · by_cases here : first = index
        · refine ⟨0, Nat.succ_pos _, ?_, ?_⟩
          · rw [if_pos (.inr (by rw [here]))]
            rfl
          · omega
        · obtain ⟨place, inside, selects, exactly⟩ := ih (by simpa using several) (by omega)
          refine ⟨place + 1, Nat.succ_lt_succ inside, ?_, ?_⟩
          · rw [if_neg (by simp [here]), selects]
            rfl
          · intro short
            rw [List.length_cons] at short
            have same := exactly (by omega)
            omega
      · exact several

section

variable (feed : Feed) (produce : Fragment → Producer) (call : String → Execution String)

theorem follows_choose (express : Fragment → RustExpression) (alternatives : List Fragment)
    (some : alternatives ≠ [])
    (each : ∀ fragment ∈ alternatives,
      Follows feed (produce fragment) (evaluate call (express fragment))) :
    Follows feed
      (do
        let index ← feed.choose alternatives.length
        produce (alternatives.getD index .empty))
      (do
        let index ← drawNumber feed alternatives.length
        selectArm call index (numberedArms 0 (alternatives.map express))) := by
  intro drawn draws
  have positive : 0 < alternatives.length := List.length_pos_iff.mpr some
  obtain ⟨index, next, draw⟩ : ∃ index next,
      feed.words.index alternatives.length drawn = (index, next) := ⟨_, _, rfl⟩
  obtain ⟨place, inside, selects, exactly⟩ :=
    select_numbered call 0 index (alternatives.map express) (by simpa using some) (Nat.zero_le _)
  rw [List.length_map] at inside exactly
  rw [List.getElem_map] at selects
  obtain ⟨value, after, more, ran, produced⟩ :=
    each alternatives[place] (List.getElem_mem inside) next
      (⟨alternatives.length, drawn⟩ :: draws)
  refine ⟨value, after, more ++ [⟨alternatives.length, drawn⟩], ?_, ?_⟩
  · have drew : drawNumber feed alternatives.length ⟨drawn, draws⟩ =
        .some (index, ⟨next, ⟨alternatives.length, drawn⟩ :: draws⟩) := by
      simp only [drawNumber, if_neg (Nat.ne_of_gt positive), draw]
    rw [execution_bind, drew, Option.bind_some, selects, ran, List.append_assoc]
    rfl
  · intro accepts
    obtain ⟨others, own⟩ := List.forall_mem_append.mp accepts
    have below := feed.words.index_below alternatives.length drawn positive
      (own ⟨alternatives.length, drawn⟩ (List.mem_singleton_self _))
    rw [draw] at below
    have here := exactly below
    rw [Nat.sub_zero] at here
    subst here
    have chosen : feed.choose alternatives.length drawn = (place, next) := draw
    have taken : alternatives.getD place .empty = alternatives[place] := by
      rw [List.getD_eq_getElem?_getD, List.getElem?_eq_getElem inside]
      rfl
    rw [producer_bind, chosen, taken]
    exact produced others

variable (generator : Generator)

theorem follows_expression (plain : ∀ text, produce (.constant text) = pure text) (fragment : Fragment)
    (calls : ∀ index, fragment = .reference index →
      Follows feed (produce (.reference index)) (call (generator.nameOf index))) :
    Follows feed (produce fragment) (evaluate call (generator.rustExpression fragment)) := by
  cases fragment with
  | reference index => exact calls index rfl
  | constant text =>
      rw [plain, Generator.rustExpression]
      by_cases empty : text = ""
      · rw [if_pos empty, empty]
        exact follows_pure feed ""
      · rw [if_neg empty]
        exact follows_pure feed text

theorem follows_parts (plain : ∀ text, produce (.constant text) = pure text) (parts : List Fragment)
    (output : String)
    (calls : ∀ index, .reference index ∈ parts →
      Follows feed (produce (.reference index)) (call (generator.nameOf index))) :
    Follows feed (produceAll produce output parts)
      (appendAll call output (parts.map generator.rustAppend)) := by
  induction parts generalizing output with
  | nil => exact follows_pure feed output
  | cons part rest ih =>
      have first : Follows feed (produce part) (evaluatePiece call (generator.rustAppend part)) := by
        cases part with
        | reference index => exact calls index List.mem_cons_self
        | constant text =>
            rw [plain]
            exact follows_pure feed text
      rw [produceAll, List.map_cons, appendAll]
      apply follows_bind feed _ _ _ _ first
      intro text
      exact ih (output ++ text) fun index member => calls index (List.mem_cons_of_mem part member)

end

section

variable [Pattern.Engine]

theorem follows_procedure (generator : Generator) (feed : Feed) (depth number : Nat)
    (call : String → Execution String) (procedure : Procedure) (sound : procedure.Sound number)
    (keeps : ∀ text pattern, Pattern.Engine.read text = .ok pattern → pattern.text = text)
    (calls : ∀ index, index < number →
      Follows feed (generator.produce feed depth (.reference index)) (call (generator.nameOf index))) :
    Follows feed (procedure.run feed (generator.produce feed depth))
      (runBlock call feed (block (generator.rustBody procedure))) := by
  have plain := produce_constant generator feed depth
  have expression : ∀ fragment : Fragment, fragment.Earlier number →
      Follows feed (generator.produce feed depth fragment)
        (evaluate call (generator.rustExpression fragment)) := by
    intro fragment earlier
    apply follows_expression feed _ call generator plain
    intro index same
    subst same
    exact calls index earlier
  cases procedure with
  | concat parts =>
      apply follows_parts feed _ call generator plain
      intro index member
      exact calls index (sound (.reference index) member)
  | choose alternatives =>
      obtain ⟨some, earlier⟩ := sound
      have chosen := follows_choose feed (generator.produce feed depth) call generator.rustExpression
        alternatives some fun fragment member => expression fragment (earlier fragment member)
      have nonempty : alternatives.isEmpty = false := by simpa using some
      simpa [Procedure.run, nonempty, Generator.rustBody, block, runBlock] using chosen
  | optional body =>
      apply follows_bind feed _ _ _ _ (follows_toss feed)
      intro taken
      cases taken with
      | true => exact expression body sound
      | false => exact follows_pure feed ""
  | regex pattern matched unmatched =>
      obtain ⟨⟨text, read⟩, first, second⟩ := sound
      have tested : testInput feed pattern.text = Pattern.Engine.isMatch pattern feed.input := by
        rw [testInput, keeps text pattern read, read]
      rw [Procedure.run, Generator.rustBody, block, runBlock, tested]
      cases Pattern.Engine.isMatch pattern feed.input with
      | true => exact expression matched first
      | false => exact expression unmatched second
  | forward target => exact calls target sound

end

end TextGrammar

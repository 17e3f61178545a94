import TextGrammar.Proofs.RustPrinting
import Mathlib.Data.List.Basic

set_option autoImplicit false
set_option maxRecDepth 8000

namespace TextGrammar.Rust

theorem expect_form (text : String) (rest : List Token) :
    expect text (form text ++ rest) = some rest :=
  List.isPrefixOf?_eq_some_iff_append_eq.mpr rfl

theorem expect_other (text : String) (tokens : List Token) (place : Nat) (wanted found : Token)
    (wants : (form text)[place]? = some wanted) (has : tokens[place]? = some found)
    (differ : wanted ≠ found) : expect text tokens = none := by
  rw [Option.eq_none_iff_forall_ne_some]
  intro rest same
  have whole := List.isPrefixOf?_eq_some_iff_append_eq.mp same
  have inside := (List.getElem?_eq_some_iff.mp wants).1
  rw [← whole, List.getElem?_append_left inside, wants] at has
  exact differ (Option.some.inj has)

def Clash (text other : String) : Prop :=
  ∃ place ∈ List.range (form text).length, place < (form other).length ∧
    (form text)[place]? ≠ (form other)[place]?

instance (text other : String) : Decidable (Clash text other) :=
  inferInstanceAs (Decidable (∃ _ ∈ _, _))

theorem expect_clash (text other : String) (rest : List Token) (clash : Clash text other) :
    expect text (form other ++ rest) = none := by
  obtain ⟨place, inside, present, differ⟩ := clash
  have wants := List.getElem?_eq_getElem (List.mem_range.mp inside)
  have theirs := List.getElem?_eq_getElem present
  have has := (List.getElem?_append_left present : (form other ++ rest)[place]? = _).trans theirs
  refine expect_other text _ place _ _ wants has ?_
  intro same
  rw [wants, theirs, same] at differ
  exact differ rfl

theorem expect_call (text name : String) (rest : List Token) (wanted : Token)
    (wants : (form text)[1]? = some wanted) (differ : wanted ≠ .mark "(") :
    expect text (.word name :: (form "(input, rng)" ++ rest)) = none := by
  obtain ⟨others, opening⟩ : ∃ others, form "(input, rng)" = .mark "(" :: others :=
    List.head?_eq_some_iff.mp (by with_unfolding_all decide)
  refine expect_other text _ 1 wanted (.mark "(") wants ?_ differ
  rw [opening]
  rfl

theorem numeral_written (number : Nat) (suffix : String)
    (apart : suffix.toList.takeWhile Char.isDigit = []) :
    numeral suffix (number.repr ++ suffix) = some number := by
  have spelled : (number.repr ++ suffix).toList = Nat.toDigits 10 number ++ suffix.toList := by
    rw [String.toList_append, Nat.toList_repr]
  have digits : ((number.repr ++ suffix).toList).takeWhile Char.isDigit =
      Nat.toDigits 10 number := by
    rw [spelled, List.takeWhile_append_of_pos, apart, List.append_nil]
    intro c member
    exact Nat.isDigit_of_mem_toDigits (by omega) (by omega) member
  unfold numeral
  rw [digits]
  dsimp only
  rw [if_pos ⟨Nat.toDigits_ne_nil, spelled⟩, Nat.ofDigitChars_ten_toDigits]

theorem read_name (name : String) (rest : List Token) (isName : IsName name) :
    readName (.word name :: rest) = some (name, rest) := by
  rw [readName, isName.free]
  rfl

theorem read_call (name : String) (rest : List Token) (isName : IsName name) :
    readCall (.word name :: (form "(input, rng)" ++ rest)) = some (name, rest) := by
  simp only [readCall, read_name name _ isName, expect_form, Option.bind_eq_bind, Option.bind_some]
  rfl

theorem read_expression (expression : RustExpression) (rest : List Token)
    (named : IsCall expression) :
    readExpression (expressionTokens expression ++ rest) = some (expression, rest) := by
  cases expression with
  | newString => simp [readExpression, expressionTokens, expect_form]
  | fromLiteral text =>
      have other := expect_clash "String::new()" "String::from(" (.quoted text :: (form ")" ++ rest))
        (by with_unfolding_all decide)
      simp [readExpression, expressionTokens, other, expect_form, readQuoted]
  | call name =>
      have first := expect_call "String::new()" name rest (.mark "::")
        (by with_unfolding_all decide) (by decide)
      have second := expect_call "String::from(" name rest (.mark "::")
        (by with_unfolding_all decide) (by decide)
      simp [readExpression, expressionTokens, first, second, read_call name rest named]

theorem read_piece (piece : RustAppend) (rest : List Token) (named : IsPiece piece) :
    readPiece (pieceTokens piece ++ rest) = some (piece, rest) := by
  cases piece with
  | literal text => simp [readPiece, pieceTokens, expect_form, readQuoted]
  | call name =>
      have other : ∀ tokens, readQuoted (form "&" ++ tokens) = none := by
        intro tokens
        rw [form_reference]
        rfl
      simp [readPiece, pieceTokens, expect_form, other, read_call name _ named]

theorem read_number (number : Nat) (suffix : String) (rest : List Token)
    (apart : suffix.toList.takeWhile Char.isDigit = []) :
    readNumber suffix (.number (number.repr ++ suffix) :: rest) = some (number, rest) := by
  rw [readNumber, numeral_written number suffix apart]
  rfl

theorem read_arm (arm : Arm) (rest : List Token) (named : IsCall arm.2) :
    readArm (armTokens arm ++ rest) = some (arm, rest) := by
  obtain ⟨number, expression⟩ := arm
  have value := fun tokens => read_expression expression tokens named
  cases number with
  | none => simp [readArm, armTokens, expect_form, value]
  | some number =>
      have wild : (form "_")[0]? = some (.word "_") := by with_unfolding_all decide
      have other : ∀ tokens, expect "_" (.number number.repr :: tokens) = none := by
        intro tokens
        exact expect_other _ _ 0 _ _ wild rfl (by simp)
      have digits := fun tokens => read_number number "" tokens rfl
      simp only [String.append_empty] at digits
      simp [readArm, armTokens, expect_form, other, digits, value]

theorem read_many {α : Type} (read : Reader α) (tokens : α → List Token) (values : List α)
    (rest : List Token) (most : Nat) (enough : values.length ≤ most)
    (each : ∀ value ∈ values, ∀ rest, read (tokens value ++ rest) = some (value, rest))
    (stops : read rest = none) :
    readMany read most (values.flatMap tokens ++ rest) = some (values, rest) := by
  induction values generalizing most with
  | nil =>
      cases most with
      | zero => rfl
      | succ most => rw [List.flatMap_nil, List.nil_append, readMany, stops]
  | cons value values ih =>
      cases most with
      | zero => simp at enough
      | succ most =>
          have others := ih most (Nat.le_of_succ_le_succ enough)
            fun other member => each other (List.mem_cons_of_mem value member)
          simp only [List.flatMap_cons, List.append_assoc, readMany, each value List.mem_cons_self,
            others, Option.map_some]

theorem values_few {α : Type} (tokens : α → List Token) (values : List α) (rest : List Token)
    (some : ∀ value, tokens value ≠ []) :
    values.length ≤ (values.flatMap tokens ++ rest).length := by
  induction values with
  | nil => exact Nat.zero_le _
  | cons value values ih =>
      have one := List.length_pos_iff.mpr (some value)
      simp only [List.flatMap_cons, List.append_assoc, List.length_append, List.length_cons] at ih ⊢
      omega

theorem read_all {α : Type} (read : Reader α) (tokens : α → List Token) (values : List α)
    (rest : List Token) (any : ∀ value, tokens value ≠ [])
    (each : ∀ value ∈ values, ∀ rest, read (tokens value ++ rest) = some (value, rest))
    (stops : read rest = none) :
    readMany read (values.flatMap tokens ++ rest).length (values.flatMap tokens ++ rest) =
      some (values, rest) :=
  read_many read tokens values rest _ (values_few tokens values rest any) each stops

theorem read_branches (first second : RustExpression) (rest : List Token) (one : IsCall first)
    (two : IsCall second) :
    readBranches (branchesTokens first second ++ rest) = some ((first, second), rest) := by
  have left := fun tokens => read_expression first tokens one
  have right := fun tokens => read_expression second tokens two
  simp [readBranches, branchesTokens, left, right, expect_form]

theorem form_nonempty (text : String) (tokens : List Token) (any : form text ≠ []) :
    form text ++ tokens ≠ [] := by simp [any]

theorem read_accumulate (pieces : List RustAppend) (rest : List Token)
    (named : ∀ piece ∈ pieces, IsPiece piece) :
    readAccumulate (blockTokens (.accumulate pieces) ++ (form "\x7d" ++ rest)) =
      some (.accumulate pieces, form "\x7d" ++ rest) := by
  have opening : form "output.push_str(" ≠ [] := by with_unfolding_all decide
  have some : ∀ piece, pieceTokens piece ≠ [] := by
    intro piece
    cases piece <;> exact form_nonempty _ _ opening
  have behind : form "output" ++ form "\x7d" = form "output \x7d" := by with_unfolding_all decide
  have clash : Clash "output.push_str(" "output \x7d" := by with_unfolding_all decide
  have stops : readPiece (form "output" ++ (form "\x7d" ++ rest)) = none := by
    rw [← List.append_assoc, behind, readPiece, expect_clash _ _ rest clash]
    rfl
  have pieces := read_all readPiece pieceTokens pieces _ some
    (fun piece member rest => read_piece piece rest (named piece member)) stops
  simp only [readAccumulate, blockTokens, List.append_assoc, expect_form, pieces,
    Option.bind_eq_bind, Option.bind_some]
  rfl

theorem read_select (bound : Nat) (arms : List Arm) (rest : List Token)
    (named : ∀ arm ∈ arms, IsCall arm.2) :
    readSelect (blockTokens (.select bound arms) ++ rest) = some (.select bound arms, rest) := by
  have wild : form "_" ≠ [] := by with_unfolding_all decide
  have some : ∀ arm, armTokens arm ≠ [] := by
    rintro ⟨_ | number, expression⟩
    · exact form_nonempty _ _ wild
    · exact List.cons_ne_nil _ _
  have clash : Clash "_" "\x7d" := by with_unfolding_all decide
  have stops : readArm (form "\x7d" ++ rest) = none := by
    have brace : ∃ others, form "\x7d" = .mark "\x7d" :: others :=
      List.head?_eq_some_iff.mp (by with_unfolding_all decide)
    obtain ⟨others, brace⟩ := brace
    rw [readArm, expect_clash _ _ rest clash, brace]
    rfl
  have arms := read_all readArm armTokens arms _ some
    (fun arm member rest => read_arm arm rest (named arm member)) stops
  have number := fun tokens => read_number bound "usize" tokens (by decide)
  simp only [readSelect, blockTokens, List.append_assoc, List.cons_append, expect_form, number, arms,
    Option.bind_eq_bind, Option.bind_some]
  rfl

theorem read_toss (taken passed : RustExpression) (rest : List Token) (one : IsCall taken)
    (two : IsCall passed) :
    readToss (blockTokens (.toss taken passed) ++ rest) = some (.toss taken passed, rest) := by
  have branches := read_branches taken passed rest one two
  simp only [readToss, blockTokens, List.append_assoc, expect_form, branches, Option.bind_eq_bind,
    Option.bind_some]
  rfl

theorem read_test (pattern : String) (matched unmatched : RustExpression) (rest : List Token)
    (one : IsCall matched) (two : IsCall unmatched) :
    readTest (blockTokens (.test pattern matched unmatched) ++ rest) =
      some (.test pattern matched unmatched, rest) := by
  have branches := read_branches matched unmatched rest one two
  simp only [readTest, blockTokens, List.append_assoc, List.cons_append, expect_form, readQuoted,
    branches, Option.bind_eq_bind, Option.bind_some]
  rfl

theorem numbered_member (index : Nat) (expressions : List RustExpression) :
    ∀ arm ∈ numberedArms index expressions, arm.2 ∈ expressions := by
  induction index, expressions using numberedArms.induct with
  | case1 =>
      intro arm member
      cases member
  | case2 index last =>
      intro arm member
      rw [List.mem_singleton.mp member]
      exact List.mem_cons_self
  | case3 index first rest several ih =>
      intro arm member
      rw [numberedArms] at member
      · cases member with
        | head => exact List.mem_cons_self
        | tail _ later => exact List.mem_cons_of_mem first (ih arm later)
      · exact several

theorem head_form (text : String) (rest : List Token) (first : Token)
    (head : (form text).head? = some first) : (form text ++ rest).head? = some first := by
  obtain ⟨others, spelled⟩ := List.head?_eq_some_iff.mp head
  rw [spelled]
  rfl

-- What no keyword begins is read as an expression.
theorem read_value (expression : RustExpression) (rest : List Token) (named : IsCall expression) :
    readBlock (expressionTokens expression ++ rest) = some (.value expression, rest) := by
  have first : ∃ word, (expressionTokens expression ++ rest).head? = some (.word word) ∧
      keywords.contains word = false := by
    cases expression with
    | newString => exact ⟨"String", head_form _ _ _ (by with_unfolding_all decide), by decide⟩
    | fromLiteral text =>
        refine ⟨"String", ?_, by decide⟩
        rw [expressionTokens, List.append_assoc]
        exact head_form _ _ _ (by with_unfolding_all decide)
    | call name => exact ⟨name, rfl, named.free⟩
  obtain ⟨word, first, free⟩ := first
  have others : ∀ keyword, keywords.contains keyword = true →
      (expressionTokens expression ++ rest).head? ≠ some (.word keyword) := by
    intro keyword reserved same
    rw [first] at same
    cases same
    rw [free] at reserved
    cases reserved
  rw [readBlock, if_neg (others "let" (by decide)), if_neg (others "match" (by decide)),
    if_neg (others "if" (by decide)), read_expression expression rest named]
  rfl

theorem read_block (body : RustBody) (rest : List Token) (named : IsBody body) :
    readBlock (blockTokens (block body) ++ (form "\x7d" ++ rest)) =
      some (block body, form "\x7d" ++ rest) := by
  cases body with
  | accumulate pieces =>
      have keyword : (blockTokens (.accumulate pieces) ++ (form "\x7d" ++ rest)).head? =
          some (.word "let") := by
        rw [blockTokens, List.append_assoc]
        exact head_form _ _ _ (by with_unfolding_all decide)
      rw [block, readBlock, if_pos keyword, read_accumulate pieces rest named]
      rfl
  | testInput pattern matched unmatched =>
      have keyword : (blockTokens (.test pattern matched unmatched) ++ (form "\x7d" ++ rest)).head? =
          some (.word "let") := by
        rw [blockTokens, List.append_assoc]
        exact head_form _ _ _ (by with_unfolding_all decide)
      have clash : Clash "let mut output = String::new();" "let matched = regex::Regex::new(" := by
        with_unfolding_all decide
      have other : readAccumulate (blockTokens (.test pattern matched unmatched) ++
          (form "\x7d" ++ rest)) = none := by
        rw [readAccumulate, blockTokens, List.append_assoc, expect_clash _ _ _ clash]
        rfl
      rw [block, readBlock, if_pos keyword, other,
        read_test pattern matched unmatched _ named.1 named.2]
      rfl
  | drawArm arms =>
      have keyword : (blockTokens (.select arms.length (numberedArms 0 arms)) ++
          (form "\x7d" ++ rest)).head? = some (.word "match") := by
        rw [blockTokens, List.append_assoc]
        exact head_form _ _ _ (by with_unfolding_all decide)
      rw [block, readBlock, keyword, if_neg (by decide), if_pos rfl,
        read_select _ _ _ fun arm member => named arm.2 (numbered_member 0 arms arm member)]
  | drawBool taken =>
      have keyword : (blockTokens (.toss taken .newString) ++ (form "\x7d" ++ rest)).head? =
          some (.word "if") := by
        rw [blockTokens, List.append_assoc]
        exact head_form _ _ _ (by with_unfolding_all decide)
      rw [block, readBlock, keyword, if_neg (by decide), if_neg (by decide), if_pos rfl,
        read_toss taken .newString _ named trivial]
  | value expression => exact read_value expression _ named

theorem read_public (isPublic : Bool) (rest : List Token) :
    readPublic (publicTokens isPublic ++ (form "fn" ++ rest)) =
      some (isPublic, form "fn" ++ rest) := by
  have clash : Clash "pub" "fn" := by with_unfolding_all decide
  cases isPublic with
  | true => simp [readPublic, publicTokens, expect_form]
  | false => simp [readPublic, publicTokens, expect_clash _ _ rest clash]

theorem read_item (function : RustFunction) (rest : List Token) (named : IsFunction function) :
    readItem (itemTokens (item function) ++ rest) = some (item function, rest) := by
  simp only [readItem, itemTokens, item, List.append_assoc, List.cons_append, expect_form, read_public,
    read_name function.name _ named.1, read_block function.body rest named.2, Option.bind_eq_bind,
    Option.bind_some]
  rfl

theorem read_module (module : RustModule)
    (named : ∀ function ∈ module.functions, IsFunction function) :
    Program.read module.print = some (module.functions.map item) := by
  have some : ∀ item, itemTokens item ≠ [] := by
    intro item
    have opening : form "#[allow(non_snake_case, unused_variables)]" ≠ [] := by
      with_unfolding_all decide
    exact form_nonempty _ _ opening
  have stops : readItem [] = none := by
    have opening : expect "#[allow(non_snake_case, unused_variables)]" [] = none := by
      with_unfolding_all decide
    rw [readItem, opening]
    rfl
  have read := read_all readItem itemTokens (module.functions.map item) [] some
    (fun value member rest => by
      obtain ⟨function, inside, rfl⟩ := List.mem_map.mp member
      exact read_item function rest (named function inside)) stops
  rw [List.append_nil] at read
  have lexes : lex .between module.print.toList = _ := lexes_module module named
  simp only [Program.read, lexes, expect_form, read, Option.bind_eq_bind, Option.bind_some]
  rfl

end TextGrammar.Rust

import TextGrammar.Proofs.RustProgram

set_option autoImplicit false
set_option maxRecDepth 8000

namespace TextGrammar.Rust

theorem lex_close (mode last : Mode) (token : Token) (c : Char) (rest : List Char)
    (tokens : List Token) (closes : step mode c = close token c)
    (ran : lex .between (c :: rest) = some (last, tokens)) :
    lex mode (c :: rest) = some (last, token :: tokens) := by
  simp only [lex, step, Option.bind_eq_bind, Option.bind_eq_some_iff] at ran
  obtain ⟨⟨next, front⟩, begun, ⟨ended, others⟩, later, same⟩ := ran
  cases same
  simp only [lex, closes, close, begun, later, Option.bind_eq_bind, Option.bind_some,
    Option.map_some]
  rfl

theorem lexes_behind (first second : String) (mode : Mode) (tokens others : List Token)
    (token : Token) (c : Char) (head : lex .between first.toList = some (mode, tokens))
    (next : second.toList.head? = some c) (closes : step mode c = close token c)
    (tail : Lexes second others) : Lexes (first ++ second) (tokens ++ token :: others) := by
  obtain ⟨rest, spelled⟩ := List.head?_eq_some_iff.mp next
  unfold Lexes at tail ⊢
  rw [String.toList_append]
  refine lex_append _ _ _ _ _ _ _ head ?_
  rw [spelled] at tail ⊢
  exact lex_close _ _ _ _ _ _ closes tail

-- The text differs from the piece of source by blanks at most. Literals are compared as lists of
-- characters, which are evaluated faster.
theorem lexes_form {text source : String} {chars plain : List Char}
    (spelled : String.ofList chars = text) (written : String.ofList plain = source)
    (same : lex .between chars = lex .between (plain ++ ['\n']) ∧
      (lex .between chars).map Prod.fst = some .between) : Lexes text (form source) := by
  obtain ⟨same, ended⟩ := same
  obtain ⟨⟨mode, tokens⟩, ran, rfl⟩ := Option.map_eq_some_iff.mp ended
  have read : form source = tokens := by
    rw [form, ← written, String.toList_ofList, ← same, ran]
  rw [Lexes, ← spelled, String.toList_ofList, read, ran]

theorem char_between (c : Char) (least count : Nat) (above : least ≤ c.toNat)
    (below : c.toNat < least + count) : ∃ value : Fin count, c = Char.ofNat (least + value) := by
  refine ⟨⟨c.toNat - least, by omega⟩, ?_⟩
  rw [Nat.add_sub_cancel' above, Char.ofNat_toNat]

theorem begin_word (c : Char) (starts : isWordStart c = true) :
    begin c = some (.word [c], []) ∧ step (.mark ['&']) c = close (.mark "&") c := by
  have bounds : 65 ≤ c.toNat ∧ c.toNat < 65 + 58 := by
    simp only [isWordStart, Bool.or_eq_true, Bool.and_eq_true, decide_eq_true_eq, beq_iff_eq,
      Char.le_def, UInt32.le_iff_toNat_le] at starts
    rcases starts with (upper | lower) | rfl
    · exact ⟨upper.1, Nat.lt_of_le_of_lt upper.2 (by decide)⟩
    · exact ⟨Nat.le_trans (by decide) lower.1, Nat.lt_succ_of_le lower.2⟩
    · decide
  obtain ⟨value, rfl⟩ := char_between c 65 58 bounds.1 bounds.2
  revert value
  decide

theorem begin_digit (c : Char) (digit : c.isDigit = true) :
    begin c = some (.number [c], []) ∧ isWordChar c = true ∧
      step (.mark ['.', '.']) c = close (.mark "..") c := by
  simp only [Char.isDigit, Bool.and_eq_true, decide_eq_true_eq, UInt32.le_iff_toNat_le] at digit
  obtain ⟨value, rfl⟩ := char_between c 48 10 digit.1 (Nat.lt_succ_of_le digit.2)
  clear digit
  revert value
  decide

structure IsName (name : String) : Prop where
  word : ∃ c rest, name.toList = c :: rest ∧ isWordStart c = true ∧
    ∀ other ∈ rest, isWordChar other = true
  free : keywords.contains name = false

theorem lex_name (name : String) (isName : IsName name) :
    lex .between name.toList = some (.word name.toList, []) := by
  obtain ⟨c, rest, spelled, starts, chars⟩ := isName.word
  rw [spelled]
  exact lex_cons _ _ _ c rest [] (begin_word c starts).1 (lex_word [c] rest chars)

theorem repr_digits (number : Nat) :
    ∃ c rest, number.repr.toList = c :: rest ∧ ∀ other ∈ c :: rest, other.isDigit = true := by
  have any : number.repr.toList ≠ [] := by
    rw [Nat.toList_repr]
    exact Nat.toDigits_ne_nil
  obtain ⟨c, rest, spelled⟩ := List.exists_cons_of_ne_nil any
  refine ⟨c, rest, spelled, ?_⟩
  intro other member
  rw [← spelled, Nat.toList_repr] at member
  exact Nat.isDigit_of_mem_toDigits (by omega) (by omega) member

theorem lex_numeral (number : Nat) (suffix : String)
    (chars : ∀ c ∈ suffix.toList, isWordChar c = true) :
    lex .between (number.repr ++ suffix).toList =
      some (.number (number.repr ++ suffix).toList, []) := by
  obtain ⟨c, rest, spelled, digits⟩ := repr_digits number
  rw [String.toList_append, spelled]
  have first := (begin_digit c (digits c List.mem_cons_self)).1
  refine lex_cons _ _ _ c _ [] first (lex_number [c] (rest ++ suffix.toList) ?_)
  intro other member
  rcases List.mem_append.mp member with inside | behind
  · exact (begin_digit other (digits other (List.mem_cons_of_mem c inside))).2.1
  · exact chars other behind

def IsCall : RustExpression → Prop
  | .call name => IsName name
  | .newString | .fromLiteral _ => True

theorem lexes_call (name second : String) (others : List Token) (isName : IsName name)
    (tail : Lexes second others) :
    Lexes (name ++ ("(input, rng)" ++ second)) (.word name :: (form "(input, rng)" ++ others)) := by
  have arguments : Lexes "(input, rng)" (form "(input, rng)") :=
    lexes_form rfl rfl (by decide)
  have next : ("(input, rng)" ++ second).toList.head? = some '(' := by
    rw [String.toList_append]
    rfl
  have read := lexes_behind name _ _ [] _ (.word (String.ofList name.toList)) '(' (lex_name name isName)
    next rfl (arguments.append tail)
  rwa [String.ofList_toList] at read

def expressionTokens : RustExpression → List Token
  | .newString => form "String::new()"
  | .fromLiteral text => form "String::from(" ++ .quoted text :: form ")"
  | .call name => .word name :: form "(input, rng)"

theorem lexes_expression (expression : RustExpression) (named : IsCall expression) :
    Lexes expression.print (expressionTokens expression) := by
  cases expression with
  | newString =>
      have read : Lexes "String::new()" (form "String::new()") := lexes_form rfl rfl (by decide)
      exact read
  | call name =>
      have read := lexes_call name "" [] named rfl
      rwa [String.append_empty, List.append_nil] at read
  | fromLiteral text =>
      have opening : Lexes "String::from(" (form "String::from(") :=
        lexes_form rfl rfl (by decide)
      have closing : Lexes ")" (form ")") := lexes_form rfl rfl (by decide)
      have read := (opening.append (lexes_quote text)).append closing
      rwa [List.append_assoc] at read

def IsPiece : RustAppend → Prop
  | .call name => IsName name
  | .literal _ => True

def pieceTokens : RustAppend → List Token
  | .literal text => form "output.push_str(" ++ .quoted text :: form ");"
  | .call name =>
      form "output.push_str(" ++ (form "&" ++ .word name :: (form "(input, rng)" ++ form ");"))

theorem form_reference : form "&" = [.mark "&"] := by with_unfolding_all decide

theorem lexes_piece (piece : RustAppend) (named : IsPiece piece) :
    Lexes piece.print (pieceTokens piece) := by
  have closing : Lexes ");\n" (form ");") := lexes_form rfl rfl (by decide)
  cases piece with
  | literal text =>
      have opening : Lexes "    output.push_str(" (form "output.push_str(") :=
        lexes_form rfl rfl (by decide)
      have read := (opening.append (lexes_quote text)).append closing
      rwa [List.append_assoc] at read
  | call name =>
      obtain ⟨c, rest, spelled, starts, -⟩ := named.word
      have opening : lex .between "    output.push_str(&".toList =
          some (.mark ['&'], form "output.push_str(") := by with_unfolding_all decide
      have next : (name ++ ("(input, rng)" ++ ");\n")).toList.head? = some c := by
        rw [String.toList_append, spelled]
        rfl
      have read := lexes_behind _ _ _ _ _ _ c opening next (begin_word c starts).2
        (lexes_call name ");\n" _ named closing)
      rw [← String.append_assoc] at read
      rw [pieceTokens, form_reference]
      exact read

abbrev Arm := Option Nat × RustExpression

def armTokens : Arm → List Token
  | (none, expression) => form "_" ++ (form "=>" ++ (expressionTokens expression ++ form ","))
  | (some number, expression) =>
      .number number.repr :: (form "=>" ++ (expressionTokens expression ++ form ","))

def numberedArms (index : Nat) : List RustExpression → List Arm
  | [] => []
  | [last] => [(none, last)]
  | arm :: rest => (some index, arm) :: numberedArms (index + 1) rest

theorem lexes_arms (index : Nat) (expressions : List RustExpression)
    (named : ∀ expression ∈ expressions, IsCall expression) :
    Lexes (RustBody.printArms index expressions)
      ((numberedArms index expressions).flatMap armTokens) := by
  have comma : Lexes ",\n" (form ",") := lexes_form rfl rfl (by decide)
  induction index, expressions using RustBody.printArms.induct with
  | case1 => rfl
  | case2 index last =>
      have opening : Lexes "        _ => " (form "_" ++ form "=>") := by with_unfolding_all decide
      have value := lexes_expression last (named last List.mem_cons_self)
      have read := (opening.append value).append comma
      rw [numberedArms, List.flatMap_cons, List.flatMap_nil, List.append_nil, armTokens]
      simp only [List.append_assoc] at read
      exact read
  | case3 index arm rest several ih =>
      have others := ih fun expression member => named expression (List.mem_cons_of_mem arm member)
      have blanks : Lexes "        " [] := by decide
      have digits := lex_numeral index "" (by simp)
      have opening : lex .between ("        " ++ index.repr).toList =
          some (.number index.repr.toList, []) := by
        rw [String.append_empty] at digits
        rw [String.toList_append]
        exact lex_append _ _ _ _ _ _ _ blanks digits
      have arrow : Lexes " => " (form "=>") := lexes_form rfl rfl (by decide)
      have value := lexes_expression arm (named arm List.mem_cons_self)
      have tail := arrow.append (value.append (comma.append others))
      have read := lexes_behind _ _ _ _ _ _ ' ' opening (by simp) rfl tail
      rw [String.ofList_toList] at read
      cases rest with
      | nil => exact absurd rfl several
      | cons second rest =>
          have printed : RustBody.printArms index (arm :: second :: rest) =
              "        " ++ index.repr ++ " => " ++ arm.print ++ ",\n" ++
                RustBody.printArms (index + 1) (second :: rest) := rfl
          rw [printed, numberedArms, List.flatMap_cons, armTokens]
          · simp only [List.cons_append, List.nil_append, List.append_assoc,
              String.append_assoc] at read ⊢
            exact read
          · exact several

def block : RustBody → Block
  | .accumulate pieces => .accumulate pieces
  | .drawArm arms => .select arms.length (numberedArms 0 arms)
  | .drawBool taken => .toss taken .newString
  | .testInput pattern matched unmatched => .test pattern matched unmatched
  | .value expression => .value expression

def IsBody : RustBody → Prop
  | .accumulate pieces => ∀ piece ∈ pieces, IsPiece piece
  | .drawArm arms => ∀ arm ∈ arms, IsCall arm
  | .drawBool taken => IsCall taken
  | .testInput _ matched unmatched => IsCall matched ∧ IsCall unmatched
  | .value expression => IsCall expression

def branchesTokens (first second : RustExpression) : List Token :=
  expressionTokens first ++ (form "\x7d else \x7b" ++ (expressionTokens second ++ form "\x7d"))

def blockTokens : Block → List Token
  | .accumulate pieces =>
      form "let mut output = String::new();" ++ (pieces.flatMap pieceTokens ++ form "output")
  | .select bound arms =>
      form "match rng.gen_range(0.." ++ .number (bound.repr ++ "usize") ::
        (form ") \x7b" ++ (arms.flatMap armTokens ++ form "\x7d"))
  | .toss taken passed => form "if rng.gen_bool(0.5) \x7b" ++ branchesTokens taken passed
  | .test pattern matched unmatched =>
      form "let matched = regex::Regex::new(" ++ .quoted pattern ::
        (form ").map_or(false, |pattern| pattern.is_match(input));" ++
          (form "if matched \x7b" ++ branchesTokens matched unmatched))
  | .value expression => expressionTokens expression

theorem lexes_pieces (pieces : List RustAppend) (named : ∀ piece ∈ pieces, IsPiece piece) :
    Lexes (String.join (pieces.map RustAppend.print)) (pieces.flatMap pieceTokens) := by
  induction pieces with
  | nil => exact rfl
  | cons piece rest ih =>
      have head := lexes_piece piece (named piece List.mem_cons_self)
      have tail := ih fun other member => named other (List.mem_cons_of_mem piece member)
      rw [List.map_cons, String.join_cons, List.flatMap_cons]
      exact head.append tail

theorem lexes_select (arms : List RustExpression) (named : ∀ arm ∈ arms, IsCall arm) :
    Lexes (RustBody.drawArm arms).print
      (blockTokens (.select arms.length (numberedArms 0 arms))) := by
  have opening : lex .between "    match rng.gen_range(0..".toList =
      some (.mark ['.', '.'], (form "match rng.gen_range(0..").dropLast) := by with_unfolding_all decide
  have whole : form "match rng.gen_range(0.." =
      (form "match rng.gen_range(0..").dropLast ++ [.mark ".."] := by with_unfolding_all decide
  have ready : Lexes ") \x7b\n" (form ") \x7b") := lexes_form rfl rfl (by decide)
  have closing : Lexes "    \x7d\n" (form "\x7d") := lexes_form rfl rfl (by decide)
  obtain ⟨c, rest, spelled, digits⟩ := repr_digits arms.length
  have tail := ready.append ((lexes_arms 0 arms named).append closing)
  have suffix : ∀ c ∈ "usize".toList, isWordChar c = true := List.all_eq_true.mp (by decide)
  have next : (") \x7b\n" ++ (RustBody.printArms 0 arms ++ "    \x7d\n")).toList.head? = some ')' := by
    rw [String.toList_append]
    rfl
  have number := lexes_behind _ _ _ _ _ _ ')' (lex_numeral arms.length "usize" suffix) next rfl tail
  have first : (arms.length.repr ++ "usize" ++
      (") \x7b\n" ++ (RustBody.printArms 0 arms ++ "    \x7d\n"))).toList.head? = some c := by
    rw [String.append_assoc, String.toList_append, spelled]
    rfl
  have read := lexes_behind _ _ _ _ _ _ c opening first
    (begin_digit c (digits c List.mem_cons_self)).2.2 number
  have split : "usize) \x7b\n" = "usize" ++ ") \x7b\n" := by simp
  have printed : (RustBody.drawArm arms).print = "    match rng.gen_range(0.." ++ arms.length.repr ++
      "usize) \x7b\n" ++ RustBody.printArms 0 arms ++ "    \x7d\n" := rfl
  rw [printed, split, blockTokens, whole]
  simp only [String.append_assoc, List.append_assoc, List.nil_append, List.cons_append,
    String.ofList_toList] at read ⊢
  exact read

theorem lexes_body (body : RustBody) (named : IsBody body) :
    Lexes body.print (blockTokens (block body)) := by
  cases body with
  | accumulate pieces =>
      have opening : Lexes "    let mut output = String::new();\n"
          (form "let mut output = String::new();") := lexes_form rfl rfl (by decide)
      have closing : Lexes "    output\n" (form "output") := lexes_form rfl rfl (by decide)
      have read := (opening.append (lexes_pieces pieces named)).append closing
      rwa [List.append_assoc] at read
  | drawArm arms => exact lexes_select arms named
  | drawBool taken =>
      have opening : Lexes "    if rng.gen_bool(0.5) \x7b " (form "if rng.gen_bool(0.5) \x7b") :=
        lexes_form rfl rfl (by decide)
      have closing : Lexes " \x7d else \x7b String::new() \x7d\n"
          (form "\x7d else \x7b" ++ (form "String::new()" ++ form "\x7d")) := by
        with_unfolding_all decide
      have read := (opening.append (lexes_expression taken named)).append closing
      rwa [List.append_assoc] at read
  | testInput pattern matched unmatched =>
      have opening : Lexes "    let matched = regex::Regex::new("
          (form "let matched = regex::Regex::new(") := lexes_form rfl rfl (by decide)
      have test : Lexes ").map_or(false, |pattern| pattern.is_match(input));\n"
          (form ").map_or(false, |pattern| pattern.is_match(input));") :=
        lexes_form rfl rfl (by decide)
      have branch : Lexes "    if matched \x7b " (form "if matched \x7b") :=
        lexes_form rfl rfl (by decide)
      have other : Lexes " \x7d else \x7b " (form "\x7d else \x7b") :=
        lexes_form rfl rfl (by decide)
      have closing : Lexes " \x7d\n" (form "\x7d") := lexes_form rfl rfl (by decide)
      have condition := ((opening.append (lexes_quote pattern)).append test).append branch
      have first := condition.append (lexes_expression matched named.1)
      have second := (first.append other).append (lexes_expression unmatched named.2)
      have read := second.append closing
      simp only [List.append_assoc, List.cons_append, List.nil_append] at read
      exact read
  | value expression =>
      have blanks : Lexes "    " [] := by decide
      have line : Lexes "\n" [] := by decide
      have read := (blanks.append (lexes_expression expression named)).append line
      rwa [List.nil_append, List.append_nil] at read

def publicTokens : Bool → List Token
  | true => form "pub"
  | false => []

def itemTokens (item : Item) : List Token :=
  form "#[allow(non_snake_case, unused_variables)]" ++ (publicTokens item.isPublic ++
    (form "fn" ++ .word item.name ::
      (form "<R: Rng + ?Sized>(input: &str, rng: &mut R) -> String \x7b" ++
        (blockTokens item.body ++ form "\x7d"))))

def item (function : RustFunction) : Item := ⟨function.isPublic, function.name, block function.body⟩

def IsFunction (function : RustFunction) : Prop := IsName function.name ∧ IsBody function.body

theorem lexes_function (function : RustFunction) (named : IsFunction function) :
    Lexes function.print (itemTokens (item function)) := by
  obtain ⟨isName, isBody⟩ := named
  have attributes : Lexes ("\n" ++ RustFunction.attributes)
      (form "#[allow(non_snake_case, unused_variables)]") := by with_unfolding_all decide
  have visibility : Lexes (if function.isPublic then "pub " else "")
      (publicTokens function.isPublic) := by
    cases function.isPublic <;> with_unfolding_all decide
  have keyword : Lexes "fn " (form "fn") := lexes_form rfl rfl (by decide)
  have signature : Lexes "<R: Rng + ?Sized>(input: &str, rng: &mut R) -> String \x7b\n"
      (form "<R: Rng + ?Sized>(input: &str, rng: &mut R) -> String \x7b") :=
    lexes_form rfl rfl (by decide)
  have closing : Lexes "\x7d\n" (form "\x7d") := lexes_form rfl rfl (by decide)
  have rest := (signature.append (lexes_body function.body isBody)).append closing
  have next : ("<R: Rng + ?Sized>(input: &str, rng: &mut R) -> String \x7b\n" ++ function.body.print ++
      "\x7d\n").toList.head? = some '<' := by
    rw [String.append_assoc, String.toList_append]
    rfl
  have called := lexes_behind function.name _ _ [] _ (.word (String.ofList function.name.toList)) '<'
    (lex_name function.name isName) next rfl rest
  have read := ((attributes.append visibility).append keyword).append called
  simp only [String.append_assoc, List.append_assoc, List.nil_append, String.ofList_toList] at read
  have printed : function.print = "\n" ++ (RustFunction.attributes ++
      ((if function.isPublic then "pub " else "") ++ ("fn " ++ (function.name ++
        ("<R: Rng + ?Sized>(input: &str, rng: &mut R) -> String \x7b\n" ++ (function.body.print ++
          "\x7d\n")))))) := by
    simp only [RustFunction.print, String.append_assoc]
  rw [printed]
  exact read

theorem lexes_functions (functions : List RustFunction)
    (named : ∀ function ∈ functions, IsFunction function) :
    Lexes (String.join (functions.map RustFunction.print))
      ((functions.map item).flatMap itemTokens) := by
  induction functions with
  | nil => exact rfl
  | cons function rest ih =>
      have head := lexes_function function (named function List.mem_cons_self)
      have tail := ih fun other member => named other (List.mem_cons_of_mem function member)
      rw [List.map_cons, String.join_cons, List.map_cons, List.flatMap_cons]
      exact head.append tail

theorem lexes_module (module : RustModule)
    (named : ∀ function ∈ module.functions, IsFunction function) :
    Lexes module.print (form "use rand::Rng;" ++ (module.functions.map item).flatMap itemTokens) := by
  have header : Lexes RustModule.header (form "use rand::Rng;") := by with_unfolding_all decide
  exact header.append (lexes_functions module.functions named)

end TextGrammar.Rust

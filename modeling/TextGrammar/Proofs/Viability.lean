import TextGrammar.Proofs.Acceptance
import TextGrammar.Proofs.Completion
import TextGrammar.Proofs.Placement

set_option autoImplicit false

namespace TextGrammar

theorem apart_blank (blanks next : List Char) (blank : Blank blanks) (apart : Apart next) :
    Apart (blanks ++ next) := by
  cases blanks with
  | nil => exact apart
  | cons c blanks =>
      intro d first
      obtain rfl : c = d := by simpa using first
      exact Cursor.blank_nameless c (blank c (by simp))

theorem placed_blanks (offset : Nat) (tokens : List Token) (blanks text next : List Char)
    (some : tokens ≠ []) (blank : Blank blanks)
    (placed : Placed (offset + utf8Length blanks) tokens text next) :
    Placed offset tokens (blanks ++ text) next := by
  cases tokens with
  | nil => exact absurd rfl some
  | cons token rest =>
      obtain ⟨before, word, left, rfl, between, spells, span, behind⟩ := placed
      refine ⟨blanks ++ before, word, left, by simp, ?_, spells, ?_, ?_⟩
      · intro c member
        cases List.mem_append.mp member with
        | inl member => exact blank c member
        | inr member => exact between c member
      · simpa [Cursor.utf8Length_append, Nat.add_assoc] using span
      · simpa [Cursor.utf8Length_append, Nat.add_assoc] using behind

def Lexeme.Writable (lexeme : Lexeme) : Prop :=
  ∃ word, ∀ next, Apart next → Lexeme.Spells lexeme word next

theorem filler_writable : Lexeme.Writable .filler := by
  have quotable : Quotable '\'' [] := ⟨by simp [Escaped], by simp⟩
  exact ⟨_, fun _ _ => .literal (by decide) quotable⟩

theorem missing_writable (state : Partial) : ∀ lexeme ∈ state.missing, lexeme.Writable := by
  have opening : Lexeme.Writable .opening := ⟨_, fun _ _ => .opening⟩
  have closing : Lexeme.Writable .closing := ⟨_, fun _ _ => .closing⟩
  have name : Lexeme.Writable (.name (String.ofList ['x'])) :=
    ⟨['x'], fun _ apart => .name ⟨by simp, by simp; decide, apart⟩⟩
  have filler := filler_writable
  have frames : ∀ frame ∈ state.frames, ∀ lexeme ∈ frame.missing, lexeme.Writable := by
    intro frame _ lexeme member
    cases frame with
    | group o inner | choose op o inner =>
        rw [List.mem_singleton.mp member]
        exact closing
    | regex op pattern =>
        rw [List.mem_singleton.mp member]
        exact filler
    | define op name | optional op | regexElse op pattern matched => cases member
  intro lexeme member
  rw [Partial.missing, List.mem_append, List.mem_append, List.mem_flatMap] at member
  obtain first | ⟨frame, inside, among⟩ | last := member
  · cases awaits : state.awaiting with
    | statement =>
        by_cases collects : state.openGroup.isSome = true
        · simp [awaits, collects] at first
        · obtain rfl : lexeme = .filler := by simpa [awaits, collects] using first
          exact filler
    | name op =>
        obtain rfl | rfl : lexeme = .name "x" ∨ lexeme = .filler := by simpa [awaits] using first
        · exact name
        · exact filler
    | alternatives op =>
        obtain rfl | rfl : lexeme = .opening ∨ lexeme = .closing := by simpa [awaits] using first
        · exact opening
        · exact closing
    | pattern op =>
        obtain rfl : lexeme = .filler := by simpa [awaits] using first
        exact filler
  · exact frames frame inside lexeme among
  · rw [List.mem_singleton.mp last]
    exact closing

theorem writable_placed (lexemes : List Lexeme)
    (writable : ∀ lexeme ∈ lexemes, lexeme.Writable) :
    ∃ text, Apart text ∧ ∀ offset, ∃ tokens, tokens.map Token.lexeme = lexemes ∧
      Placed offset tokens text [] := by
  induction lexemes with
  | nil => exact ⟨[], by simp [Apart], fun _ => ⟨[], rfl, rfl⟩⟩
  | cons lexeme rest ih =>
      obtain ⟨⟨word, spells⟩, others⟩ := List.forall_mem_cons.mp writable
      obtain ⟨text, apart, behind⟩ := ih others
      refine ⟨[' '] ++ (word ++ text), by simp [Apart]; decide, fun offset => ?_⟩
      obtain ⟨tokens, given, placed⟩ := behind (offset + utf8Length ([' '] ++ word))
      exact ⟨⟨lexeme, _⟩ :: tokens, by simp [given], [' '], word, text, rfl, by simp [Blank]; decide,
        spells _ (by simpa using apart), rfl, placed⟩

theorem placed_viable (limit : Nat) (opening : Span) (front : List Token) (state : Partial)
    (text blanks : List Char)
    (placed : ∀ next, Apart next → Placed 0 (⟨.opening, opening⟩ :: front) text next)
    (blank : Blank blanks) (reaches : Partial.Reaches limit ⟨opening, [], [], .statement⟩ front state) :
    ∃ (more : List Char) (grammar : Grammar),
      Grammar.readWithin (limit + 1) (String.ofList (text ++ blanks ++ more)) = .ok grammar := by
  obtain ⟨more, apart, behind⟩ := writable_placed state.missing (missing_writable state)
  obtain ⟨tokens, lexemes, missing⟩ := behind (0 + utf8Length text + utf8Length blanks)
  have some : tokens ≠ [] := by
    rintro rfl
    simp [Partial.missing] at lexemes
  have all : Placed 0 ((⟨.opening, opening⟩ :: front) ++ tokens) (text ++ (blanks ++ more)) [] :=
    (placed_append _ _ _ _ _).mpr ⟨text, blanks ++ more, rfl,
      placed _ (by simpa using apart_blank blanks more blank apart),
      placed_blanks _ _ _ _ _ some blank missing⟩
  obtain ⟨rest, given⟩ := (tokens_of_placed (String.ofList (text ++ blanks ++ more)) _).mpr
    ⟨_, [], by simp, all⟩
  have within := Partial.reaches_within limit _ _ _ (Grammar.begin_within limit opening) reaches
  obtain ⟨grammar, completes⟩ := Partial.missing_completes limit
    (utf8Length (String.ofList (text ++ blanks ++ more)).toList) state (tokens ++ rest)
    (rest.map Token.lexeme) within (by rw [List.map_append, lexemes])
  refine ⟨more, grammar, ?_⟩
  rw [Grammar.readWithin, given]
  simp only [List.cons_append, List.append_assoc]
  rw [Partial.reaches_run _ _ _ _ _ _ (Partial.reaches_more limit (limit + 1) _ _ _ (by omega) reaches)]
  simpa using completes

theorem root_viable (limit : Nat) (blanks : List Char) (blank : Blank blanks) :
    ∃ (more : List Char) (grammar : Grammar),
      Grammar.readWithin limit (String.ofList (blanks ++ more)) = .ok grammar := by
  have derived : Derives (.statement (.group Span.nowhere [] Span.nowhere)) ['(', ')'] [] :=
    .group (.done blank_none)
  obtain ⟨found, read, -⟩ := Grammar.stands_within limit (String.ofList (blanks ++ ['(', ')'])) "()"
    ⟨Span.nowhere, [], Span.nowhere⟩
    ⟨String.ofList blanks, "", by simp, by simpa using blank, by simpa [Grammar.Derived] using derived⟩
    (by simp [Grammar.Within, Grammar.preorder, Node.preorderAll])
  exact ⟨['(', ')'], found, read⟩

theorem next_kind (front : List Token) (text blanks more : List Char) (c : Char)
    (placed : Placed 0 front text (blanks ++ c :: more)) (blank : Blank blanks)
    (visible : isBlank c = false) :
    ∃ token rest, tokensOf (String.ofList (text ++ blanks ++ c :: more)) = front ++ token :: rest ∧
      token.lexeme.kind = LexemeKind.ofFirst c := by
  obtain ⟨lexeme, word, next, shape, spells⟩ := spelled_exists c more visible
  obtain ⟨d, left, rfl, -⟩ := Cursor.spells_visible _ _ _ spells
  rw [List.cons_append] at shape
  obtain ⟨rfl, rfl⟩ := List.cons.inj shape
  have longer : Placed 0 (front ++ [⟨lexeme, _⟩]) (text ++ (blanks ++ (c :: left))) next :=
    (placed_append _ _ _ _ _).mpr ⟨text, _, rfl, by simpa using placed,
      blanks, c :: left, [], by simp, blank, spells, rfl, rfl⟩
  obtain ⟨rest, given⟩ :=
    (tokens_of_placed (String.ofList (text ++ blanks ++ c :: (left ++ next))) _).mpr
      ⟨_, next, by simp, longer⟩
  exact ⟨_, rest, given.trans (List.append_assoc ..), spells_kind lexeme c left next spells⟩

structure Earliest (limit : Nat) (error : ReadError) (sound left : List Char) : Prop where
  place : if error.unfinished then left = [] else utf8Length sound = error.diagnostic.offset
  viable : ∃ (more : List Char) (grammar : Grammar),
    Grammar.readWithin (limit + 1) (String.ofList (sound ++ more)) = .ok grammar
  barred : ∀ c rest, left = c :: rest → ∀ more grammar,
    Grammar.readWithin limit (String.ofList (sound ++ c :: more)) ≠ .ok grammar

theorem no_group_earliest (limit : Nat) (source : String) (token : Token) (rest : List Token)
    (given : tokensOf source = token :: rest) (other : token.lexeme ≠ .opening) :
    ∃ sound left, source.toList = sound ++ left ∧
      Earliest limit (.expectedGroup token.span.start) sound left := by
  obtain ⟨text, next, shape, blanks, word, tail, rfl, blank, spells, span, rfl⟩ :=
    (tokens_of_placed source [token]).mp ⟨rest, given⟩
  obtain ⟨c, left, rfl, visible⟩ := Cursor.spells_visible _ _ _ spells
  refine ⟨blanks, c :: (left ++ next), by simpa using shape, ?_, root_viable _ blanks blank, ?_⟩
  · change utf8Length blanks = token.span.start
    rw [span]
    exact (Nat.zero_add _).symm
  · rintro d after first more grammar read
    obtain ⟨rfl, -⟩ := List.cons.inj first
    obtain ⟨begun, others, tokens, kind⟩ := next_kind [] [] blanks more c rfl blank visible
    rw [List.nil_append] at tokens
    rw [Grammar.readWithin, tokens] at read
    have opens : begun.lexeme = .opening := by
      cases lexeme : begun.lexeme <;> simp [lexeme] at read
      rfl
    rw [opens, ← spells_kind _ _ _ _ spells] at kind
    apply other
    cases lexeme : token.lexeme <;> simp [lexeme, Lexeme.kind] at kind
    rfl

section

variable {limit : Nat} {opening : Span} {front : List Token} {last : Partial}

theorem end_earliest (source : String) (stop : Nat) (whole : stop = utf8Length source.toList)
    (given : tokensOf source = ⟨.opening, opening⟩ :: front)
    (reaches : Partial.Reaches limit ⟨opening, [], [], .statement⟩ front last) :
    ∃ sound left, source.toList = sound ++ left ∧
      Earliest limit (last.atEnd limit stop) sound left := by
  obtain ⟨text, blanks, shape, blank, placed⟩ := placed_all source _ given
  refine ⟨source.toList, [], by simp, ?_, ?_, by simp⟩
  · cases last.at_end_place limit stop with
    | inl unfinished => rw [if_pos unfinished]
    | inr place =>
        by_cases unfinished : (last.atEnd limit stop).unfinished = true
        · rw [if_pos unfinished]
        · rw [if_neg unfinished, place, whole]
  · rw [shape]
    have closed := Partial.reaches_closed limit _ _ _ reaches
    exact placed_viable limit opening front last text blanks
      (fun next apart => placed_elsewhere 0 _ text blanks next placed (by simpa using closed)
        (.inl apart)) blank reaches

-- A literal without an end is ended behind one blank more, so an escape mark there does no harm.
theorem unclosed_viable (quote : Char) (text blanks body : List Char)
    (placed : Placed 0 (⟨.opening, opening⟩ :: front) text (blanks ++ quote :: body))
    (reaches : Partial.Reaches limit ⟨opening, [], [], .statement⟩ front last) (blank : Blank blanks)
    (delimits : isQuote quote = true) (escaped : Escaped quote body)
    (read : ∀ text span, ∃ next, last.step limit ⟨.literal text quote, span⟩ = .ok (.partway next)) :
    ∃ (more : List Char) (grammar : Grammar), Grammar.readWithin (limit + 1)
      (String.ofList (text ++ blanks ++ quote :: body ++ more)) = .ok grammar := by
  have apart : quote ≠ ' ' := by
    rintro rfl
    exact absurd delimits (by decide)
  have quotable : Quotable quote (body ++ [' ']) := by
    refine ⟨fun before after shape => ?_, by simp [escapeMark]⟩
    obtain ⟨rest, rfl, tail⟩ | ⟨rest, rfl, tail⟩ := List.append_eq_append_iff.mp shape
    · cases rest with
      | nil => simp [apart.symm] at tail
      | cons c rest => simp at tail
    · cases rest with
      | nil => simp [apart] at tail
      | cons c rest =>
          obtain ⟨rfl, -⟩ := List.cons.inj tail
          exact escaped before rest rfl
  let word := quote :: (body ++ [' '] ++ [quote])
  let span := Span.range (0 + utf8Length text + utf8Length blanks)
    (0 + utf8Length text + utf8Length (blanks ++ word))
  obtain ⟨next, stepped⟩ := read (String.ofList (body ++ [' '])) span
  have closed := Partial.reaches_closed limit _ _ _ reaches
  have longer (after : List Char) : Placed 0
      ((⟨.opening, opening⟩ :: front) ++ [⟨.literal (String.ofList (body ++ [' '])) quote, span⟩])
      (text ++ (blanks ++ word)) after :=
    (placed_append _ _ _ _ _).mpr ⟨text, blanks ++ word, rfl,
      placed_elsewhere 0 _ text _ _ placed (by simpa using closed)
        (.inr (by cases blanks <;> simp [word])),
      blanks, word, [], by simp, blank, .literal delimits quotable, rfl, rfl⟩
  obtain ⟨more, grammar, completes⟩ := placed_viable limit opening _ next (text ++ (blanks ++ word)) []
    (fun after _ => longer after) (by simp [Blank])
    (Partial.reaches_last limit _ last next front _ reaches stepped)
  exact ⟨' ' :: quote :: more, grammar, by simpa [word] using completes⟩

theorem token_earliest (source : String) (token : Token) (rest : List Token) (error : ReadError)
    (given : tokensOf source = ⟨.opening, opening⟩ :: (front ++ token :: rest))
    (reaches : Partial.Reaches limit ⟨opening, [], [], .statement⟩ front last)
    (fails : last.step limit token = .error error) :
    ∃ sound left, source.toList = sound ++ left ∧ Earliest limit error sound left := by
  have closed := Partial.reaches_closed limit _ _ _ reaches
  obtain ⟨whole, next, shape, placed⟩ :=
    (tokens_of_placed source ((⟨.opening, opening⟩ :: front) ++ [token])).mp ⟨rest, by simp [given]⟩
  obtain ⟨text, _, rfl, before, blanks, word, tail, rfl, blank, spells, span, rfl⟩ :=
    (placed_append _ _ _ _ _).mp placed
  obtain ⟨c, left, rfl, visible⟩ := Cursor.spells_visible _ _ _ spells
  cases last.step_fails limit token error fails with
  | inl finished =>
      obtain ⟨finished, offset⟩ := finished
      refine ⟨text ++ blanks, c :: (left ++ next), by simpa using shape, ?_, ?_, ?_⟩
      · rw [if_neg (by simp [finished]), offset, span, Cursor.utf8Length_append]
        simp [Span.range]
      · exact placed_viable limit opening front last text blanks
          (fun after apart => placed_elsewhere 0 _ text _ after before (by simpa using closed)
            (.inl apart)) blank reaches
      · rintro d after first more grammar read
        obtain ⟨rfl, -⟩ := List.cons.inj first
        obtain ⟨begun, others, tokens, kind⟩ := next_kind (⟨.opening, opening⟩ :: front) text blanks
          more c (placed_elsewhere 0 _ text _ _ before (by simpa using closed)
            (.inr (by cases blanks <;> simp))) blank visible
        rw [Grammar.readWithin, tokens] at read
        simp only [List.cons_append] at read
        rw [Partial.reaches_run limit _ _ _ _ _ reaches, Partial.run] at read
        cases stepped : last.step limit begun with
        | error other => simp [stepped] at read
        | ok progress =>
            -- What this token may do, the token of the error might have done too.
            have same := (spells_kind _ _ _ _ spells).trans kind.symm
            have unfinished := last.step_kind limit begun token progress error stepped same fails
            rw [finished] at unfinished
            cases unfinished
  | inr unfinished =>
      obtain ⟨quote, lexeme, unfinished, read⟩ := unfinished
      rw [List.nil_append, lexeme] at spells
      cases spells with
      | unclosed delimits escaped =>
          refine ⟨source.toList, [], by simp, by rw [if_pos unfinished], ?_, by simp⟩
          rw [shape]
          simpa using unclosed_viable _ text blanks left (by simpa using before) reaches blank
            delimits escaped read

end

-- The source up to an error can still become a grammar, if one level more may be used, and no text
-- that goes on like the source by one more character is one. What is unfinished at the end of the
-- source is wrong nowhere in it.
theorem read_error_earliest (limit : Nat) (source : String) (error : ReadError)
    (failed : Grammar.readWithin limit source = .error error) :
    ∃ sound left : String, source = sound ++ left ∧
      (if error.unfinished then left = ""
        else utf8Length sound.toList = error.diagnostic.offset) ∧
      (∃ (more : String) (grammar : Grammar),
        Grammar.readWithin (limit + 1) (sound ++ more) = .ok grammar) ∧
      ∀ (c : Char) (rest : String), left = c.toString ++ rest →
        ∀ (more : String) (grammar : Grammar),
          Grammar.readWithin limit (sound ++ c.toString ++ more) ≠ .ok grammar := by
  have earliest : ∃ sound left, source.toList = sound ++ left ∧ Earliest limit error sound left := by
    rw [Grammar.readWithin] at failed
    cases given : tokensOf source with
    | nil =>
        rw [given] at failed
        cases failed
        obtain ⟨text, blanks, shape, blank, rfl⟩ := placed_all source [] given
        refine ⟨source.toList, [], by simp, rfl, ?_, by simp⟩
        rw [shape]
        exact root_viable _ _ blank
    | cons token rest =>
        rw [given] at failed
        rcases token with ⟨lexeme, opening⟩
        by_cases opens : lexeme = .opening
        · subst opens
          obtain ⟨front, last, reaches, ends⟩ := Partial.run_fails limit _ _ rest error failed
          cases ends with
          | inl ended =>
              obtain ⟨rfl, rfl⟩ := ended
              exact end_earliest source _ rfl given reaches
          | inr ended =>
              obtain ⟨bad, others, rfl, fails⟩ := ended
              exact token_earliest source bad others error given reaches fails
        · have found : error = .expectedGroup opening.start := by
            cases lexeme <;> first | exact absurd rfl opens | exact (Except.error.inj failed).symm
          rw [found]
          exact no_group_earliest limit source _ rest given opens
  obtain ⟨sound, left, shape, place, ⟨more, grammar, read⟩, barred⟩ := earliest
  refine ⟨String.ofList sound, String.ofList left, ?_, ?_, ⟨String.ofList more, grammar, ?_⟩, ?_⟩
  · rw [← String.ofList_append, ← shape, String.ofList_toList]
  · by_cases unfinished : error.unfinished = true
    · rw [if_pos unfinished] at place ⊢
      rw [place]
    · rw [if_neg unfinished] at place ⊢
      rwa [String.toList_ofList]
  · rwa [← String.ofList_append]
  · intro c rest first more grammar
    have begins : left = c :: rest.toList := by
      have chars := congrArg String.toList first
      simpa using chars
    have refused := barred c rest.toList begins more.toList grammar
    rwa [show String.ofList (sound ++ c :: more.toList) =
      String.ofList sound ++ c.toString ++ more by apply String.toList_inj.mp; simp] at refused

-- The operator stands at the limit, so its operand is refused before it is looked at.
theorem read_error_earliest_at_limit :
    Grammar.readWithin 1 "('é' ? )" = .error (.nestingTooDeep 1 8) ∧
      ∃ sound left : String, "('é' ? )" = sound ++ left ∧ utf8Length sound.toList = 8 ∧
        (∃ (more : String) (grammar : Grammar),
          Grammar.readWithin 2 (sound ++ more) = .ok grammar) ∧
        ∀ (c : Char) (rest : String), left = c.toString ++ rest →
          ∀ (more : String) (grammar : Grammar),
            Grammar.readWithin 1 (sound ++ c.toString ++ more) ≠ .ok grammar := by
  have failed : Grammar.readWithin 1 "('é' ? )" = .error (.nestingTooDeep 1 8) := by rfl
  exact ⟨failed, read_error_earliest 1 "('é' ? )" (.nestingTooDeep 1 8) failed⟩

end TextGrammar

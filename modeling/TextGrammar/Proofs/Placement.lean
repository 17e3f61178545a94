import TextGrammar.Proofs.Lexing

set_option autoImplicit false

namespace TextGrammar

-- From the offset on the text consists of these tokens, with blanks before each, and `next` follows.
def Placed (offset : Nat) : List Token → List Char → List Char → Prop
  | [], text, _ => text = []
  | token :: rest, text, next =>
      ∃ blanks word left, text = blanks ++ (word ++ left) ∧ Blank blanks ∧
        Lexeme.Spells token.lexeme word (left ++ next) ∧
        token.span = Span.range (offset + utf8Length blanks) (offset + utf8Length (blanks ++ word)) ∧
        Placed (offset + utf8Length (blanks ++ word)) rest left next

theorem Cursor.pass_nothing (cursor : Cursor) : cursor.pass [] cursor.ahead = cursor := by
  simp [pass, utf8Length]

theorem Cursor.pass_stays (cursor : Cursor) (left : List Char) (ahead : cursor.ahead = left) :
    cursor.pass [] left = cursor := by
  rw [← ahead, cursor.pass_nothing]

theorem reads_placed (tokens : List Token) (cursor last : Cursor) :
    Cursor.Reads tokens cursor last ↔
      ∃ text, cursor.ahead = text ++ last.ahead ∧ last = cursor.pass text last.ahead ∧
        Placed cursor.offset tokens text last.ahead := by
  induction tokens generalizing cursor with
  | nil =>
      constructor
      · intro same
        obtain rfl : cursor = last := same
        exact ⟨[], rfl, cursor.pass_nothing.symm, rfl⟩
      · rintro ⟨text, ahead, passed, rfl⟩
        exact (passed.trans (cursor.pass_stays _ ahead)).symm
  | cons token rest ih =>
      constructor
      · rintro ⟨after, found, reads⟩
        obtain ⟨blanks, word, next, ahead, blank, spells, span, rfl⟩ :=
          (Cursor.next_token _ _ _).mp found
        obtain ⟨text, shape, passed, placed⟩ := (ih _).mp reads
        rw [Cursor.ahead_pass] at shape
        refine ⟨blanks ++ (word ++ text), by simp [ahead, shape], ?_, blanks, word, text, rfl, blank,
          shape ▸ spells, span, placed⟩
        rw [Cursor.pass_pass] at passed
        simpa using passed
      · rintro ⟨text, ahead, passed, blanks, word, left, rfl, blank, spells, span, placed⟩
        refine ⟨cursor.pass (blanks ++ word) (left ++ last.ahead), ?_, (ih _).mpr ⟨left, rfl, ?_, placed⟩⟩
        · exact (Cursor.next_token _ _ _).mpr
            ⟨blanks, word, _, by simp [ahead], blank, spells, span, rfl⟩
        · rw [Cursor.pass_pass]
          simpa using passed

theorem tokens_of_placed (source : String) (front : List Token) :
    (∃ rest, tokensOf source = front ++ rest) ↔
      ∃ text next, source.toList = text ++ next ∧ Placed 0 front text next := by
  rw [tokens_of_begin]
  constructor
  · rintro ⟨last, reads⟩
    obtain ⟨text, ahead, -, placed⟩ := (reads_placed _ _ _).mp reads
    exact ⟨text, last.ahead, ahead, placed⟩
  · rintro ⟨text, next, shape, placed⟩
    exact ⟨(Cursor.ofString source).pass text next,
      (reads_placed _ _ _).mpr ⟨text, shape, rfl, placed⟩⟩

theorem placed_append (offset : Nat) (front rest : List Token) (text next : List Char) :
    Placed offset (front ++ rest) text next ↔
      ∃ before behind, text = before ++ behind ∧ Placed offset front before (behind ++ next) ∧
        Placed (offset + utf8Length before) rest behind next := by
  induction front generalizing offset text with
  | nil =>
      constructor
      · intro placed
        exact ⟨[], text, rfl, rfl, placed⟩
      · rintro ⟨before, behind, rfl, rfl, placed⟩
        exact placed
  | cons token front ih =>
      constructor
      · rintro ⟨blanks, word, left, rfl, blank, spells, span, placed⟩
        obtain ⟨before, behind, rfl, first, second⟩ := (ih _ _).mp placed
        refine ⟨blanks ++ (word ++ before), behind, by simp, ⟨blanks, word, before, rfl, blank,
          by simpa using spells, span, first⟩, ?_⟩
        simpa [Cursor.utf8Length_append, Nat.add_assoc] using second
      · rintro ⟨before, behind, rfl, ⟨blanks, word, left, rfl, blank, spells, span, first⟩, second⟩
        refine ⟨blanks, word, left ++ behind, by simp, blank, by simpa using spells, span,
          (ih _ _).mpr ⟨left, behind, rfl, first, ?_⟩⟩
        simpa [Cursor.utf8Length_append, Nat.add_assoc] using second

-- The text behind a token may be replaced, unless the token runs to the end of the text.
theorem spells_elsewhere (lexeme : Lexeme) (word next next' : List Char)
    (spells : Lexeme.Spells lexeme word next) (closed : ∀ quote, lexeme ≠ .unclosed quote)
    (same : Apart next' ∨ next'.head? = next.head?) : Lexeme.Spells lexeme word next' := by
  cases spells with
  | opening => exact .opening
  | closing => exact .closing
  | operator operator => exact .operator operator
  | literal delimits first => exact .literal delimits first
  | unclosed delimits escaped => exact absurd rfl (closed _)
  | stray other => exact .stray other
  | name maximal =>
      obtain ⟨nonempty, all, stop⟩ := maximal
      cases same with
      | inl apart => exact .name ⟨nonempty, all, apart⟩
      | inr same => exact .name ⟨nonempty, all, same ▸ stop⟩

theorem placed_elsewhere (offset : Nat) (tokens : List Token) (text next next' : List Char)
    (placed : Placed offset tokens text next)
    (closed : ∀ token ∈ tokens, ∀ quote, token.lexeme ≠ .unclosed quote)
    (same : Apart next' ∨ next'.head? = next.head?) : Placed offset tokens text next' := by
  induction tokens generalizing offset text with
  | nil => exact placed
  | cons token rest ih =>
      obtain ⟨blanks, word, left, shape, blank, spells, span, behind⟩ := placed
      obtain ⟨first, others⟩ := List.forall_mem_cons.mp closed
      refine ⟨blanks, word, left, shape, blank, ?_, span, ih _ _ behind others⟩
      cases left with
      | nil => exact spells_elsewhere _ _ _ _ spells first same
      | cons c left => exact spells_elsewhere _ _ _ _ spells first (.inr rfl)

theorem spelled_exists (c : Char) (left : List Char) (visible : isBlank c = false) :
    ∃ lexeme word next, c :: left = word ++ next ∧ Lexeme.Spells lexeme word next := by
  obtain ⟨lexeme, word, next, shape, spells, -⟩ :=
    Cursor.lexeme_spells ⟨[], c :: left, 0⟩ c left rfl visible
  exact ⟨lexeme, word, next, shape, spells⟩

theorem placed_all (source : String) (tokens : List Token) (given : tokensOf source = tokens) :
    ∃ text blanks, source.toList = text ++ blanks ∧ Blank blanks ∧ Placed 0 tokens text blanks := by
  obtain ⟨text, next, shape, placed⟩ := (tokens_of_placed source tokens).mp ⟨[], by simp [given]⟩
  refine ⟨text, next, shape, ?_, placed⟩
  by_contra visible
  have split : next = next.takeWhile isBlank ++ next.dropWhile isBlank :=
    List.takeWhile_append_dropWhile.symm
  cases rest : next.dropWhile isBlank with
  | nil =>
      rw [rest, List.append_nil] at split
      apply visible
      intro c member
      rw [split] at member
      exact List.mem_takeWhile_imp member
  | cons c left =>
      have first := Cursor.stop_drop_while isBlank next c (by rw [rest]; rfl)
      obtain ⟨lexeme, word, behind, joined, spells⟩ := spelled_exists c left first
      have blank : Blank (next.takeWhile isBlank) := fun c member => List.mem_takeWhile_imp member
      have whole : next = next.takeWhile isBlank ++ (word ++ behind) := by rw [← joined, ← rest]; exact split
      have more : Placed 0 (tokens ++ [⟨lexeme, _⟩]) (text ++ (next.takeWhile isBlank ++ word)) behind :=
        (placed_append _ _ _ _ _).mpr ⟨text, _, rfl, by rwa [List.append_assoc, ← whole],
          next.takeWhile isBlank, word, [], by simp, blank, spells, rfl, rfl⟩
      obtain ⟨extra, longer⟩ := (tokens_of_placed source _).mpr
        ⟨_, behind, by rw [shape, List.append_assoc, List.append_assoc, ← whole], more⟩
      rw [given] at longer
      have lengths := congrArg List.length longer
      simp at lengths

end TextGrammar

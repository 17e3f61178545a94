import TextGrammar.Proofs.Scanning
import TextGrammar.Tree.Reader

set_option autoImplicit false

namespace TextGrammar

def Unescaped (quote : Char) (text before after : List Char) : Prop :=
  text = before ++ quote :: after ∧ before.getLast? ≠ some escapeMark

def FirstUnescaped (quote : Char) (text body left : List Char) : Prop :=
  Unescaped quote text body left ∧
    ∀ before after, Unescaped quote text before after → body.length ≤ before.length

theorem quote_no_mark (quote : Char) (delimits : isQuote quote = true) : quote ≠ escapeMark := by
  rintro rfl
  exact absurd delimits (by decide)

theorem quotable_first (quote : Char) (text body left : List Char) :
    text = body ++ quote :: left ∧ Quotable quote body ↔ FirstUnescaped quote text body left := by
  constructor
  · rintro ⟨shape, escaped, unmarked⟩
    refine ⟨⟨shape, unmarked⟩, fun before after ends => ?_⟩
    by_contra shorter
    obtain ⟨shape', free⟩ := ends
    rw [shape] at shape'
    obtain ⟨rest, longer, -⟩ | ⟨rest, longer, behind⟩ := List.append_eq_append_iff.mp shape'
    · simp [longer] at shorter
    · cases rest with
      | nil => simp [longer] at shorter
      | cons c rest =>
          obtain ⟨rfl, -⟩ := List.cons.inj behind
          exact free (escaped before rest longer)
  · rintro ⟨⟨shape, unmarked⟩, least⟩
    refine ⟨shape, fun before after inside => ?_, unmarked⟩
    by_contra free
    have shorter := least before (after ++ quote :: left) ⟨by simp [shape, inside], free⟩
    simp only [inside, List.length_append, List.length_cons] at shorter
    omega

theorem escaped_endless (quote : Char) (text : List Char) :
    Escaped quote text ↔ ¬ ∃ before after, Unescaped quote text before after := by
  simp only [Escaped, Unescaped, not_exists, not_and, not_not]

namespace Cursor

def takePieces (quote : Char) (text : String) (cursor : Cursor) : Option (String × Cursor) :=
  match _ : cursor.takeUntil quote with
  | none => none
  | some (content, next) =>
      if next.last 2 = some escapeMark then
        takePieces quote (text ++ content ++ String.singleton quote) next
      else some (text ++ content, next)
termination_by cursor.ahead.length
decreasing_by
  obtain ⟨-, left, ahead, rfl⟩ := (take_until_some cursor quote content next).mp ‹_›
  simp only [ahead, ahead_pass, List.length_append, List.length_cons]
  omega

def readLiteral (cursor : Cursor) : Except ReadError Literal × Cursor :=
  match cursor.any quotes with
  | none => (.error (.expectedLiteral cursor.offset), cursor)
  | some (quote, next) =>
      match takePieces quote "" next with
      | none => (.error (.unterminatedLiteral (Span.range cursor.offset cursor.finish.offset)), cursor)
      | some (text, after) => (.ok ⟨text, quote, Span.range cursor.offset after.offset⟩, after)

theorem split_quoted_piece (quote : Char) (last : Option Char) (content left : List Char)
    (first : quote ∉ content) :
    splitQuoted quote (last == some escapeMark) (content ++ quote :: left) =
      if content.getLast?.or last = some escapeMark then
        (splitQuoted quote (some quote == some escapeMark) left).map
          fun (taken, left) => (content ++ quote :: taken, left)
      else some (content, left) := by
  induction content generalizing last with
  | nil =>
      rw [List.nil_append, split_quoted_cons]
      by_cases marked : last = some escapeMark <;> simp [marked]
  | cons c content ih =>
      obtain ⟨other, first⟩ := List.ne_and_not_mem_of_not_mem_cons first
      rw [List.cons_append, split_quoted_cons, if_neg (fun ends => other ends.1.symm), ih _ first,
        last_before]
      split
      · rw [Option.map_map]
        rfl
      · rfl

-- Two characters back stands what is before the quote just passed, in this piece or in front of it.
theorem last_two (cursor : Cursor) (quote : Char) (content left : List Char) :
    (cursor.pass (content ++ [quote]) left).last 2 = content.getLast?.or cursor.behind.head? := by
  have behind : (cursor.pass (content ++ [quote]) left).behind =
      quote :: (content.reverse ++ cursor.behind) := by simp [pass]
  rw [last, behind, List.getElem?_cons_succ, ← List.head?_eq_getElem?, List.head?_append,
    List.head?_reverse]

-- Between two quotes in a row the piece is empty, and the look back meets the first of them.
theorem take_quoted_piece (cursor next : Cursor) (quote : Char) (content : String)
    (unmarked : quote ≠ escapeMark) (opened : cursor.behind.head? = some quote)
    (found : cursor.takeUntil quote = some (content, next)) :
    next.behind.head? = some quote ∧
      cursor.takeQuoted quote =
        if next.last 2 = some escapeMark then
          (next.takeQuoted quote).map
            fun (body, after) => (content ++ String.singleton quote ++ body, after)
        else some (content, next) := by
  obtain ⟨first, left, ahead, rfl⟩ := (take_until_some cursor quote content next).mp found
  have split := split_quoted_piece quote none content.toList left first
  have afresh : (some quote == some escapeMark) = (none == some escapeMark) := by simp [unmarked]
  have mark : content.toList.getLast?.or (some quote) = some escapeMark ↔
      content.toList.getLast?.or none = some escapeMark := by
    cases content.toList.getLast? <;> simp [unmarked]
  refine ⟨by simp [pass], ?_⟩
  rw [last_two, opened, takeQuoted, ahead, show false = (none == some escapeMark) from rfl, split,
    afresh]
  by_cases marked : content.toList.getLast?.or none = some escapeMark
  · rw [if_pos marked, if_pos (mark.mpr marked), takeQuoted, Option.map_map, Option.map_map,
      ahead_pass]
    congr 1
    funext pair
    have joined : String.ofList (content.toList ++ quote :: pair.1) =
        content ++ String.singleton quote ++ String.ofList pair.1 := by
      rw [← String.toList_inj]
      simp
    simp [joined]
  · rw [if_neg marked, if_neg (fun found => marked (mark.mp found))]
    simp

theorem take_pieces_quoted (quote : Char) (text : String) (cursor : Cursor)
    (unmarked : quote ≠ escapeMark) (opened : cursor.behind.head? = some quote) :
    takePieces quote text cursor =
      (cursor.takeQuoted quote).map fun (body, after) => (text ++ body, after) := by
  fun_induction takePieces quote text cursor with
  | case1 text cursor nowhere =>
      have missing := (take_until_none cursor quote).mp nowhere
      have escaped : Escaped quote cursor.ahead := by
        intro before after shape
        exact absurd (by simp [shape]) missing
      rw [(take_quoted_none cursor quote).mpr escaped]
      rfl
  | case2 text cursor content next found marked ih =>
      obtain ⟨opened', piece⟩ := take_quoted_piece cursor next quote content unmarked opened found
      rw [ih opened', piece, if_pos marked, Option.map_map]
      congr 1
      funext pair
      simp only [Function.comp_apply, String.append_assoc]
  | case3 text cursor content next found free =>
      rw [(take_quoted_piece cursor next quote content unmarked opened found).2, if_neg free]
      rfl

section

variable (cursor : Cursor) (quote : Char) (text : List Char)

theorem take_pieces_opened (delimits : isQuote quote = true) :
    takePieces quote "" (cursor.pass [quote] text) = (cursor.pass [quote] text).takeQuoted quote := by
  rw [take_pieces_quoted quote "" _ (quote_no_mark quote delimits) rfl]
  simp

theorem any_quote (ahead : cursor.ahead = quote :: text) (delimits : isQuote quote = true) :
    cursor.any quotes = some (quote, cursor.pass [quote] text) := by
  have member : quotes.contains quote = true := delimits
  rw [any, cursor.advance_cons quote text ahead]
  simp only [if_pos member]

theorem read_literal_ends (ahead : cursor.ahead = quote :: text) (delimits : isQuote quote = true)
    (body left : List Char) (first : FirstUnescaped quote text body left) :
    cursor.readLiteral =
      (.ok ⟨String.ofList body, quote,
        Span.range cursor.offset (cursor.pass (quote :: (body ++ [quote])) left).offset⟩,
        cursor.pass (quote :: (body ++ [quote])) left) := by
  obtain ⟨shape, quotable⟩ := (quotable_first quote text body left).mpr first
  have taken := (take_quoted_some (cursor.pass [quote] text) _ quote _).mpr
    ⟨body, left, shape, quotable, rfl, rfl⟩
  rw [readLiteral, any_quote cursor quote text ahead delimits]
  simp only [take_pieces_opened cursor quote text delimits, taken, pass_pass]
  rfl

theorem read_literal_endless (ahead : cursor.ahead = quote :: text) (delimits : isQuote quote = true)
    (endless : ¬ ∃ before after, Unescaped quote text before after) :
    cursor.readLiteral =
      (.error (.unterminatedLiteral (Span.range cursor.offset cursor.finish.offset)), cursor) := by
  have missing := (take_quoted_none (cursor.pass [quote] text) quote).mpr
    ((escaped_endless quote text).mpr endless)
  rw [readLiteral, any_quote cursor quote text ahead delimits]
  simp only [take_pieces_opened cursor quote text delimits, missing]

end

theorem first_unescaped_exists (quote : Char) (text : List Char)
    (ended : ∃ before after, Unescaped quote text before after) :
    ∃ body left, FirstUnescaped quote text body left := by
  cases found : takeQuoted ⟨[], text, 0⟩ quote with
  | none =>
      exact absurd ended ((escaped_endless quote text).mp ((take_quoted_none _ quote).mp found))
  | some pair =>
      obtain ⟨body, left, shape, quotable, -⟩ := (take_quoted_some _ pair.2 quote pair.1).mp found
      exact ⟨body, left, (quotable_first quote text body left).mp ⟨shape, quotable⟩⟩

end Cursor

def Token.Tells (token : Token) : Except ReadError Literal → Prop
  | .ok literal =>
      token.lexeme = .literal literal.text literal.quote ∧ token.span = literal.span
  | .error error =>
      ∃ quote, token.lexeme = .unclosed quote ∧ error = .unterminatedLiteral token.span

namespace Partial

variable (limit : Nat) (state : Partial) (token : Token) (result : Except ReadError Literal)

theorem step_statement_literal (tells : token.Tells result) (due : state.awaiting = .statement)
    (room : state.frames.length < limit) :
    state.step limit token =
      result.map fun literal => .partway (state.finish (.literal literal) state.frames) := by
  cases result with
  | ok literal =>
      obtain ⟨lexeme, span⟩ := tells
      simp [step, due, begin, lexeme, span, Nat.not_le.mpr room, Except.map]
  | error error =>
      obtain ⟨quote, lexeme, rfl⟩ := tells
      simp [step, due, begin, lexeme, Nat.not_le.mpr room, Except.map]

theorem step_pattern_literal (tells : token.Tells result) (op : Span)
    (due : state.awaiting = .pattern op) :
    state.step limit token =
      result.map fun literal => .partway (state.enter (.regex op literal)) := by
  cases result with
  | ok literal =>
      obtain ⟨lexeme, span⟩ := tells
      simp [step, due, lexeme, span, Except.map]
  | error error =>
      obtain ⟨quote, lexeme, rfl⟩ := tells
      simp [step, due, lexeme, Except.map]

end Partial

namespace Cursor

theorem token_tells (cursor : Cursor) (quote : Char) (text : List Char)
    (ahead : cursor.ahead = quote :: text) (delimits : isQuote quote = true) :
    ∃ token after, cursor.skipBlanks.token = some (token, after) ∧
      token.Tells cursor.readLiteral.1 ∧
      ∀ literal next, cursor.readLiteral = (.ok literal, next) → after = next := by
  by_cases ended : ∃ before after, Unescaped quote text before after
  · obtain ⟨body, left, first⟩ := first_unescaped_exists quote text ended
    obtain ⟨shape, quotable⟩ := (quotable_first quote text body left).mpr first
    have read := read_literal_ends cursor quote text ahead delimits body left first
    refine ⟨⟨.literal (String.ofList body) quote, _⟩, _, (next_token _ _ _).mpr
      ⟨[], quote :: (body ++ [quote]), left, by simp [ahead, shape], blank_none,
        .literal delimits quotable, rfl, rfl⟩, ?_, ?_⟩
    · rw [read]
      exact ⟨rfl, rfl⟩
    · intro literal next given
      rw [read] at given
      cases given
      rfl
  · have read := read_literal_endless cursor quote text ahead delimits ended
    refine ⟨⟨.unclosed quote, _⟩, _, (next_token _ _ _).mpr
      ⟨[], quote :: text, [], by simp [ahead], blank_none,
        .unclosed delimits ((escaped_endless quote text).mpr ended), rfl, rfl⟩, ?_, ?_⟩
    · rw [read]
      exact ⟨quote, rfl, by simp [finish, ahead, utf8Length, Span.range]⟩
    · intro literal next given
      rw [read] at given
      cases given

-- A reading apart from the place: what was read, the length of its span, and the text ahead then.
def placeless (reading : Except ReadError Literal × Cursor) :
    Option (String × Char × Nat) × List Char :=
  (reading.1.toOption.map fun literal => (literal.text, literal.quote, literal.span.length),
    reading.2.ahead)

structure LiteralAt (source : String) (cursor : Cursor) (quote : Char) (text : List Char) :
    Prop where
  found (ended : ∃ before after, Unescaped quote text before after) :
    ∃ body left next, FirstUnescaped quote text body left ∧
      cursor.readLiteral =
        (.ok ⟨String.ofList body, quote, Span.range cursor.offset next.offset⟩, next) ∧
      next.ahead = left ∧ Passes source cursor (String.ofList (quote :: (body ++ [quote]))) next
  missing (endless : ¬ ∃ before after, Unescaped quote text before after) :
    cursor.readLiteral =
      (.error (.unterminatedLiteral (Span.range cursor.offset source.utf8ByteSize)), cursor)
  pieces :
    takePieces quote "" (cursor.pass [quote] text) = (cursor.pass [quote] text).takeQuoted quote
  elsewhere (other : Cursor) (same : other.ahead = cursor.ahead) :
    placeless other.readLiteral = placeless cursor.readLiteral
  reader : ∃ token after, cursor.skipBlanks.token = some (token, after) ∧
    (∀ literal next, cursor.readLiteral = (.ok literal, next) → after = next) ∧
    ∀ (limit : Nat) (state : Partial),
      (state.awaiting = .statement → state.frames.length < limit →
        state.step limit token = cursor.readLiteral.1.map fun literal =>
          .partway (state.finish (.literal literal) state.frames)) ∧
      ∀ op, state.awaiting = .pattern op →
        state.step limit token = cursor.readLiteral.1.map fun literal =>
          .partway (state.enter (.regex op literal))

theorem placeless_same (cursor other : Cursor) (quote : Char) (text : List Char)
    (ahead : cursor.ahead = quote :: text) (delimits : isQuote quote = true)
    (same : other.ahead = cursor.ahead) :
    placeless other.readLiteral = placeless cursor.readLiteral := by
  have ahead' := same.trans ahead
  by_cases ended : ∃ before after, Unescaped quote text before after
  · obtain ⟨body, left, first⟩ := first_unescaped_exists quote text ended
    rw [read_literal_ends cursor quote text ahead delimits body left first,
      read_literal_ends other quote text ahead' delimits body left first]
    simp [placeless, Except.toOption, Span.range, pass]
  · rw [read_literal_endless cursor quote text ahead delimits ended,
      read_literal_endless other quote text ahead' delimits ended]
    simp [placeless, Except.toOption, same]

theorem finish_offset (source : String) (cursor : Cursor) (stands : cursor.Stands source) :
    cursor.finish.offset = source.utf8ByteSize := by
  rw [finish, pass, stands.place, ← utf8Length_append, stands.whole, utf8_length_bytes,
    String.ofList_toList]

-- Wherever a quote stands in a source, the literal that begins there is read as it is written, up to
-- the first quote of its kind without an escape mark; without one nothing is consumed. What stands
-- before it does not count, and the reader takes as a statement or a pattern what was read.
theorem literal_read_exactly (source : String) (cursor : Cursor) (quote : Char) (text : List Char)
    (stands : cursor.Stands source) (ahead : cursor.ahead = quote :: text)
    (delimits : isQuote quote = true) : cursor.LiteralAt source quote text := by
  refine ⟨fun ended => ?_, fun endless => ?_, take_pieces_opened cursor quote text delimits,
    fun other same => ?_, ?_⟩
  · obtain ⟨body, left, first⟩ := first_unescaped_exists quote text ended
    have passes := pass_passes source cursor (String.ofList (quote :: (body ++ [quote]))) left stands
      (by simp [ahead, first.1.1])
    rw [String.toList_ofList] at passes
    exact ⟨body, left, _, first, read_literal_ends cursor quote text ahead delimits body left first,
      rfl, passes⟩
  · rw [read_literal_endless cursor quote text ahead delimits endless,
      finish_offset source cursor stands]
  · exact placeless_same cursor other quote text ahead delimits same
  · obtain ⟨token, after, next, tells, behind⟩ := token_tells cursor quote text ahead delimits
    refine ⟨token, after, next, behind, fun limit state => ⟨fun due room => ?_, fun op due => ?_⟩⟩
    · exact Partial.step_statement_literal limit state token _ tells due room
    · exact Partial.step_pattern_literal limit state token _ tells op due

-- The first literal stands behind an escape mark and has one escaped quote and one behind two marks;
-- in the second the only quote is escaped.
theorem literal_read_exactly_escaped :
    let text : List Char := ['é', '\\', '\'', '\\', '\\', '\'', '"', '\n', '\'', ' ', 'x']
    let closed : Cursor := ⟨['\\'], '\'' :: text, 1⟩
    let unclosed : Cursor := ⟨[], ['"', 'a', '\\', '"'], 0⟩
    closed.LiteralAt "\\'é\\'\\\\'\"\n' x" '\'' text ∧
      (∃ next, next.ahead = [' ', 'x'] ∧
        closed.readLiteral = (.ok ⟨"é\\'\\\\'\"\n", '\'', ⟨1, 11⟩⟩, next)) ∧
      unclosed.LiteralAt "\"a\\\"" '"' ['a', '\\', '"'] ∧
      unclosed.readLiteral = (.error (.unterminatedLiteral ⟨0, 4⟩), unclosed) := by
  intro text closed unclosed
  have first := literal_read_exactly "\\'é\\'\\\\'\"\n' x" closed '\'' text ⟨by decide, by decide⟩
    rfl (by decide)
  have second := literal_read_exactly "\"a\\\"" unclosed '"' ['a', '\\', '"']
    ⟨by decide, by decide⟩ rfl (by decide)
  refine ⟨first, ⟨closed.pass ('\'' :: text.take 9) [' ', 'x'], rfl, ?_⟩, second, second.missing ?_⟩
  · rw [readLiteral, any_quote closed '\'' text rfl (by decide)]
    simp only [first.pieces]
    rfl
  · exact (escaped_endless _ _).mp ((take_quoted_none ⟨[], ['a', '\\', '"'], 0⟩ '"').mp (by decide))

end Cursor

end TextGrammar

import Mathlib.Data.List.Basic
import Mathlib.Data.List.TakeWhile
import TextGrammar.Source.Token

set_option autoImplicit false

namespace TextGrammar

def Blank (text : List Char) : Prop := ∀ c ∈ text, isBlank c = true

theorem blank_none : Blank [] := by simp [Blank]

def Identifier (text next : List Char) : Prop :=
  text ≠ [] ∧ (∀ c ∈ text, isNameChar c = true) ∧ ∀ c ∈ next.head?, isNameChar c = false

-- What does not continue a name.
def Apart (next : List Char) : Prop := ∀ c ∈ next.head?, isNameChar c = false

def Escaped (quote : Char) (text : List Char) : Prop :=
  ∀ before after, text = before ++ quote :: after → before.getLast? = some escapeMark

def Quotable (quote : Char) (text : List Char) : Prop :=
  Escaped quote text ∧ text.getLast? ≠ some escapeMark

def Stray (c : Char) : Prop :=
  isBlank c = false ∧ c ≠ groupOpening ∧ c ≠ groupClosing ∧ isQuote c = false ∧
    isNameChar c = false ∧ ∀ operator : Operator, operator.symbol.toList ≠ [c]

namespace Lexeme

-- The lexeme is written as `text` where `next` follows.
inductive Spells : Lexeme → List Char → List Char → Prop where
  | opening {next : List Char} : Spells .opening [groupOpening] next
  | closing {next : List Char} : Spells .closing [groupClosing] next
  | operator {next : List Char} (operator : Operator) :
      Spells (.operator operator) operator.symbol.toList next
  | name {text next : List Char} (maximal : Identifier text next) :
      Spells (.name (String.ofList text)) text next
  | literal {quote : Char} {body next : List Char} (delimits : isQuote quote = true)
      (first : Quotable quote body) :
      Spells (.literal (String.ofList body) quote) (quote :: (body ++ [quote])) next
  | unclosed {quote : Char} {body : List Char} (delimits : isQuote quote = true)
      (escaped : Escaped quote body) : Spells (.unclosed quote) (quote :: body) []
  | stray {c : Char} {next : List Char} (other : Stray c) : Spells (.stray c) [c] next

end Lexeme

namespace Cursor

theorem utf8Length_append (a b : List Char) :
    utf8Length (a ++ b) = utf8Length a + utf8Length b := by
  induction a with
  | nil => simp [utf8Length]
  | cons c a ih =>
      simp only [utf8Length, List.cons_append, List.foldr_cons] at ih ⊢
      omega

@[simp] theorem ahead_pass (cursor : Cursor) (taken left : List Char) :
    (cursor.pass taken left).ahead = left := rfl

@[simp] theorem pass_pass (cursor : Cursor) (a b x y : List Char) :
    (cursor.pass a x).pass b y = cursor.pass (a ++ b) y := by
  simp [pass, utf8Length_append, Nat.add_assoc]

-- A literal is read with the character before the place at hand: only an escape mark there keeps
-- a quote from ending it. At the opening quote there is none to look back to.
theorem last_before (c : Char) (before : List Char) (last : Option Char) :
    (c :: before).getLast?.or last = before.getLast?.or (some c) := by
  rw [List.getLast?_cons]
  cases before.getLast? <;> rfl

theorem split_quoted_cons (quote c : Char) (last : Option Char) (text : List Char) :
    splitQuoted quote (last == some escapeMark) (c :: text) =
      if c = quote ∧ last ≠ some escapeMark then some ([], text)
      else (splitQuoted quote (some c == some escapeMark) text).map
        fun (taken, left) => (c :: taken, left) := by
  by_cases ends : c = quote ∧ last ≠ some escapeMark
  · rw [if_pos ends, splitQuoted, if_pos (by simpa using ends)]
  · rw [if_neg ends, splitQuoted, if_neg (by simpa using ends)]
    rfl

theorem split_quoted_some (quote : Char) (last : Option Char) (text taken left : List Char) :
    splitQuoted quote (last == some escapeMark) text = some (taken, left) ↔
      text = taken ++ quote :: left ∧
      (∀ before after, taken = before ++ quote :: after →
        before.getLast?.or last = some escapeMark) ∧
      taken.getLast?.or last ≠ some escapeMark := by
  induction text generalizing last taken left with
  | nil => simp [splitQuoted]
  | cons c text ih =>
      rw [split_quoted_cons]
      by_cases ends : c = quote ∧ last ≠ some escapeMark
      · rw [if_pos ends]
        obtain ⟨rfl, unmarked⟩ := ends
        constructor
        · rintro ⟨⟩
          simpa using unmarked
        · rintro ⟨shape, escaped, -⟩
          cases taken with
          | nil => simpa using shape
          | cons d taken =>
              obtain ⟨rfl, -⟩ := List.cons.inj shape
              exact absurd (escaped [] taken rfl) unmarked
      · rw [if_neg ends]
        simp only [Option.map_eq_some_iff, Prod.exists, Prod.mk.injEq, ih]
        constructor
        · rintro ⟨inner, left, ⟨rfl, escaped, unmarked⟩, rfl, rfl⟩
          refine ⟨rfl, ?_, by rwa [last_before]⟩
          intro before after shape
          cases before with
          | nil =>
              obtain ⟨rfl, -⟩ := List.cons.inj shape
              simpa using ends
          | cons d before =>
              obtain ⟨rfl, tail⟩ := List.cons.inj shape
              rw [last_before]
              exact escaped before after tail
        · rintro ⟨shape, escaped, unmarked⟩
          cases taken with
          | nil =>
              obtain ⟨rfl, -⟩ := List.cons.inj shape
              exact absurd ⟨rfl, by simpa using unmarked⟩ ends
          | cons d taken =>
              obtain ⟨rfl, tail⟩ := List.cons.inj shape
              refine ⟨taken, left, ⟨tail, ?_, by rwa [last_before] at unmarked⟩, rfl, rfl⟩
              intro before after inner
              have marked := escaped (c :: before) after (by simp [inner])
              rwa [last_before] at marked

theorem split_quoted_none (quote : Char) (last : Option Char) (text : List Char) :
    splitQuoted quote (last == some escapeMark) text = none ↔
      ∀ before after, text = before ++ quote :: after →
        before.getLast?.or last = some escapeMark := by
  constructor
  · intro missing
    induction text generalizing last with
    | nil => simp
    | cons c text ih =>
        intro before after shape
        rw [split_quoted_cons] at missing
        by_cases ends : c = quote ∧ last ≠ some escapeMark
        · rw [if_pos ends] at missing
          cases missing
        · rw [if_neg ends, Option.map_eq_none_iff] at missing
          cases before with
          | nil =>
              obtain ⟨rfl, -⟩ := List.cons.inj shape
              simpa using ends
          | cons d before =>
              obtain ⟨rfl, tail⟩ := List.cons.inj shape
              rw [last_before]
              exact ih (some c) missing before after tail
  · intro escaped
    cases found : splitQuoted quote (last == some escapeMark) text with
    | none => rfl
    | some split =>
        obtain ⟨shape, -, unmarked⟩ := (split_quoted_some quote last text split.1 split.2).mp found
        exact absurd (escaped _ _ shape) unmarked

theorem take_quoted_some (cursor after : Cursor) (quote : Char) (text : String) :
    cursor.takeQuoted quote = some (text, after) ↔
      ∃ body left, cursor.ahead = body ++ quote :: left ∧ Quotable quote body ∧
        text = String.ofList body ∧ after = cursor.pass (body ++ [quote]) left := by
  have split := split_quoted_some quote none cursor.ahead
  simp only [Option.or_none] at split
  simp only [takeQuoted, Option.map_eq_some_iff, Prod.exists, Prod.mk.injEq, Quotable, Escaped]
  constructor
  · rintro ⟨body, left, found, rfl, rfl⟩
    obtain ⟨shape, quotable⟩ := (split body left).mp found
    exact ⟨body, left, shape, quotable, rfl, rfl⟩
  · rintro ⟨body, left, shape, quotable, rfl, rfl⟩
    exact ⟨body, left, (split body left).mpr ⟨shape, quotable⟩, rfl, rfl⟩

theorem take_quoted_none (cursor : Cursor) (quote : Char) :
    cursor.takeQuoted quote = none ↔ Escaped quote cursor.ahead := by
  have split := split_quoted_none quote none cursor.ahead
  simp only [Option.or_none] at split
  simp only [takeQuoted, Option.map_eq_none_iff, Escaped]
  exact split

theorem prefix_some (expected text left : List Char) :
    expected.isPrefixOf? text = some left ↔ text = expected ++ left := by
  induction expected generalizing text with
  | nil => simp [List.isPrefixOf?, eq_comm]
  | cons c expected ih =>
      cases text with
      | nil => simp [List.isPrefixOf?]
      | cons d text =>
          by_cases same : c = d
          · simp [List.isPrefixOf?, same, ih]
          · simp [List.isPrefixOf?, same, Ne.symm same]

theorem text_some (cursor after : Cursor) (expected : String) :
    cursor.text expected = some after ↔
      ∃ left, cursor.ahead = expected.toList ++ left ∧
        after = cursor.pass expected.toList left := by
  simp only [text, Option.map_eq_some_iff, prefix_some]
  constructor
  · rintro ⟨left, ahead, rfl⟩
    exact ⟨left, ahead, rfl⟩
  · rintro ⟨left, ahead, rfl⟩
    exact ⟨left, ahead, rfl⟩

theorem first_of_some (cursor after : Cursor) (texts : List String) (expected : String)
    (found : cursor.firstOf texts = some (expected, after)) : cursor.text expected = some after := by
  obtain ⟨candidate, -, found⟩ := List.exists_of_findSome?_eq_some found
  obtain ⟨next, found, same⟩ := Option.map_eq_some_iff.mp found
  cases same
  exact found

theorem symbol_single (operator : Operator) : ∃ c, operator.symbol.toList = [c] := by
  cases operator <;> exact ⟨_, rfl⟩

theorem operator_first (cursor after : Cursor) (operator : Operator) :
    cursor.operator = some (operator, after) ↔
      cursor.firstOf Operator.symbols = some (operator.symbol, after) := by
  rw [Cursor.operator]
  constructor
  · intro found
    cases first : cursor.firstOf Operator.symbols with
    | none => simp [first] at found
    | some pair =>
        rw [first] at found
        obtain ⟨chosen, named, same⟩ := Option.map_eq_some_iff.mp found
        cases same
        have symbol : operator.symbol = pair.1 := by simpa using List.find?_some named
        rw [symbol]
  · intro first
    rw [first]
    simp [Operator.ofSymbol?_symbol]

theorem operator_some (cursor after : Cursor) (operator : Operator) :
    cursor.operator = some (operator, after) ↔
      ∃ left, cursor.ahead = operator.symbol.toList ++ left ∧
        after = cursor.pass operator.symbol.toList left := by
  rw [operator_first, ← text_some]
  constructor
  · exact first_of_some cursor after _ _
  · -- No symbol is the beginning of another, so an earlier one in the list does not get in the way.
    intro found
    obtain ⟨left, ahead, rfl⟩ := (text_some _ _ _).mp found
    cases operator <;>
      simp [firstOf, Operator.symbols, Operator.all, Operator.symbol, text, ahead,
        List.isPrefixOf?]

theorem take_while_maximal (test : Char → Bool) (text next : List Char)
    (all : ∀ c ∈ text, test c = true) (stop : ∀ c ∈ next.head?, test c = false) :
    (text ++ next).takeWhile test = text ∧ (text ++ next).dropWhile test = next := by
  rw [List.takeWhile_append_of_pos all, List.dropWhile_append_of_pos all]
  cases next with
  | nil => simp
  | cons c next =>
      have stopped : test c = false := stop c rfl
      simp [stopped]

theorem stop_drop_while (test : Char → Bool) (text : List Char) :
    ∀ c ∈ (text.dropWhile test).head?, test c = false := by
  intro c first
  have rejected := List.head?_dropWhile_not test text
  rw [first] at rejected
  simpa using rejected

theorem quote_distinct (c : Char) (delimits : isQuote c = true) :
    isBlank c = false ∧ c ≠ groupOpening ∧ c ≠ groupClosing ∧ isNameChar c = false := by
  have either : c = '"' ∨ c = '\'' := by simpa [isQuote, quotes] using delimits
  rcases either with rfl | rfl <;> decide

theorem blank_nameless (c : Char) (blank : isBlank c = true) : isNameChar c = false := by
  have member : c ∈ blanks := by simpa [isBlank] using blank
  have none : blanks.all (fun c => !isNameChar c) = true := by decide
  simpa using List.all_eq_true.mp none c member

theorem name_distinct (c : Char) (named : isNameChar c = true) :
    isBlank c = false ∧ c ≠ groupOpening ∧ c ≠ groupClosing ∧ isQuote c = false := by
  refine ⟨?_, ?_, ?_, ?_⟩
  · by_contra blank
    rw [blank_nameless c (by simpa using blank)] at named
    cases named
  · rintro rfl
    exact absurd named (by decide)
  · rintro rfl
    exact absurd named (by decide)
  · by_contra delimits
    rw [(quote_distinct c (by simpa using delimits)).2.2.2] at named
    cases named

theorem spells_visible (lexeme : Lexeme) (text next : List Char)
    (spells : Lexeme.Spells lexeme text next) :
    ∃ c left, text = c :: left ∧ isBlank c = false := by
  cases spells with
  | opening => exact ⟨_, _, rfl, by decide⟩
  | closing => exact ⟨_, _, rfl, by decide⟩
  | operator operator => cases operator <;> exact ⟨_, _, rfl, by decide⟩
  | name maximal =>
      cases text with
      | nil => exact absurd rfl maximal.1
      | cons c left => exact ⟨c, left, rfl, (name_distinct c (maximal.2.1 c (by simp))).1⟩
  | literal delimits => exact ⟨_, _, rfl, (quote_distinct _ delimits).1⟩
  | unclosed delimits => exact ⟨_, _, rfl, (quote_distinct _ delimits).1⟩
  | stray other => exact ⟨_, _, rfl, other.1⟩

theorem lexeme_spells (cursor : Cursor) (c : Char) (left : List Char)
    (ahead : cursor.ahead = c :: left) (visible : isBlank c = false) :
    ∃ lexeme text next, cursor.ahead = text ++ next ∧ Lexeme.Spells lexeme text next ∧
      cursor.lexeme (cursor.pass [c] left) c = (lexeme, cursor.pass text next) := by
  rw [lexeme]
  by_cases opens : c = groupOpening
  · subst opens
    exact ⟨.opening, _, left, ahead, .opening, rfl⟩
  by_cases closes : c = groupClosing
  · subst closes
    exact ⟨.closing, _, left, ahead, .closing, by rw [if_neg opens, if_pos rfl]⟩
  rw [if_neg opens, if_neg closes]
  by_cases delimits : isQuote c = true
  · rw [if_pos delimits]
    cases found : (cursor.pass [c] left).takeQuoted c with
    | none =>
        have escaped : Escaped c left := (take_quoted_none _ _).mp found
        exact ⟨.unclosed c, c :: left, [], by simp [ahead], .unclosed delimits escaped,
          by simp [finish]⟩
    | some pair =>
        obtain ⟨body, next, shape, quotable, text, after⟩ :=
          (take_quoted_some _ pair.2 c pair.1).mp found
        refine ⟨.literal pair.1 c, c :: (body ++ [c]), next, ?_, ?_, ?_⟩
        · rw [ahead_pass] at shape
          simp [ahead, shape]
        · rw [text]
          exact .literal delimits quotable
        · simp [after]
  rw [if_neg delimits]
  by_cases named : isNameChar c = true
  · rw [if_pos named]
    refine ⟨.name (String.ofList (cursor.ahead.takeWhile isNameChar)),
      cursor.ahead.takeWhile isNameChar, cursor.ahead.dropWhile isNameChar,
      List.takeWhile_append_dropWhile.symm, .name ⟨?_, ?_, stop_drop_while _ _⟩, rfl⟩
    · simp [ahead, named]
    · intro d member
      exact List.mem_takeWhile_imp member
  rw [if_neg named]
  cases found : cursor.operator with
  | some pair =>
      obtain ⟨next, shape, after⟩ := (operator_some cursor pair.2 pair.1).mp found
      exact ⟨.operator pair.1, _, next, shape, .operator pair.1, by rw [← after]⟩
  | none =>
      refine ⟨.stray c, [c], left, ahead, .stray ?_, rfl⟩
      refine ⟨visible, opens, closes, by simpa using delimits, by simpa using named, ?_⟩
      intro operator symbol
      have matched := (operator_some cursor _ operator).mpr ⟨left, by rw [symbol]; exact ahead, rfl⟩
      rw [found] at matched
      cases matched

theorem spells_lexeme (cursor : Cursor) (c : Char) (left : List Char)
    (ahead : cursor.ahead = c :: left) (lexeme : Lexeme) (text next : List Char)
    (shape : cursor.ahead = text ++ next) (spells : Lexeme.Spells lexeme text next) :
    cursor.lexeme (cursor.pass [c] left) c = (lexeme, cursor.pass text next) := by
  rw [ahead] at shape
  rw [Cursor.lexeme]
  cases spells with
  | opening =>
      obtain ⟨rfl, rfl⟩ := List.cons.inj shape
      rw [if_pos rfl]
  | closing =>
      obtain ⟨rfl, rfl⟩ := List.cons.inj shape
      rw [if_neg (by decide), if_pos rfl]
  | operator operator =>
      have found := (operator_some cursor _ operator).mpr ⟨next, by rw [ahead, shape], rfl⟩
      rw [found]
      cases operator <;> obtain ⟨rfl, rfl⟩ := List.cons.inj shape <;> rfl
  | name maximal =>
      obtain ⟨nonempty, all, stop⟩ := maximal
      cases text with
      | nil => exact absurd rfl nonempty
      | cons d text =>
          rw [List.cons_append, List.cons.injEq] at shape
          obtain ⟨rfl, rfl⟩ := shape
          have named : isNameChar c = true := all c (by simp)
          obtain ⟨-, opens, closes, delimits⟩ := name_distinct c named
          obtain ⟨taken, dropped⟩ := take_while_maximal isNameChar (c :: text) next all stop
          rw [if_neg opens, if_neg closes, if_neg (by simp [delimits]), if_pos named]
          simp only [takeWhile, ahead]
          rw [← List.cons_append, taken, dropped]
  | @literal quote body next delimits quotable =>
      simp only [List.cons_append, List.append_assoc, List.nil_append, List.cons.injEq] at shape
      obtain ⟨rfl, rfl⟩ := shape
      obtain ⟨-, opens, closes, -⟩ := quote_distinct c delimits
      have found := (take_quoted_some (cursor.pass [c] (body ++ c :: next)) _ c _).mpr
        ⟨body, next, rfl, quotable, rfl, rfl⟩
      rw [if_neg opens, if_neg closes, if_pos delimits, found]
      simp
  | unclosed delimits escaped =>
      simp only [List.append_nil, List.cons.injEq] at shape
      obtain ⟨rfl, rfl⟩ := shape
      obtain ⟨-, opens, closes, -⟩ := quote_distinct c delimits
      have missing := (take_quoted_none (cursor.pass [c] left) c).mpr escaped
      rw [if_neg opens, if_neg closes, if_pos delimits, missing]
      simp [finish]
  | stray other =>
      obtain ⟨rfl, rfl⟩ := List.cons.inj shape
      obtain ⟨-, opens, closes, delimits, named, operators⟩ := other
      rw [if_neg opens, if_neg closes, if_neg (by simp [delimits]), if_neg (by simp [named])]
      cases found : cursor.operator with
      | none => rfl
      | some pair =>
          obtain ⟨next, symbol, -⟩ := (operator_some cursor pair.2 pair.1).mp found
          obtain ⟨d, single⟩ := symbol_single pair.1
          rw [ahead, single, List.singleton_append, List.cons.injEq] at symbol
          exact absurd (symbol.1 ▸ single) (operators pair.1)

theorem token_ahead (cursor : Cursor) (c : Char) (left : List Char)
    (ahead : cursor.ahead = c :: left) :
    cursor.token =
      some (⟨(cursor.lexeme (cursor.pass [c] left) c).1,
        Span.range cursor.offset (cursor.lexeme (cursor.pass [c] left) c).2.offset⟩,
        (cursor.lexeme (cursor.pass [c] left) c).2) := by
  simp [Cursor.token, advance, ahead]

theorem next_token (cursor after : Cursor) (token : Token) :
    cursor.skipBlanks.token = some (token, after) ↔
      ∃ blanks text next, cursor.ahead = blanks ++ (text ++ next) ∧ Blank blanks ∧
        Lexeme.Spells token.lexeme text next ∧
        token.span = Span.range (cursor.offset + utf8Length blanks) after.offset ∧
        after = cursor.pass (blanks ++ text) next := by
  constructor
  · intro found
    have split : cursor.ahead = cursor.ahead.takeWhile isBlank ++ cursor.ahead.dropWhile isBlank :=
      List.takeWhile_append_dropWhile.symm
    have blank : Blank (cursor.ahead.takeWhile isBlank) :=
      fun c member => List.mem_takeWhile_imp member
    cases rest : cursor.ahead.dropWhile isBlank with
    | nil => simp [skipBlanks, takeWhile, Cursor.token, advance, rest] at found
    | cons c left =>
        have visible := stop_drop_while isBlank cursor.ahead c (by rw [rest]; rfl)
        have ahead : cursor.skipBlanks.ahead = c :: left := rest
        obtain ⟨lexeme, text, next, shape, spells, given⟩ :=
          lexeme_spells cursor.skipBlanks c left ahead visible
        rw [token_ahead _ c left ahead, given] at found
        cases found
        refine ⟨_, text, next, ?_, blank, spells, rfl, ?_⟩
        · rw [← shape, ahead, ← rest]
          exact split
        · rw [skipBlanks, takeWhile, pass_pass]
  · rintro ⟨blanks, text, next, shape, blank, spells, place, rfl⟩
    obtain ⟨c, left, rfl, visible⟩ := spells_visible _ _ _ spells
    obtain ⟨taken, dropped⟩ := take_while_maximal isBlank blanks (c :: left ++ next) blank
      (by simpa using visible)
    have skips : cursor.skipBlanks = cursor.pass blanks (c :: left ++ next) := by
      rw [skipBlanks, takeWhile, shape, taken, dropped]
    rw [skips, token_ahead _ c (left ++ next) rfl,
      spells_lexeme _ c (left ++ next) rfl token.lexeme _ next rfl spells, pass_pass]
    have offset : (cursor.pass blanks (c :: left ++ next)).offset =
        cursor.offset + utf8Length blanks := rfl
    rw [offset, ← place]

def Reads : List Token → Cursor → Cursor → Prop
  | [], cursor, last => cursor = last
  | token :: rest, cursor, last =>
      ∃ after, cursor.skipBlanks.token = some (token, after) ∧ Reads rest after last

theorem reads_append (front rest : List Token) (cursor last : Cursor) :
    Reads (front ++ rest) cursor last ↔
      ∃ middle, Reads front cursor middle ∧ Reads rest middle last := by
  induction front generalizing cursor with
  | nil => simp [Reads]
  | cons token front ih =>
      simp only [List.cons_append, Reads, ih]
      constructor
      · rintro ⟨after, found, middle, front, rest⟩
        exact ⟨middle, ⟨after, found, front⟩, rest⟩
      · rintro ⟨middle, ⟨after, found, front⟩, rest⟩
        exact ⟨after, found, middle, front, rest⟩

theorem reads_unique (tokens : List Token) (cursor a b : Cursor) (left : Reads tokens cursor a)
    (right : Reads tokens cursor b) : a = b := by
  induction tokens generalizing cursor with
  | nil => exact left.symm.trans right
  | cons token tokens ih =>
      obtain ⟨after, found, left⟩ := left
      obtain ⟨after', found', right⟩ := right
      rw [found] at found'
      cases found'
      exact ih after left right

-- Every token takes a character at least, so a text has no more tokens than characters.
theorem reads_length (tokens : List Token) (cursor last : Cursor)
    (reads : Reads tokens cursor last) :
    tokens.length + last.ahead.length ≤ cursor.ahead.length := by
  induction tokens generalizing cursor with
  | nil => simp [show cursor = last from reads]
  | cons token tokens ih =>
      obtain ⟨after, found, reads⟩ := reads
      obtain ⟨blanks, text, next, shape, -, spells, -, rfl⟩ := (next_token _ _ _).mp found
      obtain ⟨c, left, rfl, -⟩ := spells_visible _ _ _ spells
      have rest := ih _ reads
      simp only [shape, List.length_append, List.length_cons, ahead_pass] at rest ⊢
      omega

theorem tokens_append (count : Nat) (cursor last : Cursor) (front : List Token)
    (reads : Reads front cursor last) :
    tokens (front.length + count) cursor = front ++ tokens count last := by
  induction front generalizing cursor with
  | nil => simp [show cursor = last from reads]
  | cons token front ih =>
      obtain ⟨after, found, reads⟩ := reads
      rw [List.length_cons, Nat.add_right_comm, tokens, found]
      simp [ih after reads]

theorem tokens_begin (count : Nat) (cursor : Cursor) (front rest : List Token)
    (given : tokens count cursor = front ++ rest) : ∃ last, Reads front cursor last := by
  induction front generalizing count cursor with
  | nil => exact ⟨cursor, rfl⟩
  | cons token front ih =>
      cases count with
      | zero => cases given
      | succ count =>
          rw [tokens] at given
          cases found : cursor.skipBlanks.token with
          | none => simp [found] at given
          | some pair =>
              simp only [found, List.cons_append, List.cons.injEq] at given
              obtain ⟨rfl, given⟩ := given
              obtain ⟨last, reads⟩ := ih count pair.2 given
              exact ⟨last, pair.2, found, reads⟩

end Cursor

theorem tokens_of_begin (source : String) (front : List Token) :
    (∃ rest, tokensOf source = front ++ rest) ↔
      ∃ last, Cursor.Reads front (Cursor.ofString source) last := by
  constructor
  · rintro ⟨rest, given⟩
    exact Cursor.tokens_begin _ _ front rest given
  · rintro ⟨last, reads⟩
    have bound := Cursor.reads_length _ _ _ reads
    have enough : front.length + (source.length - front.length) = source.length := by
      simp only [Cursor.ofString, String.length_toList] at bound
      omega
    have split := Cursor.tokens_append (source.length - front.length) _ _ _ reads
    rw [enough] at split
    exact ⟨_, split⟩

end TextGrammar

import Mathlib.Data.List.MinMax
import TextGrammar.Proofs.Flattening
import TextGrammar.Proofs.Lexing

set_option autoImplicit false

namespace TextGrammar

def Span.nowhere : Span := ⟨0, 0⟩

namespace Node

mutual

def bare : Node → Node
  | literal l => literal ⟨l.text, l.quote, Span.nowhere⟩
  | name n => name ⟨n.text, Span.nowhere⟩
  | group _ statements _ => group Span.nowhere (bareAll statements) Span.nowhere
  | define _ n body => define Span.nowhere ⟨n.text, Span.nowhere⟩ body.bare
  | choose _ _ alternatives _ =>
      choose Span.nowhere Span.nowhere (bareAll alternatives) Span.nowhere
  | optional _ body => optional Span.nowhere body.bare
  | regex _ pattern matched unmatched =>
      regex Span.nowhere ⟨pattern.text, pattern.quote, Span.nowhere⟩ matched.bare unmatched.bare

def bareAll : List Node → List Node
  | [] => []
  | node :: rest => node.bare :: bareAll rest

end

end Node

def Grammar.bare (grammar : Grammar) : Grammar :=
  ⟨Span.nowhere, Node.bareAll grammar.statements, Span.nowhere⟩

-- What a rule of the grammar is about: one statement, or all that stands behind the opening
-- bracket of a group, its closing bracket included.
inductive Phrase where
  | statement (node : Node)
  | statements (nodes : List Node)

-- The documented grammar over the characters of a text, where `ws` is any run of blanks:
--   group     = '(' (ws statement)* ws ')'
--   statement = group | literal | name | '=' ws name ws statement | '|' ws group | '?' ws statement
--             | '&' ws literal ws statement ws statement
-- What follows matters to a name only, which has to be as long as possible.
inductive Derives : Phrase → List Char → List Char → Prop where
  | literal {quote : Char} {body next : List Char} (delimits : isQuote quote = true)
      (first : Quotable quote body) :
      Derives (.statement (.literal ⟨String.ofList body, quote, Span.nowhere⟩))
        (quote :: (body ++ [quote])) next
  | name {text next : List Char} (maximal : Identifier text next) :
      Derives (.statement (.name ⟨String.ofList text, Span.nowhere⟩)) text next
  | group {nodes : List Node} {text next : List Char}
      (statements : Derives (.statements nodes) text next) :
      Derives (.statement (.group Span.nowhere nodes Span.nowhere)) ('(' :: text) next
  | define {node : Node} {before name between text next : List Char} (blank : Blank before)
      (maximal : Identifier name (between ++ (text ++ next))) (apart : Blank between)
      (body : Derives (.statement node) text next) :
      Derives (.statement (.define Span.nowhere ⟨String.ofList name, Span.nowhere⟩ node))
        ('=' :: (before ++ (name ++ (between ++ text)))) next
  | choose {nodes : List Node} {before text next : List Char} (blank : Blank before)
      (alternatives : Derives (.statements nodes) text next) :
      Derives (.statement (.choose Span.nowhere Span.nowhere nodes Span.nowhere))
        ('|' :: (before ++ '(' :: text)) next
  | optional {node : Node} {before text next : List Char} (blank : Blank before)
      (body : Derives (.statement node) text next) :
      Derives (.statement (.optional Span.nowhere node)) ('?' :: (before ++ text)) next
  | regex {quote : Char} {matched unmatched : Node}
      {before body between one apart two next : List Char}
      (blank : Blank before) (delimits : isQuote quote = true) (first : Quotable quote body)
      (blankBetween : Blank between)
      (whenMatched : Derives (.statement matched) one (apart ++ (two ++ next)))
      (blankApart : Blank apart) (whenUnmatched : Derives (.statement unmatched) two next) :
      Derives
        (.statement
          (.regex Span.nowhere ⟨String.ofList body, quote, Span.nowhere⟩ matched unmatched))
        ('&' :: (before ++ (quote :: (body ++ [quote]) ++ (between ++ (one ++ (apart ++ two)))))) next
  | done {before next : List Char} (blank : Blank before) :
      Derives (.statements []) (before ++ [')']) next
  | more {node : Node} {nodes : List Node} {before text rest next : List Char}
      (blank : Blank before) (statement : Derives (.statement node) text (rest ++ next))
      (statements : Derives (.statements nodes) rest next) :
      Derives (.statements (node :: nodes)) (before ++ (text ++ rest)) next

def Grammar.Derived (grammar : Grammar) (text : String) : Prop :=
  Derives (.statement (.group grammar.opening grammar.statements grammar.closing)) text.toList []

namespace Derives

theorem nonempty (phrase : Phrase) (text next : List Char) (derives : Derives phrase text next) :
    text ≠ [] := by
  induction derives with
  | name maximal => exact maximal.1
  | more blank statement statements one rest => simp [rest]
  | done blank => simp
  | literal => simp
  | group => simp
  | define => simp
  | choose => simp
  | optional => simp
  | regex => simp

theorem head_append (a b c : List Char) (nonempty : a ≠ []) : (a ++ b).head? = (a ++ c).head? := by
  cases a with
  | nil => exact absurd rfl nonempty
  | cons d a => rfl

theorem identifier_elsewhere (text next next' : List Char) (maximal : Identifier text next)
    (same : next'.head? = next.head?) : Identifier text next' :=
  ⟨maximal.1, maximal.2.1, same ▸ maximal.2.2⟩

theorem elsewhere (phrase : Phrase) (text next next' : List Char)
    (derives : Derives phrase text next)
    (same : next'.head? = next.head? ∨ ∃ nodes, phrase = .statements nodes) :
    Derives phrase text next' := by
  induction derives generalizing next' with
  | literal delimits first => exact .literal delimits first
  | name maximal =>
      rcases same with same | ⟨_, ⟨⟩⟩
      exact .name (identifier_elsewhere _ _ _ maximal same)
  | group _ statements => exact .group (statements next' (.inr ⟨_, rfl⟩))
  | @define node before name between text next blank maximal apart derived body =>
      rcases same with same | ⟨_, ⟨⟩⟩
      have inside : between ++ text ≠ [] := by simp [derived.nonempty]
      refine .define blank ?_ apart (body next' (.inl same))
      apply identifier_elsewhere _ _ _ maximal
      rw [← List.append_assoc, ← List.append_assoc]
      exact head_append _ _ _ inside
  | choose blank _ alternatives => exact .choose blank (alternatives next' (.inr ⟨_, rfl⟩))
  | optional blank _ body =>
      rcases same with same | ⟨_, ⟨⟩⟩
      exact .optional blank (body next' (.inl same))
  | @regex quote matched unmatched before body between one apart two next blank delimits first
      blankBetween _ blankApart derived whenMatched whenUnmatched =>
      rcases same with same | ⟨_, ⟨⟩⟩
      have inside : apart ++ two ≠ [] := by simp [derived.nonempty]
      refine .regex blank delimits first blankBetween (whenMatched _ (.inl ?_)) blankApart
        (whenUnmatched next' (.inl same))
      rw [← List.append_assoc, ← List.append_assoc]
      exact head_append _ _ _ inside
  | done blank => exact .done blank
  | more blank _ derived statement statements =>
      exact .more blank (statement _ (.inl (head_append _ _ _ derived.nonempty)))
        (statements next' (.inr ⟨_, rfl⟩))

end Derives

-- Each token of a tree stands in the text behind some blanks, and where a lexeme is spelled behind
-- blanks there is a token to be read.
theorem Cursor.reads_cons (token : Token) (rest : List Token) (cursor last : Cursor)
    (reads : Reads (token :: rest) cursor last) :
    ∃ blanks text after, cursor.ahead = blanks ++ (text ++ after.ahead) ∧ Blank blanks ∧
      Lexeme.Spells token.lexeme text after.ahead ∧ Reads rest after last := by
  obtain ⟨after, found, reads⟩ := reads
  obtain ⟨blanks, text, next, shape, blank, spells, -, rfl⟩ := (next_token _ _ _).mp found
  exact ⟨blanks, text, _, shape, blank, spells, reads⟩

theorem Cursor.spelled_reads (cursor : Cursor) (lexeme : Lexeme) (blanks text next : List Char)
    (shape : cursor.ahead = blanks ++ (text ++ next)) (blank : Blank blanks)
    (spells : Lexeme.Spells lexeme text next) :
    ∃ span after, cursor.skipBlanks.token = some (⟨lexeme, span⟩, after) ∧ after.ahead = next :=
  ⟨_, _, (next_token _ _ ⟨lexeme, _⟩).mpr ⟨blanks, text, next, shape, blank, spells, rfl, rfl⟩, rfl⟩

namespace Node

mutual

theorem reads_derives (node : Node) (cursor last : Cursor)
    (reads : Cursor.Reads node.tokens cursor last) :
    ∃ blanks text, cursor.ahead = blanks ++ (text ++ last.ahead) ∧ Blank blanks ∧
      Derives (.statement node.bare) text last.ahead := by
  cases node with
  | literal l =>
      rcases l with ⟨source, quote, span⟩
      obtain ⟨blanks, text, after, shape, blank, spells, rfl⟩ := Cursor.reads_cons _ _ _ _ reads
      cases spells with
      | literal delimits first => exact ⟨blanks, _, shape, blank, .literal delimits first⟩
  | name n =>
      rcases n with ⟨source, span⟩
      obtain ⟨blanks, text, after, shape, blank, spells, rfl⟩ := Cursor.reads_cons _ _ _ _ reads
      cases spells with
      | name maximal => exact ⟨blanks, text, shape, blank, .name maximal⟩
  | group opening statements closing =>
      obtain ⟨blanks, text, after, shape, blank, spells, reads⟩ := Cursor.reads_cons _ _ _ _ reads
      obtain ⟨inside, ahead, derived⟩ := reads_all_derive statements closing after last reads
      cases spells
      exact ⟨blanks, '(' :: inside, by rw [shape, ahead]; rfl, blank, .group derived⟩
  | define op n body =>
      rcases n with ⟨source, span⟩
      obtain ⟨blanks, text, after, shape, blank, spells, reads⟩ := Cursor.reads_cons _ _ _ _ reads
      obtain ⟨before, written, behind, ahead, between, named, reads⟩ :=
        Cursor.reads_cons _ _ _ _ reads
      obtain ⟨apart, inside, left, separate, derived⟩ := reads_derives body behind last reads
      rw [left] at ahead named
      cases spells
      cases named with
      | name maximal =>
          exact ⟨blanks, '=' :: (before ++ (written ++ (apart ++ inside))),
            by rw [shape, ahead]; simp [Operator.symbol], blank,
            .define between maximal separate derived⟩
  | choose op opening alternatives closing =>
      obtain ⟨blanks, text, after, shape, blank, spells, reads⟩ := Cursor.reads_cons _ _ _ _ reads
      obtain ⟨before, written, behind, ahead, between, opens, reads⟩ :=
        Cursor.reads_cons _ _ _ _ reads
      obtain ⟨inside, left, derived⟩ := reads_all_derive alternatives closing behind last reads
      cases spells
      cases opens
      exact ⟨blanks, '|' :: (before ++ '(' :: inside),
        by rw [shape, ahead, left]; simp [Operator.symbol, groupOpening], blank,
        .choose between derived⟩
  | optional op body =>
      obtain ⟨blanks, text, after, shape, blank, spells, reads⟩ := Cursor.reads_cons _ _ _ _ reads
      obtain ⟨before, inside, ahead, between, derived⟩ := reads_derives body after last reads
      cases spells
      exact ⟨blanks, '?' :: (before ++ inside), by rw [shape, ahead]; simp [Operator.symbol], blank,
        .optional between derived⟩
  | regex op pattern matched unmatched =>
      rcases pattern with ⟨source, quote, span⟩
      obtain ⟨blanks, text, after, shape, blank, spells, reads⟩ := Cursor.reads_cons _ _ _ _ reads
      obtain ⟨before, written, behind, ahead, between, quoted, reads⟩ :=
        Cursor.reads_cons _ _ _ _ reads
      obtain ⟨middle, first, second⟩ := (Cursor.reads_append _ _ _ _).mp reads
      obtain ⟨apart, one, left, separate, whenMatched⟩ := reads_derives matched behind middle first
      obtain ⟨apart', two, right, separate', whenUnmatched⟩ :=
        reads_derives unmatched middle last second
      rw [right] at whenMatched left
      cases spells
      cases quoted with
      | @literal quote body next delimits closes =>
          exact ⟨blanks, '&' :: (before ++ (quote :: (body ++ [quote]) ++
              (apart ++ (one ++ (apart' ++ two))))),
            by rw [shape, ahead, left]; simp [Operator.symbol], blank,
            .regex between delimits closes separate whenMatched separate' whenUnmatched⟩

theorem reads_all_derive (nodes : List Node) (closing : Span) (cursor last : Cursor)
    (reads : Cursor.Reads (tokensAll nodes ++ [⟨.closing, closing⟩]) cursor last) :
    ∃ text, cursor.ahead = text ++ last.ahead ∧
      Derives (.statements (bareAll nodes)) text last.ahead := by
  cases nodes with
  | nil =>
      obtain ⟨blanks, text, after, shape, blank, spells, rfl⟩ := Cursor.reads_cons _ _ _ _ reads
      cases spells
      exact ⟨blanks ++ [')'], by rw [shape]; simp [groupClosing], .done blank⟩
  | cons node nodes =>
      rw [tokensAll, List.append_assoc] at reads
      obtain ⟨middle, first, rest⟩ := (Cursor.reads_append _ _ _ _).mp reads
      obtain ⟨blanks, text, shape, blank, statement⟩ := reads_derives node cursor middle first
      obtain ⟨others, ahead, statements⟩ := reads_all_derive nodes closing middle last rest
      rw [ahead] at shape statement
      exact ⟨blanks ++ (text ++ others), by rw [shape]; simp, .more blank statement statements⟩

end

end Node

-- Wherever the text stands, a cursor before it reads tokens that make up the phrase.
def Phrase.Readable (text next : List Char) : Phrase → Prop
  | .statement node =>
      ∀ (cursor : Cursor) (blanks : List Char), Blank blanks →
        cursor.ahead = blanks ++ (text ++ next) →
        ∃ placed last, Node.bare placed = node ∧ Cursor.Reads placed.tokens cursor last ∧
          last.ahead = next
  | .statements nodes =>
      ∀ cursor : Cursor, cursor.ahead = text ++ next →
        ∃ placed closing last, Node.bareAll placed = nodes ∧
          Cursor.Reads (Node.tokensAll placed ++ [⟨.closing, closing⟩]) cursor last ∧
          last.ahead = next

theorem Derives.readable (phrase : Phrase) (text next : List Char)
    (derives : Derives phrase text next) : phrase.Readable text next := by
  induction derives with
  | literal delimits first =>
      intro cursor blanks blank shape
      obtain ⟨span, last, found, ahead⟩ :=
        cursor.spelled_reads _ blanks _ _ shape blank (.literal delimits first)
      exact ⟨.literal ⟨_, _, span⟩, last, rfl, ⟨last, found, rfl⟩, ahead⟩
  | name maximal =>
      intro cursor blanks blank shape
      obtain ⟨span, last, found, ahead⟩ :=
        cursor.spelled_reads _ blanks _ _ shape blank (.name maximal)
      exact ⟨.name ⟨_, span⟩, last, rfl, ⟨last, found, rfl⟩, ahead⟩
  | group _ statements =>
      intro cursor blanks blank shape
      obtain ⟨opening, after, found, ahead⟩ :=
        cursor.spelled_reads _ blanks [groupOpening] _ shape blank .opening
      obtain ⟨placed, closing, last, rfl, reads, left⟩ := statements after ahead
      exact ⟨.group opening placed closing, last, rfl, ⟨after, found, reads⟩, left⟩
  | @define node before name between text next blank' maximal apart _ body =>
      intro cursor blanks blank shape
      obtain ⟨op, after, found, ahead⟩ :=
        cursor.spelled_reads (.operator .define) blanks ['=']
          (before ++ (name ++ (between ++ (text ++ next)))) (by rw [shape]; simp) blank
          (.operator .define)
      obtain ⟨span, behind, named, rest⟩ :=
        after.spelled_reads _ before _ _ ahead blank' (.name maximal)
      obtain ⟨placed, last, rfl, reads, left⟩ := body behind between apart rest
      exact ⟨.define op ⟨_, span⟩ placed, last, rfl, ⟨after, found, behind, named, reads⟩, left⟩
  | @choose nodes before text next blank' _ alternatives =>
      intro cursor blanks blank shape
      obtain ⟨op, after, found, ahead⟩ :=
        cursor.spelled_reads (.operator .choose) blanks ['|'] (before ++ ('(' :: (text ++ next)))
          (by rw [shape]; simp) blank (.operator .choose)
      obtain ⟨opening, behind, opened, rest⟩ :=
        after.spelled_reads _ before [groupOpening] _ ahead blank' .opening
      obtain ⟨placed, closing, last, rfl, reads, left⟩ := alternatives behind rest
      exact ⟨.choose op opening placed closing, last, rfl,
        ⟨after, found, behind, opened, reads⟩, left⟩
  | @optional node before text next blank' _ body =>
      intro cursor blanks blank shape
      obtain ⟨op, after, found, ahead⟩ :=
        cursor.spelled_reads (.operator .optional) blanks ['?'] (before ++ (text ++ next))
          (by rw [shape]; simp) blank (.operator .optional)
      obtain ⟨placed, last, rfl, reads, left⟩ := body after before blank' ahead
      exact ⟨.optional op placed, last, rfl, ⟨after, found, reads⟩, left⟩
  | @regex quote matched unmatched before body between one apart two next blank' delimits first
      blankBetween _ blankApart _ whenMatched whenUnmatched =>
      intro cursor blanks blank shape
      obtain ⟨op, after, found, ahead⟩ :=
        cursor.spelled_reads (.operator .regex) blanks ['&']
          (before ++ (quote :: (body ++ [quote]) ++ (between ++ (one ++ (apart ++ (two ++ next))))))
          (by rw [shape]; simp) blank (.operator .regex)
      obtain ⟨span, behind, quoted, rest⟩ :=
        after.spelled_reads _ before _ _ ahead blank' (.literal delimits first)
      obtain ⟨placed, middle, rfl, reads, left⟩ := whenMatched behind between blankBetween rest
      obtain ⟨placed', last, rfl, reads', left'⟩ := whenUnmatched middle apart blankApart left
      exact ⟨.regex op ⟨_, _, span⟩ placed placed', last, rfl,
        ⟨after, found, behind, quoted, (Cursor.reads_append _ _ _ _).mpr ⟨middle, reads, reads'⟩⟩,
        left'⟩
  | @done before next blank =>
      intro cursor shape
      obtain ⟨closing, last, found, ahead⟩ :=
        cursor.spelled_reads .closing before [groupClosing] next
          (by rw [shape]; simp [groupClosing]) blank .closing
      exact ⟨[], closing, last, rfl, ⟨last, found, rfl⟩, ahead⟩
  | more blank _ _ statement statements =>
      intro cursor shape
      obtain ⟨node, middle, rfl, first, ahead⟩ :=
        statement cursor _ blank (by rw [shape]; simp)
      obtain ⟨others, closing, last, rfl, rest, left⟩ := statements middle ahead
      refine ⟨node :: others, closing, last, rfl, ?_, left⟩
      rw [Node.tokensAll, List.append_assoc]
      exact (Cursor.reads_append _ _ _ _).mpr ⟨middle, first, rest⟩

namespace Node

mutual

theorem bare_within (limit depth : Nat) (node : Node) :
    node.bare.Within limit depth ↔ node.Within limit depth := by
  cases node with
  | literal l => simp [bare, Within, preorder]
  | name n => simp [bare, Within, preorder]
  | group opening statements closing =>
      rw [bare, within_group, within_group, bare_all_within]
  | define op n body => rw [bare, within_define, within_define, bare_within]
  | choose op opening alternatives closing =>
      rw [bare, within_choose, within_choose, bare_all_within]
  | optional op body => rw [bare, within_optional, within_optional, bare_within]
  | regex op pattern matched unmatched =>
      rw [bare, within_regex, within_regex, bare_within, bare_within]

theorem bare_all_within (limit depth : Nat) (nodes : List Node) :
    (∀ node ∈ bareAll nodes, node.Within limit depth) ↔
      ∀ node ∈ nodes, node.Within limit depth := by
  cases nodes with
  | nil => simp [bareAll]
  | cons node nodes =>
      rw [bareAll, List.forall_mem_cons, List.forall_mem_cons, bare_within, bare_all_within]

end

end Node

namespace Grammar

theorem bare_within (limit : Nat) (grammar : Grammar) :
    grammar.bare.Within limit ↔ grammar.Within limit := by
  simp only [Grammar.Within, preorder, Node.within_all, bare, Node.bare_all_within]

theorem within_some (grammar : Grammar) : ∃ limit, grammar.Within limit :=
  ⟨(grammar.preorder.map Prod.fst).foldr max 0, fun _ member =>
    List.le_max_of_le' 0 (List.mem_map_of_mem member) le_rfl⟩

theorem within_mono (limit limit' : Nat) (grammar : Grammar) (within : grammar.Within limit)
    (more : limit ≤ limit') : grammar.Within limit' :=
  fun entry member => (within entry member).trans more

def StandsIn (source : String) (grammar : Grammar) (text : String) : Prop :=
  ∃ before after : String, source = before ++ text ++ after ∧ Blank before.toList ∧
    grammar.Derived text

theorem found_stands (limit : Nat) (source : String) (found : Grammar)
    (read : Grammar.readWithin limit source = .ok found) :
    ∃ text, found.bare.StandsIn source text := by
  obtain ⟨begins, -⟩ := (read_within_ok limit source found).mp read
  obtain ⟨last, reads⟩ := (tokens_of_begin source found.tokens).mp begins
  obtain ⟨blanks, text, shape, blank, derived⟩ :=
    Node.reads_derives (.group found.opening found.statements found.closing) _ last reads
  have whole : source.toList = blanks ++ (text ++ last.ahead) := shape
  refine ⟨String.ofList text, String.ofList blanks, String.ofList last.ahead, ?_, ?_, ?_⟩
  · rw [← String.ofList_toList (s := source), whole, String.append_assoc]
    simp
  · rwa [String.toList_ofList]
  · rw [Derived, String.toList_ofList]
    cases derived with
    | group statements => exact .group (statements.elsewhere _ _ _ _ (.inr ⟨_, rfl⟩))

theorem stands_read (source text : String) (grammar : Grammar)
    (stands : grammar.StandsIn source text) :
    ∃ found last, Grammar.bare found = grammar ∧
      Cursor.Reads found.tokens (Cursor.ofString source) last ∧
      text.toList ++ last.ahead = source.toList.dropWhile isBlank := by
  obtain ⟨before, after, rfl, blank, derived⟩ := stands
  rcases grammar with ⟨opening, statements, closing⟩
  rw [Derived] at derived
  generalize shown : text.toList = chars at derived ⊢
  cases derived with
  | @group _ inside _ derived =>
      have here : Derives (.statement (.group Span.nowhere statements Span.nowhere)) ('(' :: inside)
          after.toList := .group (derived.elsewhere _ _ _ _ (.inr ⟨_, rfl⟩))
      have whole : (before ++ text ++ after).toList =
          before.toList ++ ('(' :: inside ++ after.toList) := by simp [shown]
      obtain ⟨placed, last, bare, reads, left⟩ :=
        here.readable _ _ _ (Cursor.ofString (before ++ text ++ after)) _ blank whole
      cases placed with
      | group opening nodes closing =>
          simp only [Node.bare, Node.group.injEq] at bare
          refine ⟨⟨opening, nodes, closing⟩, last, ?_, reads, ?_⟩
          · rw [Grammar.bare, bare.2.1]
            rfl
          · rw [whole, left]
            exact (Cursor.take_while_maximal isBlank _ _ blank (by simp; decide)).2.symm
      | _ => simp [Node.bare] at bare

theorem stands_within (limit : Nat) (source text : String) (grammar : Grammar)
    (stands : grammar.StandsIn source text) (within : grammar.Within limit) :
    ∃ found, Grammar.readWithin limit source = .ok found ∧ found.bare = grammar := by
  obtain ⟨found, last, rfl, reads, -⟩ := stands_read source text grammar stands
  have begins := (tokens_of_begin source found.tokens).mpr ⟨last, reads⟩
  exact ⟨found, (read_within_ok limit source found).mpr
    ⟨begins, (bare_within limit found).mp within⟩, rfl⟩

theorem stands_unique (source text text' : String) (grammar grammar' : Grammar)
    (stands : grammar.StandsIn source text) (stands' : grammar'.StandsIn source text') :
    grammar = grammar' ∧ text = text' := by
  obtain ⟨found, last, rfl, reads, left⟩ := stands_read source text grammar stands
  obtain ⟨found', last', rfl, reads', left'⟩ := stands_read source text' grammar' stands'
  obtain ⟨a, within⟩ := found.within_some
  obtain ⟨b, within'⟩ := found'.within_some
  have read := (read_within_ok (max a b) source found).mpr
    ⟨(tokens_of_begin _ _).mpr ⟨last, reads⟩, within_mono _ _ _ within (Nat.le_max_left a b)⟩
  have read' := (read_within_ok (max a b) source found').mpr
    ⟨(tokens_of_begin _ _).mpr ⟨last', reads'⟩, within_mono _ _ _ within' (Nat.le_max_right a b)⟩
  have same : found = found' := Except.ok.inj (read.symm.trans read')
  subst same
  have stop := Cursor.reads_unique _ _ _ _ reads reads'
  rw [← left', stop] at left
  exact ⟨rfl, String.toList_inj.mp (List.append_cancel_right left)⟩

-- The reader accepts exactly the sources in which a grammar stands whose statements are at most
-- `limit` deep, and gives that grammar. Never do two grammars stand in a source, nor one in two
-- texts.
theorem reads_exactly_derived (limit : Nat) (source : String) :
    (∀ grammar : Grammar,
      (∃ found, Grammar.readWithin limit source = .ok found ∧ found.bare = grammar) ↔
        ∃ text, grammar.StandsIn source text ∧ ∀ entry ∈ grammar.preorder, entry.1 ≤ limit) ∧
    ∀ (grammar grammar' : Grammar) (text text' : String), grammar.StandsIn source text →
      grammar'.StandsIn source text' → grammar = grammar' ∧ text = text' := by
  refine ⟨fun grammar => ⟨?_, ?_⟩, fun grammar grammar' text text' =>
    stands_unique source text text' grammar grammar'⟩
  · rintro ⟨found, read, rfl⟩
    obtain ⟨text, stands⟩ := found_stands limit source found read
    have within := ((read_within_ok limit source found).mp read).2
    exact ⟨text, stands, (bare_within limit found).mpr within⟩
  · rintro ⟨text, stands, within⟩
    exact stands_within limit source text grammar stands within

-- Binds `x` to a text and then produces that text or nothing.
def unspaced : Grammar :=
  ⟨⟨1, 1⟩,
    [.define ⟨2, 1⟩ ⟨"x", ⟨3, 1⟩⟩ (.literal ⟨"a", '"', ⟨4, 3⟩⟩),
      .optional ⟨7, 1⟩ (.name ⟨"x", ⟨8, 1⟩⟩)],
    ⟨9, 1⟩⟩

theorem reads_exactly_derived_unspaced :
    ∃ text, unspaced.bare.StandsIn " (=x\"a\"?x)x" text ∧
      ∀ (grammar : Grammar) (text' : String), grammar.StandsIn " (=x\"a\"?x)x" text' →
        grammar = unspaced.bare ∧ text' = text := by
  obtain ⟨accepts, unique⟩ := reads_exactly_derived 2 " (=x\"a\"?x)x"
  have read : Grammar.readWithin 2 " (=x\"a\"?x)x" = .ok unspaced := by rfl
  obtain ⟨text, stands, -⟩ := (accepts unspaced.bare).mp ⟨unspaced, read, rfl⟩
  exact ⟨text, stands, fun grammar text' other => unique grammar _ text' _ other stands⟩

end Grammar

end TextGrammar

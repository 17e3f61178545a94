import TextGrammar.Proofs.Acceptance
import TextGrammar.Proofs.Failing
import TextGrammar.Proofs.Tiling

set_option autoImplicit false

namespace TextGrammar

inductive Complete : List Char → List Char → Prop where
  | done {blanks next : List Char} (blank : Blank blanks) : Complete blanks next
  | more {node : Node} {blanks text rest next : List Char} (blank : Blank blanks)
      (statement : Derives (.statement node) text (rest ++ next)) (statements : Complete rest next) :
      Complete (blanks ++ (text ++ rest)) next

inductive Due where
  | statement
  | group
  | pattern
deriving DecidableEq

-- The text up to a place, where `next` follows: every construct that begins in it is complete or
-- still open at its end.
inductive Around : Due → List Char → List Char → Prop where
  | root {blanks next : List Char} (blank : Blank blanks) : Around .group blanks next
  | group {due : Due} {text inside next : List Char} (bracketed : due ≠ .pattern)
      (around : Around due text ('(' :: (inside ++ next))) (complete : Complete inside next) :
      Around .statement (text ++ '(' :: inside) next
  | define {text before name between next : List Char} (blank : Blank before)
      (around : Around .statement text ('=' :: (before ++ (name ++ (between ++ next)))))
      (maximal : Identifier name (between ++ next)) (apart : Blank between) :
      Around .statement (text ++ '=' :: (before ++ (name ++ between))) next
  | choose {text before next : List Char} (around : Around .statement text ('|' :: (before ++ next)))
      (blank : Blank before) : Around .group (text ++ '|' :: before) next
  | optional {text before next : List Char} (around : Around .statement text ('?' :: (before ++ next)))
      (blank : Blank before) : Around .statement (text ++ '?' :: before) next
  | regex {text before next : List Char} (around : Around .statement text ('&' :: (before ++ next)))
      (blank : Blank before) : Around .pattern (text ++ '&' :: before) next
  | matched {quote : Char} {text body between next : List Char}
      (around : Around .pattern text (quote :: (body ++ [quote]) ++ (between ++ next)))
      (delimits : isQuote quote = true) (first : Quotable quote body) (apart : Blank between) :
      Around .statement (text ++ (quote :: (body ++ [quote]) ++ between)) next
  | unmatched {quote : Char} {node : Node} {text body between one apart next : List Char}
      (around : Around .pattern text (quote :: (body ++ [quote]) ++ (between ++ (one ++ (apart ++ next)))))
      (delimits : isQuote quote = true) (first : Quotable quote body) (blank : Blank between)
      (whenMatched : Derives (.statement node) one (apart ++ next)) (blankApart : Blank apart) :
      Around .statement (text ++ (quote :: (body ++ [quote]) ++ (between ++ (one ++ apart)))) next

theorem placed_derives (node : Node) (offset : Nat) (text next : List Char)
    (placed : Placed offset node.tokens text next) :
    ∃ blanks word, text = blanks ++ word ∧ Blank blanks ∧ Derives (.statement node.bare) word next := by
  let cursor : Cursor := ⟨[], text ++ next, offset⟩
  have reads : Cursor.Reads node.tokens cursor (cursor.pass text next) :=
    (reads_placed _ _ _).mpr ⟨text, rfl, rfl, placed⟩
  obtain ⟨blanks, word, shape, blank, derives⟩ := node.reads_derives _ _ reads
  refine ⟨blanks, word, ?_, blank, derives⟩
  rw [← List.append_assoc] at shape
  exact List.append_cancel_right shape

theorem placed_complete (nodes : List Node) (offset : Nat) (text blanks next : List Char)
    (blank : Blank blanks) (placed : Placed offset (Node.tokensAll nodes) text (blanks ++ next)) :
    Complete (text ++ blanks) next := by
  induction nodes generalizing offset text with
  | nil =>
      obtain rfl : text = [] := placed
      exact .done blank
  | cons node nodes ih =>
      obtain ⟨front, behind, rfl, first, others⟩ := (placed_append _ _ _ _ _).mp placed
      obtain ⟨before, word, rfl, between, derives⟩ := placed_derives node _ _ _ first
      have rest := ih _ _ others
      rw [List.append_assoc, List.append_assoc]
      exact .more between (by simpa using derives) rest

def Leads (front : List Token) (due : Due) : Prop :=
  ∀ text blanks next, Blank blanks → Placed 0 front text (blanks ++ next) →
    Around due (text ++ blanks) next

namespace Leads

variable {front : List Token} {due : Due}

theorem root : Leads [] .group := by
  rintro text blanks next blank rfl
  exact .root blank

theorem behind (leads : Leads front due) (token : Token) (rest : List Token) (text next : List Char)
    (placed : Placed 0 (front ++ token :: rest) text next) :
    ∃ start word left, text = start ++ (word ++ left) ∧ Around due start (word ++ (left ++ next)) ∧
      Lexeme.Spells token.lexeme word (left ++ next) ∧
      token.span = Span.range (utf8Length start) (utf8Length (start ++ word)) ∧
      Placed (utf8Length (start ++ word)) rest left next := by
  obtain ⟨before, _, rfl, first, blanks, word, left, rfl, blank, spells, span, others⟩ :=
    (placed_append _ _ _ _ _).mp placed
  refine ⟨before ++ blanks, word, left, by simp, leads _ _ _ blank (by simpa using first), spells, ?_, ?_⟩
  · simpa [Cursor.utf8Length_append, Nat.add_assoc] using span
  · simpa [Cursor.utf8Length_append, Nat.add_assoc] using others

theorem opens (leads : Leads front due) (opening : Span) (nodes : List Node)
    (text blanks next : List Char) (blank : Blank blanks)
    (placed : Placed 0 (front ++ ⟨.opening, opening⟩ :: Node.tokensAll nodes) text (blanks ++ next)) :
    ∃ before inside, text ++ blanks = before ++ '(' :: inside ∧ opening.start = utf8Length before ∧
      Around due before ('(' :: (inside ++ next)) ∧ Complete inside next := by
  obtain ⟨start, word, left, rfl, around, spells, span, others⟩ := leads.behind _ _ _ _ placed
  cases spells
  refine ⟨start, left ++ blanks, by simp [groupOpening], congrArg Span.start span, ?_,
    placed_complete nodes _ _ _ _ blank others⟩
  simpa [groupOpening] using around

theorem group (leads : Leads front due) (bracketed : due ≠ .pattern) (opening : Span)
    (nodes : List Node) : Leads (front ++ ⟨.opening, opening⟩ :: Node.tokensAll nodes) .statement := by
  intro text blanks next blank placed
  obtain ⟨before, inside, shape, -, around, complete⟩ := leads.opens _ _ _ _ _ blank placed
  rw [shape]
  exact .group bracketed around complete

theorem define (leads : Leads front .statement) (op : Span) (name : Name) :
    Leads (front ++ [⟨.operator .define, op⟩, ⟨.name name.text, name.span⟩]) .statement := by
  rcases name with ⟨name, span⟩
  intro text blanks next blank placed
  obtain ⟨start, word, left, rfl, around, spells, -, before, written, rest, rfl, between, named, -, rfl⟩ :=
    leads.behind _ _ _ _ placed
  cases spells
  cases named with
  | name maximal =>
      have inner : Around .statement (start ++ '=' :: (before ++ (written ++ blanks))) next :=
        .define between (by simpa [Operator.symbol] using around) (by simpa using maximal) blank
      simpa [Operator.symbol] using inner

theorem operator (leads : Leads front .statement) (operator : Operator) (op : Span) (c : Char)
    (spelled : operator.symbol.toList = [c])
    (opened : ∀ text before next, Around .statement text (c :: (before ++ next)) → Blank before →
      Around due (text ++ c :: before) next) :
    Leads (front ++ [⟨.operator operator, op⟩]) due := by
  intro text blanks next blank placed
  obtain ⟨start, word, left, rfl, around, spells, -, rfl⟩ := leads.behind _ _ _ _ placed
  cases spells
  rw [spelled] at around ⊢
  simpa using opened start blanks next (by simpa using around) blank

theorem choose (leads : Leads front .statement) (op : Span) :
    Leads (front ++ [⟨.operator .choose, op⟩]) .group :=
  leads.operator .choose op '|' rfl fun _ _ _ => .choose

theorem optional (leads : Leads front .statement) (op : Span) :
    Leads (front ++ [⟨.operator .optional, op⟩]) .statement :=
  leads.operator .optional op '?' rfl fun _ _ _ => .optional

theorem regex (leads : Leads front .statement) (op : Span) :
    Leads (front ++ [⟨.operator .regex, op⟩]) .pattern :=
  leads.operator .regex op '&' rfl fun _ _ _ => .regex

theorem matched (leads : Leads front .pattern) (pattern : Literal) :
    Leads (front ++ [⟨.literal pattern.text pattern.quote, pattern.span⟩]) .statement := by
  rcases pattern with ⟨source, quote, span⟩
  intro text blanks next blank placed
  obtain ⟨start, word, left, rfl, around, spells, -, rfl⟩ := leads.behind _ _ _ _ placed
  cases spells with
  | literal delimits first =>
      simpa using Around.matched (by simpa using around) delimits first blank

theorem unmatched (leads : Leads front .pattern) (pattern : Literal) (node : Node) :
    Leads (front ++ ⟨.literal pattern.text pattern.quote, pattern.span⟩ :: node.tokens) .statement := by
  rcases pattern with ⟨source, quote, span⟩
  intro text blanks next blank placed
  obtain ⟨start, word, left, rfl, around, spells, -, others⟩ := leads.behind _ _ _ _ placed
  obtain ⟨between, one, rfl, apart, derives⟩ := placed_derives node _ _ _ others
  cases spells with
  | literal delimits first =>
      simpa using Around.unmatched (by simpa using around) delimits first apart derives blank

end Leads

namespace Partial

theorem held_leads (opening : Span) (done : List Node) (frames : List Frame) :
    Leads (held opening done frames) .statement := by
  induction frames with
  | nil => simpa [held] using Leads.root.group (by simp) opening done.reverse
  | cons frame frames ih =>
      rw [held_cons]
      cases frame with
      | group o inner => exact ih.group (by simp) o inner.reverse
      | choose op o inner => simpa [Frame.tokens] using (ih.choose op).group (by simp) o inner.reverse
      | define op name => exact ih.define op name
      | optional op => exact ih.optional op
      | regex op pattern => simpa [Frame.tokens] using (ih.regex op).matched pattern
      | regexElse op pattern matched => simpa [Frame.tokens] using (ih.regex op).unmatched pattern matched

-- Behind the innermost open group only complete statements have been read.
theorem open_leads (state : Partial) (opening : Span) (opens : state.openGroup = some opening) :
    ∃ front due nodes, held state.opening state.done state.frames =
        front ++ ⟨.opening, opening⟩ :: Node.tokensAll nodes ∧ Leads front due ∧ due ≠ .pattern := by
  rcases state with ⟨root, done, frames, awaiting⟩
  cases frames with
  | nil =>
      cases opens
      exact ⟨[], .group, done.reverse, by simp [held], .root, by simp⟩
  | cons frame frames =>
      have leads := held_leads root done frames
      cases frame with
      | group o inner =>
          cases opens
          exact ⟨_, .statement, inner.reverse, held_cons .., leads, by simp⟩
      | choose op o inner =>
          cases opens
          exact ⟨_, .group, inner.reverse, by simp [held_cons, Frame.tokens], leads.choose op, by simp⟩
      | define op name => cases opens
      | optional op => cases opens
      | regex op pattern => cases opens
      | regexElse op pattern matched => cases opens

theorem reaches_tokens (limit : Nat) (state last : Partial) (front : List Token)
    (reaches : Reaches limit state front last) : last.tokens = state.tokens ++ front := by
  induction reaches with
  | here state => simp
  | further stepped more ih =>
      have held := steps_tokens limit _ _ _ (step_steps limit _ _ _ stepped)
      rw [ih, show Partial.tokens _ = _ from held]
      simp

theorem state_leads (state : Partial) :
    (state.awaiting = .statement → Leads state.tokens .statement) ∧
      ∀ op, state.awaiting = .pattern op → Leads state.tokens .pattern := by
  have leads := held_leads state.opening state.done state.frames
  constructor
  · intro awaits
    rw [tokens_awaiting state _ awaits]
    simpa [Awaiting.tokens] using leads
  · intro op awaits
    rw [tokens_awaiting state _ awaits]
    exact leads.regex op

theorem at_end_unfinished (limit stop : Nat) (state : Partial)
    (unfinished : (state.atEnd limit stop).unfinished = true) :
    state.awaiting = .statement ∧ ∃ opening, state.openGroup = some opening ∧
      state.atEnd limit stop = .unterminatedGroup (Span.range opening.start stop) := by
  rw [atEnd] at unfinished ⊢
  cases awaits : state.awaiting with
  | statement =>
      cases opens : state.openGroup with
      | some opening => exact ⟨rfl, opening, rfl, rfl⟩
      | none =>
          simp only [awaits, opens] at unfinished
          split at unfinished <;> cases unfinished
  | name op => simp [awaits, ReadError.unfinished] at unfinished
  | alternatives op => simp [awaits, ReadError.unfinished] at unfinished
  | pattern op => simp [awaits, ReadError.unfinished] at unfinished

theorem step_unfinished (limit : Nat) (state : Partial) (token : Token) (error : ReadError)
    (failed : state.step limit token = .error error) (unfinished : error.unfinished = true) :
    (state.awaiting = .statement ∨ ∃ op, state.awaiting = .pattern op) ∧
      ∃ quote, token.lexeme = .unclosed quote ∧ error = .unterminatedLiteral token.span := by
  rcases state.step_fails limit token error failed with ⟨finished, -⟩ | ⟨quote, unclosed, -, -⟩
  · rw [finished] at unfinished
    cases unfinished
  rw [step, unclosed] at failed
  cases awaits : state.awaiting with
  | statement =>
      simp only [awaits, reduceCtorEq, false_and, if_false] at failed
      split at failed
      · cases failed
        cases unfinished
      · simp only [begin, unclosed] at failed
        cases failed
        exact ⟨.inl rfl, quote, unclosed, rfl⟩
  | pattern op =>
      simp only [awaits] at failed
      cases failed
      exact ⟨.inr ⟨op, rfl⟩, quote, unclosed, rfl⟩
  | name op | alternatives op =>
      simp only [awaits] at failed
      cases failed
      cases unfinished

end Partial

theorem tokens_beside (source : String) (front rest : List Token) (token : Token)
    (given : tokensOf source = front ++ token :: rest) :
    (∀ other ∈ front, other.span.stop ≤ token.span.start) ∧
      ∀ other ∈ rest, token.span.start < other.span.start := by
  obtain ⟨text, blanks, -, -, placed⟩ := placed_all source _ given
  have laid := placed_laid 0 _ _ _ placed
  have visible := laid.visible token (by simp)
  have ordered := List.pairwise_map.mp (spread_ordered _ _ _ laid.spread)
  obtain ⟨-, behind, across⟩ := List.pairwise_append.mp ordered
  refine ⟨fun other member => across other member token List.mem_cons_self, fun other member => ?_⟩
  exact Nat.lt_of_lt_of_le (Nat.lt_add_of_pos_right visible) ((List.pairwise_cons.mp behind).1 other member)

theorem placed_empty (offset : Nat) (tokens : List Token) (next : List Char)
    (placed : Placed offset tokens [] next) : tokens = [] := by
  cases tokens with
  | nil => rfl
  | cons token rest =>
      obtain ⟨blanks, word, left, shape, -, spells, -⟩ := placed
      obtain ⟨c, others, rfl, -⟩ := Cursor.spells_visible _ _ _ spells
      simp at shape

structure OpenGroup (source : String) (place : Span) (due : Due) (before inside : List Char) : Prop where
  bracket : source.toList = before ++ '(' :: inside
  reach : place = Span.range (utf8Length before) (utf8Length source.toList)
  around : Around due before ('(' :: inside)
  bracketed : due ≠ .pattern
  complete : Complete inside []
  unquoted : ∀ token ∈ tokensOf source, token.lexeme.kind = .quoted →
    token.span.stop ≤ place.start ∨ place.start < token.span.start

structure OpenLiteral (source : String) (place : Span) (due : Due) (quote : Char)
    (before body : List Char) : Prop where
  opens : source.toList = before ++ quote :: body
  delimits : isQuote quote = true
  reach : place = Span.range (utf8Length before) (utf8Length source.toList)
  around : Around due before (quote :: body)
  quotable : due ≠ .group
  escaped : Escaped quote body
  unquoted : ∀ token ∈ tokensOf source, token.lexeme.kind = .quoted →
    token = ⟨.unclosed quote, place⟩ ∨ token.span.stop ≤ place.start

section

variable (limit : Nat) (source : String) (opening : Span) (front : List Token) (last : Partial)
  (reaches : Partial.Reaches limit ⟨opening, [], [], .statement⟩ front last)

include reaches

theorem at_end_pinned (place : Span) (given : tokensOf source = ⟨.opening, opening⟩ :: front)
    (ended : last.atEnd limit (utf8Length source.toList) = .unterminatedGroup place) :
    ∃ due before inside, OpenGroup source place due before inside := by
  obtain ⟨awaits, bracket, opens, same⟩ := last.at_end_unfinished limit (utf8Length source.toList)
    (by rw [ended]; rfl)
  rw [same] at ended
  cases ended
  have tokens : tokensOf source = last.tokens :=
    given.trans (Partial.reaches_tokens _ _ _ _ reaches).symm
  obtain ⟨outer, due, nodes, shape, leads, bracketed⟩ := last.open_leads bracket opens
  rw [Partial.tokens_awaiting last _ awaits, Awaiting.tokens, List.append_nil, shape] at tokens
  obtain ⟨text, blanks, whole, blank, placed⟩ := placed_all source _ tokens
  obtain ⟨before, inside, split, starts, around, complete⟩ :=
    leads.opens bracket nodes text blanks [] blank (by simpa using placed)
  rw [List.append_nil] at around
  refine ⟨due, before, inside, ⟨whole.trans split, by rw [starts], around, bracketed, complete, ?_⟩⟩
  intro token member quoted
  obtain ⟨ends, begins⟩ := tokens_beside source _ _ _ tokens
  rw [tokens] at member
  rcases List.mem_append.mp member with earlier | later
  · exact .inl (ends token earlier)
  · rcases List.mem_cons.mp later with rfl | later
    · cases quoted
    · exact .inr (begins token later)

theorem step_pinned (token : Token) (rest : List Token) (place : Span)
    (given : tokensOf source = ⟨.opening, opening⟩ :: (front ++ token :: rest))
    (failed : last.step limit token = .error (.unterminatedLiteral place)) :
    ∃ due quote before body, OpenLiteral source place due quote before body := by
  obtain ⟨awaits, quote, unclosed, same⟩ := last.step_unfinished limit token _ failed rfl
  cases same
  have tokens : tokensOf source = last.tokens ++ token :: rest := by
    rw [given, Partial.reaches_tokens _ _ _ _ reaches]
    rfl
  obtain ⟨statement, pattern⟩ := last.state_leads
  obtain ⟨due, other, leads⟩ : ∃ due, due ≠ Due.group ∧ Leads last.tokens due := by
    rcases awaits with awaits | ⟨op, awaits⟩
    · exact ⟨.statement, by simp, statement awaits⟩
    · exact ⟨.pattern, by simp, pattern op awaits⟩
  obtain ⟨text, blanks, whole, -, placed⟩ := placed_all source _ tokens
  obtain ⟨start, word, left, rfl, around, spells, span, behind⟩ := leads.behind _ _ _ _ placed
  rw [unclosed] at spells
  -- The literal runs to the end of the text, so no token and no blank follows.
  generalize ended : left ++ blanks = next at spells around
  cases spells with
  | @unclosed _ body delimits escaped =>
      obtain ⟨rfl, rfl⟩ := List.append_eq_nil_iff.mp ended
      have whole : source.toList = start ++ quote :: body := by simpa using whole
      refine ⟨due, quote, start, body, ⟨whole, delimits, ?_, by simpa using around, other, escaped, ?_⟩⟩
      · rw [span, whole]
      · intro token' member _
        obtain ⟨ends, -⟩ := tokens_beside source _ _ _ tokens
        rw [tokens, placed_empty _ _ _ behind] at member
        rcases List.mem_append.mp member with earlier | here
        · exact .inr (ends token' earlier)
        · rw [List.mem_singleton.mp here, ← unclosed]
          exact .inl rfl

end

theorem read_unfinished (limit : Nat) (source : String) (error : ReadError)
    (unfinished : error.unfinished = true) (failed : Grammar.readWithin limit source = .error error) :
    ∃ opening front last, Partial.Reaches limit ⟨opening, [], [], .statement⟩ front last ∧
      ((tokensOf source = ⟨.opening, opening⟩ :: front ∧
          last.atEnd limit (utf8Length source.toList) = error) ∨
        ∃ token rest, tokensOf source = ⟨.opening, opening⟩ :: (front ++ token :: rest) ∧
          last.step limit token = .error error) := by
  rw [Grammar.readWithin] at failed
  cases given : tokensOf source with
  | nil =>
      rw [given] at failed
      cases failed
      cases unfinished
  | cons token rest =>
      rcases token with ⟨lexeme, opening⟩
      simp only [given] at failed
      cases lexeme with
      | opening =>
          obtain ⟨front, last, reaches, ends⟩ := Partial.run_fails _ _ _ _ _ failed
          refine ⟨opening, front, last, reaches, ?_⟩
          rcases ends with ⟨rfl, same⟩ | ⟨token, others, rfl, refused⟩
          · exact .inl ⟨rfl, same.symm⟩
          · exact .inr ⟨token, others, rfl, refused⟩
      | closing | operator op | name text | literal text quote | unclosed quote | stray c =>
          cases failed
          cases unfinished

-- An unfinished group or literal is shown from where it begins to the end of the text, and it is the
-- innermost one: all others are complete or still open around it.
theorem unfinished_pinned (limit : Nat) (source : String) (place : Span) :
    (Grammar.readWithin limit source = .error (.unterminatedGroup place) →
      ∃ due before inside, OpenGroup source place due before inside) ∧
    (Grammar.readWithin limit source = .error (.unterminatedLiteral place) →
      ∃ due quote before body, OpenLiteral source place due quote before body) := by
  constructor
  · intro failed
    obtain ⟨opening, front, last, reaches, ⟨given, ended⟩ | ⟨token, rest, given, refused⟩⟩ :=
      read_unfinished limit source _ rfl failed
    · exact at_end_pinned limit source opening front last reaches place given ended
    · obtain ⟨-, quote, -, other⟩ := last.step_unfinished limit token _ refused rfl
      cases other
  · intro failed
    obtain ⟨opening, front, last, reaches, ⟨given, ended⟩ | ⟨token, rest, given, refused⟩⟩ :=
      read_unfinished limit source _ rfl failed
    · obtain ⟨-, bracket, -, other⟩ := last.at_end_unfinished limit (utf8Length source.toList)
        (by rw [ended]; rfl)
      rw [ended] at other
      cases other
    · exact step_pinned limit source opening front last reaches token rest place given refused

theorem unfinished_pinned_nested :
    Grammar.readWithin 4 "(x (?('(' y) (z)" = .error (.unterminatedGroup ⟨3, 13⟩) ∧
      (∃ due before inside, OpenGroup "(x (?('(' y) (z)" ⟨3, 13⟩ due before inside) ∧
      Grammar.readWithin 4 "(| ( \"a)\\\"(" = .error (.unterminatedLiteral ⟨5, 6⟩) ∧
      ∃ due quote before body, OpenLiteral "(| ( \"a)\\\"(" ⟨5, 6⟩ due quote before body := by
  have group : Grammar.readWithin 4 "(x (?('(' y) (z)" = .error (.unterminatedGroup ⟨3, 13⟩) := by rfl
  have quoted : Grammar.readWithin 4 "(| ( \"a)\\\"(" = .error (.unterminatedLiteral ⟨5, 6⟩) := by rfl
  exact ⟨group, (unfinished_pinned 4 _ _).1 group, quoted, (unfinished_pinned 4 _ _).2 quoted⟩

end TextGrammar

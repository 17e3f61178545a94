import TextGrammar.Proofs.Acceptance
import TextGrammar.Tree.Printer

set_option autoImplicit false

namespace TextGrammar

def Literal.WellFormed (literal : Literal) : Prop :=
  isQuote literal.quote = true ∧ Quotable literal.quote literal.text.toList

def Name.WellFormed (name : Name) : Prop :=
  name.text.toList ≠ [] ∧ ∀ c ∈ name.text.toList, isNameChar c = true

namespace Node

mutual

def WellFormed : Node → Prop
  | literal l => l.WellFormed
  | name n => n.WellFormed
  | group _ statements _ => AllWellFormed statements
  | define _ n body => n.WellFormed ∧ body.WellFormed
  | choose _ _ alternatives _ => AllWellFormed alternatives
  | optional _ body => body.WellFormed
  | regex _ pattern matched unmatched =>
      pattern.WellFormed ∧ matched.WellFormed ∧ unmatched.WellFormed

def AllWellFormed : List Node → Prop
  | [] => True
  | node :: rest => node.WellFormed ∧ AllWellFormed rest

end

end Node

def Grammar.WellFormed (limit : Nat) (grammar : Grammar) : Prop :=
  Node.AllWellFormed grammar.statements ∧ grammar.Within limit

namespace Node

theorem blank_one : Blank [' '] := by
  intro c member
  rw [List.mem_singleton.mp member]
  decide

theorem print_literal (l : Literal) :
    l.print.toList = l.quote :: (l.text.toList ++ [l.quote]) := by
  simp [Literal.print]

theorem name_maximal (n : Name) (next : List Char) (wellFormed : n.WellFormed)
    (apart : Apart next) : Identifier n.text.toList next :=
  ⟨wellFormed.1, wellFormed.2, apart⟩

-- Behind a statement of a canonical text stands a blank or a bracket.
theorem print_tail_apart (nodes : List Node) (next : List Char) :
    Apart ((printTail nodes).toList ++ ')' :: next) := by
  intro c first
  cases nodes with
  | nil =>
      have closes : ')' = c := by simpa [printTail] using first
      rw [← closes]
      decide
  | cons node rest =>
      have blank : ' ' = c := by simpa [printTail] using first
      rw [← blank]
      decide

mutual

theorem print_derives (node : Node) (next : List Char) (wellFormed : node.WellFormed)
    (apart : Apart next) : Derives (.statement node.bare) node.print.toList next := by
  cases node with
  | literal l =>
      rw [print, print_literal]
      have derived : Derives (.statement (.literal ⟨String.ofList l.text.toList, l.quote,
          Span.nowhere⟩)) (l.quote :: (l.text.toList ++ [l.quote])) next :=
        .literal wellFormed.1 wellFormed.2
      rwa [String.ofList_toList] at derived
  | name n =>
      have derived := Derives.name (name_maximal n next wellFormed apart)
      rwa [String.ofList_toList] at derived
  | group opening statements closing =>
      have derived := Derives.group (print_all_derives statements next wellFormed)
      simpa [print, bare] using derived
  | define op n body =>
      have inside := print_derives body next wellFormed.2 apart
      have maximal : Identifier n.text.toList ([' '] ++ (body.print.toList ++ next)) :=
        name_maximal n _ wellFormed.1 (by intro c first; cases first; decide)
      have derived := Derives.define blank_one maximal blank_one inside
      rw [String.ofList_toList] at derived
      simpa [print, bare, Operator.symbol] using derived
  | choose op opening alternatives closing =>
      have derived := Derives.choose blank_none
        (print_all_derives alternatives next wellFormed)
      simpa [print, bare, Operator.symbol] using derived
  | optional op body =>
      have derived := Derives.optional blank_none
        (print_derives body next wellFormed apart)
      simpa [print, bare, Operator.symbol] using derived
  | regex op pattern matched unmatched =>
      obtain ⟨quoted, first, second⟩ := wellFormed
      have whenMatched := print_derives matched ([' '] ++ (unmatched.print.toList ++ next)) first
        (by intro c first; cases first; decide)
      have whenUnmatched := print_derives unmatched next second apart
      have derived := Derives.regex blank_one
        quoted.1 quoted.2 blank_one whenMatched blank_one whenUnmatched
      rw [String.ofList_toList] at derived
      simpa [print, bare, print_literal, Operator.symbol] using derived

theorem print_all_derives (nodes : List Node) (next : List Char)
    (wellFormed : AllWellFormed nodes) :
    Derives (.statements (bareAll nodes)) ((printAll nodes).toList ++ [')']) next := by
  cases nodes with
  | nil => exact Derives.done blank_none
  | cons node rest =>
      have apart : Apart ((printTail rest).toList ++ [')'] ++ next) := by
        simpa using print_tail_apart rest next
      have derived := Derives.more blank_none
        (print_derives node _ wellFormed.1 apart) (print_tail_derives rest next wellFormed.2)
      simpa [printAll, bareAll] using derived

theorem print_tail_derives (nodes : List Node) (next : List Char)
    (wellFormed : AllWellFormed nodes) :
    Derives (.statements (bareAll nodes)) ((printTail nodes).toList ++ [')']) next := by
  cases nodes with
  | nil => exact Derives.done blank_none
  | cons node rest =>
      have apart : Apart ((printTail rest).toList ++ [')'] ++ next) := by
        simpa using print_tail_apart rest next
      have derived := Derives.more blank_one
        (print_derives node _ wellFormed.1 apart) (print_tail_derives rest next wellFormed.2)
      simpa [printTail, bareAll] using derived

end

def PhraseWellFormed : Phrase → Prop
  | .statement node => node.WellFormed
  | .statements nodes => AllWellFormed nodes

theorem derives_well_formed (phrase : Phrase) (text next : List Char)
    (derives : Derives phrase text next) : PhraseWellFormed phrase := by
  have named (name next : List Char) (maximal : Identifier name next) (span : Span) :
      Name.WellFormed ⟨String.ofList name, span⟩ := by
    simpa only [Name.WellFormed, String.toList_ofList] using And.intro maximal.1 maximal.2.1
  have quoted (quote : Char) (body : List Char) (delimits : isQuote quote = true)
      (first : Quotable quote body) (span : Span) :
      Literal.WellFormed ⟨String.ofList body, quote, span⟩ := by
    simpa only [Literal.WellFormed, String.toList_ofList] using And.intro delimits first
  induction derives with
  | literal delimits first => exact quoted _ _ delimits first _
  | name maximal => exact named _ _ maximal _
  | group _ statements => exact statements
  | define _ maximal _ _ body => exact ⟨named _ _ maximal _, body⟩
  | choose _ _ alternatives => exact alternatives
  | optional _ _ body => exact body
  | regex _ delimits first _ _ _ _ whenMatched whenUnmatched =>
      exact ⟨quoted _ _ delimits first _, whenMatched, whenUnmatched⟩
  | done => trivial
  | more _ _ _ statement statements => exact ⟨statement, statements⟩

mutual

theorem bare_well_formed (node : Node) : node.bare.WellFormed ↔ node.WellFormed := by
  cases node with
  | literal l => rfl
  | name n => rfl
  | group opening statements closing => exact bare_all_well_formed statements
  | define op n body => exact and_congr Iff.rfl (bare_well_formed body)
  | choose op opening alternatives closing => exact bare_all_well_formed alternatives
  | optional op body => exact bare_well_formed body
  | regex op pattern matched unmatched =>
      exact and_congr Iff.rfl (and_congr (bare_well_formed matched) (bare_well_formed unmatched))

theorem bare_all_well_formed (nodes : List Node) :
    AllWellFormed (bareAll nodes) ↔ AllWellFormed nodes := by
  cases nodes with
  | nil => rfl
  | cons node rest => exact and_congr (bare_well_formed node) (bare_all_well_formed rest)

end

mutual

theorem print_bare (node : Node) : node.bare.print = node.print := by
  cases node with
  | literal l => rfl
  | name n => rfl
  | group opening statements closing => rw [bare, print, print, print_all_bare]
  | define op n body => rw [bare, print, print, print_bare]
  | choose op opening alternatives closing => rw [bare, print, print, print_all_bare]
  | optional op body => rw [bare, print, print, print_bare]
  | regex op pattern matched unmatched =>
      rw [bare, print, print, print_bare, print_bare]
      rfl

theorem print_all_bare (nodes : List Node) : printAll (bareAll nodes) = printAll nodes := by
  cases nodes with
  | nil => rfl
  | cons node rest => rw [bareAll, printAll, printAll, print_bare, print_tail_bare]

theorem print_tail_bare (nodes : List Node) : printTail (bareAll nodes) = printTail nodes := by
  cases nodes with
  | nil => rfl
  | cons node rest => rw [bareAll, printTail, printTail, print_bare, print_tail_bare]

end

end Node

namespace Grammar

theorem print_bare (grammar : Grammar) : grammar.bare.print = grammar.print := by
  rw [Grammar.print, Grammar.print, bare, Node.print_all_bare]

theorem print_stands (grammar : Grammar) (wellFormed : Node.AllWellFormed grammar.statements) :
    grammar.bare.StandsIn grammar.print grammar.print := by
  refine ⟨"", "", by simp, blank_none, ?_⟩
  have derived := Derives.group (Node.print_all_derives grammar.statements [] wellFormed)
  simpa [Derived, bare, Grammar.print] using derived

theorem print_reads (limit : Nat) (grammar : Grammar) (wellFormed : grammar.WellFormed limit) :
    ∃ again, Grammar.readWithin limit grammar.print = .ok again ∧ again.bare = grammar.bare :=
  stands_within limit grammar.print grammar.print grammar.bare
    (print_stands grammar wellFormed.1) ((bare_within limit grammar).mpr wellFormed.2)

theorem read_well_formed (limit : Nat) (source : String) (grammar : Grammar)
    (read : Grammar.readWithin limit source = .ok grammar) : grammar.WellFormed limit := by
  obtain ⟨text, -, -, -, -, derived⟩ := found_stands limit source grammar read
  have bareFormed : Node.AllWellFormed (Node.bareAll grammar.statements) :=
    Node.derives_well_formed _ _ _ derived
  exact ⟨(Node.bare_all_well_formed _).mp bareFormed,
    ((read_within_ok limit source grammar).mp read).2⟩

-- The canonical text of a well-formed tree is read as that tree, places aside, and no other trees
-- are ever read. Hence a canonical text of something that was read is its own canonical text.
theorem print_inverts_read (limit : Nat) :
    (∀ grammar : Grammar, grammar.WellFormed limit →
      ∃ again, Grammar.readWithin limit grammar.print = .ok again ∧ again.bare = grammar.bare) ∧
    ∀ (source : String) (grammar : Grammar), Grammar.readWithin limit source = .ok grammar →
      grammar.WellFormed limit ∧
        ∃ again, Grammar.readWithin limit grammar.print = .ok again ∧
          again.bare = grammar.bare ∧ again.print = grammar.print := by
  refine ⟨print_reads limit, fun source grammar read => ?_⟩
  have wellFormed := read_well_formed limit source grammar read
  obtain ⟨again, readAgain, same⟩ := print_reads limit grammar wellFormed
  refine ⟨wellFormed, again, readAgain, same, ?_⟩
  calc again.print
    _ = again.bare.print := again.print_bare.symm
    _ = grammar.bare.print := by rw [same]
    _ = grammar.print := grammar.print_bare

-- Operators without blanks, an escaped quote, and the deepest statement at the limit.
def stacked : Grammar :=
  ⟨⟨1, 1⟩,
    [.optional ⟨2, 1⟩ (.optional ⟨3, 1⟩
      (.define ⟨4, 1⟩ ⟨"x", ⟨5, 1⟩⟩ (.literal ⟨"\\'", '\'', ⟨6, 4⟩⟩)))],
    ⟨10, 1⟩⟩

theorem print_inverts_read_stacked :
    Grammar.readWithin 4 " (??=x'\\'')" = .ok stacked ∧ stacked.WellFormed 4 ∧
      stacked.print = "(??= x '\\'')" ∧
      ∃ again, Grammar.readWithin 4 stacked.print = .ok again ∧ again.bare = stacked.bare := by
  have read : Grammar.readWithin 4 " (??=x'\\'')" = .ok stacked := by rfl
  obtain ⟨inverts, reads⟩ := print_inverts_read 4
  have wellFormed : stacked.WellFormed 4 := (reads _ stacked read).1
  exact ⟨read, wellFormed, by decide, inverts stacked wellFormed⟩

end Grammar

end TextGrammar

import TextGrammar.Proofs.Failing
import TextGrammar.Proofs.Tiling

set_option autoImplicit false

namespace TextGrammar

def Cut (limit : Nat) (result whole : Except ReadError Grammar) : Prop :=
  result = whole ∨ ∃ offset, result = .error (.nestingTooDeep limit offset) ∧
    ∀ other offset', whole = .error (.nestingTooDeep other offset') → offset ≤ offset'

namespace Partial

theorem step_less (limit limit' : Nat) (state : Partial) (token : Token) (less : limit ≤ limit') :
    state.step limit token = state.step limit' token ∨
      state.step limit token = .error (.nestingTooDeep limit token.span.start) := by
  rw [step, step]
  cases awaits : state.awaiting with
  | statement =>
      by_cases closes : token.lexeme = .closing ∧ state.openGroup.isSome = true
      · exact .inl (by simp only [if_pos closes])
      · by_cases deep : limit ≤ state.frames.length
        · exact .inr (by simp only [if_neg closes, if_pos deep])
        · have shallow : ¬ limit' ≤ state.frames.length := by omega
          exact .inl (by simp only [if_neg closes, if_neg deep, if_neg shallow])
  | name op => exact .inl rfl
  | alternatives op => exact .inl rfl
  | pattern op => exact .inl rfl

theorem at_end_less (limit limit' stop : Nat) (state : Partial) (less : limit ≤ limit') :
    state.atEnd limit stop = state.atEnd limit' stop ∨
      state.atEnd limit stop = .nestingTooDeep limit stop := by
  rw [atEnd, atEnd]
  cases state.awaiting with
  | statement =>
      cases state.openGroup with
      | some opening => exact .inl rfl
      | none =>
          by_cases deep : limit ≤ state.frames.length
          · exact .inr (if_pos deep)
          · have shallow : ¬ limit' ≤ state.frames.length := by omega
            exact .inl ((if_neg deep).trans (if_neg shallow).symm)
  | name op => exact .inl rfl
  | alternatives op => exact .inl rfl
  | pattern op => exact .inl rfl

theorem run_too_deep (limit stop low : Nat) (state : Partial) (tokens : List Token)
    (other offset : Nat) (spread : Spread low (tokens.map Token.span) stop)
    (failed : state.run limit stop tokens = .error (.nestingTooDeep other offset)) :
    low ≤ offset := by
  obtain ⟨front, last, -, ends⟩ := run_fails limit stop state tokens _ failed
  obtain ⟨rfl, ended⟩ | ⟨token, rest, rfl, refused⟩ := ends
  · rcases last.at_end_place limit stop with unfinished | place
    · rw [← ended] at unfinished
      cases unfinished
    · rw [← ended] at place
      exact (spread_bounds _ _ _ spread).trans_eq place.symm
  · rcases last.step_fails limit token _ refused with ⟨-, place⟩ | ⟨_, _, unfinished, -⟩
    · have early := (spread_within _ _ _ spread token.span (by simp)).1
      exact early.trans_eq place.symm
    · cases unfinished

theorem run_less (limit limit' stop low : Nat) (state : Partial) (tokens : List Token)
    (less : limit ≤ limit') (spread : Spread low (tokens.map Token.span) stop) :
    Cut limit (state.run limit stop tokens) (state.run limit' stop tokens) := by
  induction tokens generalizing state low with
  | nil =>
      rcases at_end_less limit limit' stop state less with same | deep
      · exact .inl (by rw [run, run, same])
      · refine .inr ⟨stop, by rw [run, deep], fun other offset' failed => ?_⟩
        exact run_too_deep limit' stop stop state [] other offset' (Nat.le_refl stop) failed
  | cons token rest ih =>
      rcases step_less limit limit' state token less with same | deep
      · rw [run, run, same]
        cases state.step limit' token with
        | error error => exact .inl rfl
        | ok progress =>
            cases progress with
            | complete grammar => exact .inl rfl
            | partway next => exact ih token.span.stop next spread.2
      · refine .inr ⟨token.span.start, by rw [run, deep], fun other offset' failed => ?_⟩
        exact run_too_deep limit' stop token.span.start state (token :: rest) other offset'
          ⟨Nat.le_refl _, spread.2⟩ failed

end Partial

def firstBelow (limit : Nat) (entries : List (Nat × Node)) : Option (Nat × Node) :=
  entries.find? fun entry => limit < entry.1

theorem first_below_none (limit depth : Nat) (node : Node)
    (none : firstBelow limit (node.preorder depth) = none) : node.Within limit depth := by
  intro entry member
  simpa using List.find?_eq_none.mp none entry member

theorem first_below_append (limit : Nat) (front rest : List (Nat × Node)) (entry : Nat × Node)
    (found : firstBelow limit (front ++ rest) = some entry) :
    firstBelow limit front = some entry ∨
      firstBelow limit front = none ∧ firstBelow limit rest = some entry := by
  rw [firstBelow, List.find?_append] at found
  cases early : firstBelow limit front with
  | none =>
      rw [show front.find? _ = none from early] at found
      exact .inr ⟨rfl, found⟩
  | some other =>
      rw [show front.find? _ = some other from early] at found
      exact .inl found

namespace Partial

-- The run ends where this statement begins, one level too deep.
def Refused (limit stop : Nat) (state : Partial) (tokens : List Token) (entry : Nat × Node) : Prop :=
  entry.1 = limit + 1 ∧
    state.run limit stop tokens = .error (.nestingTooDeep limit entry.2.span.start)

theorem run_full (limit stop : Nat) (state : Partial) (node : Node) (rest : List Token)
    (awaits : state.awaiting = .statement) (full : state.frames.length = limit) :
    Refused limit stop state (node.tokens ++ rest) (limit + 1, node) := by
  refine ⟨rfl, ?_⟩
  have begins : ∃ first others, node.tokens = first :: others ∧
      node.span.start = first.span.start ∧ first.lexeme ≠ .closing := by
    cases node <;> exact ⟨_, _, rfl, rfl, by simp⟩
  obtain ⟨first, others, shape, starts, opens⟩ := begins
  rw [shape, List.cons_append, run, step, awaits, starts]
  simp [opens, full]

-- Up to a statement that is too deep, reading goes on as if there was no limit.
mutual

theorem run_node_refused (limit stop : Nat) (state : Partial) (node : Node) (rest : List Token)
    (entry : Nat × Node) (awaits : state.awaiting = .statement)
    (room : state.frames.length ≤ limit)
    (found : firstBelow limit (node.preorder (state.frames.length + 1)) = some entry) :
    Refused limit stop state (node.tokens ++ rest) entry := by
  by_cases full : state.frames.length = limit
  · have first : firstBelow limit (node.preorder (state.frames.length + 1)) =
        some (limit + 1, node) := by
      cases node <;> simp [firstBelow, Node.preorder, full]
    obtain rfl := Option.some.inj (first.symm.trans found)
    exact run_full limit stop state node rest awaits full
  have shallow : state.frames.length < limit := by omega
  have passed : ¬ limit < state.frames.length + 1 := by omega
  cases node with
  | literal l => simp [firstBelow, Node.preorder, passed] at found
  | name n => simp [firstBelow, Node.preorder, passed] at found
  | group opening statements closing =>
      have inside : firstBelow limit (Node.preorderAll (state.frames.length + 2) statements) =
          some entry := by simpa [firstBelow, Node.preorder, passed] using found
      rw [Node.tokens, List.cons_append, List.append_assoc]
      obtain ⟨depth, ran⟩ := run_nodes_refused limit stop (state.enter (.group opening []))
        statements ([⟨.closing, closing⟩] ++ rest) entry rfl rfl shallow inside
      exact ⟨depth, (run_begin limit stop state _ _ _ awaits shallow (by simp) rfl).trans ran⟩
  | define op n body =>
      have inside : firstBelow limit (body.preorder (state.frames.length + 2)) = some entry := by
        simpa [firstBelow, Node.preorder, passed] using found
      rw [Node.tokens, List.cons_append, List.cons_append]
      obtain ⟨depth, ran⟩ := run_node_refused limit stop (state.enter (.define op n)) body rest entry
        rfl shallow inside
      exact ⟨depth, (run_begin limit stop state (state.await (.name op)) _ _ awaits shallow (by simp)
        rfl).trans ran⟩
  | choose op opening alternatives closing =>
      have inside : firstBelow limit (Node.preorderAll (state.frames.length + 2) alternatives) =
          some entry := by simpa [firstBelow, Node.preorder, passed] using found
      rw [Node.tokens, List.cons_append, List.cons_append, List.append_assoc]
      obtain ⟨depth, ran⟩ := run_nodes_refused limit stop (state.enter (.choose op opening []))
        alternatives ([⟨.closing, closing⟩] ++ rest) entry rfl rfl shallow inside
      exact ⟨depth, (run_begin limit stop state (state.await (.alternatives op)) _ _ awaits shallow
        (by simp) rfl).trans ran⟩
  | optional op body =>
      have inside : firstBelow limit (body.preorder (state.frames.length + 2)) = some entry := by
        simpa [firstBelow, Node.preorder, passed] using found
      rw [Node.tokens, List.cons_append]
      obtain ⟨depth, ran⟩ := run_node_refused limit stop (state.enter (.optional op)) body rest entry
        rfl shallow inside
      exact ⟨depth, (run_begin limit stop state _ _ _ awaits shallow (by simp) rfl).trans ran⟩
  | regex op pattern matched unmatched =>
      have inside : firstBelow limit (matched.preorder (state.frames.length + 2) ++
          unmatched.preorder (state.frames.length + 2)) = some entry := by
        simpa [firstBelow, Node.preorder, passed] using found
      rw [Node.tokens, List.cons_append, List.cons_append, List.append_assoc]
      have begun := run_begin limit stop state (state.await (.pattern op)) ⟨.operator .regex, op⟩
        (⟨.literal pattern.text pattern.quote, pattern.span⟩ ::
          (matched.tokens ++ (unmatched.tokens ++ rest))) awaits shallow (by simp) rfl
      rcases first_below_append limit _ _ entry inside with early | ⟨none, late⟩
      · obtain ⟨depth, ran⟩ := run_node_refused limit stop (state.enter (.regex op pattern)) matched
          (unmatched.tokens ++ rest) entry rfl shallow early
        exact ⟨depth, begun.trans ran⟩
      · obtain ⟨depth, ran⟩ := run_node_refused limit stop
          (state.enter (.regexElse op pattern matched)) unmatched rest entry rfl shallow late
        have first := run_node limit stop (state.enter (.regex op pattern)) matched
          (unmatched.tokens ++ rest) rfl (first_below_none limit _ matched none)
        exact ⟨depth, begun.trans (first.trans ran)⟩

theorem run_nodes_refused (limit stop : Nat) (state : Partial) (nodes : List Node)
    (rest : List Token) (entry : Nat × Node) (awaits : state.awaiting = .statement)
    (collects : state.openGroup.isSome = true) (room : state.frames.length ≤ limit)
    (found : firstBelow limit (Node.preorderAll (state.frames.length + 1) nodes) = some entry) :
    Refused limit stop state (Node.tokensAll nodes ++ rest) entry := by
  cases nodes with
  | nil => cases found
  | cons node nodes =>
      rw [Node.tokensAll, List.append_assoc]
      rcases first_below_append limit _ _ entry found with early | ⟨none, late⟩
      · exact run_node_refused limit stop state node _ entry awaits room early
      · obtain ⟨awaits', collects', same⟩ := finish_collects state node collects
        obtain ⟨depth, ran⟩ := run_nodes_refused limit stop (state.finish node state.frames) nodes
          rest entry awaits' collects' (by rwa [same]) (by rwa [same])
        refine ⟨depth, Eq.trans ?_ ran⟩
        exact run_node limit stop state node _ awaits (first_below_none limit _ node none)

end

end Partial

namespace Grammar

theorem read_less (limit limit' : Nat) (source : String) (less : limit ≤ limit') :
    Cut limit (Grammar.readWithin limit source) (Grammar.readWithin limit' source) := by
  rw [Grammar.readWithin, Grammar.readWithin]
  cases given : tokensOf source with
  | nil => exact .inl rfl
  | cons token rest =>
      obtain ⟨text, blanks, shape, -, placed⟩ := placed_all source _ given
      have inside : 0 + utf8Length text ≤ utf8Length source.toList := by
        simp [shape, Cursor.utf8Length_append]
      have spread := spread_widen _ _ _ _ _ (Nat.le_refl _) inside
        (placed_spread 0 _ text blanks placed).2
      rcases token with ⟨lexeme, opening⟩
      cases lexeme with
      | opening => exact Partial.run_less limit limit' _ _ _ rest less spread
      | closing | operator op | name text | literal text quote | unclosed quote | stray c =>
          exact .inl rfl

theorem read_refused (limit limit' : Nat) (source : String) (grammar : Grammar)
    (read : Grammar.readWithin limit' source = .ok grammar) (deep : ¬ grammar.Within limit) :
    ∃ node, (limit + 1, node) ∈ grammar.preorder ∧
      (∀ entry ∈ grammar.preorder, entry.1 = limit + 1 → node.span.start ≤ entry.2.span.start) ∧
      Grammar.readWithin limit source = .error (.nestingTooDeep limit node.span.start) := by
  obtain ⟨⟨rest, given⟩, -⟩ := (read_within_ok limit' source grammar).mp read
  obtain ⟨_, _, laid⟩ := statements_laid limit' source grammar read
  have rising : Node.Rising grammar.preorder := Node.preorder_all_rising _ 1 _ _ laid
  cases found : firstBelow limit grammar.preorder with
  | none =>
      refine absurd (fun entry member => ?_) deep
      simpa using List.find?_eq_none.mp found entry member
  | some entry =>
      obtain ⟨depth, ran⟩ := Partial.run_nodes_refused limit (utf8Length source.toList)
        ⟨grammar.opening, [], [], .statement⟩ grammar.statements
        ([⟨.closing, grammar.closing⟩] ++ rest) entry rfl rfl (Nat.zero_le limit) found
      obtain ⟨-, front, back, shape, shallow⟩ := List.find?_eq_some_iff_append.mp found
      obtain ⟨level, node⟩ := entry
      obtain rfl : level = limit + 1 := depth
      refine ⟨node, by simp [shape], ?_, ?_⟩
      · intro other member same
        rw [shape] at member rising
        obtain ⟨-, after, -⟩ := List.pairwise_append.mp rising
        obtain early | ⟨⟩ | ⟨_, late⟩ := List.mem_append.mp member
        · have passed := shallow other early
          simp [same] at passed
        · exact Nat.le_refl _
        · exact Nat.le_of_lt ((List.pairwise_cons.mp after).1 other late)
      · rw [Grammar.readWithin, given, Grammar.tokens, List.cons_append, List.append_assoc]
        exact ran

theorem limit_only_cuts (limit limit' : Nat) (source : String) (less : limit ≤ limit') :
    (Grammar.readWithin limit source = Grammar.readWithin limit' source ∨
      ∃ offset, Grammar.readWithin limit source = .error (.nestingTooDeep limit offset)) ∧
    (∀ one other offset offset',
      Grammar.readWithin limit source = .error (.nestingTooDeep one offset) →
        Grammar.readWithin limit' source = .error (.nestingTooDeep other offset') →
          offset ≤ offset') ∧
    ∀ grammar, Grammar.readWithin limit' source = .ok grammar →
      ((∃ found, Grammar.readWithin limit source = .ok found) ↔
        ∀ entry ∈ grammar.preorder, entry.1 ≤ limit) ∧
      ((¬ ∀ entry ∈ grammar.preorder, entry.1 ≤ limit) →
        ∃ node, (limit + 1, node) ∈ grammar.preorder ∧
          (∀ entry ∈ grammar.preorder, entry.1 = limit + 1 →
            node.span.start ≤ entry.2.span.start) ∧
          Grammar.readWithin limit source = .error (.nestingTooDeep limit node.span.start)) := by
  have cut := read_less limit limit' source less
  refine ⟨?_, ?_, fun grammar read => ⟨⟨?_, ?_⟩, read_refused limit limit' source grammar read⟩⟩
  · rcases cut with same | ⟨offset, refused, -⟩
    · exact .inl same
    · exact .inr ⟨offset, refused⟩
  · intro one other offset offset' failed failed'
    rcases cut with same | ⟨first, refused, earlier⟩
    · rw [same, failed'] at failed
      cases failed
      exact Nat.le_refl _
    · rw [refused] at failed
      cases failed
      exact earlier other offset' failed'
  · rintro ⟨found, accepted⟩
    rcases cut with same | ⟨offset, refused, -⟩
    · obtain rfl : found = grammar := Except.ok.inj (accepted.symm.trans (same.trans read))
      exact ((read_within_ok limit source found).mp accepted).2
    · rw [refused] at accepted
      cases accepted
  · intro within
    obtain ⟨begins, -⟩ := (read_within_ok limit' source grammar).mp read
    exact ⟨grammar, (read_within_ok limit source grammar).mpr ⟨begins, within⟩⟩

-- The definition behind the operator is the first statement that is too deep, and the literal in the
-- group behind it is another.
def operand : Grammar :=
  ⟨⟨0, 1⟩,
    [.name ⟨"a", ⟨1, 1⟩⟩,
      .optional ⟨3, 1⟩ (.define ⟨5, 1⟩ ⟨"b", ⟨6, 1⟩⟩ (.literal ⟨"é", '\'', ⟨8, 4⟩⟩)),
      .group ⟨13, 1⟩ [.literal ⟨"c", '\'', ⟨14, 3⟩⟩] ⟨17, 1⟩],
    ⟨18, 1⟩⟩

theorem limit_only_cuts_operand :
    Grammar.readWithin 3 "(a ? =b 'é' ('c'))" = .ok operand ∧
      (¬ ∃ found, Grammar.readWithin 1 "(a ? =b 'é' ('c'))" = .ok found) ∧
      ∃ node, (2, node) ∈ operand.preorder ∧
        (∀ entry ∈ operand.preorder, entry.1 = 2 → node.span.start ≤ entry.2.span.start) ∧
        Grammar.readWithin 1 "(a ? =b 'é' ('c'))" =
          .error (.nestingTooDeep 1 node.span.start) := by
  have read : Grammar.readWithin 3 "(a ? =b 'é' ('c'))" = .ok operand := by rfl
  obtain ⟨-, -, exactly⟩ := limit_only_cuts 1 3 "(a ? =b 'é' ('c'))" (by decide)
  obtain ⟨accepts, refuses⟩ := exactly operand read
  have deep : ¬ ∀ entry ∈ operand.preorder, entry.1 ≤ 1 := by decide
  exact ⟨read, fun found => deep (accepts.mp found), refuses deep⟩

end Grammar

end TextGrammar

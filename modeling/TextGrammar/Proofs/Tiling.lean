import Mathlib.Data.List.Forall2
import TextGrammar.Proofs.Flattening
import TextGrammar.Proofs.Placement

set_option autoImplicit false

namespace TextGrammar

def Spread : Nat → List Span → Nat → Prop
  | low, [], high => low ≤ high
  | low, span :: rest, high => low ≤ span.start ∧ Spread span.stop rest high

theorem spread_bounds (low high : Nat) (spans : List Span) (spread : Spread low spans high) :
    low ≤ high := by
  induction spans generalizing low with
  | nil => exact spread
  | cons span rest ih =>
      have behind := ih span.stop spread.2
      have before := spread.1
      simp only [Span.stop] at behind
      omega

theorem spread_append (low high : Nat) (front rest : List Span) :
    Spread low (front ++ rest) high ↔
      ∃ middle, Spread low front middle ∧ Spread middle rest high := by
  induction front generalizing low with
  | nil =>
      constructor
      · intro spread
        exact ⟨low, Nat.le_refl low, spread⟩
      · rintro ⟨middle, less, spread⟩
        cases rest with
        | nil => exact Nat.le_trans less spread
        | cons span rest => exact ⟨Nat.le_trans less spread.1, spread.2⟩
  | cons span front ih => simp only [List.cons_append, Spread, ih, and_assoc, exists_and_left]

theorem spread_widen (low low' high high' : Nat) (spans : List Span) (before : low' ≤ low)
    (behind : high ≤ high') (spread : Spread low spans high) : Spread low' spans high' := by
  have front := (spread_append low' high [] spans).mpr ⟨low, before, spread⟩
  have whole := (spread_append low' high' spans []).mpr ⟨high, front, behind⟩
  rwa [List.append_nil] at whole

theorem spread_within (low high : Nat) (spans : List Span) (spread : Spread low spans high)
    (span : Span) (member : span ∈ spans) : low ≤ span.start ∧ span.stop ≤ high := by
  obtain ⟨front, rest, rfl⟩ := List.append_of_mem member
  obtain ⟨middle, before, less, behind⟩ := (spread_append _ _ _ _).mp spread
  exact ⟨Nat.le_trans (spread_bounds _ _ _ before) less, spread_bounds _ _ _ behind⟩

theorem spread_ordered (low high : Nat) (spans : List Span) (spread : Spread low spans high) :
    spans.Pairwise fun a b => a.stop ≤ b.start := by
  induction spans generalizing low with
  | nil => exact .nil
  | cons span rest ih =>
      exact .cons (fun other member => (spread_within _ _ _ spread.2 other member).1)
        (ih span.stop spread.2)

theorem spread_part (low high : Nat) (part spans : List Span) (spread : Spread low spans high)
    (inside : part <:+: spans) :
    ∃ low' high', low ≤ low' ∧ Spread low' part high' ∧ high' ≤ high := by
  obtain ⟨front, rest, rfl⟩ := inside
  obtain ⟨high', spread, behind⟩ := (spread_append _ _ _ _).mp spread
  obtain ⟨low', before, spread⟩ := (spread_append _ _ _ _).mp spread
  exact ⟨low', high', spread_bounds _ _ _ before, spread, spread_bounds _ _ _ behind⟩

def Span.Inside (inner outer : Span) : Prop := outer.start ≤ inner.start ∧ inner.stop ≤ outer.stop

def Span.Holds (span : Span) (source text : String) : Prop :=
  ∃ before after : String, source = before ++ text ++ after ∧
    utf8Length before.toList = span.start ∧ utf8Length (before ++ text).toList = span.stop

def Lexeme.written : Lexeme → String
  | .opening => "("
  | .closing => ")"
  | .operator op => op.symbol
  | .name text => text
  | .literal text quote => quote.toString ++ text ++ quote.toString
  | .unclosed quote => quote.toString
  | .stray c => c.toString

theorem spells_written (lexeme : Lexeme) (word next : List Char)
    (spells : Lexeme.Spells lexeme word next) (closed : ∀ quote, lexeme ≠ .unclosed quote) :
    word = lexeme.written.toList := by
  cases spells with
  | unclosed delimits escaped => exact absurd rfl (closed _)
  | opening => rfl
  | closing => rfl
  | operator operator => rfl
  | name maximal => simp [Lexeme.written]
  | literal delimits first => simp [Lexeme.written]
  | stray other => simp [Lexeme.written]

theorem utf8_length_cons (c : Char) (text : List Char) :
    utf8Length (c :: text) = c.utf8Size + utf8Length text := rfl

theorem blank_size (c : Char) (blank : isBlank c = true) : c.utf8Size = 1 := by
  have member : c ∈ blanks := by simpa [isBlank] using blank
  have single : blanks.all (fun c => c.utf8Size == 1) = true := by decide
  simpa using List.all_eq_true.mp single c member

theorem blank_length (text : List Char) (blank : Blank text) : utf8Length text = text.length := by
  induction text with
  | nil => rfl
  | cons c text ih =>
      obtain ⟨first, others⟩ := List.forall_mem_cons.mp blank
      rw [utf8_length_cons, blank_size c first, ih others, List.length_cons, Nat.add_comm]

-- Takes the same room and is the same, unless both are blank.
def Interchangeable (a b : Char) : Prop :=
  a.utf8Size = b.utf8Size ∧ (a = b ∨ (isBlank a = true ∧ isBlank b = true))

theorem blanks_interchangeable (a b : List Char) (first : Blank a) (second : Blank b)
    (same : a.length = b.length) : List.Forall₂ Interchangeable a b := by
  induction a generalizing b with
  | nil =>
      obtain rfl : b = [] := List.length_eq_zero_iff.mp same.symm
      exact .nil
  | cons c a ih =>
      cases b with
      | nil => cases same
      | cons d b =>
          obtain ⟨left, lefts⟩ := List.forall_mem_cons.mp first
          obtain ⟨right, rights⟩ := List.forall_mem_cons.mp second
          exact .cons ⟨(blank_size c left).trans (blank_size d right).symm, .inr ⟨left, right⟩⟩
            (ih b lefts rights (Nat.succ.inj same))

theorem placed_spread (offset : Nat) (tokens : List Token) (text next : List Char)
    (placed : Placed offset tokens text next) :
    Spread offset (tokens.map Token.span) (offset + utf8Length text) := by
  induction tokens generalizing offset text with
  | nil => exact Nat.le_add_right _ _
  | cons token rest ih =>
      obtain ⟨blanks, word, left, rfl, -, -, span, placed⟩ := placed
      have behind := ih _ _ placed
      have stops : token.span.stop = offset + utf8Length (blanks ++ word) := by
        rw [span, Span.stop_range _ _ (by simp [Cursor.utf8Length_append])]
      have starts : token.span.start = offset + utf8Length blanks := by rw [span]; rfl
      refine ⟨by omega, ?_⟩
      rw [stops]
      simpa only [Cursor.utf8Length_append, Nat.add_assoc] using behind

theorem placed_visible (offset : Nat) (tokens : List Token) (text next : List Char)
    (placed : Placed offset tokens text next) : ∀ token ∈ tokens, 0 < token.span.length := by
  induction tokens generalizing offset text with
  | nil => simp
  | cons token rest ih =>
      obtain ⟨blanks, word, left, -, -, spells, span, placed⟩ := placed
      refine List.forall_mem_cons.mpr ⟨?_, ih _ _ placed⟩
      obtain ⟨c, others, rfl, -⟩ := Cursor.spells_visible _ _ _ spells
      have size := c.utf8Size_pos
      simp only [span, Span.range, Cursor.utf8Length_append, utf8_length_cons]
      omega

theorem placed_written (offset : Nat) (tokens : List Token) (text next : List Char)
    (placed : Placed offset tokens text next)
    (closed : ∀ token ∈ tokens, ∀ quote, token.lexeme ≠ .unclosed quote) :
    ∀ token ∈ tokens, ∃ before after, text = before ++ token.lexeme.written.toList ++ after ∧
      offset + utf8Length before = token.span.start ∧
      offset + utf8Length (before ++ token.lexeme.written.toList) = token.span.stop := by
  induction tokens generalizing offset text with
  | nil => simp
  | cons token rest ih =>
      obtain ⟨blanks, word, left, rfl, -, spells, span, placed⟩ := placed
      obtain ⟨first, others⟩ := List.forall_mem_cons.mp closed
      obtain rfl := spells_written _ _ _ spells first
      refine List.forall_mem_cons.mpr ⟨⟨blanks, left, by simp, by rw [span]; rfl, ?_⟩, ?_⟩
      · rw [span, Span.stop_range _ _ (by simp [Cursor.utf8Length_append])]
      · intro other member
        obtain ⟨before, after, rfl, starts, stops⟩ := ih _ _ placed others other member
        refine ⟨blanks ++ (token.lexeme.written.toList ++ before), after, by simp, ?_, ?_⟩
        · simpa [Cursor.utf8Length_append, Nat.add_assoc] using starts
        · simpa [Cursor.utf8Length_append, Nat.add_assoc] using stops

theorem append_character (front rest before after : List Char) (c : Char)
    (shape : front ++ rest = before ++ c :: after) :
    (∃ tail, front = before ++ c :: tail) ∨ ∃ inner, before = front ++ inner ∧ rest = inner ++ c :: after := by
  obtain ⟨inner, split, tail⟩ | ⟨inner, split, tail⟩ := List.append_eq_append_iff.mp shape
  · exact .inr ⟨inner, split, tail⟩
  · cases inner with
    | nil => exact .inr ⟨[], by simpa using split.symm, tail.symm⟩
    | cons d inner =>
        obtain ⟨rfl, -⟩ := List.cons.inj tail
        exact .inl ⟨inner, split⟩

theorem placed_blank (offset : Nat) (tokens : List Token) (text next : List Char)
    (placed : Placed offset tokens text next) (before after : List Char) (c : Char)
    (shape : text = before ++ c :: after)
    (outside : ∀ token ∈ tokens, offset + utf8Length before < token.span.start ∨
      token.span.stop ≤ offset + utf8Length before) : isBlank c = true := by
  induction tokens generalizing offset text before with
  | nil =>
      obtain rfl : text = [] := placed
      simp at shape
  | cons token rest ih =>
      obtain ⟨blanks, word, left, rfl, blank, -, span, placed⟩ := placed
      obtain ⟨apart, others⟩ := List.forall_mem_cons.mp outside
      obtain ⟨tail, rfl⟩ | ⟨inner, rfl, behind⟩ := append_character _ _ _ _ _ shape
      · exact blank c (by simp)
      obtain ⟨tail, rfl⟩ | ⟨inner, rfl, further⟩ := append_character _ _ _ _ _ behind
      · -- Inside the token.
        have size := c.utf8Size_pos
        rw [span, Span.stop_range _ _ (by simp [Cursor.utf8Length_append])] at apart
        simp only [Span.range, Cursor.utf8Length_append, utf8_length_cons] at apart
        omega
      · refine ih _ left placed inner further fun other member => ?_
        simpa [Cursor.utf8Length_append, Nat.add_assoc] using others other member

theorem placed_interchangeable (offset : Nat) (tokens : List Token)
    (text next text' next' : List Char) (placed : Placed offset tokens text next)
    (placed' : Placed offset tokens text' next')
    (closed : ∀ token ∈ tokens, ∀ quote, token.lexeme ≠ .unclosed quote) :
    List.Forall₂ Interchangeable text text' := by
  induction tokens generalizing offset text text' with
  | nil =>
      obtain rfl : text = [] := placed
      obtain rfl : text' = [] := placed'
      exact .nil
  | cons token rest ih =>
      obtain ⟨blanks, word, left, rfl, blank, spells, span, placed⟩ := placed
      obtain ⟨blanks', word', left', rfl, blank', spells', span', placed'⟩ := placed'
      obtain ⟨first, others⟩ := List.forall_mem_cons.mp closed
      obtain rfl : word' = word :=
        (spells_written _ _ _ spells' first).trans (spells_written _ _ _ spells first).symm
      have starts := congrArg Span.start (span.symm.trans span')
      simp only [Span.range, blank_length _ blank, blank_length _ blank'] at starts
      have same : blanks.length = blanks'.length := by omega
      have sizes : utf8Length (blanks ++ word') = utf8Length (blanks' ++ word') := by
        rw [Cursor.utf8Length_append, Cursor.utf8Length_append, blank_length _ blank,
          blank_length _ blank', same]
      rw [← sizes] at placed'
      have words : List.Forall₂ Interchangeable word' word' :=
        List.forall₂_same.mpr fun c _ => ⟨rfl, .inl rfl⟩
      exact List.rel_append (blanks_interchangeable _ _ blank blank' same)
        (List.rel_append words (ih _ _ _ placed placed' others))

namespace Node

mutual

theorem tokens_closed (node : Node) :
    ∀ token ∈ node.tokens, ∀ quote, token.lexeme ≠ .unclosed quote := by
  cases node with
  | literal l => simp [tokens]
  | name n => simp [tokens]
  | group opening statements closing =>
      simpa [tokens, or_imp, forall_and] using tokens_all_closed statements
  | define op n body => simpa [tokens] using tokens_closed body
  | choose op opening alternatives closing =>
      simpa [tokens, or_imp, forall_and] using tokens_all_closed alternatives
  | optional op body => simpa [tokens] using tokens_closed body
  | regex op pattern matched unmatched =>
      simpa [tokens, or_imp, forall_and] using
        And.intro (tokens_closed matched) (tokens_closed unmatched)

theorem tokens_all_closed (nodes : List Node) :
    ∀ token ∈ tokensAll nodes, ∀ quote, token.lexeme ≠ .unclosed quote := by
  cases nodes with
  | nil => simp [tokensAll]
  | cons node rest =>
      simpa [tokensAll, or_imp, forall_and] using
        And.intro (tokens_closed node) (tokens_all_closed rest)

end

-- A statement is the one it is listed for, or stands below it and so behind its first token.
theorem inner_of_below (node inner : Node) (depth deeper : Nat)
    (below : (deeper, inner) ∈ (node.preorder depth).tail → inner.tokens <:+: node.tokens.tail)
    (member : (deeper, inner) ∈ node.preorder depth) : inner.tokens <:+: node.tokens := by
  have shape : node.preorder depth = (depth, node) :: (node.preorder depth).tail := by
    cases node <;> rfl
  rw [shape] at member
  obtain ⟨⟩ | ⟨_, member⟩ := member
  · exact List.infix_rfl
  · exact (below member).trans (List.tail_suffix _).isInfix

mutual

theorem below_tokens (node inner : Node) (depth deeper : Nat)
    (member : (deeper, inner) ∈ (node.preorder depth).tail) :
    inner.tokens <:+: node.tokens.tail := by
  cases node with
  | literal l => cases member
  | name n => cases member
  | group opening statements closing =>
      exact (inner_tokens_all statements inner (depth + 1) deeper member).trans
        (List.prefix_append _ _).isInfix
  | define op n body =>
      exact (inner_of_below body inner _ _ (below_tokens body inner (depth + 1) deeper) member).trans
        (List.suffix_cons _ _).isInfix
  | choose op opening alternatives closing =>
      exact ((inner_tokens_all alternatives inner (depth + 1) deeper member).trans
        (List.prefix_append _ _).isInfix).trans (List.suffix_cons _ _).isInfix
  | optional op body =>
      exact inner_of_below body inner _ _ (below_tokens body inner (depth + 1) deeper) member
  | regex op pattern matched unmatched =>
      refine List.IsInfix.trans ?_ (List.suffix_cons _ _).isInfix
      rcases List.mem_append.mp member with first | second
      · exact (inner_of_below matched inner _ _ (below_tokens matched inner (depth + 1) deeper)
          first).trans (List.prefix_append _ _).isInfix
      · exact (inner_of_below unmatched inner _ _ (below_tokens unmatched inner (depth + 1) deeper)
          second).trans (List.suffix_append _ _).isInfix

theorem inner_tokens_all (nodes : List Node) (inner : Node) (depth deeper : Nat)
    (member : (deeper, inner) ∈ preorderAll depth nodes) : inner.tokens <:+: tokensAll nodes := by
  cases nodes with
  | nil => cases member
  | cons node rest =>
      rcases List.mem_append.mp member with first | second
      · exact (inner_of_below node inner depth deeper (below_tokens node inner depth deeper)
          first).trans (List.prefix_append _ _).isInfix
      · exact (inner_tokens_all rest inner depth deeper second).trans (List.suffix_append _ _).isInfix

end

theorem inner_tokens (node inner : Node) (depth deeper : Nat)
    (member : (deeper, inner) ∈ node.preorder depth) : inner.tokens <:+: node.tokens :=
  inner_of_below node inner depth deeper (below_tokens node inner depth deeper) member

theorem tokens_begin (node : Node) :
    ∃ first rest, node.tokens = first :: rest ∧ node.span.start = first.span.start := by
  cases node <;> exact ⟨_, _, rfl, rfl⟩

theorem stop_behind (first last : Span) (rest : List Span) (low high : Nat)
    (spread : Spread low (first :: rest) high) (member : last ∈ rest) :
    (Span.range first.start last.stop).stop = last.stop := by
  have behind := (spread_within _ _ _ spread.2 last member).1
  apply Span.stop_range
  simp only [Span.stop] at behind ⊢
  omega

theorem tokens_end (node : Node) (low high : Nat)
    (spread : Spread low (node.tokens.map Token.span) high) :
    ∃ front last, node.tokens = front ++ [last] ∧ node.span.stop = last.span.stop := by
  cases node with
  | literal l => exact ⟨[], _, rfl, rfl⟩
  | name n => exact ⟨[], _, rfl, rfl⟩
  | group opening statements closing =>
      exact ⟨_ :: tokensAll statements, _, rfl, stop_behind opening closing _ low high spread (by simp)⟩
  | define op n body =>
      have inside := spread.2.2
      obtain ⟨front, last, shape, stops⟩ := tokens_end body _ _ inside
      refine ⟨[_, _] ++ front, last, by rw [tokens, shape]; rfl, ?_⟩
      rw [Node.span, stops]
      exact stop_behind op last.span _ low high spread (by simp [shape])
  | choose op opening alternatives closing =>
      have inner := stop_behind opening closing _ _ high spread.2 (by simp)
      refine ⟨_ :: _ :: tokensAll alternatives, ⟨.closing, closing⟩, rfl, ?_⟩
      rw [Node.span, inner]
      exact stop_behind op closing _ low high spread (by simp)
  | optional op body =>
      have inside := spread.2
      obtain ⟨front, last, shape, stops⟩ := tokens_end body _ _ inside
      refine ⟨[_] ++ front, last, by rw [tokens, shape]; rfl, ?_⟩
      rw [Node.span, stops]
      exact stop_behind op last.span _ low high spread (by simp [shape])
  | regex op pattern matched unmatched =>
      have inside := spread.2.2
      rw [List.map_append] at inside
      obtain ⟨middle, -, inside⟩ := (spread_append _ _ _ _).mp inside
      obtain ⟨front, last, shape, stops⟩ := tokens_end unmatched _ _ inside
      refine ⟨[_, _] ++ (matched.tokens ++ front), last, by rw [tokens, shape, ← List.append_assoc]; rfl, ?_⟩
      rw [Node.span, stops]
      exact stop_behind op last.span _ low high spread (by simp [shape])

theorem tokens_exact (node : Node) (low high : Nat)
    (spread : Spread low (node.tokens.map Token.span) high) :
    low ≤ node.span.start ∧ Spread node.span.start (node.tokens.map Token.span) node.span.stop ∧
      node.span.stop ≤ high := by
  obtain ⟨first, rest, begins, starts⟩ := tokens_begin node
  obtain ⟨front, last, ends, stops⟩ := tokens_end node low high spread
  have before := (spread_within _ _ _ spread first.span (by simp [begins])).1
  have behind := (spread_within _ _ _ spread last.span (by simp [ends])).2
  rw [starts, stops]
  refine ⟨before, ?_, behind⟩
  rw [ends, List.map_append] at spread
  obtain ⟨middle, inside, final⟩ := (spread_append _ _ _ _).mp spread
  have tight : Spread low (node.tokens.map Token.span) last.span.stop := by
    rw [ends, List.map_append]
    exact (spread_append _ _ _ _).mpr ⟨middle, inside, final.1, Nat.le_refl _⟩
  rw [begins] at tight ⊢
  exact ⟨Nat.le_refl _, tight.2⟩

theorem tokens_inside (node : Node) (low high : Nat)
    (spread : Spread low (node.tokens.map Token.span) high) :
    ∀ token ∈ node.tokens, token.span.Inside node.span := by
  intro token member
  obtain ⟨-, exactly, -⟩ := tokens_exact node low high spread
  exact spread_within _ _ _ exactly token.span (List.mem_map_of_mem member)

-- A statement itself, those inside it, and the groups that hold the alternatives of choices.
inductive Part (node : Node) : Node → Prop where
  | statement (depth : Nat) (inner : Node) (member : (depth, inner) ∈ node.preorder 0) : Part node inner
  | alternatives (depth : Nat) (op opening closing : Span) (alternatives : List Node)
      (member : (depth, Node.choose op opening alternatives closing) ∈ node.preorder 0) :
      Part node (.group opening alternatives closing)

theorem part_tokens (node inner : Node) (part : node.Part inner) : inner.tokens <:+: node.tokens := by
  cases part with
  | statement depth _ member => exact inner_tokens node inner 0 depth member
  | alternatives depth op opening closing alternatives member =>
      exact (List.suffix_cons _ _).isInfix.trans (inner_tokens node _ 0 depth member)

theorem part_spread (node inner : Node) (low high : Nat)
    (spread : Spread low (node.tokens.map Token.span) high) (part : node.Part inner) :
    inner.span.Inside node.span ∧
      Spread inner.span.start (inner.tokens.map Token.span) inner.span.stop := by
  obtain ⟨-, exactly, -⟩ := tokens_exact node low high spread
  obtain ⟨low', high', before, spread, behind⟩ :=
    spread_part _ _ _ _ exactly ((part_tokens node inner part).map Token.span)
  obtain ⟨starts, inside, stops⟩ := tokens_exact inner low' high' spread
  exact ⟨⟨Nat.le_trans before starts, Nat.le_trans stops behind⟩, inside⟩

end Node

structure Laid (low : Nat) (tokens : List Token) (high : Nat) : Prop where
  spread : Spread low (tokens.map Token.span) high
  visible : ∀ token ∈ tokens, 0 < token.span.length

theorem placed_laid (offset : Nat) (tokens : List Token) (text next : List Char)
    (placed : Placed offset tokens text next) : Laid offset tokens (offset + utf8Length text) :=
  ⟨placed_spread offset tokens text next placed, placed_visible offset tokens text next placed⟩

theorem laid_cons (low high : Nat) (token : Token) (rest : List Token)
    (laid : Laid low (token :: rest) high) :
    low ≤ token.span.start ∧ token.span.start < token.span.stop ∧
      Laid token.span.stop rest high := by
  obtain ⟨first, others⟩ := List.forall_mem_cons.mp laid.visible
  exact ⟨laid.spread.1, Nat.lt_add_of_pos_right first, laid.spread.2, others⟩

theorem laid_append (low high : Nat) (front rest : List Token)
    (laid : Laid low (front ++ rest) high) :
    ∃ middle, Laid low front middle ∧ Laid middle rest high := by
  obtain ⟨spread, visible⟩ := laid
  rw [List.map_append] at spread
  obtain ⟨middle, first, second⟩ := (spread_append _ _ _ _).mp spread
  obtain ⟨seen, others⟩ := List.forall_mem_append.mp visible
  exact ⟨middle, ⟨first, seen⟩, ⟨second, others⟩⟩

theorem laid_part (low high : Nat) (part tokens : List Token) (laid : Laid low tokens high)
    (inside : part <:+: tokens) : ∃ low' high', Laid low' part high' := by
  obtain ⟨low', high', -, spread, -⟩ := spread_part _ _ _ _ laid.spread (inside.map Token.span)
  exact ⟨low', high', spread, fun token member => laid.visible token (inside.subset member)⟩

namespace Node

theorem begin_between (inner : Node) (tokens : List Token) (low high : Nat)
    (laid : Laid low tokens high) (inside : inner.tokens <:+: tokens) :
    low ≤ inner.span.start ∧ inner.span.start < high := by
  obtain ⟨first, rest, begins, starts⟩ := tokens_begin inner
  have member : first ∈ tokens := inside.subset (by simp [begins])
  obtain ⟨before, behind⟩ := spread_within _ _ _ laid.spread _ (List.mem_map_of_mem member)
  have size := laid.visible first member
  simp only [Span.stop] at behind
  omega

def Rising (entries : List (Nat × Node)) : Prop :=
  entries.Pairwise fun a b => a.2.span.start < b.2.span.start

theorem rising_append (middle : Nat) (front rest : List (Nat × Node)) (first : Rising front)
    (second : Rising rest) (before : ∀ entry ∈ front, entry.2.span.start < middle)
    (behind : ∀ entry ∈ rest, middle ≤ entry.2.span.start) : Rising (front ++ rest) :=
  List.pairwise_append.mpr ⟨first, second, fun a left b right =>
    Nat.lt_of_lt_of_le (before a left) (behind b right)⟩

theorem below_begins (node inner : Node) (depth deeper low high : Nat)
    (laid : Laid low node.tokens high) (member : (deeper, inner) ∈ (node.preorder depth).tail) :
    node.span.start < inner.span.start := by
  obtain ⟨first, rest, begins, starts⟩ := tokens_begin node
  have inside := below_tokens node inner depth deeper member
  rw [begins] at laid inside
  obtain ⟨-, size, behind⟩ := laid_cons _ _ _ _ laid
  rw [starts]
  exact Nat.lt_of_lt_of_le size (begin_between inner rest _ _ behind inside).1

mutual

theorem preorder_rising (node : Node) (depth low high : Nat) (laid : Laid low node.tokens high) :
    Rising (node.preorder depth) := by
  have begins := fun (entry : Nat × Node) member =>
    below_begins node entry.2 depth entry.1 low high laid member
  cases node with
  | literal l => exact List.pairwise_singleton _ _
  | name n => exact List.pairwise_singleton _ _
  | group opening statements closing =>
      obtain ⟨-, -, rest⟩ := laid_cons _ _ _ _ laid
      obtain ⟨middle, inside, -⟩ := laid_append _ _ _ _ rest
      exact .cons begins (preorder_all_rising statements _ _ _ inside)
  | define op n body =>
      obtain ⟨-, -, rest⟩ := laid_cons _ _ _ _ laid
      obtain ⟨-, -, inside⟩ := laid_cons _ _ _ _ rest
      exact .cons begins (preorder_rising body _ _ _ inside)
  | choose op opening alternatives closing =>
      obtain ⟨-, -, rest⟩ := laid_cons _ _ _ _ laid
      obtain ⟨-, -, behind⟩ := laid_cons _ _ _ _ rest
      obtain ⟨middle, inside, -⟩ := laid_append _ _ _ _ behind
      exact .cons begins (preorder_all_rising alternatives _ _ _ inside)
  | optional op body =>
      obtain ⟨-, -, inside⟩ := laid_cons _ _ _ _ laid
      exact .cons begins (preorder_rising body _ _ _ inside)
  | regex op pattern matched unmatched =>
      obtain ⟨-, -, rest⟩ := laid_cons _ _ _ _ laid
      obtain ⟨-, -, inside⟩ := laid_cons _ _ _ _ rest
      obtain ⟨middle, first, second⟩ := laid_append _ _ _ _ inside
      refine .cons begins (rising_append middle _ _ (preorder_rising matched _ _ _ first)
        (preorder_rising unmatched _ _ _ second) (fun entry member => ?_) fun entry member => ?_)
      · exact (begin_between entry.2 _ _ _ first (inner_tokens matched entry.2 _ _ member)).2
      · exact (begin_between entry.2 _ _ _ second (inner_tokens unmatched entry.2 _ _ member)).1

theorem preorder_all_rising (nodes : List Node) (depth low high : Nat)
    (laid : Laid low (tokensAll nodes) high) : Rising (preorderAll depth nodes) := by
  cases nodes with
  | nil => exact .nil
  | cons node rest =>
      obtain ⟨middle, first, second⟩ := laid_append _ _ _ _ laid
      exact rising_append middle _ _ (preorder_rising node depth _ _ first)
        (preorder_all_rising rest depth _ _ second)
        (fun entry member =>
          (begin_between entry.2 _ _ _ first (inner_tokens node entry.2 _ _ member)).2)
        fun entry member =>
          (begin_between entry.2 _ _ _ second (inner_tokens_all rest entry.2 _ _ member)).1

end

end Node

theorem placed_last (offset : Nat) (front : List Token) (last : Token) (text next : List Char)
    (placed : Placed offset (front ++ [last]) text next) :
    last.span.stop = offset + utf8Length text := by
  obtain ⟨before, behind, rfl, -, blanks, word, left, rfl, -, -, span, rfl⟩ :=
    (placed_append _ _ _ _ _).mp placed
  rw [span, Span.stop_range _ _ (by simp [Cursor.utf8Length_append])]
  simp [Cursor.utf8Length_append, Nat.add_assoc]

namespace Grammar

def root (grammar : Grammar) : Node := .group grammar.opening grammar.statements grammar.closing

theorem read_placed (limit : Nat) (source : String) (grammar : Grammar)
    (read : Grammar.readWithin limit source = .ok grammar) :
    ∃ text next, source.toList = text ++ next ∧ Placed 0 grammar.tokens text next ∧
      utf8Length text = grammar.span.stop := by
  obtain ⟨begins, -⟩ := (read_within_ok limit source grammar).mp read
  obtain ⟨text, next, shape, placed⟩ := (tokens_of_placed source grammar.tokens).mp begins
  refine ⟨text, next, shape, placed, ?_⟩
  have last := placed_last 0 (_ :: Node.tokensAll grammar.statements) _ text next placed
  have laid := placed_laid 0 grammar.tokens text next placed
  obtain ⟨front, final, ends, stops⟩ := grammar.root.tokens_end _ _ laid.spread
  have same : final = ⟨.closing, grammar.closing⟩ := by
    have shown : grammar.root.tokens = (_ :: Node.tokensAll grammar.statements) ++ [_] := rfl
    rw [shown] at ends
    exact ((List.append_inj' ends rfl).2 |> List.cons.inj).1.symm
  rw [show grammar.span.stop = grammar.root.span.stop from rfl, stops, same, last, Nat.zero_add]

theorem statements_laid (limit : Nat) (source : String) (grammar : Grammar)
    (read : Grammar.readWithin limit source = .ok grammar) :
    ∃ low high, Laid low (Node.tokensAll grammar.statements) high := by
  obtain ⟨text, next, -, placed, -⟩ := read_placed limit source grammar read
  exact laid_part _ _ _ _ (placed_laid 0 grammar.tokens text next placed)
    ((List.prefix_append _ _).isInfix.trans (List.suffix_cons _ _).isInfix)

structure Tiles (source : String) (grammar : Grammar) : Prop where
  visible : ∀ token ∈ grammar.tokens, 0 < token.span.length
  ordered : grammar.tokens.Pairwise fun a b =>
    a.span.start < b.span.start ∧ a.span.stop ≤ b.span.start
  written : ∀ token ∈ grammar.tokens, token.span.Holds source token.lexeme.written
  blank : ∀ (before after : List Char) (c : Char), source.toList = before ++ c :: after →
    utf8Length before < grammar.span.stop →
      (∀ token ∈ grammar.tokens,
        utf8Length before < token.span.start ∨ token.span.stop ≤ utf8Length before) →
          isBlank c = true
  reach : ∀ node, grammar.root.Part node → ∃ first last, node.tokens.head? = some first ∧
    node.tokens.getLast? = some last ∧ node.span.start = first.span.start ∧
      node.span.stop = last.span.stop
  inside : ∀ node, grammar.root.Part node →
    (∀ token ∈ node.tokens, token.span.Inside node.span) ∧
      ∀ inner, node.Part inner → inner.span.Inside node.span

theorem read_tiles (limit : Nat) (source : String) (grammar : Grammar)
    (read : Grammar.readWithin limit source = .ok grammar) : grammar.Tiles source := by
  obtain ⟨text, next, shape, placed, stop⟩ := read_placed limit source grammar read
  obtain ⟨spread, visible⟩ := placed_laid 0 grammar.tokens text next placed
  have closed := grammar.root.tokens_closed
  refine ⟨visible, ?_, ?_, ?_, ?_, ?_⟩
  · have ordered := List.pairwise_map.mp (spread_ordered _ _ _ spread)
    refine ordered.imp_of_mem fun {a b} left _ less => ⟨?_, less⟩
    have size := visible a left
    simp only [Span.stop] at less
    omega
  · intro token member
    obtain ⟨before, after, split, starts, stops⟩ := placed_written 0 _ _ _ placed closed token member
    refine ⟨String.ofList before, String.ofList (after ++ next), ?_, ?_, ?_⟩
    · apply String.toList_inj.mp
      simp [shape, split]
    · simpa using starts
    · simpa using stops
  · intro before after c split early outside
    rw [shape] at split
    obtain ⟨tail, here⟩ | ⟨inner, rfl, -⟩ := append_character _ _ _ _ _ split
    · exact placed_blank 0 _ _ _ placed before tail c here (by simpa using outside)
    · rw [Cursor.utf8Length_append, stop] at early
      omega
  · intro node part
    obtain ⟨-, exactly⟩ := grammar.root.part_spread node _ _ spread part
    obtain ⟨first, rest, begins, starts⟩ := node.tokens_begin
    obtain ⟨front, last, ends, stops⟩ := node.tokens_end _ _ exactly
    exact ⟨first, last, by simp [begins], by simp [ends], starts, stops⟩
  · intro node part
    obtain ⟨-, exactly⟩ := grammar.root.part_spread node _ _ spread part
    exact ⟨node.tokens_inside _ _ exactly, fun inner within =>
      (node.part_spread inner _ _ exactly within).1⟩

-- The tokens of a tree and the blanks between them are all of the text it was read from, so two
-- sources of one tree differ in nothing but which blanks stand where blanks stand.
theorem tree_tiles_source (limit : Nat) (source : String) (grammar : Grammar)
    (read : Grammar.readWithin limit source = .ok grammar) :
    grammar.Tiles source ∧
      ∀ (limit' : Nat) (source' : String), Grammar.readWithin limit' source' = .ok grammar →
        ∃ text next text' next' : String, source = text ++ next ∧ source' = text' ++ next' ∧
          utf8Length text.toList = grammar.span.stop ∧
          utf8Length text'.toList = grammar.span.stop ∧
          List.Forall₂ Interchangeable text.toList text'.toList := by
  refine ⟨read_tiles limit source grammar read, fun limit' source' read' => ?_⟩
  obtain ⟨text, next, shape, placed, stop⟩ := read_placed limit source grammar read
  obtain ⟨text', next', shape', placed', stop'⟩ := read_placed limit' source' grammar read'
  refine ⟨String.ofList text, String.ofList next, String.ofList text', String.ofList next', ?_, ?_,
    by simpa using stop, by simpa using stop', ?_⟩
  · rw [← String.ofList_append, ← shape, String.ofList_toList]
  · rw [← String.ofList_append, ← shape', String.ofList_toList]
  · simpa using placed_interchangeable 0 _ _ _ _ _ placed placed' grammar.root.tokens_closed

-- A character of two bytes and an escaped quote stand before an operator without a blank.
def accented : Grammar :=
  ⟨⟨1, 1⟩,
    [.define ⟨2, 1⟩ ⟨"x", ⟨4, 1⟩⟩ (.literal ⟨"é\\'", '\'', ⟨6, 6⟩⟩),
      .optional ⟨13, 1⟩ (.name ⟨"x", ⟨14, 1⟩⟩)],
    ⟨15, 1⟩⟩

theorem tree_tiles_source_accented :
    Grammar.readWithin 2 " (= x 'é\\'' ?x)" = .ok accented ∧
      Grammar.readWithin 3 "\n(=\tx 'é\\''\r?x) x" = .ok accented ∧
      accented.Tiles " (= x 'é\\'' ?x)" ∧
      ∃ text next text' next' : String, " (= x 'é\\'' ?x)" = text ++ next ∧
        "\n(=\tx 'é\\''\r?x) x" = text' ++ next' ∧ utf8Length text.toList = 16 ∧
        utf8Length text'.toList = 16 ∧ List.Forall₂ Interchangeable text.toList text'.toList := by
  have read : Grammar.readWithin 2 " (= x 'é\\'' ?x)" = .ok accented := by rfl
  have again : Grammar.readWithin 3 "\n(=\tx 'é\\''\r?x) x" = .ok accented := by rfl
  obtain ⟨tiles, alike⟩ := tree_tiles_source 2 _ accented read
  exact ⟨read, again, tiles, alike 3 _ again⟩

end Grammar

end TextGrammar

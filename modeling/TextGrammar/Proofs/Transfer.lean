import TextGrammar.Tree.Reader

set_option autoImplicit false

namespace TextGrammar

-- Where the places of one text are in another, and how the texts of its literals are written there.
structure Transfer where
  place : Nat → Nat
  ordered (a b : Nat) (less : a ≤ b) : place a ≤ place b
  text : String → String

namespace Transfer

variable (transfer : Transfer)

def span (span : Span) : Span := Span.range (transfer.place span.start) (transfer.place span.stop)

def literal (literal : Literal) : Literal :=
  ⟨transfer.text literal.text, literal.quote, transfer.span literal.span⟩

def name (name : Name) : Name := ⟨name.text, transfer.span name.span⟩

mutual

def node : Node → Node
  | .literal l => .literal (transfer.literal l)
  | .name n => .name (transfer.name n)
  | .group opening statements closing =>
      .group (transfer.span opening) (nodes statements) (transfer.span closing)
  | .define op n body => .define (transfer.span op) (transfer.name n) (node body)
  | .choose op opening alternatives closing =>
      .choose (transfer.span op) (transfer.span opening) (nodes alternatives) (transfer.span closing)
  | .optional op body => .optional (transfer.span op) (node body)
  | .regex op pattern matched unmatched =>
      .regex (transfer.span op) (transfer.literal pattern) (node matched) (node unmatched)

def nodes : List Node → List Node
  | [] => []
  | first :: rest => node first :: nodes rest

end

def grammar (grammar : Grammar) : Grammar :=
  ⟨transfer.span grammar.opening, transfer.nodes grammar.statements, transfer.span grammar.closing⟩

def error : ReadError → ReadError
  | .expectedLiteral offset => .expectedLiteral (transfer.place offset)
  | .unterminatedLiteral place => .unterminatedLiteral (transfer.span place)
  | .expectedName offset => .expectedName (transfer.place offset)
  | .expectedOperator offset => .expectedOperator (transfer.place offset)
  | .expectedStatement offset => .expectedStatement (transfer.place offset)
  | .expectedGroup offset => .expectedGroup (transfer.place offset)
  | .unterminatedGroup place => .unterminatedGroup (transfer.span place)
  | .nestingTooDeep limit offset => .nestingTooDeep limit (transfer.place offset)

def outcome {α : Type} (carry : α → α) (result : Except ReadError α) : Except ReadError α :=
  (result.map carry).mapError transfer.error

def lexeme : Lexeme → Lexeme
  | .literal text quote => .literal (transfer.text text) quote
  | lexeme => lexeme

def token (token : Token) : Token := ⟨transfer.lexeme token.lexeme, transfer.span token.span⟩

def frame : Frame → Frame
  | .group opening done => .group (transfer.span opening) (transfer.nodes done)
  | .choose op opening done =>
      .choose (transfer.span op) (transfer.span opening) (transfer.nodes done)
  | .define op name => .define (transfer.span op) (transfer.name name)
  | .optional op => .optional (transfer.span op)
  | .regex op pattern => .regex (transfer.span op) (transfer.literal pattern)
  | .regexElse op pattern matched =>
      .regexElse (transfer.span op) (transfer.literal pattern) (transfer.node matched)

def awaiting : Awaiting → Awaiting
  | .statement => .statement
  | .name op => .name (transfer.span op)
  | .alternatives op => .alternatives (transfer.span op)
  | .pattern op => .pattern (transfer.span op)

def state (state : Partial) : Partial :=
  ⟨transfer.span state.opening, transfer.nodes state.done, state.frames.map transfer.frame,
    transfer.awaiting state.awaiting⟩

def progress : Progress → Progress
  | .complete grammar => .complete (transfer.grammar grammar)
  | .partway state => .partway (transfer.state state)

-- The tokens of the one text are found in the other. Behind a stray character there may be anything.
inductive Found : List Token → List Token → Prop where
  | none : Found [] []
  | token (token : Token) {rest rest' : List Token} (found : Found rest rest') :
      Found (token :: rest) (transfer.token token :: rest')
  | stray {c d : Char} {here there : Span} {rest rest' : List Token}
      (same : isAsciiMark c = isAsciiMark d) (start : there.start = transfer.place here.start) :
      Found (⟨.stray c, here⟩ :: rest) (⟨.stray d, there⟩ :: rest')

theorem span_range (start stop : Nat) :
    transfer.span (Span.range start stop) =
      Span.range (transfer.place start) (transfer.place stop) := by
  rcases Nat.le_total start stop with ordered | reversed
  · rw [span, Span.stop_range start stop ordered]
    rfl
  · have empty : (Span.range start stop).stop = start := by
      simp only [Span.range, Span.stop]
      omega
    have less := transfer.ordered _ _ reversed
    rw [span, empty]
    simp only [Span.range, Span.mk.injEq, true_and]
    omega

theorem nodes_map (nodes : List Node) : transfer.nodes nodes = nodes.map transfer.node := by
  induction nodes with
  | nil => rfl
  | cons first rest ih => rw [Transfer.nodes, ih, List.map_cons]

theorem nodes_reverse (nodes : List Node) :
    transfer.nodes nodes.reverse = (transfer.nodes nodes).reverse := by
  rw [nodes_map, nodes_map, List.map_reverse]

theorem closing (lexeme : Lexeme) : transfer.lexeme lexeme = .closing ↔ lexeme = .closing := by
  cases lexeme <;> simp [Transfer.lexeme]

theorem open_group (state : Partial) :
    (transfer.state state).openGroup = state.openGroup.map transfer.span := by
  rcases state with ⟨opening, done, frames, awaiting⟩
  cases frames with
  | nil => rfl
  | cons frame frames => cases frame <;> rfl

theorem supply (opening : Span) (done : List Node) (node : Node) (frames : List Frame) :
    Partial.supply (transfer.span opening) (transfer.nodes done) (transfer.node node)
        (frames.map transfer.frame) =
      transfer.state (Partial.supply opening done node frames) := by
  induction frames generalizing node with
  | nil => rfl
  | cons frame frames ih =>
      cases frame with
      | group o inner => rfl
      | choose op o inner => rfl
      | define op name => exact ih (.define op name node)
      | optional op => exact ih (.optional op node)
      | regex op pattern => rfl
      | regexElse op pattern matched => exact ih (.regex op pattern matched node)

theorem finish (state : Partial) (node : Node) (frames : List Frame) :
    (transfer.state state).finish (transfer.node node) (frames.map transfer.frame) =
      transfer.state (state.finish node frames) :=
  transfer.supply state.opening state.done node frames

theorem close (state : Partial) (closing : Span) :
    (transfer.state state).close (transfer.span closing) =
      transfer.progress (state.close closing) := by
  rcases state with ⟨opening, done, frames, awaiting⟩
  have root : transfer.grammar ⟨opening, done.reverse, closing⟩ =
      ⟨transfer.span opening, (transfer.nodes done).reverse, transfer.span closing⟩ := by
    rw [grammar, nodes_reverse]
  cases frames with
  | nil => exact congrArg Progress.complete root.symm
  | cons frame frames =>
      cases frame with
      | group o inner =>
          have finished := transfer.supply opening done (.group o inner.reverse closing) frames
          rw [node, nodes_reverse] at finished
          exact congrArg Progress.partway finished
      | choose op o inner =>
          have finished := transfer.supply opening done (.choose op o inner.reverse closing) frames
          rw [node, nodes_reverse] at finished
          exact congrArg Progress.partway finished
      | define op name | optional op | regex op pattern | regexElse op pattern matched =>
          exact congrArg Progress.complete root.symm

theorem begin (state : Partial) (token : Token) :
    (transfer.state state).begin (transfer.token token) =
      transfer.outcome transfer.state (state.begin token) := by
  rcases token with ⟨lexeme, span⟩
  cases lexeme with
  | operator operator => cases operator <;> rfl
  | opening => rfl
  | closing => rfl
  | name text => exact congrArg Except.ok (transfer.finish state (.name ⟨text, span⟩) state.frames)
  | literal text quote =>
      exact congrArg Except.ok (transfer.finish state (.literal ⟨text, quote, span⟩) state.frames)
  | unclosed quote => rfl
  | stray c =>
      simp only [Partial.begin, Transfer.token, Transfer.lexeme]
      split <;> rfl

theorem step (limit : Nat) (state : Partial) (token : Token) :
    (transfer.state state).step limit (transfer.token token) =
      transfer.outcome transfer.progress (state.step limit token) := by
  have frames : (transfer.state state).frames.length = state.frames.length := List.length_map _
  have awaits : (transfer.state state).awaiting = transfer.awaiting state.awaiting := rfl
  rw [Partial.step, Partial.step, awaits]
  cases state.awaiting with
  | statement =>
      have closes : (transfer.token token).lexeme = .closing ∧
          (transfer.state state).openGroup.isSome = true ↔
          token.lexeme = .closing ∧ state.openGroup.isSome = true := by
        rw [open_group, Option.isSome_map, Transfer.token, closing]
      simp only [Transfer.awaiting, closes, frames, begin]
      split
      · exact congrArg Except.ok (transfer.close state token.span)
      split
      · rfl
      · cases state.begin token <;> rfl
  | name op | alternatives op | pattern op =>
      rcases token with ⟨lexeme, span⟩
      cases lexeme <;> rfl

theorem at_end (limit stop : Nat) (state : Partial) :
    (transfer.state state).atEnd limit (transfer.place stop) =
      transfer.error (state.atEnd limit stop) := by
  have frames : (transfer.state state).frames.length = state.frames.length := List.length_map _
  have awaits : (transfer.state state).awaiting = transfer.awaiting state.awaiting := rfl
  rw [Partial.atEnd, Partial.atEnd, awaits]
  cases state.awaiting with
  | statement =>
      simp only [Transfer.awaiting, open_group, frames]
      cases state.openGroup with
      | some opening =>
          exact congrArg ReadError.unterminatedGroup (transfer.span_range opening.start stop).symm
      | none =>
          simp only [Option.map_none]
          split <;> rfl
  | name op => rfl
  | alternatives op => rfl
  | pattern op => rfl

theorem step_stray (limit : Nat) (state : Partial) (c d : Char) (here there : Span)
    (same : isAsciiMark c = isAsciiMark d) (start : there.start = transfer.place here.start) :
    ∃ error, state.step limit ⟨.stray c, here⟩ = .error error ∧
      (transfer.state state).step limit ⟨.stray d, there⟩ = .error (transfer.error error) := by
  have frames : (transfer.state state).frames.length = state.frames.length := List.length_map _
  have awaits : (transfer.state state).awaiting = transfer.awaiting state.awaiting := rfl
  rw [Partial.step, Partial.step, awaits]
  cases state.awaiting with
  | statement =>
      simp only [Transfer.awaiting, frames, start, same, Partial.begin, reduceCtorEq, false_and, if_false]
      split
      · exact ⟨_, rfl, rfl⟩
      split
      · exact ⟨_, rfl, rfl⟩
      · exact ⟨_, rfl, rfl⟩
  | name op | alternatives op | pattern op =>
      simp only [Transfer.awaiting, start]
      exact ⟨_, rfl, rfl⟩

theorem run (limit stop : Nat) (state : Partial) (tokens tokens' : List Token)
    (found : transfer.Found tokens tokens') :
    (transfer.state state).run limit (transfer.place stop) tokens' =
      transfer.outcome transfer.grammar (state.run limit stop tokens) := by
  induction found generalizing state with
  | none => exact congrArg Except.error (transfer.at_end limit stop state)
  | token token found ih =>
      rw [Partial.run, Partial.run, step]
      cases state.step limit token with
      | error error => rfl
      | ok progress =>
          cases progress with
          | complete grammar => rfl
          | partway next => exact ih next
  | stray same start =>
      obtain ⟨error, fails, fails'⟩ := transfer.step_stray limit state _ _ _ _ same start
      rw [Partial.run, Partial.run, fails, fails']
      rfl

theorem read_within (limit : Nat) (source source' : String)
    (found : transfer.Found (tokensOf source) (tokensOf source'))
    (stop : utf8Length source'.toList = transfer.place (utf8Length source.toList)) :
    Grammar.readWithin limit source' =
      transfer.outcome transfer.grammar (Grammar.readWithin limit source) := by
  rw [Grammar.readWithin, Grammar.readWithin, stop]
  generalize tokensOf source = tokens at found
  generalize tokensOf source' = tokens' at found
  cases found with
  | none => rfl
  | token token found =>
      rcases token with ⟨lexeme, span⟩
      cases lexeme with
      | opening =>
          exact transfer.run limit _ ⟨span, [], [], .statement⟩ _ _ found
      | closing | operator op | name text | literal text quote | unclosed quote | stray c => rfl
  | stray same start =>
      simp only [start]
      rfl

end Transfer

end TextGrammar

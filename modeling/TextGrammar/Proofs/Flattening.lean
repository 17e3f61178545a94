import TextGrammar.Tree.Reader

set_option autoImplicit false

namespace TextGrammar

namespace Node

mutual

def tokens : Node → List Token
  | literal l => [⟨.literal l.text l.quote, l.span⟩]
  | name n => [⟨.name n.text, n.span⟩]
  | group opening statements closing =>
      ⟨.opening, opening⟩ :: (tokensAll statements ++ [⟨.closing, closing⟩])
  | define op n body => ⟨.operator .define, op⟩ :: ⟨.name n.text, n.span⟩ :: body.tokens
  | choose op opening alternatives closing =>
      ⟨.operator .choose, op⟩ :: ⟨.opening, opening⟩ ::
        (tokensAll alternatives ++ [⟨.closing, closing⟩])
  | optional op body => ⟨.operator .optional, op⟩ :: body.tokens
  | regex op pattern matched unmatched =>
      ⟨.operator .regex, op⟩ :: ⟨.literal pattern.text pattern.quote, pattern.span⟩ ::
        (matched.tokens ++ unmatched.tokens)

def tokensAll : List Node → List Token
  | [] => []
  | node :: rest => node.tokens ++ tokensAll rest

end

theorem tokens_all_append (a b : List Node) : tokensAll (a ++ b) = tokensAll a ++ tokensAll b := by
  induction a with
  | nil => simp [tokensAll]
  | cons node a ih => simp [tokensAll, ih]

theorem tokens_all_last (nodes : List Node) (node : Node) :
    tokensAll (nodes ++ [node]) = tokensAll nodes ++ node.tokens := by
  simp [tokens_all_append, tokensAll]

def Within (limit depth : Nat) (node : Node) : Prop :=
  ∀ entry ∈ node.preorder depth, entry.1 ≤ limit

theorem within_all (limit depth : Nat) (nodes : List Node) :
    (∀ entry ∈ preorderAll depth nodes, entry.1 ≤ limit) ↔
      ∀ node ∈ nodes, node.Within limit depth := by
  induction nodes with
  | nil => simp [preorderAll]
  | cons node nodes ih =>
      simp only [preorderAll, List.mem_append, or_imp, forall_and, ih, List.forall_mem_cons, Within]

theorem within_group (limit depth : Nat) (opening closing : Span) (statements : List Node) :
    (group opening statements closing).Within limit depth ↔
      depth ≤ limit ∧ ∀ node ∈ statements, node.Within limit (depth + 1) := by
  simp only [Within, preorder, List.forall_mem_cons, within_all]

theorem within_define (limit depth : Nat) (op : Span) (n : Name) (body : Node) :
    (define op n body).Within limit depth ↔ depth ≤ limit ∧ body.Within limit (depth + 1) := by
  simp only [Within, preorder, List.forall_mem_cons]

theorem within_choose (limit depth : Nat) (op opening closing : Span) (alternatives : List Node) :
    (choose op opening alternatives closing).Within limit depth ↔
      depth ≤ limit ∧ ∀ node ∈ alternatives, node.Within limit (depth + 1) := by
  simp only [Within, preorder, List.forall_mem_cons, within_all]

theorem within_optional (limit depth : Nat) (op : Span) (body : Node) :
    (optional op body).Within limit depth ↔ depth ≤ limit ∧ body.Within limit (depth + 1) := by
  simp only [Within, preorder, List.forall_mem_cons]

theorem within_regex (limit depth : Nat) (op : Span) (pattern : Literal) (matched unmatched : Node) :
    (regex op pattern matched unmatched).Within limit depth ↔
      depth ≤ limit ∧ matched.Within limit (depth + 1) ∧ unmatched.Within limit (depth + 1) := by
  simp only [Within, preorder, List.forall_mem_cons, List.mem_append, or_imp, forall_and]

theorem within_top (limit depth : Nat) (node : Node) (within : node.Within limit depth) :
    depth ≤ limit := by
  have first : (depth, node) ∈ node.preorder depth := by cases node <;> simp [preorder]
  exact within _ first

end Node

def Grammar.tokens (grammar : Grammar) : List Token :=
  ⟨.opening, grammar.opening⟩ ::
    (Node.tokensAll grammar.statements ++ [⟨.closing, grammar.closing⟩])

-- An unfinished statement has the tokens read for it so far.
def Frame.tokens : Frame → List Token
  | .group opening done => ⟨.opening, opening⟩ :: Node.tokensAll done.reverse
  | .choose op opening done =>
      ⟨.operator .choose, op⟩ :: ⟨.opening, opening⟩ :: Node.tokensAll done.reverse
  | .define op name => [⟨.operator .define, op⟩, ⟨.name name.text, name.span⟩]
  | .optional op => [⟨.operator .optional, op⟩]
  | .regex op pattern =>
      [⟨.operator .regex, op⟩, ⟨.literal pattern.text pattern.quote, pattern.span⟩]
  | .regexElse op pattern matched =>
      ⟨.operator .regex, op⟩ :: ⟨.literal pattern.text pattern.quote, pattern.span⟩ :: matched.tokens

def Awaiting.tokens : Awaiting → List Token
  | .statement => []
  | .name op => [⟨.operator .define, op⟩]
  | .alternatives op => [⟨.operator .choose, op⟩]
  | .pattern op => [⟨.operator .regex, op⟩]

namespace Partial

def held (opening : Span) (done : List Node) (frames : List Frame) : List Token :=
  ⟨.opening, opening⟩ :: (Node.tokensAll done.reverse ++ frames.reverse.flatMap Frame.tokens)

def tokens (state : Partial) : List Token :=
  held state.opening state.done state.frames ++ state.awaiting.tokens

end Partial

def Progress.tokens : Progress → List Token
  | .complete grammar => grammar.tokens
  | .partway state => state.tokens

namespace Partial

theorem held_cons (opening : Span) (done : List Node) (frame : Frame) (frames : List Frame) :
    held opening done (frame :: frames) = held opening done frames ++ frame.tokens := by
  simp [held]

theorem supply_tokens (opening : Span) (done : List Node) (node : Node) (frames : List Frame) :
    (supply opening done node frames).tokens = held opening done frames ++ node.tokens := by
  induction frames generalizing node with
  | nil => simp [supply, tokens, held, Awaiting.tokens, Node.tokens_all_last]
  | cons frame frames ih =>
      cases frame with
      | group o inner =>
          simp [supply, tokens, held_cons, Awaiting.tokens, Frame.tokens, Node.tokens_all_last]
      | choose op o inner =>
          simp [supply, tokens, held_cons, Awaiting.tokens, Frame.tokens, Node.tokens_all_last]
      | define op name => simp [supply, ih, held_cons, Frame.tokens, Node.tokens]
      | optional op => simp [supply, ih, held_cons, Frame.tokens, Node.tokens]
      | regex op pattern => simp [supply, tokens, held_cons, Awaiting.tokens, Frame.tokens]
      | regexElse op pattern matched => simp [supply, ih, held_cons, Frame.tokens, Node.tokens]

theorem enter_tokens (state : Partial) (frame : Frame) :
    (state.enter frame).tokens = held state.opening state.done state.frames ++ frame.tokens := by
  simp [enter, tokens, held_cons, Awaiting.tokens]

theorem close_tokens (state : Partial) (closing : Span) (collects : state.openGroup.isSome = true) :
    (state.close closing).tokens =
      held state.opening state.done state.frames ++ [⟨.closing, closing⟩] := by
  rcases state with ⟨opening, done, frames, awaiting⟩
  cases frames with
  | nil => simp [close, Progress.tokens, Grammar.tokens, held]
  | cons frame frames =>
      cases frame with
      | group o inner =>
          simp [close, Progress.tokens, finish, supply_tokens, held_cons, Frame.tokens, Node.tokens]
      | choose op o inner =>
          simp [close, Progress.tokens, finish, supply_tokens, held_cons, Frame.tokens, Node.tokens]
      | define op name => simp [openGroup] at collects
      | optional op => simp [openGroup] at collects
      | regex op pattern => simp [openGroup] at collects
      | regexElse op pattern matched => simp [openGroup] at collects

inductive Begins (state : Partial) (token : Token) : Partial → Prop where
  | group (begins : token.lexeme = .opening) :
      Begins state token (state.enter (.group token.span []))
  | literal {text : String} {quote : Char} (begins : token.lexeme = .literal text quote) :
      Begins state token (state.finish (.literal ⟨text, quote, token.span⟩) state.frames)
  | name {text : String} (begins : token.lexeme = .name text) :
      Begins state token (state.finish (.name ⟨text, token.span⟩) state.frames)
  | define (begins : token.lexeme = .operator .define) :
      Begins state token (state.await (.name token.span))
  | choose (begins : token.lexeme = .operator .choose) :
      Begins state token (state.await (.alternatives token.span))
  | optional (begins : token.lexeme = .operator .optional) :
      Begins state token (state.enter (.optional token.span))
  | regex (begins : token.lexeme = .operator .regex) :
      Begins state token (state.await (.pattern token.span))

inductive Steps (limit : Nat) (state : Partial) (token : Token) : Progress → Prop where
  | close (awaits : state.awaiting = .statement) (closes : token.lexeme = .closing)
      (collects : state.openGroup.isSome = true) : Steps limit state token (state.close token.span)
  | begin {next : Partial} (awaits : state.awaiting = .statement)
      (shallow : state.frames.length < limit) (begins : state.Begins token next) :
      Steps limit state token (.partway next)
  | name {op : Span} {text : String} (awaits : state.awaiting = .name op)
      (named : token.lexeme = .name text) :
      Steps limit state token (.partway (state.enter (.define op ⟨text, token.span⟩)))
  | alternatives {op : Span} (awaits : state.awaiting = .alternatives op)
      (opens : token.lexeme = .opening) :
      Steps limit state token (.partway (state.enter (.choose op token.span [])))
  | pattern {op : Span} {text : String} {quote : Char} (awaits : state.awaiting = .pattern op)
      (quoted : token.lexeme = .literal text quote) :
      Steps limit state token (.partway (state.enter (.regex op ⟨text, quote, token.span⟩)))

theorem begin_begins (state next : Partial) (token : Token) (begun : state.begin token = .ok next) :
    state.Begins token next := by
  rw [begin] at begun
  cases begins : token.lexeme with
  | opening =>
      simp only [begins, Except.ok.injEq] at begun
      exact begun ▸ .group begins
  | closing => simp [begins] at begun
  | operator operator =>
      cases operator <;> simp only [begins, Except.ok.injEq] at begun
      · exact begun ▸ .define begins
      · exact begun ▸ .choose begins
      · exact begun ▸ .optional begins
      · exact begun ▸ .regex begins
  | name text =>
      simp only [begins, Except.ok.injEq] at begun
      exact begun ▸ .name begins
  | literal text quote =>
      simp only [begins, Except.ok.injEq] at begun
      exact begun ▸ .literal begins
  | unclosed quote => simp [begins] at begun
  | stray c =>
      simp only [begins] at begun
      split at begun <;> cases begun

theorem step_steps (limit : Nat) (state : Partial) (token : Token) (progress : Progress)
    (stepped : state.step limit token = .ok progress) : Steps limit state token progress := by
  rw [step] at stepped
  cases awaits : state.awaiting with
  | statement =>
      rw [awaits] at stepped
      dsimp only at stepped
      by_cases closes : token.lexeme = .closing ∧ state.openGroup.isSome = true
      · rw [if_pos closes] at stepped
        cases stepped
        exact .close awaits closes.1 closes.2
      · rw [if_neg closes] at stepped
        by_cases deep : limit ≤ state.frames.length
        · rw [if_pos deep] at stepped
          cases stepped
        · rw [if_neg deep] at stepped
          cases begun : state.begin token with
          | error error => simp [begun, Except.map] at stepped
          | ok next =>
              simp only [begun, Except.map, Except.ok.injEq] at stepped
              exact stepped ▸ .begin awaits (by omega) (begin_begins state next token begun)
  | name op =>
      rw [awaits] at stepped
      cases named : token.lexeme <;> simp only [named, reduceCtorEq, Except.ok.injEq] at stepped
      exact stepped ▸ .name awaits named
  | alternatives op =>
      rw [awaits] at stepped
      cases opens : token.lexeme <;> simp only [opens, reduceCtorEq, Except.ok.injEq] at stepped
      exact stepped ▸ .alternatives awaits opens
  | pattern op =>
      rw [awaits] at stepped
      cases quoted : token.lexeme <;> simp only [quoted, reduceCtorEq, Except.ok.injEq] at stepped
      exact stepped ▸ .pattern awaits quoted

theorem tokens_awaiting (state : Partial) (awaiting : Awaiting)
    (awaits : state.awaiting = awaiting) :
    state.tokens = held state.opening state.done state.frames ++ awaiting.tokens := by
  rw [tokens, awaits]

theorem begins_tokens (state next : Partial) (token : Token) (awaits : state.awaiting = .statement)
    (begins : state.Begins token next) : next.tokens = state.tokens ++ [token] := by
  rcases token with ⟨lexeme, span⟩
  rw [tokens_awaiting state _ awaits]
  cases begins with
  | group begins => cases begins; simp [enter_tokens, Awaiting.tokens, Frame.tokens, Node.tokensAll]
  | literal begins => cases begins; simp [finish, supply_tokens, Awaiting.tokens, Node.tokens]
  | name begins => cases begins; simp [finish, supply_tokens, Awaiting.tokens, Node.tokens]
  | define begins => cases begins; simp [await, tokens, Awaiting.tokens]
  | choose begins => cases begins; simp [await, tokens, Awaiting.tokens]
  | optional begins => cases begins; simp [enter_tokens, Awaiting.tokens, Frame.tokens]
  | regex begins => cases begins; simp [await, tokens, Awaiting.tokens]

theorem steps_tokens (limit : Nat) (state : Partial) (token : Token) (progress : Progress)
    (steps : Steps limit state token progress) : progress.tokens = state.tokens ++ [token] := by
  cases steps with
  | begin awaits shallow begins => exact begins_tokens state _ _ awaits begins
  | close awaits closes collects =>
      rcases token with ⟨lexeme, span⟩
      cases closes
      rw [tokens_awaiting state _ awaits, close_tokens _ _ collects]
      simp [Awaiting.tokens]
  | name awaits named =>
      rcases token with ⟨lexeme, span⟩
      cases named
      rw [tokens_awaiting state _ awaits, Progress.tokens, enter_tokens]
      simp [Awaiting.tokens, Frame.tokens]
  | alternatives awaits opens =>
      rcases token with ⟨lexeme, span⟩
      cases opens
      rw [tokens_awaiting state _ awaits, Progress.tokens, enter_tokens]
      simp [Awaiting.tokens, Frame.tokens, Node.tokensAll]
  | pattern awaits quoted =>
      rcases token with ⟨lexeme, span⟩
      cases quoted
      rw [tokens_awaiting state _ awaits, Progress.tokens, enter_tokens]
      simp [Awaiting.tokens, Frame.tokens]

end Partial

-- A frame with `n` frames around it is a statement of depth `n + 1`, so the depths of all finished
-- statements can be told from where they are kept.
def Frame.Within (limit depth : Nat) : Frame → Prop
  | .group _ done => depth ≤ limit ∧ ∀ node ∈ done, node.Within limit (depth + 1)
  | .choose _ _ done => depth ≤ limit ∧ ∀ node ∈ done, node.Within limit (depth + 1)
  | .define .. => depth ≤ limit
  | .optional _ => depth ≤ limit
  | .regex .. => depth ≤ limit
  | .regexElse _ _ matched => depth ≤ limit ∧ matched.Within limit (depth + 1)

namespace Partial

def FramesWithin (limit : Nat) : List Frame → Prop
  | [] => True
  | frame :: frames => frame.Within limit (frames.length + 1) ∧ FramesWithin limit frames

structure Within (limit : Nat) (state : Partial) : Prop where
  done : ∀ node ∈ state.done, node.Within limit 1
  frames : FramesWithin limit state.frames
  shallow : state.awaiting ≠ .statement → state.frames.length < limit

end Partial

def Grammar.Within (limit : Nat) (grammar : Grammar) : Prop :=
  ∀ entry ∈ grammar.preorder, entry.1 ≤ limit

def Progress.Within (limit : Nat) : Progress → Prop
  | .complete grammar => grammar.Within limit
  | .partway state => state.Within limit

namespace Partial

theorem supply_within (limit : Nat) (opening : Span) (done : List Node) (node : Node)
    (frames : List Frame) (outside : ∀ node ∈ done, node.Within limit 1)
    (around : FramesWithin limit frames) (within : node.Within limit (frames.length + 1)) :
    (supply opening done node frames).Within limit := by
  induction frames generalizing node with
  | nil => exact ⟨List.forall_mem_cons.mpr ⟨within, outside⟩, trivial, fun waits => absurd rfl waits⟩
  | cons frame frames ih =>
      obtain ⟨inside, around⟩ := around
      cases frame with
      | group o inner =>
          exact ⟨outside, ⟨⟨inside.1, List.forall_mem_cons.mpr ⟨within, inside.2⟩⟩, around⟩,
            fun waits => absurd rfl waits⟩
      | choose op o inner =>
          exact ⟨outside, ⟨⟨inside.1, List.forall_mem_cons.mpr ⟨within, inside.2⟩⟩, around⟩,
            fun waits => absurd rfl waits⟩
      | define op name => exact ih _ around ((Node.within_define ..).mpr ⟨inside, within⟩)
      | optional op => exact ih _ around ((Node.within_optional ..).mpr ⟨inside, within⟩)
      | regex op pattern =>
          exact ⟨outside, ⟨⟨inside, within⟩, around⟩, fun waits => absurd rfl waits⟩
      | regexElse op pattern matched =>
          exact ih _ around ((Node.within_regex ..).mpr ⟨inside.1, inside.2, within⟩)

theorem enter_within (limit : Nat) (state : Partial) (frame : Frame) (within : state.Within limit)
    (inside : frame.Within limit (state.frames.length + 1)) : (state.enter frame).Within limit :=
  ⟨within.done, ⟨inside, within.frames⟩, fun waits => absurd rfl waits⟩

theorem close_within (limit : Nat) (state : Partial) (closing : Span) (within : state.Within limit)
    (collects : state.openGroup.isSome = true) : (state.close closing).Within limit := by
  obtain ⟨done, frames, -⟩ := within
  rcases state with ⟨opening, finished, around, awaiting⟩
  cases around with
  | nil => exact (Node.within_all _ _ _).mpr (by simpa using done)
  | cons frame around =>
      obtain ⟨inside, outer⟩ := frames
      cases frame with
      | group o inner =>
          apply supply_within _ _ _ _ _ done outer
          exact (Node.within_group ..).mpr ⟨inside.1, by simpa using inside.2⟩
      | choose op o inner =>
          apply supply_within _ _ _ _ _ done outer
          exact (Node.within_choose ..).mpr ⟨inside.1, by simpa using inside.2⟩
      | define op name => cases collects
      | optional op => cases collects
      | regex op pattern => cases collects
      | regexElse op pattern matched => cases collects

theorem steps_within (limit : Nat) (state : Partial) (token : Token) (progress : Progress)
    (within : state.Within limit) (steps : Steps limit state token progress) :
    progress.Within limit := by
  cases steps with
  | close awaits closes collects => exact close_within limit state _ within collects
  | name awaits named => exact enter_within limit state _ within (within.shallow (by simp [awaits]))
  | alternatives awaits opens =>
      exact enter_within limit state _ within ⟨within.shallow (by simp [awaits]), by simp⟩
  | pattern awaits quoted =>
      exact enter_within limit state _ within (within.shallow (by simp [awaits]))
  | begin awaits shallow begins =>
      cases begins with
      | group begins => exact enter_within limit state _ within ⟨shallow, by simp⟩
      | optional begins => exact enter_within limit state _ within shallow
      | define begins => exact ⟨within.done, within.frames, fun _ => shallow⟩
      | choose begins => exact ⟨within.done, within.frames, fun _ => shallow⟩
      | regex begins => exact ⟨within.done, within.frames, fun _ => shallow⟩
      | literal begins =>
          apply supply_within _ _ _ _ _ within.done within.frames
          simpa [Node.Within, Node.preorder, Nat.succ_le_iff] using shallow
      | name begins =>
          apply supply_within _ _ _ _ _ within.done within.frames
          simpa [Node.Within, Node.preorder, Nat.succ_le_iff] using shallow

theorem run_reads (limit stop : Nat) (state : Partial) (tokens : List Token) (grammar : Grammar)
    (within : state.Within limit) (ran : state.run limit stop tokens = .ok grammar) :
    (∃ rest, state.tokens ++ tokens = grammar.tokens ++ rest) ∧ grammar.Within limit := by
  induction tokens generalizing state with
  | nil => cases ran
  | cons token tokens ih =>
      rw [run] at ran
      cases stepped : state.step limit token with
      | error error => simp [stepped] at ran
      | ok progress =>
          have steps := step_steps limit state token progress stepped
          have held := steps_tokens limit state token progress steps
          have kept := steps_within limit state token progress within steps
          rw [stepped] at ran
          cases progress with
          | complete given =>
              cases ran
              refine ⟨⟨tokens, ?_⟩, kept⟩
              rw [show grammar.tokens = state.tokens ++ [token] from held]
              simp
          | partway next =>
              obtain ⟨⟨rest, shape⟩, deep⟩ := ih next kept ran
              refine ⟨⟨rest, ?_⟩, deep⟩
              rw [← shape, show next.tokens = state.tokens ++ [token] from held]
              simp

theorem step_begin (limit : Nat) (state : Partial) (token : Token)
    (awaits : state.awaiting = .statement) (shallow : state.frames.length < limit)
    (begins : token.lexeme ≠ .closing) :
    state.step limit token = (state.begin token).map .partway := by
  rw [step, awaits]
  simp [begins, Nat.not_le.mpr shallow]

theorem run_begin (limit stop : Nat) (state next : Partial) (token : Token) (rest : List Token)
    (awaits : state.awaiting = .statement) (shallow : state.frames.length < limit)
    (begins : token.lexeme ≠ .closing) (begun : state.begin token = .ok next) :
    state.run limit stop (token :: rest) = next.run limit stop rest := by
  rw [run, step_begin limit state token awaits shallow begins, begun]
  rfl

def collect (state : Partial) : List Node → Partial
  | [] => state
  | node :: rest => (state.finish node state.frames).collect rest

theorem collect_group (opening o : Span) (done inner nodes : List Node) (frames : List Frame) :
    (Partial.mk opening done (.group o inner :: frames) .statement).collect nodes =
      ⟨opening, done, .group o (nodes.reverse ++ inner) :: frames, .statement⟩ := by
  induction nodes generalizing inner with
  | nil => rfl
  | cons node nodes ih => simp [collect, finish, supply, ih]

theorem collect_choose (opening op o : Span) (done inner nodes : List Node) (frames : List Frame) :
    (Partial.mk opening done (.choose op o inner :: frames) .statement).collect nodes =
      ⟨opening, done, .choose op o (nodes.reverse ++ inner) :: frames, .statement⟩ := by
  induction nodes generalizing inner with
  | nil => rfl
  | cons node nodes ih => simp [collect, finish, supply, ih]

theorem collect_root (opening : Span) (done nodes : List Node) :
    (Partial.mk opening done [] .statement).collect nodes =
      ⟨opening, nodes.reverse ++ done, [], .statement⟩ := by
  induction nodes generalizing done with
  | nil => rfl
  | cons node nodes ih => simp [collect, finish, supply, ih]

theorem finish_collects (state : Partial) (node : Node) (collects : state.openGroup.isSome = true) :
    (state.finish node state.frames).awaiting = .statement ∧
      (state.finish node state.frames).openGroup.isSome = true ∧
      (state.finish node state.frames).frames.length = state.frames.length := by
  rcases state with ⟨opening, done, frames, awaiting⟩
  cases frames with
  | nil => exact ⟨rfl, rfl, rfl⟩
  | cons frame frames => cases frame <;> first | exact ⟨rfl, rfl, rfl⟩ | cases collects

theorem run_close (limit stop : Nat) (state next : Partial) (closing : Span) (rest : List Token)
    (awaits : state.awaiting = .statement) (collects : state.openGroup.isSome = true)
    (closes : state.close closing = .partway next) :
    state.run limit stop (⟨.closing, closing⟩ :: rest) = next.run limit stop rest := by
  rw [run, step, awaits]
  simp [collects, closes]

mutual

-- The tokens of a statement are read without an error, and nothing is left over of the state but the
-- finished statement.
theorem run_node (limit stop : Nat) (state : Partial) (node : Node) (rest : List Token)
    (awaits : state.awaiting = .statement) (within : node.Within limit (state.frames.length + 1)) :
    state.run limit stop (node.tokens ++ rest) =
      (state.finish node state.frames).run limit stop rest := by
  have shallow : state.frames.length < limit := Node.within_top _ _ _ within
  cases node with
  | literal l => exact run_begin _ _ _ _ _ _ awaits shallow (by simp) rfl
  | name n => exact run_begin _ _ _ _ _ _ awaits shallow (by simp) rfl
  | group opening statements closing =>
      obtain ⟨-, inside⟩ := (Node.within_group ..).mp within
      rw [Node.tokens, List.cons_append, List.append_assoc,
        run_begin limit stop state (state.enter (.group opening [])) _ _ awaits shallow (by simp) rfl,
        run_nodes limit stop (state.enter (.group opening [])) statements _ rfl rfl inside,
        enter, collect_group]
      exact run_close _ _ _ _ _ _ rfl rfl (by simp [close, finish])
  | define op n body =>
      obtain ⟨-, inside⟩ := (Node.within_define ..).mp within
      rw [Node.tokens, List.cons_append, List.cons_append,
        run_begin limit stop state (state.await (.name op)) _ _ awaits shallow (by simp) rfl]
      exact run_node limit stop (state.enter (.define op n)) body rest rfl inside
  | choose op opening alternatives closing =>
      obtain ⟨-, inside⟩ := (Node.within_choose ..).mp within
      have opens (rest : List Token) :
          (state.await (.alternatives op)).run limit stop (⟨.opening, opening⟩ :: rest) =
            (state.enter (.choose op opening [])).run limit stop rest := rfl
      rw [Node.tokens, List.cons_append, List.cons_append, List.append_assoc,
        run_begin limit stop state (state.await (.alternatives op)) _ _ awaits shallow (by simp) rfl,
        opens,
        run_nodes limit stop (state.enter (.choose op opening [])) alternatives _ rfl rfl inside,
        enter, collect_choose]
      exact run_close _ _ _ _ _ _ rfl rfl (by simp [close, finish])
  | optional op body =>
      obtain ⟨-, inside⟩ := (Node.within_optional ..).mp within
      rw [Node.tokens, List.cons_append,
        run_begin limit stop state (state.enter (.optional op)) _ _ awaits shallow (by simp) rfl]
      exact run_node limit stop (state.enter (.optional op)) body rest rfl inside
  | regex op pattern matched unmatched =>
      obtain ⟨-, ifMatched, ifUnmatched⟩ := (Node.within_regex ..).mp within
      rw [Node.tokens, List.cons_append, List.cons_append, List.append_assoc,
        run_begin limit stop state (state.await (.pattern op)) _ _ awaits shallow (by simp) rfl]
      calc (state.enter (.regex op pattern)).run limit stop
            (matched.tokens ++ (unmatched.tokens ++ rest))
        _ = (state.enter (.regexElse op pattern matched)).run limit stop
            (unmatched.tokens ++ rest) :=
          run_node limit stop (state.enter (.regex op pattern)) matched _ rfl ifMatched
        _ = (state.finish (.regex op pattern matched unmatched) state.frames).run limit stop rest :=
          run_node limit stop (state.enter (.regexElse op pattern matched)) unmatched _ rfl ifUnmatched

theorem run_nodes (limit stop : Nat) (state : Partial) (nodes : List Node) (rest : List Token)
    (awaits : state.awaiting = .statement) (collects : state.openGroup.isSome = true)
    (within : ∀ node ∈ nodes, node.Within limit (state.frames.length + 1)) :
    state.run limit stop (Node.tokensAll nodes ++ rest) =
      (state.collect nodes).run limit stop rest := by
  cases nodes with
  | nil => rfl
  | cons node nodes =>
      obtain ⟨first, others⟩ := List.forall_mem_cons.mp within
      obtain ⟨awaits', collects', same⟩ := finish_collects state node collects
      rw [Node.tokensAll, List.append_assoc, run_node limit stop state node _ awaits first, collect]
      exact run_nodes limit stop _ nodes rest awaits' collects' (by rwa [same])

end

end Partial

namespace Grammar

theorem begin_within (limit : Nat) (opening : Span) :
    (Partial.mk opening [] [] .statement).Within limit :=
  ⟨by simp, trivial, fun waits => absurd rfl waits⟩

-- Reading is the inverse of laying out: a text is read as exactly the grammar whose tokens it
-- begins with, provided that no statement stands too deep.
theorem read_within_ok (limit : Nat) (source : String) (grammar : Grammar) :
    Grammar.readWithin limit source = .ok grammar ↔
      (∃ rest, tokensOf source = grammar.tokens ++ rest) ∧ grammar.Within limit := by
  rw [Grammar.readWithin]
  constructor
  · intro read
    cases given : tokensOf source with
    | nil => simp [given] at read
    | cons token rest =>
        rcases token with ⟨lexeme, opening⟩
        simp only [given] at read
        cases lexeme <;> simp only [reduceCtorEq] at read
        obtain ⟨⟨unread, shape⟩, within⟩ :=
          Partial.run_reads limit _ _ rest grammar (begin_within limit opening) read
        exact ⟨⟨unread, shape⟩, within⟩
  · rintro ⟨⟨rest, given⟩, within⟩
    rw [given, Grammar.tokens, List.cons_append, List.append_assoc]
    have inside := (Node.within_all limit 1 grammar.statements).mp within
    dsimp only
    rw [Partial.run_nodes limit _ ⟨grammar.opening, [], [], .statement⟩ grammar.statements _ rfl rfl
      inside, Partial.collect_root]
    simp [Partial.run, Partial.step, Partial.close, Partial.openGroup]

end Grammar

end TextGrammar

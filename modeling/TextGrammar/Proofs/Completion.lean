import TextGrammar.Proofs.Failing

set_option autoImplicit false

namespace TextGrammar

def Lexeme.filler : Lexeme := .literal "" '\''

-- What an unfinished statement still needs when the statement inside it is finished.
def Frame.missing : Frame → List Lexeme
  | .group .. => [.closing]
  | .choose .. => [.closing]
  | .define .. => []
  | .optional _ => []
  | .regex .. => [.filler]
  | .regexElse .. => []

namespace Partial

def missing (state : Partial) : List Lexeme :=
  (match state.awaiting with
  | .statement => if state.openGroup.isSome then [] else [.filler]
  | .name _ => [.name "x", .filler]
  | .alternatives _ => [.opening, .closing]
  | .pattern _ => [.filler, .filler, .filler]) ++ (state.frames.flatMap Frame.missing ++ [.closing])

theorem missing_extra (frames : List Frame) (extra : List Lexeme) :
    (frames.flatMap Frame.missing ++ [.closing]) ++ extra =
      frames.flatMap Frame.missing ++ .closing :: extra := by simp

theorem lexemes_cons (tokens : List Token) (lexeme : Lexeme) (rest : List Lexeme)
    (given : tokens.map Token.lexeme = lexeme :: rest) :
    ∃ span others, tokens = ⟨lexeme, span⟩ :: others ∧ others.map Token.lexeme = rest := by
  obtain ⟨token, others, rfl, first, behind⟩ := List.map_eq_cons_iff.mp given
  rcases token with ⟨found, span⟩
  cases first
  exact ⟨span, others, rfl, behind⟩

theorem run_root (limit stop : Nat) (opening closing : Span) (done : List Node) (rest : List Token) :
    (Partial.mk opening done [] .statement).run limit stop (⟨.closing, closing⟩ :: rest) =
      .ok ⟨opening, done.reverse, closing⟩ := by
  simp [run, step, openGroup, close]

-- By induction on the frames: each takes what it misses and is the statement that the next one
-- waits for.
theorem supply_completes (limit stop : Nat) (opening : Span) (done : List Node) (node : Node)
    (frames : List Frame) (tokens : List Token) (extra : List Lexeme) (room : frames.length < limit)
    (finishes : tokens.map Token.lexeme = frames.flatMap Frame.missing ++ .closing :: extra) :
    ∃ grammar, (supply opening done node frames).run limit stop tokens = .ok grammar := by
  induction frames generalizing node tokens with
  | nil =>
      obtain ⟨span, rest, rfl, -⟩ := lexemes_cons _ _ _ finishes
      exact ⟨_, run_root limit stop opening span (node :: done) rest⟩
  | cons frame frames ih =>
      have around : frames.length < limit := by
        rw [List.length_cons] at room
        omega
      cases frame with
      | group o inner =>
          obtain ⟨span, rest, rfl, others⟩ := lexemes_cons _ _ _ finishes
          obtain ⟨grammar, ran⟩ := ih (.group o (node :: inner).reverse span) rest around others
          exact ⟨grammar, (run_close limit stop _ _ span rest rfl rfl rfl).trans ran⟩
      | choose op o inner =>
          obtain ⟨span, rest, rfl, others⟩ := lexemes_cons _ _ _ finishes
          obtain ⟨grammar, ran⟩ := ih (.choose op o (node :: inner).reverse span) rest around others
          exact ⟨grammar, (run_close limit stop _ _ span rest rfl rfl rfl).trans ran⟩
      | define op name => exact ih (.define op name node) tokens around finishes
      | optional op => exact ih (.optional op node) tokens around finishes
      | regex op pattern =>
          obtain ⟨span, rest, rfl, others⟩ := lexemes_cons _ _ _ finishes
          obtain ⟨grammar, ran⟩ :=
            ih (.regex op pattern node (.literal ⟨"", '\'', span⟩)) rest around others
          exact ⟨grammar, (run_begin limit stop _ _ _ rest rfl room (by simp [Lexeme.filler]) rfl).trans ran⟩
      | regexElse op pattern matched => exact ih (.regex op pattern matched node) tokens around finishes

theorem frames_within (limit : Nat) (frames : List Frame) (within : FramesWithin limit frames) :
    frames.length ≤ limit := by
  cases frames with
  | nil => exact Nat.zero_le limit
  | cons frame frames =>
      have inside := within.1
      rw [List.length_cons]
      cases frame with
      | group o inner => exact inside.1
      | choose op o inner => exact inside.1
      | regexElse op pattern matched => exact inside.1
      | define op name => exact inside
      | optional op => exact inside
      | regex op pattern => exact inside

theorem filler_completes (limit stop : Nat) (state : Partial) (tokens : List Token)
    (extra : List Lexeme) (awaits : state.awaiting = .statement) (room : state.frames.length < limit)
    (finishes : tokens.map Token.lexeme =
      .filler :: (state.frames.flatMap Frame.missing ++ .closing :: extra)) :
    ∃ grammar, state.run limit stop tokens = .ok grammar := by
  obtain ⟨span, rest, rfl, others⟩ := lexemes_cons _ _ _ finishes
  obtain ⟨grammar, ran⟩ := supply_completes limit stop state.opening state.done
    (.literal ⟨"", '\'', span⟩) state.frames rest extra room others
  exact ⟨grammar,
    (run_begin limit stop state _ _ rest awaits room (by simp [Lexeme.filler]) rfl).trans ran⟩

-- One level more than the limit is enough: an operator that was read at the limit may still need
-- its operands.
theorem missing_completes (limit stop : Nat) (state : Partial) (tokens : List Token)
    (extra : List Lexeme) (within : state.Within limit)
    (finishes : tokens.map Token.lexeme = state.missing ++ extra) :
    ∃ grammar, state.run (limit + 1) stop tokens = .ok grammar := by
  have depth := frames_within limit state.frames within.frames
  have shallow := within.shallow
  rcases state with ⟨opening, done, frames, awaiting⟩
  dsimp only at depth shallow
  cases awaiting with
  | statement =>
      cases frames with
      | nil =>
          obtain ⟨span, rest, rfl, -⟩ := lexemes_cons _ _ _ finishes
          exact ⟨_, run_root (limit + 1) stop opening span done rest⟩
      | cons frame frames =>
          rw [List.length_cons] at depth
          cases frame with
          | group o inner =>
              obtain ⟨span, rest, rfl, others⟩ := lexemes_cons _ _ _ finishes
              obtain ⟨grammar, ran⟩ := supply_completes (limit + 1) stop opening done
                (.group o inner.reverse span) frames rest extra (by omega)
                (others.trans (missing_extra frames extra))
              exact ⟨grammar, (run_close _ stop _ _ span rest rfl rfl rfl).trans ran⟩
          | choose op o inner =>
              obtain ⟨span, rest, rfl, others⟩ := lexemes_cons _ _ _ finishes
              obtain ⟨grammar, ran⟩ := supply_completes (limit + 1) stop opening done
                (.choose op o inner.reverse span) frames rest extra (by omega)
                (others.trans (missing_extra frames extra))
              exact ⟨grammar, (run_close _ stop _ _ span rest rfl rfl rfl).trans ran⟩
          | define op name | optional op | regex op pattern | regexElse op pattern matched =>
              apply filler_completes (limit + 1) stop _ tokens extra rfl
              · simp only [List.length_cons]
                omega
              · simpa [missing, openGroup] using finishes
  | name op =>
      have inside := shallow (by simp)
      obtain ⟨span, rest, rfl, others⟩ := lexemes_cons _ _ _ finishes
      change ∃ grammar, (Partial.mk opening done (.define op ⟨"x", span⟩ :: frames) .statement).run
        (limit + 1) stop rest = .ok grammar
      apply filler_completes (limit + 1) stop _ rest extra rfl
      · simp only [List.length_cons]
        omega
      · simpa [Frame.missing] using others
  | alternatives op =>
      obtain ⟨span, rest, rfl, others⟩ := lexemes_cons _ _ _ finishes
      obtain ⟨closing, behind, rfl, others⟩ := lexemes_cons _ _ _ others
      obtain ⟨grammar, ran⟩ := supply_completes (limit + 1) stop opening done
        (.choose op span [] closing) frames behind extra (by omega) (by simpa using others)
      exact ⟨grammar, (run_close _ stop
        (Partial.mk opening done (.choose op span [] :: frames) .statement) _ closing behind rfl rfl
        rfl).trans ran⟩
  | pattern op =>
      have inside := shallow (by simp)
      obtain ⟨span, rest, rfl, others⟩ := lexemes_cons _ _ _ finishes
      change ∃ grammar, (Partial.mk opening done (.regex op ⟨"", '\'', span⟩ :: frames) .statement).run
        (limit + 1) stop rest = .ok grammar
      apply filler_completes (limit + 1) stop _ rest extra rfl
      · simp only [List.length_cons]
        omega
      · simpa [Frame.missing] using others

end Partial

end TextGrammar

import TextGrammar.Proofs.Flattening
import TextGrammar.Proofs.Lexing

set_option autoImplicit false

namespace TextGrammar

inductive LexemeKind where
  | opening
  | closing
  | operator (operator : Operator)
  | name
  | quoted
  | stray (char : Char)
deriving DecidableEq

def Lexeme.kind : Lexeme → LexemeKind
  | .opening => .opening
  | .closing => .closing
  | .operator op => .operator op
  | .name _ => .name
  | .literal .. => .quoted
  | .unclosed _ => .quoted
  | .stray c => .stray c

def LexemeKind.ofFirst (c : Char) : LexemeKind :=
  if c = groupOpening then .opening
  else if c = groupClosing then .closing
  else if isQuote c then .quoted
  else if isNameChar c then .name
  else
    match Operator.all.find? (·.symbol.toList == [c]) with
    | some found => .operator found
    | none => .stray c

theorem spells_kind (lexeme : Lexeme) (c : Char) (left next : List Char)
    (spells : Lexeme.Spells lexeme (c :: left) next) : lexeme.kind = LexemeKind.ofFirst c := by
  generalize shape : c :: left = word at spells
  cases spells with
  | opening =>
      obtain ⟨rfl, -⟩ := List.cons.inj shape
      decide
  | closing =>
      obtain ⟨rfl, -⟩ := List.cons.inj shape
      decide
  | operator operator =>
      cases operator <;> obtain ⟨rfl, -⟩ := List.cons.inj shape <;> decide
  | name maximal =>
      have named : isNameChar c = true := maximal.2.1 c (by simp [← shape])
      obtain ⟨-, opens, closes, delimits⟩ := Cursor.name_distinct c named
      simp [LexemeKind.ofFirst, Lexeme.kind, opens, closes, delimits, named]
  | literal delimits first =>
      obtain ⟨rfl, -⟩ := List.cons.inj shape
      obtain ⟨-, opens, closes, -⟩ := Cursor.quote_distinct c delimits
      simp [LexemeKind.ofFirst, Lexeme.kind, opens, closes, delimits]
  | unclosed delimits escaped =>
      obtain ⟨rfl, -⟩ := List.cons.inj shape
      obtain ⟨-, opens, closes, -⟩ := Cursor.quote_distinct c delimits
      simp [LexemeKind.ofFirst, Lexeme.kind, opens, closes, delimits]
  | stray other =>
      obtain ⟨rfl, -⟩ := List.cons.inj shape
      obtain ⟨-, opens, closes, delimits, named, operators⟩ := other
      have none : Operator.all.find? (·.symbol.toList == [c]) = none := by
        simpa using fun operator _ => operators operator
      simp [LexemeKind.ofFirst, Lexeme.kind, opens, closes, delimits, named, none]

def ReadError.unfinished : ReadError → Bool
  | .unterminatedLiteral _ => true
  | .unterminatedGroup _ => true
  | _ => false

namespace Partial

inductive Reaches (limit : Nat) : Partial → List Token → Partial → Prop where
  | here (state : Partial) : Reaches limit state [] state
  | further {state next last : Partial} {token : Token} {rest : List Token}
      (stepped : state.step limit token = .ok (.partway next)) (more : Reaches limit next rest last) :
      Reaches limit state (token :: rest) last

theorem reaches_run (limit stop : Nat) (state last : Partial) (front rest : List Token)
    (reaches : Reaches limit state front last) :
    state.run limit stop (front ++ rest) = last.run limit stop rest := by
  induction reaches with
  | here state => rfl
  | further stepped more ih =>
      rw [List.cons_append, run, stepped]
      exact ih

theorem reaches_last (limit : Nat) (state last next : Partial) (front : List Token) (token : Token)
    (reaches : Reaches limit state front last)
    (stepped : last.step limit token = .ok (.partway next)) :
    Reaches limit state (front ++ [token]) next := by
  induction reaches with
  | here state => exact .further stepped (.here next)
  | further first more ih => exact .further first (ih stepped)

theorem reaches_within (limit : Nat) (state last : Partial) (front : List Token)
    (within : state.Within limit) (reaches : Reaches limit state front last) :
    last.Within limit := by
  induction reaches with
  | here state => exact within
  | further stepped more ih =>
      exact ih (steps_within limit _ _ _ within (step_steps limit _ _ _ stepped))

theorem run_fails (limit stop : Nat) (state : Partial) (tokens : List Token) (error : ReadError)
    (failed : state.run limit stop tokens = .error error) :
    ∃ front last, Reaches limit state front last ∧
      ((tokens = front ∧ error = last.atEnd limit stop) ∨
        ∃ token rest, tokens = front ++ token :: rest ∧ last.step limit token = .error error) := by
  induction tokens generalizing state with
  | nil =>
      rw [run] at failed
      cases failed
      exact ⟨[], state, .here state, .inl ⟨rfl, rfl⟩⟩
  | cons token rest ih =>
      rw [run] at failed
      cases stepped : state.step limit token with
      | error found =>
          rw [stepped] at failed
          cases failed
          exact ⟨[], state, .here state, .inr ⟨token, rest, rfl, stepped⟩⟩
      | ok progress =>
          rw [stepped] at failed
          cases progress with
          | complete grammar => cases failed
          | partway next =>
              obtain ⟨front, last, reaches, ends⟩ := ih next failed
              refine ⟨token :: front, last, .further stepped reaches, ?_⟩
              cases ends with
              | inl ended => exact .inl ⟨by rw [ended.1], ended.2⟩
              | inr ended =>
                  obtain ⟨bad, others, shape, fails⟩ := ended
                  exact .inr ⟨bad, others, by rw [shape]; rfl, fails⟩

theorem step_more (limit limit' : Nat) (state : Partial) (token : Token) (progress : Progress)
    (more : limit ≤ limit') (stepped : state.step limit token = .ok progress) :
    state.step limit' token = .ok progress := by
  rw [step] at stepped ⊢
  cases awaits : state.awaiting with
  | statement =>
      simp only [awaits] at stepped ⊢
      by_cases closes : token.lexeme = .closing ∧ state.openGroup.isSome = true
      · rwa [if_pos closes] at stepped ⊢
      · rw [if_neg closes] at stepped ⊢
        by_cases deep : limit ≤ state.frames.length
        · rw [if_pos deep] at stepped
          cases stepped
        · rw [if_neg deep] at stepped
          rwa [if_neg (by omega)]
  | name op => simpa only [awaits] using stepped
  | alternatives op => simpa only [awaits] using stepped
  | pattern op => simpa only [awaits] using stepped

theorem reaches_more (limit limit' : Nat) (state last : Partial) (front : List Token)
    (more : limit ≤ limit') (reaches : Reaches limit state front last) :
    Reaches limit' state front last := by
  induction reaches with
  | here state => exact .here state
  | further stepped rest ih => exact .further (step_more limit limit' _ _ _ more stepped) ih

theorem step_closed (limit : Nat) (state : Partial) (token : Token) (progress : Progress)
    (stepped : state.step limit token = .ok progress) (quote : Char) :
    token.lexeme ≠ .unclosed quote := by
  intro unclosed
  cases step_steps limit state token progress stepped with
  | close _ closes => simp [unclosed] at closes
  | name _ named => simp [unclosed] at named
  | alternatives _ opens => simp [unclosed] at opens
  | pattern _ quoted => simp [unclosed] at quoted
  | begin _ _ begins =>
      cases begins with
      | group begins => simp [unclosed] at begins
      | literal begins => simp [unclosed] at begins
      | name begins => simp [unclosed] at begins
      | define begins => simp [unclosed] at begins
      | choose begins => simp [unclosed] at begins
      | optional begins => simp [unclosed] at begins
      | regex begins => simp [unclosed] at begins

theorem reaches_closed (limit : Nat) (state last : Partial) (front : List Token)
    (reaches : Reaches limit state front last) :
    ∀ token ∈ front, ∀ quote, token.lexeme ≠ .unclosed quote := by
  induction reaches with
  | here state => simp
  | further stepped more ih =>
      exact List.forall_mem_cons.mpr ⟨step_closed limit _ _ _ stepped, ih⟩

-- Where a token is read, another of its kind is refused only as a literal without an end.
theorem step_kind (limit : Nat) (state : Partial) (token other : Token) (progress : Progress)
    (error : ReadError) (stepped : state.step limit token = .ok progress)
    (same : other.lexeme.kind = token.lexeme.kind)
    (failed : state.step limit other = .error error) : error.unfinished = true := by
  rcases other with ⟨lexeme, span⟩
  have steps := step_steps limit state token progress stepped
  cases steps with
  | close awaits closes collects =>
      rw [closes] at same
      cases lexeme with
      | closing => simp [step, awaits, collects] at failed
      | opening | operator op | name text | literal text quote | unclosed quote | stray c => cases same
  | name awaits named =>
      rw [named] at same
      cases lexeme with
      | name text => simp [step, awaits] at failed
      | opening | closing | operator op | literal text quote | unclosed quote | stray c => cases same
  | alternatives awaits opens =>
      rw [opens] at same
      cases lexeme with
      | opening => simp [step, awaits] at failed
      | closing | operator op | name text | literal text quote | unclosed quote | stray c => cases same
  | pattern awaits quoted =>
      rw [quoted] at same
      cases lexeme with
      | literal text quote => simp [step, awaits] at failed
      | unclosed quote =>
          simp only [step, awaits, Except.error.injEq] at failed
          rw [← failed]
          rfl
      | opening | closing | operator op | name text | stray c => cases same
  | begin awaits shallow begins =>
      have opened (begins : lexeme ≠ .closing) :
          (state.begin ⟨lexeme, span⟩).map Progress.partway = .error error := by
        rwa [step_begin limit state _ awaits shallow begins] at failed
      cases begins with
      | literal begins =>
          rw [begins] at same
          cases lexeme with
          | literal text quote => cases opened (by simp)
          | unclosed quote =>
              cases opened (by simp)
              rfl
          | opening | closing | operator op | name text | stray c => cases same
      | group begins | name begins | define begins | choose begins | optional begins | regex begins =>
          rw [begins] at same
          cases lexeme <;> cases same
          cases opened (by simp)

-- An error of a token stands where the token begins. If it is a literal without an end, a literal
-- with one would have been read.
theorem step_fails (limit : Nat) (state : Partial) (token : Token) (error : ReadError)
    (failed : state.step limit token = .error error) :
    (error.unfinished = false ∧ error.diagnostic.offset = token.span.start) ∨
      ∃ quote, token.lexeme = .unclosed quote ∧ error.unfinished = true ∧
        ∀ text span, ∃ next, state.step limit ⟨.literal text quote, span⟩ = .ok (.partway next) := by
  rcases token with ⟨lexeme, span⟩
  rw [step] at failed
  cases awaits : state.awaiting with
  | statement =>
      simp only [awaits] at failed
      by_cases closes : lexeme = .closing ∧ state.openGroup.isSome = true
      · rw [if_pos closes] at failed
        cases failed
      · rw [if_neg closes] at failed
        by_cases deep : limit ≤ state.frames.length
        · rw [if_pos deep] at failed
          cases failed
          exact .inl ⟨rfl, rfl⟩
        · rw [if_neg deep] at failed
          cases lexeme with
          | unclosed quote =>
              cases failed
              refine .inr ⟨quote, rfl, rfl, fun text span =>
                ⟨state.finish (.literal ⟨text, quote, span⟩) state.frames, ?_⟩⟩
              exact step_begin limit state ⟨.literal text quote, span⟩ awaits (by omega) (by simp)
          | stray c =>
              by_cases mark : isAsciiMark c = true
              · simp only [begin, mark] at failed
                cases failed
                exact .inl ⟨rfl, rfl⟩
              · simp only [begin, mark] at failed
                cases failed
                exact .inl ⟨rfl, rfl⟩
          | closing =>
              cases failed
              exact .inl ⟨rfl, rfl⟩
          | operator op => cases op <;> cases failed
          | opening | name text | literal text quote => cases failed
  | name op =>
      simp only [awaits] at failed
      cases lexeme <;> cases failed <;> exact .inl ⟨rfl, rfl⟩
  | alternatives op =>
      simp only [awaits] at failed
      cases lexeme <;> cases failed <;> exact .inl ⟨rfl, rfl⟩
  | pattern op =>
      simp only [awaits] at failed
      cases lexeme with
      | unclosed quote =>
          cases failed
          exact .inr ⟨quote, rfl, rfl, fun text span => ⟨_, by simp [step, awaits]; rfl⟩⟩
      | literal text quote => cases failed
      | opening | closing | operator op | name text | stray c =>
          cases failed
          exact .inl ⟨rfl, rfl⟩

theorem at_end_place (limit stop : Nat) (state : Partial) :
    (state.atEnd limit stop).unfinished = true ∨
      (state.atEnd limit stop).diagnostic.offset = stop := by
  rw [atEnd]
  cases state.awaiting with
  | statement =>
      cases state.openGroup with
      | some opening => exact .inl rfl
      | none =>
          by_cases deep : limit ≤ state.frames.length
          · simp only [if_pos deep]
            exact .inr rfl
          · simp only [if_neg deep]
            exact .inr rfl
  | name op => exact .inr rfl
  | alternatives op => exact .inr rfl
  | pattern op => exact .inr rfl

end Partial

end TextGrammar

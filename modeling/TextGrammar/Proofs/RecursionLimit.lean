import TextGrammar.Proofs.Draws
import TextGrammar.Proofs.Room
import TextGrammar.Pattern.Standard

set_option autoImplicit false

namespace TextGrammar

namespace Words

def between (words : Words) (first last : Nat) : List UInt64 :=
  (List.range' first (last - first)).map words

theorem index_drawn (words : Words) (count drawn : Nat) (accepts : words.Accepts count drawn) :
    drawn < (words.index count drawn).2 := by
  obtain ⟨more, accepted⟩ := accepts
  induction more generalizing drawn with
  | zero =>
      obtain ⟨index, found⟩ := Option.isSome_iff_exists.mp accepted
      rw [Nat.add_zero] at found
      rw [index_eq, found]
      exact Nat.lt_succ_self drawn
  | succ more ih =>
      rw [index_eq]
      cases found : indexOfWord count (words drawn) with
      | some index => exact Nat.lt_succ_self drawn
      | none =>
          rw [← Nat.add_assoc, Nat.add_right_comm] at accepted
          exact Nat.lt_of_succ_lt (ih (drawn + 1) accepted)

theorem serve_drawn (words : Words) (drawn : Nat) (decisions : List Decision)
    (serve : words.Serve drawn decisions) : drawn ≤ decisions.foldl words.behind drawn := by
  induction decisions generalizing drawn with
  | nil => exact Nat.le_refl drawn
  | cons decision rest ih =>
      obtain ⟨accepts, later⟩ := serve
      refine Nat.le_trans ?_ (ih _ later)
      cases decision with
      | choose index count => exact Nat.le_of_lt (words.index_drawn count drawn (accepts _ _ rfl))
      | optional taken => exact Nat.le_succ drawn
      | regex pattern matched => exact Nat.le_refl drawn

theorem between_prefix (words : Words) (first middle last : Nat) (ordered : middle ≤ last) :
    words.between first middle <+: words.between first last := by
  have longer : last - first = (middle - first) + (last - first - (middle - first)) := by omega
  rw [between, between, longer, ← List.range'_append_1, List.map_append]
  exact List.prefix_append _ _

end Words

section

variable [Pattern.Engine]

-- The first run ends as the second does, or at its limit, which is smaller, and the second goes on.
def CutShort (words : Words) (limit limit' : Nat) (result result' : Result) (last last' : Run) :
    Prop :=
  (result = result' ∧ last = last') ∨
    (limit < limit' ∧ (∃ name place, result = .error (.recursionLimit name limit place)) ∧
      last.Continues words last')

omit [Pattern.Engine] in
theorem cut_later (words : Words) (limit limit' : Nat) (result middle result' : Result)
    (last between last' : Run) (cut : CutShort words limit limit' result middle last between)
    (differs : result ≠ middle) (goesOn : between.Continues words last') :
    CutShort words limit limit' result result' last last' := by
  rcases cut with ⟨same, -⟩ | ⟨less, limited, continues⟩
  · exact absurd same differs
  · exact .inr ⟨less, limited, Run.continues_trans words _ _ _ continues goesOn⟩

omit [Pattern.Engine] in
theorem cut_ok (words : Words) (limit limit' : Nat) (production : Production) (result' : Result)
    (last last' : Run) (cut : CutShort words limit limit' (.ok production) result' last last') :
    result' = .ok production ∧ last = last' := by
  rcases cut with ⟨same, runs⟩ | ⟨-, ⟨name, place, limited⟩, -⟩
  · exact ⟨same.symm, runs⟩
  · cases limited

-- By induction on the evaluation under the smaller limit. Nothing but an expansion looks at the
-- limit, and the counters are the same on both sides.
theorem evaluates_cut (words : Words) (input : String) (limit limit' : Nat) (less : limit ≤ limit')
    (task : Task) (environment : Environment) (run last last' : Run) (result result' : Result)
    (low : Evaluates ⟨words, input, limit⟩ task environment run result last)
    (high : Evaluates ⟨words, input, limit'⟩ task environment run result' last') :
    CutShort words limit limit' result result' last last' := by
  induction low generalizing result' last' with
  | literal =>
      cases high
      exact .inl ⟨rfl, rfl⟩
  | unresolved n environment run missing =>
      cases high with
      | unresolved => exact .inl ⟨rfl, rfl⟩
      | limited _ _ _ _ bound | expanded _ _ _ _ _ _ bound => cases missing.symm.trans bound
  | limited n environment run body bound full =>
      have goesOn := evaluates_continues _ _ _ _ _ _ high
      by_cases same : limit = limit'
      · subst same
        cases high with
        | unresolved _ _ _ missing => cases missing.symm.trans bound
        | limited => exact .inl ⟨rfl, rfl⟩
        | expanded _ _ _ _ _ _ _ free => exact absurd full (Nat.not_lt.mpr free)
      · exact .inr ⟨by omega, ⟨n.text, n.span, rfl⟩, goesOn⟩
  | expanded n environment run last body result bound free _ ih =>
      cases high with
      | unresolved _ _ _ missing => cases missing.symm.trans bound
      | limited _ _ _ _ _ full => exact absurd full (Nat.not_lt.mpr (Nat.le_trans free less))
      | expanded _ _ _ last' body' _ bound' _ inner =>
          obtain rfl : body = body' := Option.some.inj (bound.symm.trans bound')
          rcases ih last' _ inner with ⟨rfl, rfl⟩ | shorter
          · exact .inl ⟨rfl, rfl⟩
          · exact .inr shorter
  | group _ _ _ _ _ _ _ _ ih =>
      cases high with
      | group _ _ _ _ _ _ _ inner => exact ih _ _ inner
  | define | nil =>
      cases high
      exact .inl ⟨rfl, rfl⟩
  | chooseNone =>
      cases high with
      | chooseNone => exact .inl ⟨rfl, rfl⟩
      | choose _ _ _ _ _ _ _ _ _ _ _ some => exact absurd rfl some
      | chooseBeyond _ _ _ _ _ _ _ _ some => exact absurd rfl some
  | choose _ _ _ _ _ _ _ _ index drawn chosen some draw found _ ih =>
      cases high with
      | chooseNone => exact absurd rfl some
      | choose _ _ _ _ _ _ _ _ _ _ _ _ draw' found' inner =>
          cases draw.symm.trans draw'
          cases found.symm.trans found'
          exact ih _ _ inner
      | chooseBeyond _ _ _ _ _ _ _ _ _ draw' beyond =>
          cases draw.symm.trans draw'
          cases found.symm.trans beyond
  | chooseBeyond _ _ _ _ _ _ index drawn some draw beyond =>
      cases high with
      | chooseNone => exact absurd rfl some
      | choose _ _ _ _ _ _ _ _ _ _ _ _ draw' found =>
          cases draw.symm.trans draw'
          cases found.symm.trans beyond
      | chooseBeyond _ _ _ _ _ _ _ _ _ draw' =>
          cases draw.symm.trans draw'
          exact .inl ⟨rfl, rfl⟩
  | taken _ _ _ _ _ _ drawn draw _ ih =>
      cases high with
      | taken _ _ _ _ _ _ _ draw' inner =>
          cases draw.symm.trans draw'
          exact ih _ _ inner
      | passed _ _ _ _ _ draw' => cases draw.symm.trans draw'
  | passed _ _ _ _ drawn draw =>
      cases high with
      | taken _ _ _ _ _ _ _ draw' => cases draw.symm.trans draw'
      | passed _ _ _ _ _ draw' =>
          cases draw.symm.trans draw'
          exact .inl ⟨rfl, rfl⟩
  | invalid _ _ _ _ _ _ fault read =>
      cases high with
      | invalid _ _ _ _ _ _ _ read' =>
          cases read.symm.trans read'
          exact .inl ⟨rfl, rfl⟩
      | matched _ _ _ _ _ _ _ _ _ read' | unmatched _ _ _ _ _ _ _ _ _ read' =>
          cases read.symm.trans read'
  | matched _ _ _ _ _ _ _ _ pattern read accepts _ ih =>
      cases high with
      | invalid _ _ _ _ _ _ _ read' => cases read.symm.trans read'
      | matched _ _ _ _ _ _ _ _ _ read' _ inner =>
          cases read.symm.trans read'
          exact ih _ _ inner
      | unmatched _ _ _ _ _ _ _ _ _ read' refuses =>
          cases read.symm.trans read'
          cases accepts.symm.trans refuses
  | unmatched _ _ _ _ _ _ _ _ pattern read refuses _ ih =>
      cases high with
      | invalid _ _ _ _ _ _ _ read' => cases read.symm.trans read'
      | matched _ _ _ _ _ _ _ _ _ read' accepts =>
          cases read.symm.trans read'
          cases accepts.symm.trans refuses
      | unmatched _ _ _ _ _ _ _ _ _ read' _ inner =>
          cases read.symm.trans read'
          exact ih _ _ inner
  | failed _ _ _ _ _ _ error _ ih =>
      cases high with
      | failed _ _ _ _ _ _ _ head => exact ih _ _ head
      | cons _ _ _ _ _ _ _ middle _ _ head tail =>
          exact cut_later words limit limit' _ _ _ _ middle _ (ih _ _ head) nofun
            (evaluates_continues _ _ _ _ _ _ tail)
  | cons _ text _ _ _ between _ middle _ _ _ _ headCut tailCut =>
      cases high with
      | failed _ _ _ _ _ _ error head =>
          obtain ⟨impossible, -⟩ := cut_ok _ _ _ _ _ _ _ (headCut _ _ head)
          cases impossible
      | cons _ _ _ _ _ _ _ _ _ _ head tail =>
          obtain ⟨same, rfl⟩ := cut_ok _ _ _ _ _ _ _ (headCut _ _ head)
          cases same
          exact tailCut _ _ tail

theorem evaluates_deterministic (setting : Setting) (task : Task) (environment : Environment)
    (run last last' : Run) (result result' : Result)
    (one : Evaluates setting task environment run result last)
    (other : Evaluates setting task environment run result' last') :
    result = result' ∧ last = last' := by
  rcases evaluates_cut setting.words setting.input setting.limit setting.limit (Nat.le_refl _) task
    environment run last last' result result' one other with same | ⟨less, -⟩
  · exact same
  · exact absurd less (Nat.lt_irrefl _)

def Run.outcome (run : Run) (result : Result) : Outcome :=
  ⟨result, run.drawn, run.decisions.reverse⟩

theorem sample_outcome (grammar : Grammar) (setting : Setting) (environment : Environment)
    (drawn : Nat) :
    ∃ result last, Evaluates setting (.all "" grammar.statements) environment (Run.start drawn)
        result last ∧ grammar.sample setting environment drawn = last.outcome result := by
  obtain ⟨last, evaluates, consumed, decided⟩ := sample_evaluates grammar setting environment drawn
  refine ⟨_, last, evaluates, ?_⟩
  rw [Run.outcome, ← consumed, ← decided]

theorem evaluates_sample (grammar : Grammar) (setting : Setting) (environment : Environment)
    (drawn : Nat) (result : Result) (last : Run)
    (evaluates : Evaluates setting (.all "" grammar.statements) environment (Run.start drawn)
      result last) : grammar.sample setting environment drawn = last.outcome result := by
  obtain ⟨result', last', found, same⟩ := sample_outcome grammar setting environment drawn
  obtain ⟨rfl, rfl⟩ := evaluates_deterministic _ _ _ _ _ _ _ _ evaluates found
  exact same

-- A run that began with `drawn` words used up ended at its limit, and what it has drawn until then
-- is what the whole run draws first.
structure Outcome.CutFrom (outcome whole : Outcome) (words : Words) (drawn limit : Nat) : Prop where
  limited : ∃ name place, outcome.result = .error (.recursionLimit name limit place)
  decisions : outcome.decisions <+: whole.decisions
  onward : drawn ≤ outcome.drawn
  words : words.between drawn outcome.drawn <+: words.between drawn whole.drawn

omit [Pattern.Engine] in
theorem cut_outcome (words : Words) (limit limit' drawn : Nat) (result result' : Result)
    (last last' : Run) (begun : (Run.start drawn).Continues words last)
    (cut : CutShort words limit limit' result result' last last')
    (serve : words.Serve drawn (last'.outcome result').decisions) :
    last.outcome result = last'.outcome result' ∨
      (last.outcome result).CutFrom (last'.outcome result') words drawn limit := by
  rcases cut with ⟨rfl, rfl⟩ | ⟨-, limited, more, takenLater, drawnLater⟩
  · exact .inl rfl
  · obtain ⟨decisions, taken, position⟩ := begun
    have first : last.decisions.reverse = decisions := by simp [taken, Run.start]
    have all : last'.decisions.reverse = decisions ++ more := by
      rw [takenLater, List.reverse_append, List.reverse_reverse, first]
    have positionFirst : last.drawn = decisions.foldl words.behind drawn := position
    rw [Run.outcome, all, Words.serve_append, ← positionFirst] at serve
    have onward := words.serve_drawn drawn decisions serve.1
    have later := words.serve_drawn _ more serve.2
    rw [← positionFirst] at onward
    rw [← drawnLater] at later
    refine .inr ⟨limited, ?_, onward, words.between_prefix drawn _ _ later⟩
    rw [Run.outcome, Run.outcome, first, all]
    exact List.prefix_append decisions more

theorem smaller_limit_cuts (grammar : Grammar) (environment : Environment) (words : Words)
    (input : String) (drawn limit limit' : Nat) (less : limit ≤ limit')
    (serve : words.Serve drawn
      (grammar.sample ⟨words, input, limit'⟩ environment drawn).decisions) :
    grammar.sample ⟨words, input, limit⟩ environment drawn =
        grammar.sample ⟨words, input, limit'⟩ environment drawn ∨
      (grammar.sample ⟨words, input, limit⟩ environment drawn).CutFrom
        (grammar.sample ⟨words, input, limit'⟩ environment drawn) words drawn limit := by
  obtain ⟨result, last, low, same⟩ :=
    sample_outcome grammar ⟨words, input, limit⟩ environment drawn
  obtain ⟨result', last', high, same'⟩ :=
    sample_outcome grammar ⟨words, input, limit'⟩ environment drawn
  rw [same'] at serve
  rw [same, same']
  exact cut_outcome words limit limit' drawn result result' last last'
    (evaluates_continues _ _ _ _ _ _ low)
    (evaluates_cut words input limit limit' less _ _ _ _ _ _ _ low high) serve

end

-- |('x' ('y' a))
def recurring : Node :=
  .choose ⟨5, 1⟩ ⟨6, 1⟩
    [.literal ⟨"x", '\'', ⟨7, 3⟩⟩,
      .group ⟨11, 1⟩ [.literal ⟨"y", '\'', ⟨12, 3⟩⟩, .name ⟨"a", ⟨16, 1⟩⟩] ⟨17, 1⟩]
    ⟨18, 1⟩

-- (= a |('x' ('y' a)) a)
def recurrent : Grammar :=
  ⟨⟨0, 1⟩, [.define ⟨1, 1⟩ ⟨"a", ⟨3, 1⟩⟩ recurring, .name ⟨"a", ⟨20, 1⟩⟩], ⟨21, 1⟩⟩

-- The first word is refused and drawn again. The second draw is made by the greater limit alone.
theorem smaller_limit_cuts_recurrent :
    let words := Words.script [0xffffffffffffffff, 0x8000000000000000]
    let outcome := recurrent.sample ⟨words, "", 0⟩ Bindings.empty 0
    let whole := recurrent.sample ⟨words, "", 1⟩ Bindings.empty 0
    words.Serve 0 whole.decisions ∧
      whole.result = .ok ("yx", Bindings.empty.insert "a" recurring) ∧
      words.between 0 whole.drawn = [0xffffffffffffffff, 0x8000000000000000, 0] ∧
      outcome.result = .error (.recursionLimit "a" 0 ⟨16, 1⟩) ∧
      outcome.CutFrom whole words 0 0 := by
  intro words outcome whole
  have refused : indexOfWord 2 (words 0) = none := by decide
  have accepted : indexOfWord 2 (words 1) = some 1 := by decide
  have accepted' : indexOfWord 2 (words 2) = some 0 := by decide
  have draw : words.index 2 0 = (1, 2) := by
    rw [Words.index_eq, refused]
    dsimp only
    rw [Words.index_eq, accepted]
  have draw' : words.index 2 2 = (0, 3) := by rw [Words.index_eq, accepted']
  have ended : whole = _ := evaluates_sample recurrent ⟨words, "", 1⟩ Bindings.empty 0 _ _
    (.cons _ _ _ _ _ _ _ _ _ _ (.define _ _ _ _ _)
      (.cons _ "yx" _ _ _ _ _ _ _ _
        (.expanded _ _ _ _ recurring _ rfl (by decide)
          (.choose _ _ _ _ _ _ _ _ 1 2 _ nofun draw rfl
            (.group _ _ _ _ _ _ _
              (.cons _ _ _ _ _ _ _ _ _ _ (.literal _ _ _)
                (.cons _ "x" _ _ _ _ _ _ _ _
                  (.expanded _ _ _ _ recurring _ rfl (by decide)
                    (.choose _ _ _ _ _ _ _ _ 0 3 _ nofun draw' rfl (.literal _ _ _)))
                  (.nil _ _ _))))))
        (.nil _ _ _)))
  have limited : outcome = _ := evaluates_sample recurrent ⟨words, "", 0⟩ Bindings.empty 0 _ _
    (.cons _ _ _ _ _ _ _ _ _ _ (.define _ _ _ _ _)
      (.failed _ _ _ _ _ _ _
        (.expanded _ _ _ _ recurring _ rfl (by decide)
          (.choose _ _ _ _ _ _ _ _ 1 2 _ nofun draw rfl
            (.group _ _ _ _ _ _ _
              (.cons _ _ _ _ _ _ _ _ _ _ (.literal _ _ _)
                (.failed _ _ _ _ _ _ _ (.limited _ _ _ recurring rfl (by decide)))))))))
  have decided : whole.decisions = [.choose 1 2, .choose 0 2] := by
    rw [ended]
    rfl
  have serve : words.Serve 0 whole.decisions := by
    rw [decided]
    refine ⟨?_, ?_, trivial⟩
    · rintro index count ⟨⟩
      exact ⟨1, by rw [Nat.zero_add, accepted, Option.isSome_some]⟩
    · rintro index count ⟨⟩
      rw [Words.behind, draw]
      exact ⟨0, by rw [accepted', Option.isSome_some]⟩
  have result : whole.result = .ok ("yx", Bindings.empty.insert "a" recurring) := by
    rw [ended]
    rfl
  have failed : outcome.result = .error (.recursionLimit "a" 0 ⟨16, 1⟩) := by
    rw [limited]
    rfl
  refine ⟨serve, result, ?_, failed, ?_⟩
  · rw [ended]
    decide
  · have either := smaller_limit_cuts recurrent Bindings.empty words "" 0 0 1 (by decide) serve
    refine either.resolve_left fun same => ?_
    have equal : outcome = whole := same
    rw [equal, result] at failed
    cases failed

end TextGrammar

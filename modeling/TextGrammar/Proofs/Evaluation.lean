import TextGrammar.Sampling.Sample

set_option autoImplicit false

namespace TextGrammar

abbrev Result := Except SamplingError Production

inductive Task where
  | one (node : Node)
  | all (output : String) (nodes : List Node)

section

variable [Pattern.Engine]

-- There is no bound on the expansions inside one another, and a failing evaluation leaves a run as
-- well.
inductive Evaluates (setting : Setting) : Task → Environment → Run → Result → Run → Prop where
  | literal (l : Literal) (environment : Environment) (run : Run) :
      Evaluates setting (.one (.literal l)) environment run (.ok (l.text, environment)) run
  | unresolved (n : Name) (environment : Environment) (run : Run)
      (missing : environment.get? n.text = none) :
      Evaluates setting (.one (.name n)) environment run (.error (.unresolved n.text n.span)) run
  | limited (n : Name) (environment : Environment) (run : Run) (body : Node)
      (bound : environment.get? n.text = some body) (full : setting.limit < run.openCount n.text) :
      Evaluates setting (.one (.name n)) environment run
        (.error (.recursionLimit n.text setting.limit n.span)) run
  | expanded (n : Name) (environment : Environment) (run last : Run) (body : Node) (result : Result)
      (bound : environment.get? n.text = some body) (free : run.openCount n.text ≤ setting.limit)
      (inner : Evaluates setting (.one body) environment (run.enter n.text) result last) :
      Evaluates setting (.one (.name n)) environment run result (last.leave n.text)
  | group (opening closing : Span) (statements : List Node) (environment : Environment)
      (run last : Run) (result : Result)
      (inner : Evaluates setting (.all "" statements) environment run result last) :
      Evaluates setting (.one (.group opening statements closing)) environment run result last
  | define (op : Span) (n : Name) (body : Node) (environment : Environment) (run : Run) :
      Evaluates setting (.one (.define op n body)) environment run
        (.ok ("", environment.insert n.text body)) run
  | chooseNone (op opening closing : Span) (environment : Environment) (run : Run) :
      Evaluates setting (.one (.choose op opening [] closing)) environment run (.ok ("", environment)) run
  | choose (op opening closing : Span) (alternatives : List Node) (environment : Environment)
      (run last : Run) (result : Result) (index drawn : Nat) (chosen : Node)
      (some : alternatives ≠ [])
      (draw : setting.words.index alternatives.length run.drawn = (index, drawn))
      (found : alternatives[index]? = .some chosen)
      (inner : Evaluates setting (.one chosen) environment
        (run.record drawn (.choose index alternatives.length)) result last) :
      Evaluates setting (.one (.choose op opening alternatives closing)) environment run result last
  | chooseBeyond (op opening closing : Span) (alternatives : List Node) (environment : Environment)
      (run : Run) (index drawn : Nat) (some : alternatives ≠ [])
      (draw : setting.words.index alternatives.length run.drawn = (index, drawn))
      (beyond : alternatives[index]? = none) :
      Evaluates setting (.one (.choose op opening alternatives closing)) environment run
        (.ok ("", environment)) (run.record drawn (.choose index alternatives.length))
  | taken (op : Span) (body : Node) (environment : Environment) (run last : Run) (result : Result)
      (drawn : Nat) (draw : setting.words.coin run.drawn = (true, drawn))
      (inner : Evaluates setting (.one body) environment (run.record drawn (.optional true)) result last) :
      Evaluates setting (.one (.optional op body)) environment run result last
  | passed (op : Span) (body : Node) (environment : Environment) (run : Run) (drawn : Nat)
      (draw : setting.words.coin run.drawn = (false, drawn)) :
      Evaluates setting (.one (.optional op body)) environment run (.ok ("", environment))
        (run.record drawn (.optional false))
  | invalid (op : Span) (source : Literal) (matched unmatched : Node) (environment : Environment)
      (run : Run) (fault : Pattern.Fault)
      (read : Pattern.Engine.read source.text = .error fault) :
      Evaluates setting (.one (.regex op source matched unmatched)) environment run
        (.error (.invalidPattern source.text fault source.span)) run
  | matched (op : Span) (source : Literal) (matched unmatched : Node) (environment : Environment)
      (run last : Run) (result : Result) (pattern : Pattern)
      (read : Pattern.Engine.read source.text = .ok pattern)
      (accepts : Pattern.Engine.isMatch pattern setting.input = true)
      (inner : Evaluates setting (.one matched) environment
        (run.record run.drawn (.regex source.text true)) result last) :
      Evaluates setting (.one (.regex op source matched unmatched)) environment run result last
  | unmatched (op : Span) (source : Literal) (matched unmatched : Node) (environment : Environment)
      (run last : Run) (result : Result) (pattern : Pattern)
      (read : Pattern.Engine.read source.text = .ok pattern)
      (refuses : Pattern.Engine.isMatch pattern setting.input = false)
      (inner : Evaluates setting (.one unmatched) environment
        (run.record run.drawn (.regex source.text false)) result last) :
      Evaluates setting (.one (.regex op source matched unmatched)) environment run result last
  | nil (output : String) (environment : Environment) (run : Run) :
      Evaluates setting (.all output []) environment run (.ok (output, environment)) run
  | failed (output : String) (node : Node) (rest : List Node) (environment : Environment)
      (run last : Run) (error : SamplingError)
      (head : Evaluates setting (.one node) environment run (.error error) last) :
      Evaluates setting (.all output (node :: rest)) environment run (.error error) last
  | cons (output text : String) (node : Node) (rest : List Node)
      (environment between : Environment) (run middle last : Run) (result : Result)
      (head : Evaluates setting (.one node) environment run (.ok (text, between)) middle)
      (tail : Evaluates setting (.all (output ++ text) rest) between middle result last) :
      Evaluates setting (.all output (node :: rest)) environment run result last

end

theorem open_count_enter (run : Run) (name other : String) :
    (run.enter name).openCount other =
      if name = other then run.openCount name + 1 else run.openCount other := by
  unfold Run.enter
  rw [Run.openCount, Bindings.get?_insert]
  by_cases same : name = other <;> simp [same, Run.openCount]

theorem open_count_leave (run : Run) (name other : String) :
    (run.leave name).openCount other =
      if name = other then run.openCount name - 1 else run.openCount other := by
  unfold Run.leave
  rw [Run.openCount, Bindings.get?_insert]
  by_cases same : name = other <;> simp [same, Run.openCount]

theorem leave_restores (run last : Run) (name : String)
    (same : ∀ other, last.openCount other = (run.enter name).openCount other) (other : String) :
    (last.leave name).openCount other = run.openCount other := by
  rw [open_count_leave, same, same, open_count_enter, open_count_enter, if_pos rfl]
  by_cases found : name = other
  · rw [if_pos found, Nat.add_sub_cancel, found]
  · rw [if_neg found, if_neg found]

section

variable [Pattern.Engine]

-- Every expansion that was entered is left, also when it fails.
theorem evaluates_restores (setting : Setting) (task : Task) (environment : Environment)
    (run last : Run) (result : Result)
    (evaluates : Evaluates setting task environment run result last) (name : String) :
    last.openCount name = run.openCount name := by
  induction evaluates generalizing name with
  | literal | unresolved | limited | define | chooseNone | chooseBeyond | passed | invalid | nil => rfl
  | expanded n _ run inside _ _ _ _ _ ih => exact leave_restores run inside n.text ih name
  | group _ _ _ _ _ _ _ _ ih | failed _ _ _ _ _ _ _ _ ih => exact ih name
  | choose _ _ _ _ _ _ _ _ _ _ _ _ _ _ _ ih => exact ih name
  | taken _ _ _ _ _ _ _ _ _ ih => exact ih name
  | matched _ _ _ _ _ _ _ _ _ _ _ _ ih | unmatched _ _ _ _ _ _ _ _ _ _ _ _ ih => exact ih name
  | cons _ _ _ _ _ _ _ _ _ _ _ _ headRestores tailRestores => rw [tailRestores, headRestores]

end

end TextGrammar

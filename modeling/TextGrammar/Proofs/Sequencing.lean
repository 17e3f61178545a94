import TextGrammar.Proofs.RecursionLimit

set_option autoImplicit false

namespace TextGrammar

def Result.behind (output : String) : Result → Result
  | .error error => .error error
  | .ok (text, after) => .ok (output ++ text, after)

theorem behind_error (output : String) (result : Result) (error : SamplingError) :
    Result.behind output result = .error error ↔ result = .error error := by
  cases result <;> simp [Result.behind]

theorem behind_ok (output whole : String) (result : Result) (after : Environment) :
    Result.behind output result = .ok (whole, after) ↔
      ∃ text, result = .ok (text, after) ∧ whole = output ++ text := by
  rcases result with error | ⟨text, other⟩
  · simp [Result.behind]
  · simp [Result.behind, and_comm, eq_comm]

-- Both runs go on in the same way, and the second one has come from earlier decisions.
structure Run.Resumes (earlier : List Decision) (run resumed : Run) : Prop where
  drawn : resumed.drawn = run.drawn
  decisions : resumed.decisions = run.decisions ++ earlier
  opened : ∀ name, resumed.openCount name = run.openCount name

theorem resumes_record (earlier : List Decision) (run resumed : Run)
    (resumes : run.Resumes earlier resumed) (drawn : Nat) (decision : Decision) :
    (run.record drawn decision).Resumes earlier (resumed.record drawn decision) :=
  ⟨rfl, congrArg (decision :: ·) resumes.decisions, resumes.opened⟩

theorem resumes_enter (earlier : List Decision) (run resumed : Run)
    (resumes : run.Resumes earlier resumed) (name : String) :
    (run.enter name).Resumes earlier (resumed.enter name) := by
  refine ⟨resumes.drawn, resumes.decisions, fun other => ?_⟩
  rw [open_count_enter, open_count_enter, resumes.opened, resumes.opened]

theorem resumes_leave (earlier : List Decision) (run resumed : Run)
    (resumes : run.Resumes earlier resumed) (name : String) :
    (run.leave name).Resumes earlier (resumed.leave name) := by
  refine ⟨resumes.drawn, resumes.decisions, fun other => ?_⟩
  rw [open_count_leave, open_count_leave, resumes.opened, resumes.opened]

section

variable [Pattern.Engine]

theorem evaluates_behind (setting : Setting) (front output : String) (nodes : List Node)
    (environment : Environment) (run last : Run) (result : Result)
    (evaluates : Evaluates setting (.all output nodes) environment run result last) :
    Evaluates setting (.all (front ++ output) nodes) environment run (Result.behind front result)
      last := by
  induction nodes generalizing output environment run with
  | nil =>
      cases evaluates
      exact .nil (front ++ output) environment last
  | cons node rest ih =>
      cases evaluates with
      | failed _ _ _ _ _ _ error head => exact .failed _ node rest environment run last error head
      | cons _ text _ _ _ between _ middle _ _ head tail =>
          have later := ih (output ++ text) between middle tail
          rw [← String.append_assoc] at later
          exact .cons _ text node rest environment between run middle last _ head later

theorem evaluates_append (setting : Setting) (output text : String) (first second : List Node)
    (environment between : Environment) (run middle last : Run) (result : Result)
    (begins : Evaluates setting (.all output first) environment run (.ok (text, between)) middle)
    (goesOn : Evaluates setting (.all text second) between middle result last) :
    Evaluates setting (.all output (first ++ second)) environment run result last := by
  induction first generalizing output environment run with
  | nil =>
      cases begins
      exact goesOn
  | cons node rest ih =>
      cases begins with
      | cons _ part _ _ _ inside _ within _ _ head tail =>
          exact .cons output part node _ environment inside run within last result head
            (ih _ _ _ tail)

theorem evaluates_append_failed (setting : Setting) (output : String) (first second : List Node)
    (environment : Environment) (run last : Run) (error : SamplingError)
    (fails : Evaluates setting (.all output first) environment run (.error error) last) :
    Evaluates setting (.all output (first ++ second)) environment run (.error error) last := by
  induction first generalizing output environment run with
  | nil => cases fails
  | cons node rest ih =>
      cases fails with
      | failed _ _ _ _ _ _ _ head => exact .failed output node _ environment run last error head
      | cons _ part _ _ _ inside _ within _ _ head tail =>
          exact .cons output part node _ environment inside run within last _ head (ih _ _ _ tail)

-- By induction on the evaluation. Of a run it uses the words drawn and the counters, and it lists its own
-- decisions before the earlier ones.
theorem evaluates_resumed (setting : Setting) (earlier : List Decision) (task : Task)
    (environment : Environment) (run last : Run) (result : Result)
    (evaluates : Evaluates setting task environment run result last) (resumed : Run)
    (resumes : run.Resumes earlier resumed) :
    ∃ ended, Evaluates setting task environment resumed result ended ∧ last.Resumes earlier ended := by
  induction evaluates generalizing resumed with
  | literal l environment run => exact ⟨_, .literal l environment resumed, resumes⟩
  | unresolved n environment run missing =>
      exact ⟨_, .unresolved n environment resumed missing, resumes⟩
  | limited n environment run body bound full =>
      rw [← resumes.opened] at full
      exact ⟨_, .limited n environment resumed body bound full, resumes⟩
  | expanded n environment run last body result bound free _ ih =>
      obtain ⟨ended, inner, still⟩ := ih _ (resumes_enter earlier run resumed resumes n.text)
      rw [← resumes.opened] at free
      exact ⟨_, .expanded n environment resumed ended body result bound free inner,
        resumes_leave earlier last ended still n.text⟩
  | group opening closing statements environment run last result _ ih =>
      obtain ⟨ended, inner, still⟩ := ih resumed resumes
      exact ⟨_, .group opening closing statements environment resumed ended result inner, still⟩
  | define op n body environment run => exact ⟨_, .define op n body environment resumed, resumes⟩
  | chooseNone op opening closing environment run =>
      exact ⟨_, .chooseNone op opening closing environment resumed, resumes⟩
  | choose op opening closing alternatives environment run last result index drawn chosen some draw found
      _ ih =>
      obtain ⟨ended, inner, still⟩ := ih _ (resumes_record earlier run resumed resumes drawn _)
      rw [← resumes.drawn] at draw
      exact ⟨_, .choose op opening closing alternatives environment resumed ended result index drawn chosen
        some draw found inner, still⟩
  | chooseBeyond op opening closing alternatives environment run index drawn some draw beyond =>
      rw [← resumes.drawn] at draw
      exact ⟨_, .chooseBeyond op opening closing alternatives environment resumed index drawn some draw
        beyond, resumes_record earlier run resumed resumes drawn _⟩
  | taken op body environment run last result drawn draw _ ih =>
      obtain ⟨ended, inner, still⟩ := ih _ (resumes_record earlier run resumed resumes drawn _)
      rw [← resumes.drawn] at draw
      exact ⟨_, .taken op body environment resumed ended result drawn draw inner, still⟩
  | passed op body environment run drawn draw =>
      rw [← resumes.drawn] at draw
      exact ⟨_, .passed op body environment resumed drawn draw,
        resumes_record earlier run resumed resumes drawn _⟩
  | invalid op source matched unmatched environment run fault read =>
      exact ⟨_, .invalid op source matched unmatched environment resumed fault read, resumes⟩
  | matched op source matched unmatched environment run last result pattern read accepts _ ih =>
      obtain ⟨ended, inner, still⟩ := ih _ (resumes_record earlier run resumed resumes _ _)
      rw [← resumes.drawn] at inner
      exact ⟨_, .matched op source matched unmatched environment resumed ended result pattern read accepts
        inner, still⟩
  | unmatched op source matched unmatched environment run last result pattern read refuses _ ih =>
      obtain ⟨ended, inner, still⟩ := ih _ (resumes_record earlier run resumed resumes _ _)
      rw [← resumes.drawn] at inner
      exact ⟨_, .unmatched op source matched unmatched environment resumed ended result pattern read refuses
        inner, still⟩
  | nil output environment run => exact ⟨_, .nil output environment resumed, resumes⟩
  | failed output node rest environment run last error _ ih =>
      obtain ⟨ended, head, still⟩ := ih resumed resumes
      exact ⟨_, .failed output node rest environment resumed ended error head, still⟩
  | cons output text node rest environment between run middle last result _ _ headResumed tailResumed =>
      obtain ⟨inside, head, resumesInside⟩ := headResumed resumed resumes
      obtain ⟨ended, tail, still⟩ := tailResumed inside resumesInside
      exact ⟨_, .cons output text node rest environment between resumed inside ended result head tail,
        still⟩

theorem evaluates_afresh (setting : Setting) (text : String) (nodes : List Node)
    (environment : Environment) (run last : Run) (result : Result)
    (closed : ∀ name, run.openCount name = 0)
    (evaluates : Evaluates setting (.all "" nodes) environment (Run.start run.drawn) result last) :
    ∃ ended, Evaluates setting (.all text nodes) environment run (Result.behind text result) ended ∧
      ended.drawn = last.drawn ∧ ended.decisions = last.decisions ++ run.decisions := by
  obtain ⟨ended, again, still⟩ := evaluates_resumed setting run.decisions _ environment _ last result
    evaluates run ⟨rfl, rfl, closed⟩
  have behind := evaluates_behind setting text "" nodes environment run ended result again
  rw [String.append_empty] at behind
  exact ⟨ended, behind, still.drawn, still.decisions⟩

end

def Outcome.followedBy (outcome : Outcome) (call : Environment → Nat → Outcome) : Outcome :=
  match outcome.result with
  | .error _ => outcome
  | .ok (text, between) =>
      let later := call between outcome.drawn
      ⟨Result.behind text later.result, later.drawn, outcome.decisions ++ later.decisions⟩

section

variable [Pattern.Engine]

theorem sample_append (whole first second : Grammar)
    (cut : whole.statements = first.statements ++ second.statements) (setting : Setting)
    (environment : Environment) (drawn : Nat) :
    whole.sample setting environment drawn =
      (first.sample setting environment drawn).followedBy (second.sample setting) := by
  obtain ⟨begun, middle, begins, same⟩ := sample_outcome first setting environment drawn
  rw [same]
  cases begun with
  | error error =>
      refine evaluates_sample whole setting environment drawn _ middle ?_
      rw [cut]
      exact evaluates_append_failed setting "" _ _ environment _ middle error begins
  | ok production =>
      obtain ⟨text, between⟩ := production
      obtain ⟨result, last, evaluates, later⟩ := sample_outcome second setting between middle.drawn
      have closed := fun name => evaluates_restores _ _ _ _ _ _ begins name
      obtain ⟨ended, goesOn, drawnLater, decided⟩ := evaluates_afresh setting text second.statements
        between middle last result closed evaluates
      have joined := evaluates_append setting "" text _ _ environment between _ middle ended _ begins goesOn
      rw [← cut] at joined
      rw [evaluates_sample whole setting environment drawn _ ended joined]
      simp only [Outcome.followedBy, Run.outcome, later, drawnLater, decided, List.reverse_append]

theorem two_calls_equal_one (whole first second : Grammar)
    (cut : whole.statements = first.statements ++ second.statements) (setting : Setting)
    (environment : Environment) (drawn : Nat) :
    let once := whole.sample setting environment drawn
    let begun := first.sample setting environment drawn
    let resumed := fun between => second.sample setting between begun.drawn
    (∀ error, once.result = .error error ↔
      begun.result = .error error ∨
        ∃ text between, begun.result = .ok (text, between) ∧ (resumed between).result = .error error) ∧
    (∀ output after, once.result = .ok (output, after) ↔
      ∃ text between rest, begun.result = .ok (text, between) ∧
        (resumed between).result = .ok (rest, after) ∧ output = text ++ rest) ∧
    (∀ error, begun.result = .error error →
      once.drawn = begun.drawn ∧ once.decisions = begun.decisions) ∧
    ∀ text between, begun.result = .ok (text, between) →
      once.drawn = (resumed between).drawn ∧
        once.decisions = begun.decisions ++ (resumed between).decisions := by
  intro once begun resumed
  have same : once = begun.followedBy (second.sample setting) :=
    sample_append whole first second cut setting environment drawn
  rw [same, Outcome.followedBy]
  rcases ended : begun.result with error | ⟨text, between⟩
  · simp [ended]
  · refine ⟨fun error => ?_, fun output after => ?_, nofun, ?_⟩
    · dsimp only
      rw [behind_error]
      simp [resumed]
    · dsimp only
      rw [behind_ok]
      simp [resumed]
    · rintro _ _ ⟨⟩
      exact ⟨rfl, rfl⟩

end

-- (= a ?'x' a)
def carrying : Grammar where
  opening := ⟨0, 1⟩
  statements :=
    [.define ⟨1, 1⟩ ⟨"a", ⟨3, 1⟩⟩ (.optional ⟨5, 1⟩ (.literal ⟨"x", '\'', ⟨6, 3⟩⟩)), .name ⟨"a", ⟨10, 1⟩⟩]
  closing := ⟨11, 1⟩

-- (= b (a 'y') b c)
def carried : Grammar where
  opening := ⟨0, 1⟩
  statements :=
    [.define ⟨1, 1⟩ ⟨"b", ⟨3, 1⟩⟩
        (.group ⟨5, 1⟩ [.name ⟨"a", ⟨6, 1⟩⟩, .literal ⟨"y", '\'', ⟨8, 3⟩⟩] ⟨11, 1⟩),
      .name ⟨"b", ⟨13, 1⟩⟩, .name ⟨"c", ⟨15, 1⟩⟩]
  closing := ⟨16, 1⟩

-- The second call expands a name that the first one has bound, and succeeds only where c is bound before.
theorem two_calls_equal_one_carrying :
    let setting : Setting := ⟨fun _ => 0, "", 0⟩
    let once : Grammar := { carrying with statements := carrying.statements ++ carried.statements }
    let environment : Environment := Bindings.empty.insert "c" (.literal ⟨"z", '\'', default⟩)
    once.statements = carrying.statements ++ carried.statements ∧
      (once.sample setting Bindings.empty 0).result = .error (.unresolved "c" ⟨15, 1⟩) ∧
      ((once.sample setting environment 0).result.map Prod.fst) = .ok "xxyz" ∧
      (once.sample setting environment 0).drawn = 2 := by
  intro setting once environment
  obtain ⟨fails, -, -, -⟩ := two_calls_equal_one once carrying carried rfl setting Bindings.empty 0
  obtain ⟨-, succeeds, -, counts⟩ := two_calls_equal_one once carrying carried rfl setting environment 0
  refine ⟨rfl, (fails _).mpr (.inr ⟨"x", _, rfl, rfl⟩), ?_, (counts "x" _ rfl).1⟩
  rw [(succeeds "xxyz" _).mpr ⟨"x", _, "xyz", rfl, rfl, rfl⟩]
  rfl

end TextGrammar

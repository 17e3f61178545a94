import TextGrammar.Proofs.Evaluation

set_option autoImplicit false

namespace TextGrammar

namespace Words

def behind (words : Words) (drawn : Nat) : Decision → Nat
  | .choose _ count => (words.index count drawn).2
  | .optional _ => (words.coin drawn).2
  | .regex .. => drawn

-- Every draw of an index ends, when the decisions are taken one after the other.
def Serve (words : Words) : Nat → List Decision → Prop
  | _, [] => True
  | drawn, decision :: rest =>
      (∀ index count, decision = .choose index count → words.Accepts count drawn) ∧
        words.Serve (words.behind drawn decision) rest

theorem serve_append (words : Words) (drawn : Nat) (first second : List Decision) :
    words.Serve drawn (first ++ second) ↔
      words.Serve drawn first ∧ words.Serve (first.foldl words.behind drawn) second := by
  induction first generalizing drawn with
  | nil => simp [Serve]
  | cons decision rest ih => simp [Serve, ih, and_assoc]

theorem serve_accepted (words : Words) (accepted : ∀ count drawn, 0 < count → words.Accepts count drawn)
    (drawn : Nat) (decisions : List Decision) : words.Serve drawn decisions := by
  induction decisions generalizing drawn with
  | nil => trivial
  | cons decision rest ih =>
      refine ⟨fun _ count _ => ?_, ih _⟩
      cases count with
      | zero => exact ⟨0, by simp [indexOfWord]⟩
      | succ count => exact accepted _ drawn (Nat.succ_pos count)

end Words

namespace Run

def Continues (words : Words) (run later : Run) : Prop :=
  ∃ decisions : List Decision, later.decisions = decisions.reverse ++ run.decisions ∧
    later.drawn = decisions.foldl words.behind run.drawn

theorem continues_refl (words : Words) (run : Run) : run.Continues words run := ⟨[], rfl, rfl⟩

theorem continues_trans (words : Words) (run middle later : Run)
    (first : run.Continues words middle) (second : middle.Continues words later) :
    run.Continues words later := by
  obtain ⟨decisions, taken, drawn⟩ := first
  obtain ⟨others, takenLater, drawnLater⟩ := second
  refine ⟨decisions ++ others, ?_, ?_⟩
  · rw [takenLater, taken, List.reverse_append, List.append_assoc]
  · rw [drawnLater, drawn, List.foldl_append]

theorem continues_record (words : Words) (run later : Run) (decision : Decision)
    (goesOn : (run.record (words.behind run.drawn decision) decision).Continues words later) :
    run.Continues words later :=
  continues_trans words run _ later ⟨[decision], rfl, rfl⟩ goesOn

def Served (words : Words) (run later : Run) : Prop :=
  ∃ decisions : List Decision, later.decisions = decisions.reverse ++ run.decisions ∧
    words.Serve run.drawn decisions

theorem served_split (words : Words) (run middle later : Run) (first : run.Continues words middle)
    (second : middle.Continues words later) (served : run.Served words later) :
    run.Served words middle ∧ middle.Served words later := by
  obtain ⟨all, taken, serve⟩ := served
  obtain ⟨front, takenFirst, drawn⟩ := first
  obtain ⟨behind, takenSecond, -⟩ := second
  have both : (front ++ behind).reverse = all.reverse := by
    apply (List.append_left_inj run.decisions).mp
    rw [← taken, takenSecond, takenFirst, List.reverse_append, List.append_assoc]
  rw [← List.reverse_inj.mp both, Words.serve_append, ← drawn] at serve
  exact ⟨⟨front, takenFirst, serve.1⟩, behind, takenSecond, serve.2⟩

theorem served_record (words : Words) (run later : Run) (decision : Decision)
    (goesOn : (run.record (words.behind run.drawn decision) decision).Continues words later)
    (served : run.Served words later) :
    (run.record (words.behind run.drawn decision) decision).Served words later :=
  (served_split words run _ later ⟨[decision], rfl, rfl⟩ goesOn served).2

theorem served_choice (words : Words) (run : Run) (index count drawn : Nat)
    (served : run.Served words (run.record drawn (.choose index count))) :
    words.Accepts count run.drawn := by
  obtain ⟨decisions, taken, serve⟩ := served
  have single : [Decision.choose index count].reverse = decisions.reverse :=
    (List.append_left_inj run.decisions).mp taken
  rw [← List.reverse_inj.mp single] at serve
  exact serve.1 index count rfl

end Run

section

variable [Pattern.Engine]

theorem evaluates_continues (setting : Setting) (task : Task) (environment : Environment)
    (run last : Run) (result : Result)
    (evaluates : Evaluates setting task environment run result last) :
    run.Continues setting.words last := by
  induction evaluates with
  | literal | unresolved | limited | define | chooseNone | invalid | nil =>
      exact Run.continues_refl setting.words _
  | expanded _ _ _ _ _ _ _ _ _ ih => exact ih
  | group _ _ _ _ _ _ _ _ ih | failed _ _ _ _ _ _ _ _ ih => exact ih
  | choose _ _ _ alternatives _ run last _ index drawn _ _ draw _ _ ih =>
      refine Run.continues_record setting.words run last (.choose index alternatives.length) ?_
      rwa [Words.behind, draw]
  | chooseBeyond _ _ _ alternatives _ run index drawn _ draw =>
      refine Run.continues_record setting.words run _ (.choose index alternatives.length) ?_
      rw [Words.behind, draw]
      exact Run.continues_refl setting.words _
  | taken _ _ _ run last _ drawn draw _ ih =>
      refine Run.continues_record setting.words run last (.optional true) ?_
      rwa [Words.behind, draw]
  | passed _ _ _ run drawn draw =>
      refine Run.continues_record setting.words run _ (.optional false) ?_
      rw [Words.behind, draw]
      exact Run.continues_refl setting.words _
  | matched _ source _ _ _ run last _ _ _ _ _ ih =>
      exact Run.continues_record setting.words run last (.regex source.text true) ih
  | unmatched _ source _ _ _ run last _ _ _ _ _ ih =>
      exact Run.continues_record setting.words run last (.regex source.text false) ih
  | cons _ _ _ _ _ _ run middle last _ _ _ head tail =>
      exact Run.continues_trans setting.words run middle last head tail

end

end TextGrammar

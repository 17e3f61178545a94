import TextGrammar.Proofs.Evaluation
import Mathlib.Algebra.Order.BigOperators.Group.Finset

set_option autoImplicit false

namespace TextGrammar

namespace Evaluation

variable {α β : Type}

def outcome (evaluation : Evaluation α) (run : Run) : Except SamplingError α × Run :=
  evaluation.run.run run

theorem outcome_bind (first : Evaluation α) (rest : α → Evaluation β) (run : Run) :
    outcome (first >>= rest) run =
      match outcome first run with
      | (.ok value, between) => outcome (rest value) between
      | (.error error, between) => (.error error, between) := by
  simp only [outcome, ExceptT.run_bind, StateT.run_bind]
  rcases first.run.run run with ⟨_ | value, between⟩ <;> rfl

end Evaluation

namespace Setting

open Evaluation

theorem outcome_choose (setting : Setting) (count index drawn : Nat) (run : Run)
    (draw : setting.words.index count run.drawn = (index, drawn)) :
    (setting.choose count).outcome run = (.ok index, run.record drawn (.choose index count)) := by
  have unfolded : (setting.choose count).outcome run =
      (.ok (setting.words.index count run.drawn).1,
        run.record (setting.words.index count run.drawn).2
          (.choose (setting.words.index count run.drawn).1 count)) := rfl
  rw [unfolded, draw]

theorem outcome_toss (setting : Setting) (taken : Bool) (drawn : Nat) (run : Run)
    (draw : setting.words.coin run.drawn = (taken, drawn)) :
    setting.toss.outcome run = (.ok taken, run.record drawn (.optional taken)) := by
  have unfolded : setting.toss.outcome run =
      (.ok (setting.words.coin run.drawn).1,
        run.record (setting.words.coin run.drawn).2
          (.optional (setting.words.coin run.drawn).1)) := rfl
  rw [unfolded, draw]

theorem outcome_test [Pattern.Engine] (setting : Setting) (source : Literal) (run : Run) :
    (setting.test source).outcome run =
      match Pattern.Engine.read source.text with
      | .error fault => (.error (.invalidPattern source.text fault source.span), run)
      | .ok pattern =>
          (.ok (Pattern.Engine.isMatch pattern setting.input),
            run.record run.drawn
              (.regex source.text (Pattern.Engine.isMatch pattern setting.input))) := by
  unfold Setting.test
  cases Pattern.Engine.read source.text <;> rfl

theorem outcome_resolve (name : Name) (environment : Environment) (run : Run) :
    (resolve name environment).outcome run =
      match environment.get? name.text with
      | none => (.error (.unresolved name.text name.span), run)
      | some body => (.ok body, run) := by
  unfold resolve
  cases environment.get? name.text <;> rfl

theorem outcome_expanding {α : Type} (setting : Setting) (name : Name) (action : Evaluation α)
    (run : Run) :
    (setting.expanding name action).outcome run =
      if setting.limit < run.openCount name.text then
        (.error (.recursionLimit name.text setting.limit name.span), run)
      else
        ((action.outcome (run.enter name.text)).1,
          (action.outcome (run.enter name.text)).2.leave name.text) := by
  by_cases full : setting.limit < run.openCount name.text
  · simp only [if_pos full]
    unfold Setting.expanding
    rw [outcome_bind]
    change outcome (if setting.limit < run.openCount name.text then _ else _) run = _
    rw [if_pos full]
    rfl
  · simp only [if_neg full]
    unfold Setting.expanding
    rw [outcome_bind]
    change outcome (if setting.limit < run.openCount name.text then _ else _) run = _
    rw [if_neg full]
    rfl

end Setting

def Task.uses : Task → List Name
  | .one node => node.uses
  | .all _ nodes => Node.usesAll nodes

def UsesWithin (names : Finset String) (uses : List Name) : Prop := ∀ use ∈ uses, use.text ∈ names

def Environment.Within (environment : Environment) (names : Finset String) : Prop :=
  ∀ (name : String) (body : Node), environment.get? name = some body → UsesWithin names body.uses

theorem uses_within_append (names : Finset String) (first second : List Name) :
    UsesWithin names (first ++ second) ↔ UsesWithin names first ∧ UsesWithin names second :=
  List.forall_mem_append

theorem chosen_uses (nodes : List Node) (index : Nat) (chosen : Node)
    (found : nodes[index]? = some chosen) : ∀ use ∈ chosen.uses, use ∈ Node.usesAll nodes := by
  induction nodes generalizing index with
  | nil => simp at found
  | cons node rest ih =>
      intro use member
      cases index with
      | zero =>
          obtain rfl : node = chosen := by simpa using found
          exact List.mem_append_left _ member
      | succ index => exact List.mem_append_right _ (ih index (by simpa using found) use member)

section

variable [Pattern.Engine]

theorem evaluates_within (setting : Setting) (names : Finset String) (task : Task)
    (environment : Environment) (run last : Run) (result : Result)
    (evaluates : Evaluates setting task environment run result last)
    (within : UsesWithin names task.uses) (bodies : environment.Within names) :
    ∀ text after, result = .ok (text, after) → Environment.Within after names := by
  induction evaluates with
  | literal | chooseNone | chooseBeyond | passed | nil =>
      rintro text after ⟨⟩
      exact bodies
  | unresolved | limited | invalid | failed => rintro text after ⟨⟩
  | expanded n environment _ _ body _ bound _ _ ih => exact ih (bodies n.text body bound) bodies
  | define op n body environment run =>
      rintro text after ⟨⟩ name other found
      rw [Bindings.get?_insert] at found
      by_cases same : n.text = name
      · rw [if_pos same] at found
        cases found
        exact within
      · rw [if_neg same] at found
        exact bodies name other found
  | group _ _ _ _ _ _ _ _ ih => exact ih within bodies
  | choose _ _ _ alternatives _ _ _ _ index _ chosen _ _ found _ ih =>
      exact ih (fun use member => within use (chosen_uses _ index chosen found use member)) bodies
  | taken _ _ _ _ _ _ _ _ _ ih => exact ih within bodies
  | matched _ _ _ _ _ _ _ _ _ _ _ _ ih =>
      exact ih ((uses_within_append _ _ _).mp within).1 bodies
  | unmatched _ _ _ _ _ _ _ _ _ _ _ _ ih =>
      exact ih ((uses_within_append _ _ _).mp within).2 bodies
  | cons _ text _ _ _ between _ _ _ _ _ _ headWithin tailWithin =>
      obtain ⟨first, others⟩ := (uses_within_append _ _ _).mp within
      exact tailWithin others (headWithin first bodies text between rfl)

end

-- The expansions of the names in use that may still be opened, one inside the other, fit the room.
def Room (limit : Nat) (names : Finset String) (room : Nat) (run : Run) : Prop :=
  (∀ name, run.openCount name ≤ limit + 1) ∧
    names.card * (limit + 1) ≤ room + ∑ name ∈ names, run.openCount name

theorem room_congr (limit : Nat) (names : Finset String) (room : Nat) (run last : Run)
    (same : ∀ name, last.openCount name = run.openCount name) (enough : Room limit names room run) :
    Room limit names room last := by
  simpa only [Room, same] using enough

theorem room_zero (limit : Nat) (names : Finset String) (run : Run)
    (enough : Room limit names 0 run) (name : String) (member : name ∈ names) :
    limit < run.openCount name := by
  by_contra free
  obtain ⟨bounded, covered⟩ := enough
  have fewer : ∑ name ∈ names, run.openCount name < ∑ _name ∈ names, (limit + 1) :=
    Finset.sum_lt_sum (fun other _ => bounded other) ⟨name, member, by omega⟩
  rw [Finset.sum_const_nat fun _ _ => rfl] at fewer
  omega

theorem room_enter (limit : Nat) (names : Finset String) (room : Nat) (run : Run)
    (enough : Room limit names (room + 1) run) (name : String) (member : name ∈ names)
    (free : run.openCount name ≤ limit) : Room limit names room (run.enter name) := by
  obtain ⟨bounded, covered⟩ := enough
  refine ⟨fun other => ?_, ?_⟩
  · rw [open_count_enter]
    split
    · omega
    · exact bounded other
  · have entered : ∑ other ∈ names, (run.enter name).openCount other =
        ∑ other ∈ names, run.openCount other + 1 := by
      rw [← Finset.add_sum_erase _ _ member, ← Finset.add_sum_erase names run.openCount member,
        open_count_enter, if_pos rfl]
      have others : ∑ other ∈ names.erase name, (run.enter name).openCount other =
          ∑ other ∈ names.erase name, run.openCount other := by
        refine Finset.sum_congr rfl fun other inside => ?_
        rw [open_count_enter, if_neg (Finset.ne_of_mem_erase inside).symm]
      omega
    omega

section

variable [Pattern.Engine]

theorem evaluate_nth (setting : Setting) (expand : Setting.Expansion) (index : Nat)
    (nodes : List Node) (environment : Environment) :
    setting.evaluateNth expand index nodes environment =
      match nodes[index]? with
      | some node => setting.evaluate expand node environment
      | none => return ("", environment) := by
  induction nodes generalizing index with
  | nil => rw [Setting.evaluateNth]; rfl
  | cons node rest ih =>
      cases index with
      | zero => rw [Setting.evaluateNth]; rfl
      | succ index => rw [Setting.evaluateNth, ih]; rfl

def Sound (setting : Setting) (names : Finset String) (room : Nat)
    (expand : Setting.Expansion) : Prop :=
  ∀ (name : Name) (environment : Environment) (run last : Run) (result : Result),
    name.text ∈ names → environment.Within names → Room setting.limit names room run →
      (expand name environment).outcome run = (result, last) →
        Evaluates setting (.one (.name name)) environment run result last

mutual

theorem evaluate_evaluates (setting : Setting) (names : Finset String) (room : Nat)
    (expand : Setting.Expansion)
    (sound : Sound setting names room expand)
    (node : Node) (environment : Environment) (run last : Run) (result : Result)
    (within : UsesWithin names node.uses) (bodies : environment.Within names)
    (enough : Room setting.limit names room run)
    (ran : (setting.evaluate expand node environment).outcome run = (result, last)) :
    Evaluates setting (.one node) environment run result last := by
  cases node with
  | literal l =>
      rw [Setting.evaluate] at ran
      cases ran
      exact .literal l environment run
  | name n => exact sound n environment run last result (within n (by simp [Node.uses])) bodies enough ran
  | group opening statements closing =>
      rw [Setting.evaluate] at ran
      exact .group _ _ _ _ _ _ _ (evaluate_all_evaluates setting names room expand sound "" statements
        environment run last result within bodies enough ran)
  | define op n body =>
      rw [Setting.evaluate] at ran
      cases ran
      exact .define op n body environment run
  | choose op opening alternatives closing =>
      rw [Setting.evaluate] at ran
      by_cases none : alternatives = []
      · subst none
        cases ran
        exact .chooseNone op opening closing environment run
      · obtain ⟨index, drawn, draw⟩ : ∃ index drawn,
            setting.words.index alternatives.length run.drawn = (index, drawn) := ⟨_, _, rfl⟩
        rw [if_neg (by simpa using none), Evaluation.outcome_bind,
          Setting.outcome_choose setting _ index drawn run draw] at ran
        dsimp only at ran
        rw [evaluate_nth] at ran
        cases found : alternatives[index]? with
        | none =>
            rw [found] at ran
            cases ran
            exact .chooseBeyond _ _ _ _ _ _ index drawn none draw found
        | some chosen =>
            rw [found] at ran
            exact .choose _ _ _ _ _ _ _ _ index drawn chosen none draw found
              (evaluate_chosen_evaluates setting names room expand sound alternatives index chosen found
                environment _ last result within bodies enough ran)
  | optional op body =>
      rw [Setting.evaluate, Evaluation.outcome_bind] at ran
      obtain ⟨taken, drawn, draw⟩ : ∃ taken drawn, setting.words.coin run.drawn = (taken, drawn) :=
        ⟨_, _, rfl⟩
      rw [Setting.outcome_toss setting taken drawn run draw] at ran
      cases taken with
      | true =>
          exact .taken _ _ _ _ _ _ drawn draw (evaluate_evaluates setting names room expand sound body
            environment _ last result within bodies enough ran)
      | false =>
          cases ran
          exact .passed op body environment run drawn draw
  | regex op source matched unmatched =>
      obtain ⟨first, second⟩ := (uses_within_append _ _ _).mp within
      rw [Setting.evaluate, Evaluation.outcome_bind, Setting.outcome_test] at ran
      cases read : Pattern.Engine.read source.text with
      | error fault =>
          rw [read] at ran
          cases ran
          exact .invalid op source matched unmatched environment run fault read
      | ok pattern =>
          rw [read] at ran
          cases tested : Pattern.Engine.isMatch pattern setting.input with
          | true =>
              simp only [tested] at ran
              exact .matched _ _ _ _ _ _ _ _ pattern read tested (evaluate_evaluates setting names room
                expand sound matched environment _ last result first bodies enough ran)
          | false =>
              simp only [tested] at ran
              exact .unmatched _ _ _ _ _ _ _ _ pattern read tested (evaluate_evaluates setting names
                room expand sound unmatched environment _ last result second bodies enough ran)

theorem evaluate_all_evaluates (setting : Setting) (names : Finset String) (room : Nat)
    (expand : Setting.Expansion)
    (sound : Sound setting names room expand)
    (output : String) (nodes : List Node) (environment : Environment) (run last : Run)
    (result : Result) (within : UsesWithin names (Node.usesAll nodes))
    (bodies : environment.Within names) (enough : Room setting.limit names room run)
    (ran : (setting.evaluateAll expand output nodes environment).outcome run = (result, last)) :
    Evaluates setting (.all output nodes) environment run result last := by
  cases nodes with
  | nil =>
      rw [Setting.evaluateAll] at ran
      cases ran
      exact .nil output environment run
  | cons node rest =>
      obtain ⟨first, others⟩ := (uses_within_append _ _ _).mp within
      rw [Setting.evaluateAll, Evaluation.outcome_bind] at ran
      obtain ⟨ended, middle, begun⟩ : ∃ ended middle,
          (setting.evaluate expand node environment).outcome run = (ended, middle) := ⟨_, _, rfl⟩
      have head := evaluate_evaluates setting names room expand sound node environment run middle
        ended first bodies enough begun
      rw [begun] at ran
      cases ended with
      | error error =>
          cases ran
          exact .failed _ _ _ _ _ _ error head
      | ok production =>
          obtain ⟨text, between⟩ := production
          have later := room_congr _ _ _ _ _ (evaluates_restores _ _ _ _ _ _ head) enough
          have still := evaluates_within _ names _ _ _ _ _ head first bodies text between rfl
          exact .cons _ text _ _ _ between _ middle _ _ head
            (evaluate_all_evaluates setting names room expand sound (output ++ text) rest between
              middle last result others still later ran)

theorem evaluate_chosen_evaluates (setting : Setting) (names : Finset String) (room : Nat)
    (expand : Setting.Expansion)
    (sound : Sound setting names room expand)
    (nodes : List Node) (index : Nat) (chosen : Node) (found : nodes[index]? = some chosen)
    (environment : Environment) (run last : Run) (result : Result)
    (within : UsesWithin names (Node.usesAll nodes)) (bodies : environment.Within names)
    (enough : Room setting.limit names room run)
    (ran : (setting.evaluate expand chosen environment).outcome run = (result, last)) :
    Evaluates setting (.one chosen) environment run result last := by
  cases nodes with
  | nil => simp at found
  | cons node rest =>
      obtain ⟨first, others⟩ := (uses_within_append _ _ _).mp within
      cases index with
      | zero =>
          obtain rfl : node = chosen := by simpa using found
          exact evaluate_evaluates setting names room expand sound node environment run last result
            first bodies enough ran
      | succ index =>
          exact evaluate_chosen_evaluates setting names room expand sound rest index chosen
            (by simpa using found) environment run last result others bodies enough ran

end

-- Without room every name in use has been expanded too often already.
theorem expand_sound (setting : Setting) (names : Finset String) (room : Nat) :
    Sound setting names room (setting.expand room) := by
  induction room with
  | zero =>
      intro name environment run last result member bodies enough ran
      rw [Setting.expand, Evaluation.outcome_bind, Setting.outcome_resolve] at ran
      cases bound : environment.get? name.text with
      | none =>
          rw [bound] at ran
          cases ran
          exact .unresolved name environment run bound
      | some body =>
          rw [bound] at ran
          cases ran
          exact .limited name environment run body bound (room_zero _ _ _ enough _ member)
  | succ room ih =>
      intro name environment run last result member bodies enough ran
      rw [Setting.expand, Evaluation.outcome_bind, Setting.outcome_resolve] at ran
      cases bound : environment.get? name.text with
      | none =>
          rw [bound] at ran
          cases ran
          exact .unresolved name environment run bound
      | some body =>
          rw [bound] at ran
          dsimp only at ran
          rw [Setting.outcome_expanding] at ran
          by_cases full : setting.limit < run.openCount name.text
          · rw [if_pos full] at ran
            cases ran
            exact .limited name environment run body bound full
          · rw [if_neg full] at ran
            cases ran
            exact .expanded name environment run _ body _ bound (by omega)
              (evaluate_evaluates setting names room (setting.expand room) ih body environment _ _ _
                (bodies name.text body bound) bodies
                (room_enter _ _ _ _ enough _ member (by omega)) rfl)

omit [Pattern.Engine] in
theorem environment_values (environment : Environment) (name : String) (body : Node)
    (bound : environment.get? name = some body) : body ∈ environment.values :=
  List.mem_map_of_mem (environment.get?_member name body bound)

omit [Pattern.Engine] in
theorem uses_all_member (nodes : List Node) (node : Node) (member : node ∈ nodes) :
    ∀ use ∈ node.uses, use ∈ Node.usesAll nodes := by
  obtain ⟨index, bound, found⟩ := List.mem_iff_getElem.mp member
  exact chosen_uses nodes index node (by simp [bound, found])

def Grammar.namesUsed (grammar : Grammar) (environment : Environment) : Finset String :=
  ((Node.usesAll grammar.statements ++ Node.usesAll environment.values).map Name.text).toFinset

omit [Pattern.Engine] in
theorem names_used_within (grammar : Grammar) (environment : Environment) :
    UsesWithin (grammar.namesUsed environment) (Node.usesAll grammar.statements) ∧
      environment.Within (grammar.namesUsed environment) := by
  have inside : UsesWithin (grammar.namesUsed environment)
      (Node.usesAll grammar.statements ++ Node.usesAll environment.values) :=
    fun use member => List.mem_toFinset.mpr (List.mem_map_of_mem member)
  obtain ⟨first, second⟩ := (uses_within_append _ _ _).mp inside
  refine ⟨first, fun name body bound use member => ?_⟩
  exact second use (uses_all_member _ body (environment_values _ name body bound) use member)

omit [Pattern.Engine] in
theorem names_used_room (grammar : Grammar) (setting : Setting) (environment : Environment)
    (drawn : Nat) :
    Room setting.limit (grammar.namesUsed environment)
      (setting.room grammar.statements environment) (Run.start drawn) := by
  have few : (grammar.namesUsed environment).card ≤
      (Node.usesAll grammar.statements ++ Node.usesAll environment.values).length := by
    refine (List.toFinset_card_le _).trans_eq ?_
    rw [List.length_map]
  exact ⟨fun name => Nat.zero_le _,
    Nat.le_trans (Nat.mul_le_mul_right _ few) (Nat.le_add_right _ _)⟩

theorem sample_evaluates (grammar : Grammar) (setting : Setting) (environment : Environment)
    (drawn : Nat) :
    ∃ last, Evaluates setting (.all "" grammar.statements) environment (Run.start drawn)
        (grammar.sample setting environment drawn).result last ∧
      (grammar.sample setting environment drawn).drawn = last.drawn ∧
      (grammar.sample setting environment drawn).decisions = last.decisions.reverse := by
  obtain ⟨within, bodies⟩ := names_used_within grammar environment
  refine ⟨_, evaluate_all_evaluates setting _ _ _ (expand_sound setting _ _) "" _ _ _ _ _ within
    bodies (names_used_room grammar setting environment drawn) rfl, rfl, rfl⟩

end

end TextGrammar
